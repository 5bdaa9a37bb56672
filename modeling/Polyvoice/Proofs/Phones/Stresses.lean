import Mathlib.Data.List.DropRight
import Polyvoice.Proofs.Phones.Tokens

/-!
# Where stresses go

The sounds of a phonetic text are the phones of its tokens in order, and behind a vowel its stress
(`Pronounced`). A stress mark waits for the next vowel, however many consonants, silent marks and
blanks come before it; of several marks the last one counts (`waiting`). This settles the sounds
(`pronounced_iff`).
-/

namespace Polyvoice.Phones

/-- Whether a token stands for a vowel. -/
def isVowel (token : Text) : Bool :=
  (phone? token).any Phone.isVowel

/-- The stress that waits for a vowel behind tokens: the last one that is marked behind the last
vowel. -/
def waiting (tokens : List Text) : Option Stress :=
  ((tokens.rtakeWhile fun token => !isVowel token).filterMap mark?).getLast?

/-- Whether a sound is a degree of stress. -/
def isDegree (sound : Text) : Bool :=
  sound == ['1'] || sound == ['2']

/-- The names of the phones that tokens stand for. -/
def phoneNames (tokens : List Text) : List Text :=
  (tokens.filterMap phone?).map Phone.name

/-- A vowel of the tokens has its place among the sounds: the same phones come before it, and `back`
is what follows. -/
def VowelAt (tokens sounds before back : List Text) : Prop :=
  ∃ token after front found, tokens = before ++ token :: after ∧ phone? token = some found ∧
    found.isVowel = true ∧ sounds = front ++ found.name :: back ∧
    front.filter (!isDegree ·) = phoneNames before

/-- What the sounds of tokens have to be, where `waits` is the stress that waits behind some of
them. -/
structure Pronounced (waits : List Text → Option Stress) (tokens sounds : List Text) : Prop where
  /-- Sounds can be told apart if spaces stand between them. -/
  apart : ∀ sound ∈ sounds, sound ≠ [] ∧ ' ' ∉ sound
  /-- Without the stresses, sounds are the phones of the tokens. -/
  phones : sounds.filter (!isDegree ·) = phoneNames tokens
  /-- Right behind a vowel stands the stress that waits for it, if any does. -/
  stressed : ∀ before back, VowelAt tokens sounds before back →
    ∀ degree, back.head? = some (Stress.name degree) ↔ waits before = some degree
  /-- No stress stands anywhere else. -/
  behind : ∀ front degree back, sounds = front ++ Stress.name degree :: back →
    ∃ found : Phone, found.isVowel = true ∧ front.getLast? = some found.name

/-- The stress that waits behind a token if one waits in front of it. -/
def passed (waits : Option Stress) (token : Text) : Option Stress :=
  match mark? token with
  | some degree => some degree
  | none => if isVowel token then none else waits

/-- The stress that stands behind a phone if one may wait in front of it. -/
def stressBehind (waits : Option Stress) (found : Phone) : List Text :=
  if found.isVowel then (waits.map Stress.name).toList else []

/-- The sounds of a token if a stress may wait in front of it. -/
def spoken (waits : Option Stress) (token : Text) : List Text :=
  match phone? token with
  | some found => found.name :: stressBehind waits found
  | none => []

/-- The sounds of tokens if a stress may wait in front of them. -/
def soundsFrom (waits : Option Stress) (tokens : List Text) : List Text :=
  (soundsAfter waits (tokens.map letterOf)).map Sound.name

section

variable {waits : List Text → Option Stress} {w : Option Stress} {token : Text}
  {tokens sounds pre later front back : List Text} {found : Phone} {degree other : Stress}

/-! ## Names -/

theorem isDegree_name (degree : Stress) : isDegree degree.name = true := by
  cases degree <;> rfl

theorem exists_name_of_isDegree {sound : Text} (is : isDegree sound = true) :
    ∃ degree : Stress, sound = degree.name := by
  rw [isDegree, Bool.or_eq_true, beq_iff_eq, beq_iff_eq] at is
  rcases is with rfl | rfl
  · exact ⟨.primary, rfl⟩
  · exact ⟨.secondary, rfl⟩

theorem isDegree_phone (found : Phone) : isDegree found.name = false := by
  cases found <;> rfl

theorem phone_ne_degree (found : Phone) (degree : Stress) : found.name ≠ degree.name := by
  intro same
  have phone := isDegree_phone found
  rw [same, isDegree_name] at phone
  cases phone

theorem stressName_inj (same : degree.name = other.name) : degree = other := by
  cases degree <;> cases other <;> first | rfl | cases same

/-- Vowels are the phones whose names begin with a vowel. -/
theorem isVowel_eq (found : Phone) :
    found.isVowel = found.name.head?.any fun c => ['a', 'e', 'i', 'o', 'u'].contains c := by
  cases found <;> rfl

theorem isVowel_congr {next : Phone} (same : found.name = next.name) :
    found.isVowel = next.isVowel := by
  rw [isVowel_eq, isVowel_eq, same]

theorem apart_name (found : Phone) : found.name ≠ [] ∧ ' ' ∉ found.name := by
  cases found <;> decide

theorem apart_degree (degree : Stress) : degree.name ≠ [] ∧ ' ' ∉ degree.name := by
  cases degree <;> decide

/-! ## The stress that waits -/

theorem phone?_of_mark? (mark : mark? token = some degree) : phone? token = none := by
  cases entry : lookup? token with
  | none => rw [phone?, entry, Option.join_none]
  | some found =>
    rw [mark?_of_lookup? (by rw [entry]; rfl)] at mark
    cases mark

theorem mark?_of_isVowel (vowel : isVowel token = true) : mark? token = none := by
  cases mark : mark? token with
  | none => rfl
  | some degree =>
    rw [isVowel, phone?_of_mark? mark] at vowel
    cases vowel

theorem waiting_eq (tokens : List Text) : waiting tokens = tokens.foldl passed none := by
  induction tokens using List.reverseRecOn with
  | nil => rfl
  | append_singleton tokens token ih =>
    rw [List.foldl_concat, ← ih, waiting, List.rtakeWhile_concat, passed]
    cases vowel : isVowel token with
    | true =>
      rw [mark?_of_isVowel vowel]
      rfl
    | false =>
      cases mark : mark? token with
      | none => simp [mark, waiting]
      | some degree => simp [mark]

/-! ## Sounds token by token -/

theorem soundsFrom_cons (w : Option Stress) (token : Text) (tokens : List Text) :
    soundsFrom w (token :: tokens) = spoken w token ++ soundsFrom (passed w token) tokens := by
  rw [soundsFrom, List.map_cons, letterOf, spoken, passed, isVowel]
  cases mark : mark? token with
  | some degree =>
    rw [phone?_of_mark? mark]
    rfl
  | none =>
    cases phone? token with
    | none => rfl
    | some found =>
      cases vowel : found.isVowel <;> cases w <;>
        simp [soundsFrom, soundsAfter, stressBehind, vowel, Sound.name]

theorem spoken_of_phone (phone : phone? token = some found) (w : Option Stress) :
    spoken w token = found.name :: stressBehind w found := by
  rw [spoken, phone]

theorem spoken_of_silent (silent : phone? token = none) (w : Option Stress) :
    spoken w token = [] := by
  rw [spoken, silent]

theorem exists_of_mem_stressBehind {sound : Text} (member : sound ∈ stressBehind w found) :
    found.isVowel = true ∧ ∃ degree, w = some degree ∧ sound = degree.name := by
  rw [stressBehind] at member
  split at member
  · rename_i vowel
    refine ⟨vowel, ?_⟩
    cases w with
    | none => cases member
    | some degree => exact ⟨degree, rfl, List.mem_singleton.1 member⟩
  · cases member

theorem phone_notMem_stressBehind (next : Phone) : next.name ∉ stressBehind w found := by
  intro member
  rcases (exists_of_mem_stressBehind member).2 with ⟨degree, -, same⟩
  exact phone_ne_degree next degree same

theorem length_stressBehind_le : (stressBehind w found).length ≤ 1 := by
  rw [stressBehind]
  split
  · cases w <;> simp
  · exact Nat.zero_le 1

/-- Without the stresses, the sounds of a token are its phone. -/
theorem filter_spoken (w : Option Stress) (token : Text) :
    (spoken w token).filter (!isDegree ·) = (phone? token).toList.map Phone.name := by
  cases phone : phone? token with
  | none => rw [spoken_of_silent phone]; rfl
  | some found =>
    have none : (stressBehind w found).filter (!isDegree ·) = [] := by
      refine List.filter_eq_nil_iff.2 fun sound member => ?_
      rcases (exists_of_mem_stressBehind member).2 with ⟨degree, -, rfl⟩
      rw [isDegree_name]
      exact Bool.false_ne_true
    rw [spoken_of_phone phone, List.filter_cons_of_pos (by rw [isDegree_phone]; rfl), none]
    rfl

/-- The only phone in the sounds of a token is in front. -/
theorem spoken_split_phone (split : spoken w token = front ++ found.name :: back) :
    front = [] ∧ ∃ next, phone? token = some next ∧ next.name = found.name ∧
      back = stressBehind w next := by
  cases phone : phone? token with
  | none =>
    rw [spoken_of_silent phone] at split
    cases front <;> cases split
  | some next =>
    rw [spoken_of_phone phone] at split
    cases front with
    | nil =>
      rcases List.cons.inj split with ⟨same, rest⟩
      exact ⟨rfl, next, rfl, same, rest.symm⟩
    | cons sound front =>
      have member : found.name ∈ stressBehind w next := by
        rw [(List.cons.inj split).2]
        exact List.mem_append_right front List.mem_cons_self
      exact absurd member (phone_notMem_stressBehind found)

/-- A stress in the sounds of a token stands behind a vowel. -/
theorem spoken_split_degree (split : spoken w token = front ++ degree.name :: back) :
    ∃ found : Phone, found.isVowel = true ∧ front.getLast? = some found.name := by
  cases phone : phone? token with
  | none =>
    rw [spoken_of_silent phone] at split
    cases front <;> cases split
  | some found =>
    rw [spoken_of_phone phone] at split
    cases front with
    | nil => exact absurd (List.cons.inj split).1 (phone_ne_degree found degree)
    | cons sound front =>
      rw [List.cons_append] at split
      rcases List.cons.inj split with ⟨rfl, rest⟩
      have member : degree.name ∈ stressBehind w found := by
        rw [rest]
        exact List.mem_append_right front List.mem_cons_self
      have short : (stressBehind w found).length ≤ 1 := length_stressBehind_le
      rw [rest, List.length_append, List.length_cons] at short
      have first : front = [] := List.eq_nil_of_length_eq_zero (by omega)
      rw [first]
      exact ⟨found, (exists_of_mem_stressBehind member).1, rfl⟩

theorem apart_of_mem_spoken {sound : Text} (member : sound ∈ spoken w token) :
    sound ≠ [] ∧ ' ' ∉ sound := by
  cases phone : phone? token with
  | none =>
    rw [spoken_of_silent phone] at member
    cases member
  | some found =>
    rw [spoken_of_phone phone] at member
    rcases List.mem_cons.1 member with rfl | stress
    · exact apart_name found
    · rcases (exists_of_mem_stressBehind stress).2 with ⟨degree, -, rfl⟩
      exact apart_degree degree

/-! ## Pronunciations token by token -/

theorem phoneNames_cons (token : Text) (tokens : List Text) :
    phoneNames (token :: tokens) = (phone? token).toList.map Phone.name ++ phoneNames tokens := by
  rw [phoneNames, List.filterMap_cons]
  cases phone? token <;> rfl

/-- An element of two joined lists is in the first one or in the second one. -/
theorem append_eq_append_cons_cases {sound : Text} (split : pre ++ later = front ++ sound :: back) :
    (∃ more, front = pre ++ more ∧ later = more ++ sound :: back) ∨
      ∃ more, pre = front ++ sound :: more ∧ back = more ++ later := by
  rcases List.append_eq_append_iff.1 split with ⟨more, rfl, behind⟩ | ⟨more, rfl, behind⟩
  · exact Or.inl ⟨more, rfl, behind⟩
  · cases more with
    | nil => exact Or.inl ⟨[], by simp, behind.symm⟩
    | cons first more =>
      rcases List.cons.inj behind with ⟨rfl, rfl⟩
      exact Or.inr ⟨more, rfl, rfl⟩

theorem pronounced_nil : Pronounced waits [] [] where
  apart sound member := absurd member List.not_mem_nil
  phones := rfl
  stressed before back place := by
    rcases place with ⟨token, after, front, found, split, -⟩
    cases before <;> cases split
  behind front degree back split := by
    cases front <;> cases split

/-- A vowel behind the first token has its place among the sounds behind those of that token. -/
theorem VowelAt.cons {before : List Text} (place : VowelAt tokens later before back)
    (w : Option Stress) (token : Text) :
    VowelAt (token :: tokens) (spoken w token ++ later) (token :: before) back := by
  rcases place with ⟨here, after, front, found, rfl, phone, vowel, rfl, same⟩
  refine ⟨here, after, spoken w token ++ front, found, rfl, phone, vowel,
    (List.append_assoc _ _ _).symm, ?_⟩
  rw [List.filter_append, filter_spoken, same, phoneNames_cons]

/-- A vowel has its place among the sounds of the first token or behind them. -/
theorem VowelAt.of_cons {before : List Text}
    (place : VowelAt (token :: tokens) (spoken w token ++ later) before back) :
    (∃ found, before = [] ∧ phone? token = some found ∧ found.isVowel = true ∧
        back = stressBehind w found ++ later) ∨
      ∃ rest, before = token :: rest ∧ VowelAt tokens later rest back := by
  rcases place with ⟨here, after, front, found, split, phone, vowel, sounds, same⟩
  rcases append_eq_append_cons_cases sounds with ⟨more, rfl, behind⟩ | ⟨more, inside, rfl⟩
  · -- the sounds of the first token come before the vowel, so that the token does
    rw [List.filter_append, filter_spoken] at same
    cases before with
    | nil =>
      rcases List.cons.inj split with ⟨rfl, -⟩
      rw [phone] at same
      cases same
    | cons first rest =>
      rcases List.cons.inj split with ⟨rfl, later⟩
      rw [phoneNames_cons] at same
      exact Or.inr ⟨rest, rfl, here, after, more, found, later, phone, vowel, behind,
        List.append_cancel_left same⟩
  · rcases spoken_split_phone inside with ⟨rfl, next, first, name, rfl⟩
    cases before with
    | nil =>
      rcases List.cons.inj split with ⟨rfl, -⟩
      rw [phone] at first
      cases first
      exact Or.inl ⟨found, rfl, phone, vowel, rfl⟩
    | cons other rest =>
      rcases List.cons.inj split with ⟨rfl, -⟩
      rw [phoneNames_cons, first] at same
      cases same

/-- No stress stands in front. -/
theorem Pronounced.head?_ne (pronounced : Pronounced waits tokens sounds) (degree : Stress) :
    sounds.head? ≠ some degree.name := by
  intro first
  rcases List.head?_eq_some_iff.1 first with ⟨rest, rfl⟩
  rcases pronounced.behind [] degree rest rfl with ⟨found, -, last⟩
  cases last

theorem head?_stressBehind_append (vowel : found.isVowel = true)
    (unstressed : ∀ degree : Stress, later.head? ≠ some degree.name) :
    (stressBehind w found ++ later).head? = some degree.name ↔ w = some degree := by
  rw [stressBehind, if_pos vowel]
  cases w with
  | none => exact iff_of_false (unstressed degree) (fun some => by cases some)
  | some other =>
    constructor
    · intro first
      rw [stressName_inj (Option.some.inj first)]
    · intro same
      rw [Option.some.inj same]
      rfl

theorem Pronounced.cons (rest : Pronounced (waits <| token :: ·) tokens later)
    (here : waits [] = w) :
    Pronounced waits (token :: tokens) (spoken w token ++ later) where
  apart sound member := by
    rcases List.mem_append.1 member with first | behind
    · exact apart_of_mem_spoken first
    · exact rest.apart sound behind
  phones := by
    rw [List.filter_append, filter_spoken, rest.phones, phoneNames_cons]
  stressed before back place degree := by
    rcases place.of_cons with ⟨found, rfl, phone, vowel, rfl⟩ | ⟨more, rfl, behind⟩
    · rw [here]
      exact head?_stressBehind_append vowel rest.head?_ne
    · exact rest.stressed more back behind degree
  behind front degree back split := by
    rcases append_eq_append_cons_cases split with ⟨more, rfl, behind⟩ | ⟨more, inside, -⟩
    · rcases rest.behind more degree back behind with ⟨found, vowel, last⟩
      exact ⟨found, vowel, List.mem_getLast?_append_of_mem_getLast? last⟩
    · exact spoken_split_degree inside

/-- What stands behind the sounds of the first token are the sounds of the rest, if it does not
begin with a stress. -/
theorem Pronounced.tail
    (pronounced : Pronounced waits (token :: tokens) (spoken w token ++ later))
    (unstressed : ∀ degree : Stress, later.head? ≠ some degree.name) :
    Pronounced (waits <| token :: ·) tokens later where
  apart sound member := pronounced.apart sound (List.mem_append_right _ member)
  phones := by
    have phones := pronounced.phones
    rw [List.filter_append, filter_spoken, phoneNames_cons] at phones
    exact List.append_cancel_left phones
  stressed before back place := pronounced.stressed (token :: before) back (place.cons w token)
  behind front degree back split := by
    have whole : spoken w token ++ later = spoken w token ++ front ++ degree.name :: back := by
      rw [split, List.append_assoc]
    rcases pronounced.behind _ degree back whole with ⟨found, vowel, last⟩
    refine ⟨found, vowel, ?_⟩
    cases front with
    | nil => exact absurd (by rw [split]; rfl) (unstressed degree)
    | cons sound front =>
      rwa [List.getLast?_append_of_ne_nil _ (List.cons_ne_nil sound front)] at last

/-- Behind the first phone stands the stress that waits for it, and no other one. -/
theorem Pronounced.stressBehind_first {rest : List Text}
    (pronounced : Pronounced waits (token :: tokens) (found.name :: rest))
    (phone : phone? token = some found) :
    ∃ later, rest = stressBehind (waits []) found ++ later ∧
      ∀ degree : Stress, later.head? ≠ some degree.name := by
  rw [stressBehind]
  by_cases vowel : found.isVowel = true
  · rw [if_pos vowel]
    have place : VowelAt (token :: tokens) (found.name :: rest) [] rest :=
      ⟨token, tokens, [], found, rfl, phone, vowel, rfl, rfl⟩
    have stressed := pronounced.stressed [] rest place
    cases waiting : waits [] with
    | none =>
      refine ⟨rest, rfl, fun degree first => ?_⟩
      cases waiting.symm.trans ((stressed degree).1 first)
    | some degree =>
      rcases List.head?_eq_some_iff.1 ((stressed degree).2 waiting) with ⟨later, rfl⟩
      refine ⟨later, rfl, fun other first => ?_⟩
      -- a second stress would stand behind the first one and not behind a vowel
      rcases List.head?_eq_some_iff.1 first with ⟨more, rfl⟩
      rcases pronounced.behind [found.name, degree.name] other more rfl with ⟨next, -, last⟩
      exact absurd (Option.some.inj last).symm (phone_ne_degree next degree)
  · rw [if_neg vowel]
    refine ⟨rest, rfl, fun degree first => ?_⟩
    rcases List.head?_eq_some_iff.1 first with ⟨more, rfl⟩
    rcases pronounced.behind [found.name] degree more rfl with ⟨next, vowelToo, last⟩
    rw [isVowel_congr (Option.some.inj last)] at vowel
    exact vowel vowelToo

/-- The sounds of the first token come first. -/
theorem Pronounced.of_cons (pronounced : Pronounced waits (token :: tokens) sounds) :
    ∃ later, sounds = spoken (waits []) token ++ later ∧
      Pronounced (waits <| token :: ·) tokens later := by
  suffices first : ∃ later, sounds = spoken (waits []) token ++ later ∧
      ∀ degree : Stress, later.head? ≠ some degree.name by
    rcases first with ⟨later, rfl, unstressed⟩
    exact ⟨later, rfl, pronounced.tail unstressed⟩
  have unstressed := pronounced.head?_ne
  cases phone : phone? token with
  | none => exact ⟨sounds, by rw [spoken_of_silent phone, List.nil_append], unstressed⟩
  | some found =>
    have phones := pronounced.phones
    rw [phoneNames_cons, phone] at phones
    cases sounds with
    | nil => cases phones
    | cons sound rest =>
      have named : ¬isDegree sound = true := by
        intro is
        rcases exists_name_of_isDegree is with ⟨degree, rfl⟩
        exact unstressed degree rfl
      rw [List.filter_cons_of_pos (by simpa using named)] at phones
      rcases List.cons.inj phones with ⟨rfl, -⟩
      rcases pronounced.stressBehind_first phone with ⟨later, rfl, behind⟩
      exact ⟨later, by rw [spoken_of_phone phone]; rfl, behind⟩

/-- There are sounds if and only if there is a phone. -/
theorem Pronounced.eq_nil_iff (pronounced : Pronounced waits tokens sounds) :
    sounds = [] ↔ phoneNames tokens = [] := by
  rw [← pronounced.phones]
  constructor
  · intro none
    rw [none, List.filter_nil]
  · intro none
    cases sounds with
    | nil => rfl
    | cons sound rest =>
      have is : isDegree sound = true := by
        simpa using List.filter_eq_nil_iff.1 none sound List.mem_cons_self
      rcases exists_name_of_isDegree is with ⟨degree, rfl⟩
      exact absurd rfl (pronounced.head?_ne degree)

/-- The sounds of tokens are settled: each vowel has its stress behind it. -/
theorem pronounced_iff (w : Option Stress) (tokens sounds : List Text) :
    Pronounced (List.foldl passed w) tokens sounds ↔ sounds = soundsFrom w tokens := by
  constructor
  · intro pronounced
    induction tokens generalizing w sounds with
    | nil => exact pronounced.eq_nil_iff.2 rfl
    | cons token tokens ih =>
      rcases pronounced.of_cons with ⟨later, rfl, rest⟩
      rw [soundsFrom_cons, ih (passed w token) later rest]
      rfl
  · rintro rfl
    induction tokens generalizing w with
    | nil => exact pronounced_nil
    | cons token tokens ih =>
      have rest := ih (passed w token)
      rw [soundsFrom_cons]
      exact Pronounced.cons rest rfl

theorem ofIpa_eq_ok_iff_tokens {ipa written : Text} :
    ofIpa ipa = .ok written ↔
      ∃ tokens, Tokens ipa tokens ∧ written = [' '].intercalate (soundsFrom none tokens) := by
  constructor
  · intro found
    rw [ofIpa] at found
    split at found
    · rename_i read letters
      rcases letters_eq_ok_iff.1 letters with ⟨tokens, falls, rfl⟩
      exact ⟨tokens, falls, (Except.ok.inj found).symm⟩
    · cases found
  · intro found
    rcases found with ⟨tokens, falls, rfl⟩
    rw [ofIpa, letters_eq_ok_iff.2 ⟨tokens, falls, rfl⟩]
    rfl

end

/-- **A phonetic text in phones.** If it can be read, the sounds of its tokens are written with a
space between each two. The tokens are the longest entries of the table, from left to right, between
blanks and stress marks; without the stresses the sounds are their phones. A stress stands behind a
vowel if and only if one is marked behind the last vowel before it, and it is the last one of these;
no stress stands anywhere else. -/
theorem ofIpa_eq_ok_iff (ipa written : Text) :
    ofIpa ipa = .ok written ↔
      ∃ tokens sounds, Tokens ipa tokens ∧ Pronounced waiting tokens sounds ∧
        written = [' '].intercalate sounds := by
  have waits : waiting = List.foldl passed none := funext waiting_eq
  rw [ofIpa_eq_ok_iff_tokens, waits]
  simp only [pronounced_iff]
  constructor
  · intro found
    rcases found with ⟨tokens, falls, same⟩
    exact ⟨tokens, soundsFrom none tokens, falls, rfl, same⟩
  · intro found
    rcases found with ⟨tokens, sounds, falls, rfl, same⟩
    exact ⟨tokens, falls, same⟩

/-- A stress mark passes consonants, blanks and a syllabic consonant on its way to a vowel, and a
second mark replaces it. -/
example : ofIpa "ˈtʃɹ̩ ˌsˈkɜːt".toList = .ok "ch r s k er 1 t".toList := by
  decide

end Polyvoice.Phones
