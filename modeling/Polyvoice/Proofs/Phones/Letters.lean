import Mathlib.Data.List.Basic
import Polyvoice.Phones

/-!
# Which phonetic texts can be read

Whether a phonetic text can be read is settled character by character (`Known`), although letters
may be taken together in pairs: the second letter of each pair is a letter by itself, and so is the
first one, except in `ɜː`. So no pair hides a character that could not be read, and none uses up a
letter without which another character could not be read. The fault is the first character that is
not known.
-/

namespace Polyvoice.Phones

/-- Characters that stand by themselves and for no phone: blanks and stress marks. -/
def isBreak (c : Char) : Bool :=
  isBlank c || (Stress.ofMark? c).isSome

/-- A character that can be read where these characters follow. -/
def Known (c : Char) (after : Text) : Prop :=
  isBlank c = true ∨ (Stress.ofMark? c).isSome = true ∨ (Phone.ofLetter? c).isSome = true ∨
    c = 'ɜ' ∧ after.head? = some 'ː'

/-- Each character of a text is known where it stands. -/
def AllKnown (t : Text) : Prop :=
  ∀ c after, c :: after <:+ t → Known c after

/-- The first character of a text that is not known where it stands. -/
def FirstUnknown (t : Text) (symbol : Char) : Prop :=
  ∃ before after, t = before ++ symbol :: after ∧ ¬Known symbol after ∧
    ∀ c between, c :: between <:+ before → Known c (between ++ symbol :: after)

section

variable {c d symbol : Char} {t rest : Text} {found : Phone} {letter : Letter}

/-! ## The tables -/

theorem isBlank_of_ofMark? (mark : (Stress.ofMark? c).isSome = true) : isBlank c = false := by
  unfold Stress.ofMark? at mark
  split at mark
  · rfl
  · rfl
  · cases mark

theorem isBreak_of_ofLetter? (entry : (Phone.ofLetter? c).isSome = true) : isBreak c = false := by
  unfold Phone.ofLetter? at entry
  split at entry <;> first | rfl | cases entry

/-- The letters that are taken together are letters by themselves, the first one of `ɜː` aside. -/
theorem letters_of_ofPair? (pair : Phone.ofPair? c d = some found) :
    ((Phone.ofLetter? c).isSome = true ∨ c = 'ɜ' ∧ d = 'ː') ∧
      (Phone.ofLetter? d).isSome = true := by
  unfold Phone.ofPair? at pair
  split at pair
  case h_9 => exact ⟨Or.inr ⟨rfl, rfl⟩, rfl⟩
  case h_10 => cases pair
  all_goals exact ⟨Or.inl rfl, rfl⟩

/-- A character by itself is a blank, a stress mark or a letter. -/
theorem ofChar?_isSome_iff :
    (Letter.ofChar? c).isSome = true ↔
      isBreak c = true ∨ (Phone.ofLetter? c).isSome = true := by
  unfold Letter.ofChar? isBreak
  cases isBlank c with
  | true => simp
  | false =>
    cases Stress.ofMark? c with
    | some degree => simp
    | none => rcases Phone.ofLetter? c with - | - | found <;> simp

/-! ## Reading letter by letter -/

/-- What follows a character does not begin with a letter that is taken together with it. -/
def Alone (c : Char) (rest : Text) : Prop :=
  ∀ d ∈ rest.head?, Phone.ofPair? c d = none

section Cons

variable {read : Except Char (List Letter)}

theorem consLetter_eq_ok_iff {found : List Letter} :
    consLetter letter read = .ok found ↔ ∃ later, read = .ok later ∧ found = letter :: later := by
  cases read <;> simp [consLetter, eq_comm]

theorem exists_consLetter_eq_ok_iff :
    (∃ found, consLetter letter read = .ok found) ↔ ∃ later, read = .ok later := by
  cases read <;> simp [consLetter]

theorem consLetter_eq_error_iff :
    consLetter letter read = .error symbol ↔ read = .error symbol := by
  cases read <;> simp [consLetter]

end Cons

theorem alone_nil : Alone c [] :=
  fun d first => absurd first (Option.not_mem_none d)

theorem alone_cons (apart : Phone.ofPair? c d = none) : Alone c (d :: rest) := by
  intro e first
  cases first
  exact apart

theorem alone_of_isBreak (part : isBreak c = true) (rest : Text) : Alone c rest := by
  intro d _
  by_contra taken
  rcases Option.ne_none_iff_exists'.1 taken with ⟨found, pair⟩
  rcases (letters_of_ofPair? pair).1 with letter | ⟨rfl, -⟩
  · rw [isBreak_of_ofLetter? letter] at part
    cases part
  · cases part

theorem letters_pair (pair : Phone.ofPair? c d = some found) (rest : Text) :
    letters (c :: d :: rest) = consLetter (.phone found) (letters rest) := by
  rw [letters.eq_def]
  simp only [pair]

theorem letters_single (alone : Alone c rest) (read : Letter.ofChar? c = some letter) :
    letters (c :: rest) = consLetter letter (letters rest) := by
  rw [letters.eq_def]
  cases rest with
  | nil =>
    simp only [read]
    rfl
  | cons d rest => simp only [alone d rfl, read]

theorem letters_unknown (alone : Alone c rest) (unread : Letter.ofChar? c = none) :
    letters (c :: rest) = .error c := by
  rw [letters.eq_def]
  cases rest with
  | nil => simp only [unread]
  | cons d rest => simp only [alone d rfl, unread]

/-- A phonetic text is read pair by pair, and letter by letter where there is no pair, until a
character cannot be read. -/
@[elab_as_elim]
theorem letters_induction {motive : Text → Prop} (nil : motive [])
    (pair : ∀ c d rest found, Phone.ofPair? c d = some found → motive rest →
      motive (c :: d :: rest))
    (single : ∀ c rest letter, Alone c rest → Letter.ofChar? c = some letter → motive rest →
      motive (c :: rest))
    (unknown : ∀ c rest, Alone c rest → Letter.ofChar? c = none → motive (c :: rest))
    (t : Text) : motive t := by
  induction t using letters.induct with
  | case1 => exact nil
  | case2 c letter read => exact single c [] letter alone_nil read nil
  | case3 c unread => exact unknown c [] alone_nil unread
  | case4 c d rest found taken later => exact pair c d rest found taken later
  | case5 c d rest apart letter read later =>
    exact single c (d :: rest) letter (alone_cons apart) read later
  | case6 c d rest apart unread => exact unknown c (d :: rest) (alone_cons apart) unread

/-! ## Characters that are not known -/

theorem known_of_pair (pair : Phone.ofPair? c d = some found) (rest : Text) :
    Known c (d :: rest) ∧ Known d rest := by
  rcases letters_of_ofPair? pair with ⟨letter | ⟨first, second⟩, letterToo⟩
  · exact ⟨Or.inr (Or.inr (Or.inl letter)), Or.inr (Or.inr (Or.inl letterToo))⟩
  · exact ⟨Or.inr (Or.inr (Or.inr ⟨first, congrArg some second⟩)),
      Or.inr (Or.inr (Or.inl letterToo))⟩

/-- A character that is not taken together with the next one is known if it can be read by
itself. -/
theorem known_iff_of_alone (alone : Alone c rest) :
    Known c rest ↔ (Letter.ofChar? c).isSome = true := by
  have unpaired : ¬(c = 'ɜ' ∧ rest.head? = some 'ː') := by
    intro both
    rcases both with ⟨rfl, second⟩
    have none : Phone.ofPair? 'ɜ' 'ː' = none := alone 'ː' second
    cases none
  rw [ofChar?_isSome_iff, isBreak, Bool.or_eq_true, or_assoc, Known]
  simp only [unpaired, or_false]

theorem allKnown_nil : AllKnown [] := by
  intro c after inside
  cases List.suffix_nil.1 inside

theorem allKnown_cons_iff : AllKnown (c :: t) ↔ Known c t ∧ AllKnown t := by
  constructor
  · intro known
    exact ⟨known c t List.suffix_rfl,
      fun d after inside => known d after (inside.trans (List.suffix_cons c t))⟩
  · intro known d after inside
    rcases List.suffix_cons_iff.1 inside with whole | later
    · cases whole
      exact known.1
    · exact known.2 d after later

theorem not_firstUnknown_nil : ¬FirstUnknown [] symbol := by
  intro first
  rcases first with ⟨before, after, whole, -⟩
  cases before <;> cases whole

theorem firstUnknown_cons_of_known (known : Known c t) :
    FirstUnknown (c :: t) symbol ↔ FirstUnknown t symbol := by
  constructor
  · intro first
    rcases first with ⟨before, after, whole, unknown, earlier⟩
    cases before with
    | nil =>
      cases whole
      exact absurd known unknown
    | cons d before =>
      cases whole
      exact ⟨before, after, rfl, unknown,
        fun e between inside => earlier e between (inside.trans (List.suffix_cons c before))⟩
  · intro first
    rcases first with ⟨before, after, rfl, unknown, earlier⟩
    refine ⟨c :: before, after, rfl, unknown, fun e between inside => ?_⟩
    rcases List.suffix_cons_iff.1 inside with whole | later
    · cases whole
      exact known
    · exact earlier e between later

theorem firstUnknown_cons_of_unknown (unknown : ¬Known c t) :
    FirstUnknown (c :: t) symbol ↔ symbol = c := by
  constructor
  · intro first
    rcases first with ⟨before, after, whole, -, earlier⟩
    cases before with
    | nil =>
      cases whole
      rfl
    | cons d before =>
      cases whole
      exact absurd (earlier c before List.suffix_rfl) unknown
  · intro same
    refine ⟨[], t, by rw [same, List.nil_append], by rwa [same], fun e between inside => ?_⟩
    cases List.suffix_nil.1 inside

theorem letters_eq_error_iff : letters t = .error symbol ↔ FirstUnknown t symbol := by
  induction t using letters_induction with
  | nil => exact iff_of_false (fun fault => by cases fault) not_firstUnknown_nil
  | pair c d rest found pair ih =>
    rcases known_of_pair pair rest with ⟨known, knownToo⟩
    rw [letters_pair pair, consLetter_eq_error_iff, ih, firstUnknown_cons_of_known known,
      firstUnknown_cons_of_known knownToo]
  | single c rest letter alone read ih =>
    have known : Known c rest := (known_iff_of_alone alone).2 (by rw [read]; rfl)
    rw [letters_single alone read, consLetter_eq_error_iff, ih, firstUnknown_cons_of_known known]
  | unknown c rest alone unread =>
    have unknown : ¬Known c rest := by
      rw [known_iff_of_alone alone, unread]
      exact Bool.false_ne_true
    rw [letters_unknown alone unread, firstUnknown_cons_of_unknown unknown]
    exact ⟨fun fault => (Except.error.inj fault).symm, fun same => by rw [same]⟩

theorem exists_letters_eq_ok_iff : (∃ read, letters t = .ok read) ↔ AllKnown t := by
  induction t using letters_induction with
  | nil => exact iff_of_true ⟨[], rfl⟩ allKnown_nil
  | pair c d rest found pair ih =>
    rcases known_of_pair pair rest with ⟨known, knownToo⟩
    rw [letters_pair pair, exists_consLetter_eq_ok_iff, ih, allKnown_cons_iff, allKnown_cons_iff,
      and_iff_right known, and_iff_right knownToo]
  | single c rest letter alone read ih =>
    have known : Known c rest := (known_iff_of_alone alone).2 (by rw [read]; rfl)
    rw [letters_single alone read, exists_consLetter_eq_ok_iff, ih, allKnown_cons_iff,
      and_iff_right known]
  | unknown c rest alone unread =>
    rw [letters_unknown alone unread, allKnown_cons_iff, known_iff_of_alone alone, unread]
    simp

end

/-- **A phonetic text can be read if and only if each of its characters can**, a letter of its own, a
blank, a stress mark or the first one of `ɜː`; how letters are taken together does not matter. Else
the fault names the first character that cannot be read, and the whole text. -/
theorem ofIpa_accepts (ipa : Text) :
    ((∃ phones, ofIpa ipa = .ok phones) ↔ ∀ c after, c :: after <:+ ipa → Known c after) ∧
      ∀ fault, ofIpa ipa = .error fault ↔
        ∃ symbol, FirstUnknown ipa symbol ∧ fault = .unknownPhone symbol ipa := by
  have accepted : (∃ read, letters ipa = .ok read) ↔ AllKnown ipa := exists_letters_eq_ok_iff
  have refused (symbol : Char) : letters ipa = .error symbol ↔ FirstUnknown ipa symbol :=
    letters_eq_error_iff
  cases read : letters ipa with
  | ok found =>
    rw [read] at accepted refused
    rw [ofIpa, read]
    refine ⟨iff_of_true ⟨_, rfl⟩ (accepted.1 ⟨found, rfl⟩), fun fault => ?_⟩
    refine iff_of_false (fun other => by cases other) fun first => ?_
    rcases first with ⟨symbol, first, -⟩
    cases (refused symbol).2 first
  | error symbol =>
    rw [read] at accepted refused
    rw [ofIpa, read]
    refine ⟨iff_of_false (fun some => ?_) fun known => ?_, fun fault => ⟨fun same => ?_, ?_⟩⟩
    · rcases some with ⟨phones, other⟩
      cases other
    · rcases accepted.2 known with ⟨found, other⟩
      cases other
    · exact ⟨symbol, (refused symbol).1 rfl, (Except.error.inj same).symm⟩
    · intro first
      rcases first with ⟨other, first, rfl⟩
      cases (refused other).2 first
      rfl

/-- The length mark is known behind `ɜ` and elsewhere, but `ɜ` is only known in front of it. -/
example : ofIpa "kɜːɜt".toList = .error (.unknownPhone 'ɜ' "kɜːɜt".toList) := by
  decide

end Polyvoice.Phones
