import Polyvoice.Proofs.Phones.Letters

/-!
# The tokens of a phonetic text

A phonetic text falls into tokens (`Tokens`): each break is one by itself, and any other token is
the longest entry of the table that stands at its place. There is one way to do so at most
(`Tokens.eq`), and `letters` finds what the tokens stand for, if there are any
(`letters_eq_ok_iff`). A break parts a text: no token lies across it (`Tokens.append`).
-/

namespace Polyvoice.Phones

/-- What the table has for one letter, or for two that are taken together. -/
def lookup? : Text → Option (Option Phone)
  | [c] => Phone.ofLetter? c
  | [c, d] => (Phone.ofPair? c d).map some
  | _ => none

/-- The longest entry of the table at the front of a text. -/
structure LongestEntry (t token : Text) : Prop where
  begins : token <+: t
  entry : (lookup? token).isSome = true
  longest : ∀ other, other <+: t → (lookup? other).isSome = true → other.length ≤ token.length

/-- How a phonetic text falls into tokens, longest entries first. -/
inductive Tokens : Text → List Text → Prop where
  | nil : Tokens [] []
  /-- A blank or a stress mark is a token by itself. -/
  | part {c : Char} {rest : Text} {tokens : List Text} :
    isBreak c = true → Tokens rest tokens → Tokens (c :: rest) ([c] :: tokens)
  | entry {token rest : Text} {tokens : List Text} :
    LongestEntry (token ++ rest) token → Tokens rest tokens →
      Tokens (token ++ rest) (token :: tokens)

/-- The phone that a token stands for. -/
def phone? (token : Text) : Option Phone :=
  (lookup? token).join

/-- The stress that a token marks. -/
def mark? : Text → Option Stress
  | [c] => Stress.ofMark? c
  | _ => none

/-- What a token stands for. -/
def letterOf (token : Text) : Letter :=
  match mark? token, phone? token with
  | some degree, _ => .stress degree
  | none, some found => .phone found
  | none, none => .silent

section

variable {c d : Char} {t u rest token other : Text} {tokens ts us : List Text} {found : Phone}

/-! ## Entries -/

/-- An entry is one letter, or two that are taken together. -/
theorem lookup?_isSome_iff :
    (lookup? token).isSome = true ↔
      (∃ c, token = [c] ∧ (Phone.ofLetter? c).isSome = true) ∨
        ∃ c d found, token = [c, d] ∧ Phone.ofPair? c d = some found := by
  rcases token with - | ⟨c, - | ⟨d, - | ⟨e, rest⟩⟩⟩ <;>
    simp [lookup?, Option.isSome_iff_exists]

theorem isBreak_of_lookup? (entry : (lookup? token).isSome = true) (member : c ∈ token) :
    isBreak c = false := by
  rcases lookup?_isSome_iff.1 entry with ⟨d, rfl, letter⟩ | ⟨d, e, found, rfl, pair⟩
  · rw [List.mem_singleton.1 member]
    exact isBreak_of_ofLetter? letter
  · rcases letters_of_ofPair? pair with ⟨first, second⟩
    rcases List.mem_cons.1 member with rfl | last
    · rcases first with letter | ⟨rfl, -⟩
      · exact isBreak_of_ofLetter? letter
      · rfl
    · rw [List.mem_singleton.1 last]
      exact isBreak_of_ofLetter? second

theorem longestEntry_pair (pair : Phone.ofPair? c d = some found) (rest : Text) :
    LongestEntry (c :: d :: rest) [c, d] where
  begins := ⟨rest, rfl⟩
  entry := lookup?_isSome_iff.2 (Or.inr ⟨c, d, found, rfl, pair⟩)
  longest other _ entry := by
    rcases lookup?_isSome_iff.1 entry with ⟨e, rfl, -⟩ | ⟨e, f, -, rfl, -⟩
    · exact Nat.le_succ 1
    · exact Nat.le_refl 2

theorem longestEntry_single (letter : (Phone.ofLetter? c).isSome = true) (alone : Alone c rest) :
    LongestEntry (c :: rest) [c] where
  begins := ⟨rest, rfl⟩
  entry := lookup?_isSome_iff.2 (Or.inl ⟨c, rfl, letter⟩)
  longest other begins entry := by
    rcases lookup?_isSome_iff.1 entry with ⟨e, rfl, -⟩ | ⟨e, f, found, rfl, pair⟩
    · exact Nat.le_refl 1
    · rcases begins with ⟨more, whole⟩
      cases whole
      have apart : Phone.ofPair? c f = none := alone f rfl
      rw [apart] at pair
      cases pair

/-- The longest entry at the front is one letter alone, or two that are taken together. -/
theorem LongestEntry.cases (longest : LongestEntry (token ++ rest) token) :
    (∃ c, token = [c] ∧ (Phone.ofLetter? c).isSome = true ∧ Alone c rest) ∨
      ∃ c d found, token = [c, d] ∧ Phone.ofPair? c d = some found := by
  rcases lookup?_isSome_iff.1 longest.entry with ⟨c, rfl, letter⟩ | pair
  · refine Or.inl ⟨c, rfl, letter, fun d first => ?_⟩
    rcases List.head?_eq_some_iff.1 first with ⟨more, rfl⟩
    by_contra taken
    rcases Option.ne_none_iff_exists'.1 taken with ⟨found, pair⟩
    have short := longest.longest [c, d] ⟨more, rfl⟩
      (lookup?_isSome_iff.2 (Or.inr ⟨c, d, found, rfl, pair⟩))
    exact absurd short (Nat.not_succ_le_self 1)
  · exact Or.inr pair

theorem LongestEntry.eq (first : LongestEntry t token) (second : LongestEntry t other) :
    token = other := by
  have atMost := second.longest token first.begins first.entry
  have atLeast := first.longest other second.begins second.entry
  have inside := List.prefix_of_prefix_length_le first.begins second.begins atMost
  exact inside.eq_of_length_le atLeast

theorem not_longestEntry_nil : ¬LongestEntry [] token := by
  intro longest
  have entry := longest.entry
  rw [List.prefix_nil.1 longest.begins] at entry
  cases entry

theorem LongestEntry.isBreak_first (longest : LongestEntry (c :: rest) token) :
    isBreak c = false := by
  rcases List.prefix_cons_iff.1 longest.begins with rfl | ⟨more, rfl, -⟩
  · cases longest.entry
  · exact isBreak_of_lookup? longest.entry List.mem_cons_self

theorem isPrefix_of_notMem (begins : other <+: t ++ c :: u) (absent : c ∉ other) :
    other <+: t := by
  rcases List.prefix_or_prefix_of_prefix begins (List.prefix_append t (c :: u)) with
    inside | ⟨more, rfl⟩
  · exact inside
  · rcases List.prefix_cons_iff.1 ((List.prefix_append_right_inj t).1 begins) with
      rfl | ⟨later, rfl, -⟩
    · exact ⟨[], by rw [List.append_nil, List.append_nil]⟩
    · exact absurd (List.mem_append_right t List.mem_cons_self) absent

/-- A break behind the text leaves its longest entry as it is. -/
theorem LongestEntry.append (longest : LongestEntry t token) (part : isBreak c = true) (u : Text) :
    LongestEntry (t ++ c :: u) token where
  begins := longest.begins.trans (List.prefix_append t (c :: u))
  entry := longest.entry
  longest other begins entry := by
    refine longest.longest other (isPrefix_of_notMem begins fun member => ?_) entry
    rw [isBreak_of_lookup? entry member] at part
    cases part

/-! ## What tokens stand for -/

theorem phone?_of_isBreak (part : isBreak c = true) : phone? [c] = none := by
  cases letter : Phone.ofLetter? c with
  | none => rw [phone?, lookup?, letter, Option.join_none]
  | some found =>
    rw [isBreak_of_ofLetter? (by rw [letter]; rfl)] at part
    cases part

theorem mark?_of_lookup? (entry : (lookup? token).isSome = true) : mark? token = none := by
  rcases lookup?_isSome_iff.1 entry with ⟨c, rfl, letter⟩ | ⟨c, d, found, rfl, -⟩
  · have part := isBreak_of_ofLetter? letter
    rw [isBreak, Bool.or_eq_false_iff] at part
    exact Option.isNone_iff_eq_none.1 (Option.isSome_eq_false_iff.1 part.2)
  · rfl

theorem letterOf_pair (pair : Phone.ofPair? c d = some found) :
    letterOf [c, d] = .phone found := by
  simp [letterOf, mark?, phone?, lookup?, pair]

theorem letterOf_single {letter : Letter} (read : Letter.ofChar? c = some letter) :
    letterOf [c] = letter := by
  by_cases blank : isBlank c = true
  · have phone : phone? [c] = none := phone?_of_isBreak (by rw [isBreak, blank, Bool.true_or])
    have mark : mark? [c] = none := by
      by_contra some
      rw [isBlank_of_ofMark? (Option.isSome_iff_ne_none.2 some)] at blank
      cases blank
    rw [Letter.ofChar?, if_pos blank] at read
    rw [letterOf, mark, phone]
    exact Option.some.inj read
  · rw [Letter.ofChar?, if_neg blank] at read
    rw [letterOf, mark?, phone?, lookup?]
    cases mark : Stress.ofMark? c with
    | some degree =>
      rw [mark] at read
      exact Option.some.inj read
    | none =>
      rw [mark] at read
      rcases letter : Phone.ofLetter? c with - | - | found <;> rw [letter] at read
      · cases read
      · exact Option.some.inj read
      · exact Option.some.inj read

/-! ## Tokens of a text -/

/-- The first token of a text is a break or the longest entry. -/
theorem Tokens.inversion (tokens : Tokens t ts) :
    t = [] ∧ ts = [] ∨
      (∃ c rest us, t = c :: rest ∧ ts = [c] :: us ∧ isBreak c = true ∧ Tokens rest us) ∨
        ∃ token rest us, t = token ++ rest ∧ ts = token :: us ∧ LongestEntry t token ∧
          Tokens rest us := by
  cases tokens with
  | nil => exact Or.inl ⟨rfl, rfl⟩
  | part part later => exact Or.inr (Or.inl ⟨_, _, _, rfl, rfl, part, later⟩)
  | entry longest later => exact Or.inr (Or.inr ⟨_, _, _, rfl, rfl, longest, later⟩)

/-- A text falls into tokens in one way at most. -/
theorem Tokens.eq (first : Tokens t ts) (second : Tokens t us) : ts = us := by
  induction first generalizing us with
  | nil =>
    rcases second.inversion with ⟨-, rfl⟩ | ⟨c, rest, -, whole, -⟩ | ⟨token, -, -, -, -, longest, -⟩
    · rfl
    · cases whole
    · exact absurd longest not_longestEntry_nil
  | @part c rest tokens part _ ih =>
    rcases second.inversion with ⟨whole, -⟩ | ⟨d, other, us, whole, rfl, -, later⟩ |
      ⟨token, -, -, -, -, longest, -⟩
    · cases whole
    · cases whole
      rw [ih later]
    · rw [longest.isBreak_first] at part
      cases part
  | @entry token rest tokens longest _ ih =>
    rcases second.inversion with ⟨whole, -⟩ | ⟨c, other, us, whole, -, part, -⟩ |
      ⟨other, more, us, whole, rfl, longestToo, later⟩
    · rw [whole] at longest
      exact absurd longest not_longestEntry_nil
    · rw [whole] at longest
      rw [longest.isBreak_first] at part
      cases part
    · obtain rfl := longest.eq longestToo
      rw [← List.append_cancel_left whole] at later
      rw [ih later]

/-- A break parts a text. -/
theorem Tokens.append (first : Tokens t ts) (part : isBreak c = true) (second : Tokens u us) :
    Tokens (t ++ c :: u) (ts ++ [c] :: us) := by
  induction first with
  | nil => exact .part part second
  | part here _ ih => exact .part here ih
  | @entry token rest tokens longest _ ih =>
    have still : LongestEntry (token ++ (rest ++ c :: u)) token := by
      rw [← List.append_assoc]
      exact longest.append part u
    rw [List.append_assoc]
    exact .entry still ih

/-- What is read of a text is what its tokens stand for, if it falls into tokens. -/
theorem letters_eq_ok_iff {read : List Letter} :
    letters t = .ok read ↔ ∃ tokens, Tokens t tokens ∧ read = tokens.map letterOf := by
  constructor
  · intro found
    induction t using letters_induction generalizing read with
    | nil =>
      cases found
      exact ⟨[], .nil, rfl⟩
    | pair c d rest phone pair ih =>
      rw [letters_pair pair, consLetter_eq_ok_iff] at found
      rcases found with ⟨later, found, rfl⟩
      rcases ih found with ⟨tokens, falls, rfl⟩
      have whole : Tokens ([c, d] ++ rest) ([c, d] :: tokens) :=
        .entry (longestEntry_pair pair rest) falls
      exact ⟨[c, d] :: tokens, whole, by rw [List.map_cons, letterOf_pair pair]⟩
    | single c rest letter alone one ih =>
      rw [letters_single alone one, consLetter_eq_ok_iff] at found
      rcases found with ⟨later, found, rfl⟩
      rcases ih found with ⟨tokens, falls, rfl⟩
      refine ⟨[c] :: tokens, ?_, by rw [List.map_cons, letterOf_single one]⟩
      rcases ofChar?_isSome_iff.1 (by rw [one]; rfl) with part | entry
      · exact .part part falls
      · have whole : Tokens ([c] ++ rest) ([c] :: tokens) :=
          .entry (longestEntry_single entry alone) falls
        exact whole
    | unknown c rest alone unread =>
      rw [letters_unknown alone unread] at found
      cases found
  · intro found
    rcases found with ⟨tokens, falls, rfl⟩
    induction falls with
    | nil => rfl
    | @part c rest tokens part _ ih =>
      have known := ofChar?_isSome_iff.2 (Or.inl part)
      rcases Option.isSome_iff_exists.1 known with ⟨letter, one⟩
      rw [letters_single (alone_of_isBreak part rest) one, ih, List.map_cons, letterOf_single one]
      rfl
    | @entry token rest tokens longest _ ih =>
      rcases longest.cases with ⟨c, rfl, entry, alone⟩ | ⟨c, d, found, rfl, pair⟩
      · have known := ofChar?_isSome_iff.2 (Or.inr entry)
        rcases Option.isSome_iff_exists.1 known with ⟨letter, one⟩
        rw [List.singleton_append, letters_single alone one, ih, List.map_cons,
          letterOf_single one]
        rfl
      · have whole : letters ([c, d] ++ rest) = consLetter (.phone found) (letters rest) :=
          letters_pair pair rest
        rw [whole, ih, List.map_cons, letterOf_pair pair]
        rfl

end

end Polyvoice.Phones
