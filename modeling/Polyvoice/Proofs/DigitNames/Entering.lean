import Mathlib.Data.List.Nodup
import Polyvoice.DigitNames
import Polyvoice.Numeral.Reading

/-!
# Tables of names that were entered

A table holds the names that calls have entered, of several names for a digit in a language the
last one (`nameOf?_entered`). An empty name is not spoken, but it counts as a name of its language:
names for every language are not looked up behind it (`Shadowed`). Leaving out the empty names of a
table changes what a text becomes exactly at the digits where this happens
(`nameDigits_withoutEmpty`).
-/

namespace Polyvoice.DigitNames

/-! ## Calls -/

/-- A call that enters names into a table. -/
inductive Entry where
  | one (language : String) (digit : Char) (name : Text)
  | ten (language : String) (words : Vector Text 10)

namespace Entry

/-- The names of a call, in the order in which they are entered. -/
def names : Entry → List ((String × Char) × Text)
  | one language digit name => [((language, digit), name)]
  | ten language words =>
    (['0', '1', '2', '3', '4', '5', '6', '7', '8', '9'].zip words.toList).map fun entry =>
      ((language, entry.1), entry.2)

/-- Enters the names of a call. -/
def enter (names : DigitNames) : Entry → DigitNames
  | one language digit name => names.insert language digit name
  | ten language words => names.insertAll language words.toList

end Entry

/-! ## What a table holds -/

theorem find?_key_iff {κ α : Type} [BEq κ] [LawfulBEq κ] {entries : List (κ × α)}
    (distinct : (entries.map Prod.fst).Nodup) (key : κ) (x : α) :
    (entries.find? fun entry => entry.1 == key).map Prod.snd = some x ↔ (key, x) ∈ entries := by
  have hit {entry : κ × α} (found : (entries.find? fun entry => entry.1 == key) = some entry) :
      entry.1 = key := by
    simpa using List.find?_some found
  rw [Option.map_eq_some_iff]
  constructor
  · intro said
    rcases said with ⟨entry, found, rfl⟩
    rw [← hit found]
    exact List.mem_of_find?_eq_some found
  · intro member
    have there : (entries.find? fun entry => entry.1 == key).isSome = true :=
      List.find?_isSome.2 ⟨(key, x), member, beq_self_eq_true key⟩
    rcases Option.isSome_iff_exists.1 there with ⟨entry, found⟩
    have same : entry = (key, x) :=
      List.inj_on_of_nodup_map distinct (List.mem_of_find?_eq_some found) member (hit found)
    exact ⟨entry, found, congrArg Prod.snd same⟩

/-- A table says what its entries are. -/
theorem nameOf?_eq_some_iff {names : DigitNames} {language : String} {digit : Char} {name : Text} :
    names.nameOf? language digit = some name ↔ ((language, digit), name) ∈ names.entries :=
  find?_key_iff names.distinct (language, digit) name

/-- The table that calls make one after the other. -/
def entered (entries : List Entry) : DigitNames :=
  entries.foldl Entry.enter empty

/-- The name that was entered last for a digit in a language. -/
def lastNamed (entries : List Entry) (language : String) (digit : Char) : Option Text :=
  ((entries.flatMap Entry.names).reverse.find? fun entry => entry.1 == (language, digit)).map
    Prod.snd

/-- Enters names one after the other. -/
def insertEach (names : DigitNames) (entries : List ((String × Char) × Text)) : DigitNames :=
  entries.foldl (fun names entry => names.insert entry.1.1 entry.1.2 entry.2) names

/-- Of names that are entered one after the other, the last one is found, and what the table held
before is found where none of them was entered. -/
theorem nameOf?_insertEach (names : DigitNames) (entries : List ((String × Char) × Text))
    (language : String) (digit : Char) :
    (names.insertEach entries).nameOf? language digit =
      ((entries.reverse.find? fun entry => entry.1 == (language, digit)).map Prod.snd).or
        (names.nameOf? language digit) := by
  induction entries generalizing names with
  | nil => rfl
  | cons entry entries ih =>
    have next := ih (names.insert entry.1.1 entry.1.2 entry.2)
    rw [nameOf?_insert] at next
    rw [List.reverse_cons, List.find?_append, insertEach, List.foldl_cons]
    refine next.trans ?_
    cases entries.reverse.find? fun entry => entry.1 == (language, digit) with
    | some found => rfl
    | none =>
      by_cases same : entry.1 = (language, digit)
      · simp [same]
      · have other : (language, digit) ≠ entry.1 := fun equal => same equal.symm
        simp [same, other]

theorem enter_eq (names : DigitNames) (entry : Entry) :
    Entry.enter names entry = names.insertEach entry.names := by
  cases entry with
  | one language digit name => rfl
  | ten language words =>
    rw [insertEach, Entry.names, List.foldl_map]
    rfl

theorem entered_eq (entries : List Entry) :
    entered entries = empty.insertEach (entries.flatMap Entry.names) := by
  rw [insertEach, List.foldl_flatMap, entered]
  exact congrArg (fun enter => entries.foldl enter empty)
    (funext fun names => funext (enter_eq names))

/-- What a table says of a digit in a language is what was entered last for it. -/
theorem nameOf?_entered (entries : List Entry) (language : String) (digit : Char) :
    (entered entries).nameOf? language digit = lastNamed entries language digit := by
  rw [entered_eq, nameOf?_insertEach]
  exact Option.or_none

/-! ## Empty names -/

/-- The table without its empty names. -/
def withoutEmpty (names : DigitNames) : DigitNames :=
  names.filter fun entry => !entry.2.isEmpty

theorem nameOf?_withoutEmpty (names : DigitNames) (language : String) (digit : Char) :
    names.withoutEmpty.nameOf? language digit =
      (names.nameOf? language digit).filter (!·.isEmpty) := by
  refine Option.ext fun name => ?_
  rw [nameOf?_eq_some_iff, Option.filter_eq_some_iff, nameOf?_eq_some_iff]
  exact List.mem_filter

/-- An empty name of the language stands before a name for every language that is not empty. -/
def Shadowed (entries : List Entry) (language : String) (digit : Char) : Prop :=
  lastNamed entries language digit = some [] ∧
    lastNamed entries anyLanguage digit ≠ none ∧ lastNamed entries anyLanguage digit ≠ some []

instance (entries : List Entry) (language : String) (digit : Char) :
    Decidable (Shadowed entries language digit) :=
  inferInstanceAs (Decidable (_ ∧ _ ∧ _))

theorem spelling_of_shadowed {entries : List Entry} {language : String} {digit : Char}
    (shadowed : Shadowed entries language digit) :
    (entered entries).spelling digit language = none ∧
      (entered entries).withoutEmpty.spelling digit language =
        lastNamed entries anyLanguage digit := by
  rcases shadowed with ⟨own, present, full⟩
  unfold spelling
  rw [nameOf?_withoutEmpty, nameOf?_withoutEmpty, nameOf?_entered, nameOf?_entered, own]
  refine ⟨rfl, ?_⟩
  rcases named : lastNamed entries anyLanguage digit with _ | _ | ⟨c, name⟩
  · exact absurd named present
  · exact absurd named full
  · rfl

theorem spelling_of_not_shadowed {entries : List Entry} {language : String} {digit : Char}
    (clear : ¬Shadowed entries language digit) :
    (entered entries).withoutEmpty.spelling digit language =
      (entered entries).spelling digit language := by
  unfold Shadowed at clear
  unfold spelling
  rw [nameOf?_withoutEmpty, nameOf?_withoutEmpty, nameOf?_entered, nameOf?_entered]
  rcases own : lastNamed entries language digit with _ | _ | ⟨c, name⟩
  · rcases lastNamed entries anyLanguage digit with _ | _ | ⟨d, other⟩ <;> rfl
  · rcases every : lastNamed entries anyLanguage digit with _ | _ | ⟨d, other⟩
    · rfl
    · rfl
    · rw [own, every] at clear
      exact absurd ⟨rfl, Option.some_ne_none _, fun same => nomatch same⟩ clear
  · rfl

/-! ## Texts -/

section

variable {α β : Type} {f g : α → List β}

theorem length_flatMap_le (short : ∀ x, (f x).length ≤ (g x).length) (t : List α) :
    (t.flatMap f).length ≤ (t.flatMap g).length := by
  induction t with
  | nil => exact Nat.le_refl 0
  | cons x t ih =>
    rw [List.flatMap_cons, List.flatMap_cons, List.length_append, List.length_append]
    exact Nat.add_le_add (short x) ih

/-- If one of two replacements is nowhere the longer one, they agree on a text only if they agree
on each of its characters. -/
theorem flatMap_eq_iff (short : ∀ x, (f x).length ≤ (g x).length) (t : List α) :
    t.flatMap f = t.flatMap g ↔ ∀ x ∈ t, f x = g x := by
  induction t with
  | nil => simp
  | cons x t ih =>
    rw [List.flatMap_cons, List.flatMap_cons, List.forall_mem_cons, ← ih]
    refine ⟨fun same => ?_, fun parts => congrArg₂ List.append parts.1 parts.2⟩
    have lengths := congrArg List.length same
    rw [List.length_append, List.length_append] at lengths
    have first := short x
    have others := length_flatMap_le short t
    exact List.append_inj same (by omega)

end

theorem said_withoutEmpty (entries : List Entry) (language : String) (c : Char) :
    let said (names : DigitNames) := if c.isDigit then (names.spelling c language).getD [c] else [c]
    (said (entered entries)).length ≤ (said (entered entries).withoutEmpty).length ∧
      (said (entered entries) = said (entered entries).withoutEmpty ↔
        (c.isDigit = true → Shadowed entries language c →
          lastNamed entries anyLanguage c = some [c])) := by
  intro said
  by_cases digit : c.isDigit = true
  · by_cases shadowed : Shadowed entries language c
    · have spelled := spelling_of_shadowed shadowed
      rcases named : lastNamed entries anyLanguage c with _ | _ | ⟨d, name⟩
      · exact absurd named shadowed.2.1
      · exact absurd named shadowed.2.2
      · simp [said, digit, shadowed, spelled, named, eq_comm]
    · simp [said, digit, shadowed, spelling_of_not_shadowed shadowed]
  · simp [said, digit]

/-- **Leaving out empty names.** Without the empty names of a table a digit is spoken as before,
unless an empty name of the language stood before one for every language: such a digit was spoken as
written, and now has that name. A text stays the same exactly if each such digit in it has itself
as that name. -/
theorem nameDigits_withoutEmpty (entries : List Entry) (language : String) :
    (∀ digit, if Shadowed entries language digit then
        (entered entries).spelling digit language = none ∧
          (entered entries).withoutEmpty.spelling digit language =
            lastNamed entries anyLanguage digit
      else (entered entries).withoutEmpty.spelling digit language =
        (entered entries).spelling digit language) ∧
      ∀ t, Numeral.nameDigits ((entered entries).spelling · language) t =
          Numeral.nameDigits ((entered entries).withoutEmpty.spelling · language) t ↔
        ∀ digit ∈ t, digit.isDigit = true → Shadowed entries language digit →
          lastNamed entries anyLanguage digit = some [digit] := by
  refine ⟨fun digit => ?_, fun t => ?_⟩
  · by_cases shadowed : Shadowed entries language digit
    · rw [if_pos shadowed]
      exact spelling_of_shadowed shadowed
    · rw [if_neg shadowed]
      exact spelling_of_not_shadowed shadowed
  · refine (flatMap_eq_iff (fun c => (said_withoutEmpty entries language c).1) t).trans ?_
    exact forall₂_congr fun c _ => (said_withoutEmpty entries language c).2

/-- A digit that has an empty name in a language and another one in every language. -/
theorem nameDigits_shadowed :
    let entries := [Entry.one anyLanguage '1' "one".toList, Entry.one "en" '1' []]
    Numeral.nameDigits ((entered entries).spelling · "en") ['1'] = ['1'] ∧
      Numeral.nameDigits ((entered entries).withoutEmpty.spelling · "en") ['1'] =
        "one".toList := by
  decide

end Polyvoice.DigitNames
