import Polyvoice.Text

/-!
# Names of digits

A table of digit names says how single digits are spoken in a language. An entry of the language
itself comes first, then an entry for every language; an entry with an empty name counts when an
entry is looked for, but names nothing.
-/

namespace Polyvoice

/-- How a digit is spoken in a language, if it is not spoken as written. -/
abbrev DigitSpelling := (digit : Char) → (language : String) → Option Text

/-- The language whose entries hold in every language. -/
def anyLanguage : String := "*"

/-- Names of digits by language and digit. -/
structure DigitNames where
  /-- The entries, newest first. -/
  entries : List ((String × Char) × Text)
  /-- No language names a digit twice. -/
  distinct : (entries.map Prod.fst).Nodup

namespace DigitNames

/-- The table without entries. -/
def empty : DigitNames where
  entries := []
  distinct := List.nodup_nil

/-- The entries that `keep` accepts. -/
def filter (keep : (String × Char) × Text → Bool) (names : DigitNames) : DigitNames where
  entries := names.entries.filter keep
  distinct := names.distinct.sublist (List.filter_sublist.map Prod.fst)

/-- Enters a name for a digit in a language, in place of an earlier one. -/
def insert (names : DigitNames) (language : String) (digit : Char) (name : Text) :
    DigitNames where
  entries :=
    ((language, digit), name) :: (names.filter fun entry => entry.1 != (language, digit)).entries
  distinct := by
    refine List.nodup_cons.2 ⟨?_, (names.filter _).distinct⟩
    simp [filter]

/-- Enters names for the ten digits in a language, the name of zero first. -/
def insertAll (names : DigitNames) (language : String) (words : List Text) : DigitNames :=
  (['0', '1', '2', '3', '4', '5', '6', '7', '8', '9'].zip words).foldl
    (fun names entry => names.insert language entry.1 entry.2) names

/-- Leaves out all entries of a language. -/
def eraseLanguage (names : DigitNames) (language : String) : DigitNames :=
  names.filter fun entry => entry.1.1 != language

/-- The entry of a language for a digit. -/
def nameOf? (names : DigitNames) (language : String) (digit : Char) : Option Text :=
  (names.entries.find? fun entry => entry.1 == (language, digit)).map Prod.snd

/-- What is entered is found, and what was entered elsewhere stays. -/
theorem nameOf?_insert (names : DigitNames) (language other : String) (digit d : Char)
    (name : Text) :
    (names.insert language digit name).nameOf? other d =
      if (other, d) = (language, digit) then some name else names.nameOf? other d := by
  unfold nameOf? insert filter
  by_cases same : (other, d) = (language, digit)
  · simp [same]
  · have front : ((language, digit) == (other, d)) = false :=
      beq_eq_false_iff_ne.2 fun h => same h.symm
    have agree : ∀ entry : (String × Char) × Text,
        decide ((entry.1 != (language, digit)) = true ∧ (entry.1 == (other, d)) = true) =
          (entry.1 == (other, d)) := by
      intro entry
      by_cases found : entry.1 = (other, d)
      · simp [found, same]
      · simp [found]
    rw [if_neg same, List.find?_cons_of_neg (by simp [front]), List.find?_filter, funext agree]

/-- The name of a digit in a language. -/
def spelling (names : DigitNames) : DigitSpelling := fun digit language =>
  ((names.nameOf? language digit).or (names.nameOf? anyLanguage digit)).filter (!·.isEmpty)

/-- An entry of which the digit is none. -/
def stray? (names : DigitNames) : Option (String × Char) :=
  (names.entries.map Prod.fst).find? fun key => !key.2.isDigit

end DigitNames

end Polyvoice
