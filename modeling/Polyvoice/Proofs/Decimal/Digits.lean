import Polyvoice.Text

/-!
# Written whole numbers

Payloads hold whole numbers in decimal digits: bookmarks, and the values of settings. This module
says which characters such a number is written with, so that a reader knows where it ends, and
reads the number of a bookmark (`readWord?_toString`) and the value of a setting
(`readInteger?_toString`) back.
-/

namespace Polyvoice.Decimal

/-- A natural number is written with digits. -/
theorem isDigit_of_mem_natural {n : Nat} {c : Char} (member : c ∈ (toString n).toList) :
    c.isDigit = true := by
  rw [Nat.toString_eq_repr, Nat.toList_repr] at member
  exact Nat.isDigit_of_mem_toDigits (by decide) (by decide) member

/-- An integer is written with digits, and a minus sign if it is negative. -/
theorem isDigit_or_eq_minus_of_mem_integer {n : Int} {c : Char}
    (member : c ∈ (toString n).toList) : c.isDigit = true ∨ c = '-' := by
  rw [Int.toString_eq_repr, Int.repr_eq_if] at member
  split at member
  · exact Or.inl (isDigit_of_mem_natural member)
  · rw [String.toList_append, List.mem_append] at member
    rcases member with sign | digits
    · exact Or.inr (List.mem_singleton.1 sign)
    · exact Or.inl (isDigit_of_mem_natural digits)

/-- A character that is neither a digit nor a minus sign is in no written integer. -/
theorem notMem_integer {n : Int} {c : Char} (digit : c.isDigit = false) (minus : c ≠ '-') :
    c ∉ (toString n).toList := by
  intro member
  rcases isDigit_or_eq_minus_of_mem_integer member with yes | same
  · rw [digit] at yes
    cases yes
  · exact minus same

/-- Reads a number of 32 bits: one or more digits that do not exceed the range. -/
def readWord? (t : Text) : Option UInt32 :=
  if t ≠ [] ∧ t.all Char.isDigit = true ∧ Nat.ofDigitChars 10 t 0 < UInt32.size then
    some (UInt32.ofNat (Nat.ofDigitChars 10 t 0))
  else none

/-- A written number of 32 bits is read back. -/
theorem readWord?_toString (id : UInt32) : readWord? (toString id.toNat).toList = some id := by
  have digits : (toString id.toNat).toList.all Char.isDigit = true :=
    List.all_eq_true.2 fun c member => isDigit_of_mem_natural member
  have value : Nat.ofDigitChars 10 (toString id.toNat).toList 0 = id.toNat := by
    rw [Nat.toString_eq_repr, Nat.toList_repr, Nat.ofDigitChars_ten_toDigits]
  have present : (toString id.toNat).toList ≠ [] := by
    rw [Nat.toString_eq_repr, Nat.toList_repr]
    exact Nat.toDigits_ne_nil
  have fits : Nat.ofDigitChars 10 (toString id.toNat).toList 0 < UInt32.size := by
    rw [value]
    exact id.toNat_lt_size
  rw [readWord?, if_pos ⟨present, digits, fits⟩, value, UInt32.ofNat_toNat]

/-- Reads an integer: one or more digits, behind a minus sign if it is negative. -/
def readInteger? (t : Text) : Option Int :=
  let sign := t.takeWhile (· == '-')
  let digits := t.dropWhile (· == '-')
  if digits ≠ [] ∧ digits.all Char.isDigit = true ∧ sign.length ≤ 1 then
    some ((if sign.isEmpty then 1 else -1) * (Nat.ofDigitChars 10 digits 0 : Int))
  else none

theorem minus_notMem_natural (n : Nat) : '-' ∉ (toString n).toList := by
  intro member
  have digit := isDigit_of_mem_natural member
  cases digit

/-- The digits of a written natural number, read behind a sign or none. -/
theorem readInteger?_append_natural (sign : Text) (minus : ∀ c ∈ sign, c = '-')
    (short : sign.length ≤ 1) (n : Nat) :
    readInteger? (sign ++ (toString n).toList) =
      some ((if sign.isEmpty then 1 else -1) * (n : Int)) := by
  have signed : ∀ c ∈ sign, (c == '-') = true := fun c member => beq_iff_eq.2 (minus c member)
  obtain ⟨c, rest, written⟩ : ∃ c rest, (toString n).toList = c :: rest := by
    rw [Nat.toString_eq_repr, Nat.toList_repr]
    exact List.exists_cons_of_ne_nil Nat.toDigits_ne_nil
  have first : (c == '-') = false := by
    refine beq_eq_false_iff_ne.2 fun same => minus_notMem_natural n ?_
    rw [written, ← same]
    exact List.mem_cons_self
  have front : (sign ++ (toString n).toList).takeWhile (· == '-') = sign := by
    rw [List.takeWhile_append_of_pos signed, written, List.takeWhile_cons_of_neg (by simp [first]),
      List.append_nil]
  have back : (sign ++ (toString n).toList).dropWhile (· == '-') = (toString n).toList := by
    rw [List.dropWhile_append_of_pos signed, written, List.dropWhile_cons_of_neg (by simp [first])]
  have digits : (toString n).toList.all Char.isDigit = true :=
    List.all_eq_true.2 fun c member => isDigit_of_mem_natural member
  have value : Nat.ofDigitChars 10 (toString n).toList 0 = n := by
    rw [Nat.toString_eq_repr, Nat.toList_repr, Nat.ofDigitChars_ten_toDigits]
  have present : (toString n).toList ≠ [] := by
    rw [written]
    exact List.cons_ne_nil c rest
  simp only [readInteger?, front, back, value]
  exact if_pos ⟨present, digits, short⟩

/-- A written integer is read back. -/
theorem readInteger?_toString (n : Int) : readInteger? (toString n).toList = some n := by
  rw [Int.toString_eq_repr, Int.repr_eq_if]
  split
  · rename_i positive
    have read := readInteger?_append_natural [] (fun _ member => nomatch member)
      (Nat.zero_le 1) n.toNat
    have size : (n.toNat : Int) = n := Int.toNat_of_nonneg positive
    simpa [size] using read
  · rename_i negative
    have read := readInteger?_append_natural ['-']
      (fun _ member => List.mem_singleton.1 member) (Nat.le_refl 1) (-n).toNat
    have size : ((-n).toNat : Int) = -n := Int.toNat_of_nonneg (by omega)
    simpa [size] using read

end Polyvoice.Decimal
