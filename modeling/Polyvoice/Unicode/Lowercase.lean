import Polyvoice.Unicode.Casing

/-!
# Lower case

The full lower-case mapping of a text. Two characters need more than a table: the capital I with a
dot above becomes two characters, and the capital sigma takes its final form at the end of a word.
-/

namespace Polyvoice.Unicode

/-- The lower-case form of one character, its surroundings left aside. -/
def lowercaseChar (c : Char) : List Char :=
  if c.toNat < 0x80 then [c.toLower]
  else if c = 'İ' then ['i', '\u0307']
  else (lowercaseMappings.image? c).getD [c]

/-- One character becomes one, the capital I with a dot above left aside. -/
theorem length_lowercaseChar {c : Char} (plain : c ≠ 'İ') : (lowercaseChar c).length = 1 := by
  unfold lowercaseChar
  by_cases ascii : c.toNat < 0x80
  · rw [if_pos ascii]
    rfl
  · rw [if_neg ascii, if_neg plain]
    cases found : lowercaseMappings.image? c with
    | none => rfl
    | some image =>
      obtain ⟨spread, listed, read⟩ := Spreads.exists_of_image? found
      have length := Spread.length_of_image? read
      rw [Spreads.tail_of_mem_readStepped listed] at length
      exact length

/-- Whether the first character that is not case-ignorable is a cased one. -/
def startsCased (t : List Char) : Bool :=
  match t.dropWhile isCaseIgnorable with
  | [] => false
  | c :: _ => isCased c

/-- Lower-cases a text that follows `before`, which is given from right to left. A sigma is final
if a cased letter comes before it and none comes after it, case-ignorable characters left aside. -/
def lowercaseAfter (before : List Char) : List Char → List Char
  | [] => []
  | c :: rest =>
    let lower :=
      if c = 'Σ' then [if startsCased before && !startsCased rest then 'ς' else 'σ']
      else lowercaseChar c
    lower ++ lowercaseAfter (c :: before) rest

/-- The lower-case form of a text. -/
def lowercase (t : List Char) : List Char :=
  lowercaseAfter [] t

theorem length_lowercase_singleton {c : Char} (plain : c ≠ 'İ') : (lowercase [c]).length = 1 := by
  rw [lowercase, lowercaseAfter, lowercaseAfter, List.append_nil]
  split
  · rfl
  · exact length_lowercaseChar plain

end Polyvoice.Unicode
