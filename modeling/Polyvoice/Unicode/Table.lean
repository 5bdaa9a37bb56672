/-!
# Tables by code point

Character data is written as rows of hexadecimal numbers in capitals: a blank parts two numbers of
a row, a semicolon or a line end parts two rows, and rows ascend by their first number. This
module reads such a text and finds the row that governs a code point, by bisection.

Two shapes of row are enough for the standard's data. A `Span` gives one value to a range of code
points; a `Spread` sends the members of an arithmetic progression to images of which the first
element moves along with them.
-/

namespace Polyvoice.Unicode

/-- The value of one hexadecimal digit. -/
def hexDigitValue (c : Char) : Nat :=
  if c.isDigit then c.toNat - '0'.toNat else c.toNat - 'A'.toNat + 10

/-- The number that a row of hexadecimal digits writes. -/
def hexNumber (digits : List Char) : Nat :=
  digits.foldl (fun n c => 16 * n + hexDigitValue c) 0

/-- The rows of a table's text, empty ones left out. -/
def rows (table : String) : List (List Nat) :=
  (table.toList.splitOnP fun c => c == ';' || c == '\n').filterMap fun row =>
    match (row.splitOn ' ').filter (fun number => !number.isEmpty) with
    | [] => none
    | numbers => some (numbers.map hexNumber)

/-- How many entries between `lo` and `hi` of an ascending array have a key of at most `k`, plus
`lo`: everything before `lo` is known to be that low, everything from `hi` on to be higher. -/
def countUpTo {α : Type} (key : α → Nat) (entries : Array α) (k lo hi : Nat) : Nat :=
  if lo < hi then
    let mid := (lo + hi) / 2
    match entries[mid]? with
    | none => lo
    | some entry =>
      if key entry ≤ k then countUpTo key entries k (mid + 1) hi
      else countUpTo key entries k lo mid
  else lo
termination_by hi - lo

/-- The last entry of an ascending array whose key is at most `k`. -/
def floor? {α : Type} (key : α → Nat) (entries : Array α) (k : Nat) : Option α :=
  match countUpTo key entries k 0 entries.size with
  | 0 => none
  | n + 1 => entries[n]?

/-- A range of code points with the value that they share. -/
structure Span where
  first : Nat
  last : Nat
  value : Nat

/-- Reads `first`, or `first last`, or `first last value` from a row. -/
def Span.ofRow : List Nat → Option Span
  | [first] => some ⟨first, first, 0⟩
  | [first, last] => some ⟨first, last, 0⟩
  | [first, last, value] => some ⟨first, last, value⟩
  | _ => none

/-- Ascending spans that do not overlap. -/
abbrev Spans := Array Span

/-- Reads the spans of a table's text. -/
def Spans.read (table : String) : Spans :=
  ((rows table).filterMap Span.ofRow).toArray

/-- The value of a code point, if it lies in one of the spans. -/
def Spans.value? (spans : Spans) (c : Char) : Option Nat :=
  match floor? Span.first spans c.toNat with
  | some span => if c.toNat ≤ span.last then some span.value else none
  | none => none

/-- Whether a code point lies in one of the spans. -/
def Spans.contains (spans : Spans) (c : Char) : Bool :=
  (spans.value? c).isSome

/-- The code points `first`, `first + step`, … up to `last`. The image of `first` is `head` with
`tail` behind it, and that of `first + d` has its first element moved by `d`. -/
structure Spread where
  first : Nat
  last : Nat
  step : Nat
  head : Nat
  tail : List Nat

/-- The image of a code point, if it is a member of the spread. -/
def Spread.image? (spread : Spread) (code : Nat) : Option (List Char) :=
  let shift := code - spread.first
  if spread.first ≤ code ∧ code ≤ spread.last ∧ shift % spread.step = 0 then
    some (((spread.head + shift) :: spread.tail).map Char.ofNat)
  else none

/-- Images of one spread are of the same length. -/
theorem Spread.length_of_image? {spread : Spread} {code : Nat} {image : List Char}
    (found : spread.image? code = some image) : image.length = spread.tail.length + 1 := by
  simp only [image?] at found
  split at found
  · cases found
    simp
  · cases found

/-- Ascending spreads that do not overlap. -/
abbrev Spreads := Array Spread

/-- Reads rows of the form `first count image…`, each a spread of neighbours. -/
def Spreads.readCounted (table : String) : Spreads :=
  ((rows table).filterMap fun
    | first :: count :: head :: tail => some ⟨first, first + count - 1, 1, head, tail⟩
    | _ => none).toArray

/-- Reads rows of the form `first last step image`, with images of one element. -/
def Spreads.readStepped (table : String) : Spreads :=
  ((rows table).filterMap fun
    | [first, last, step, head] => some ⟨first, last, step, head, []⟩
    | _ => none).toArray

theorem Spreads.tail_of_mem_readStepped {table : String} {spread : Spread}
    (member : spread ∈ readStepped table) : spread.tail = [] := by
  obtain ⟨row, -, read⟩ := List.mem_filterMap.1 (List.mem_toArray.1 member)
  split at read
  · cases read
    rfl
  · cases read

/-- The image of a code point, if it is a member of one of the spreads. -/
def Spreads.image? (spreads : Spreads) (c : Char) : Option (List Char) :=
  (floor? Spread.first spreads c.toNat).bind fun spread => spread.image? c.toNat

theorem mem_of_floor? {α : Type} {key : α → Nat} {entries : Array α} {k : Nat} {entry : α}
    (found : floor? key entries k = some entry) : entry ∈ entries := by
  unfold floor? at found
  split at found
  · cases found
  · exact Array.mem_of_getElem? found

theorem Spreads.exists_of_image? {spreads : Spreads} {c : Char} {image : List Char}
    (found : spreads.image? c = some image) :
    ∃ spread ∈ spreads, spread.image? c.toNat = some image := by
  obtain ⟨spread, governs, read⟩ := Option.bind_eq_some_iff.1 found
  exact ⟨spread, mem_of_floor? governs, read⟩

/-- No code point has an empty image. -/
theorem Spreads.ne_nil_of_image? {spreads : Spreads} {c : Char} {image : List Char}
    (found : spreads.image? c = some image) : image ≠ [] := by
  obtain ⟨spread, -, read⟩ := exists_of_image? found
  have length := Spread.length_of_image? read
  exact List.ne_nil_of_length_pos (by omega)

end Polyvoice.Unicode
