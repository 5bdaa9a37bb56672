/-!
# Spoken text

A text is the list of its characters, so that every pass over it is a recursion on the data.
`isBlank` is the Unicode property White_Space, which is wider than `Char.isWhitespace`; `Text.trim`
and the passes that cut at blanks are built on it.
-/

namespace Polyvoice

/-- Spoken text, character by character. -/
abbrev Text := List Char

/-- The characters of the Unicode property White_Space. -/
def isBlank (c : Char) : Bool :=
  let n := c.toNat
  (0x9 ≤ n && n ≤ 0xD) || n == 0x20 || n == 0x85 || n == 0xA0 || n == 0x1680 ||
    (0x2000 ≤ n && n ≤ 0x200A) || n == 0x2028 || n == 0x2029 || n == 0x202F || n == 0x205F ||
    n == 0x3000

namespace Text

/-- A text without the blanks at its two ends. -/
def trim (t : Text) : Text :=
  ((t.dropWhile isBlank).reverse.dropWhile isBlank).reverse

/-- Puts a character in front of the first of several pieces, opening one if there is none. -/
def consFirst (c : Char) : List Text → List Text
  | [] => [[c]]
  | piece :: pieces => (c :: piece) :: pieces

/-- Putting a character in front of the first piece puts it in front of the joined text. -/
@[simp] theorem flatten_consFirst (c : Char) (pieces : List Text) :
    (consFirst c pieces).flatten = c :: pieces.flatten := by
  cases pieces <;> rfl

/-- There is a first piece once a character has been put in front of it. -/
@[simp] theorem consFirst_ne_nil (c : Char) (pieces : List Text) : consFirst c pieces ≠ [] := by
  cases pieces <;> simp [consFirst]

end Text

end Polyvoice
