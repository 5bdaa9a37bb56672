import Polyvoice.Text

/-!
# Blanks

Blanks are starters, they compose with nothing, and each of them decomposes to one blank. So they
are not listed in the tables of this library.
-/

namespace Polyvoice.Unicode

/-- The blanks of a particular width, and those that no line break may replace: by compatibility,
each of them is a space. -/
def isSpaceLike (c : Char) : Bool :=
  let n := c.toNat
  n == 0xA0 || (0x2000 ≤ n && n ≤ 0x200A) || n == 0x202F || n == 0x205F || n == 0x3000

/-- The blank that a blank decomposes to, by compatibility or canonical mappings. -/
def decomposedBlank (compatible : Bool) (c : Char) : Char :=
  if compatible && isSpaceLike c then ' '
  else if c.toNat = 0x2000 then Char.ofNat 0x2002
  else if c.toNat = 0x2001 then Char.ofNat 0x2003
  else c

end Polyvoice.Unicode
