import Polyvoice.Text

/-!
# Sources of JSON

A document is read as a list of characters, of which some may be missing: bytes that are no part of
well-formed UTF-8 stand for no character. Such bytes are tolerated inside strings that nobody looks
at, and nowhere else, so they have to be kept apart until then.
-/

namespace Polyvoice.Json

/-- A document, or the content of a string: `none` is something that is no character. -/
abbrev Source := List (Option Char)

namespace Source

/-- A document that is a text. -/
def ofText (t : Text) : Source :=
  t.map some

/-- The text of a source without gaps. -/
def text? (source : Source) : Option Text :=
  source.mapM id

/-- The characters of bytes from position `i` on. A byte at which no character starts is a gap. -/
def ofBytesFrom (bytes : ByteArray) (i : Nat) : Source :=
  if i < bytes.size then
    match bytes.utf8DecodeChar? i with
    | some c => some c :: ofBytesFrom bytes (i + c.utf8Size)
    | none => none :: ofBytesFrom bytes (i + 1)
  else []
termination_by bytes.size - i
decreasing_by
  · have := c.utf8Size_pos
    omega
  · omega

/-- The characters of a file. -/
def ofBytes (bytes : ByteArray) : Source :=
  ofBytesFrom bytes 0

end Source

end Polyvoice.Json
