import Polyvoice.Text
import Polyvoice.Unicode.Printable

/-!
# Quoted texts and characters

The way in which messages show a text or a character. Between the quotes, what a reader could not
see or could not tell apart is escaped: the quote itself, the backslash, the usual controls by
their letters, and every other character that is not visible by itself (`Unicode.isVisible`) by
its number.
-/

namespace Polyvoice.Text

/-- A character by its number, in hexadecimal digits between braces. -/
def escapeNumber (c : Char) : Text :=
  '\\' :: 'u' :: '\x7b' :: (Nat.toDigits 16 c.toNat ++ ['\x7d'])

/-- A character as it is shown between quotes of the given kind. -/
def escapeChar (quote c : Char) : Text :=
  if c = '\x00' then ['\\', '0']
  else if c = '\t' then ['\\', 't']
  else if c = '\n' then ['\\', 'n']
  else if c = '\r' then ['\\', 'r']
  else if c = '\\' ∨ c = quote then ['\\', c]
  else if Unicode.isVisible c then [c]
  else escapeNumber c

/-- A text between double quotes. -/
def quoted (t : Text) : Text :=
  '"' :: (t.flatMap (escapeChar '"') ++ ['"'])

/-- A character between single quotes. -/
def quotedChar (c : Char) : Text :=
  '\x27' :: (escapeChar '\x27' c ++ ['\x27'])

end Polyvoice.Text
