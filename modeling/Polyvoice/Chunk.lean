import Polyvoice.Text

/-!
# The chunk protocol

A payload of the chunk protocol is made of texts and directives. Texts are set apart by two spaces;
a directive starts with an escape character, stands between backslashes and follows without a
separator.
-/

namespace Polyvoice

/-- The character that starts a directive. -/
def escapeCharacter : Char := '\x1b'

/-- A directive of the chunk protocol. -/
inductive Directive where
  | mark (id : UInt32)
  | spelling (on : Bool)
  | rate (value : Int)
  | pitch (value : Int)
  | volume (value : Int)
deriving DecidableEq, Repr

namespace Directive

/-- What a directive sets. -/
def key : Directive → String
  | mark _ => "mrk"
  | spelling _ => "tn"
  | rate _ => "rate"
  | pitch _ => "pitch"
  | volume _ => "vol"

/-- What a directive sets it to. -/
def value : Directive → String
  | mark id => toString id.toNat
  | spelling on => if on then "spell" else "normal"
  | rate n => toString n
  | pitch n => toString n
  | volume n => toString n

/-- A directive as it is written. -/
def render (d : Directive) : Text :=
  escapeCharacter :: '\\' :: (d.key.toList ++ '=' :: (d.value.toList ++ ['\\']))

end Directive

/-- A part of a payload. -/
inductive Chunk where
  | text (t : Text)
  | directive (d : Directive)
deriving DecidableEq, Repr

namespace Chunk

/-- A chunk as it is written. -/
def render : Chunk → Text
  | text t => t
  | directive d => d.render

/-- What stands between two chunks. -/
def separator : Text := [' ', ' ']

/-- Takes the separator away in front of each escape character, from left to right. -/
def attachDirectives : Text → Text
  | ' ' :: ' ' :: '\x1b' :: rest => '\x1b' :: attachDirectives rest
  | c :: rest => c :: attachDirectives rest
  | [] => []

/-- A payload as it is written. -/
def frame (chunks : List Chunk) : Text :=
  attachDirectives (separator.intercalate (chunks.map render))

end Chunk

end Polyvoice
