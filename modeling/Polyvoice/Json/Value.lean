import Polyvoice.Json.Token

/-!
# Values of JSON

A document is one value. The parser reads one token at a time and keeps the containers that are
open, so that no depth of nesting is too much for it. Strings keep what is no character, numbers
are kept as written, and members of an object keep their order and their repetitions: what of this
is acceptable is for the reader of a value to say.
-/

namespace Polyvoice

/-- A value of JSON. -/
inductive Json where
  | null
  | bool (b : Bool)
  | number (lexeme : Text)
  | string (content : Json.Source)
  | array (items : List Json)
  | object (members : List (Json.Source × Json))

namespace Json

/-- A container that is open, with what it holds so far, newest first. -/
inductive Frame where
  | array (items : List Json)
  /-- An object of which a member is read. -/
  | member (members : List (Source × Json)) (key : Source)

/-- What the parser waits for. -/
inductive Parser where
  /-- A value inside the open containers. -/
  | value (frames : List Frame)
  /-- The first item of an array, or its end. -/
  | firstItem (frames : List Frame)
  /-- The first key of an object, or its end. -/
  | firstKey (frames : List Frame)
  /-- A key of an object that holds some members. -/
  | key (members : List (Source × Json)) (frames : List Frame)
  /-- The colon behind a key. -/
  | colon (members : List (Source × Json)) (key : Source) (frames : List Frame)
  /-- A comma in an array, or its end. -/
  | moreItems (items : List Json) (frames : List Frame)
  /-- A comma in an object, or its end. -/
  | moreMembers (members : List (Source × Json)) (frames : List Frame)
  /-- The end of the document. -/
  | finish (value : Json)

namespace Parser

/-- Puts a value that was read into the innermost container. -/
def deliver (v : Json) : List Frame → Parser
  | [] => .finish v
  | .array items :: frames => .moreItems (v :: items) frames
  | .member members name :: frames => .moreMembers ((name, v) :: members) frames

/-- Reads the first token of a value. -/
def startValue (frames : List Frame) : Token → Option Parser
  | .null => some (deliver .null frames)
  | .bool b => some (deliver (.bool b) frames)
  | .number lexeme => some (deliver (.number lexeme) frames)
  | .string content => some (deliver (.string content) frames)
  | .openArray => some (.firstItem frames)
  | .openObject => some (.firstKey frames)
  | _ => none

/-- Reads a token. -/
def step : Parser → Token → Option Parser
  | .value frames, token => startValue frames token
  | .firstItem frames, .closeArray => some (deliver (.array []) frames)
  | .firstItem frames, token => startValue (.array [] :: frames) token
  | .firstKey frames, .closeObject => some (deliver (.object []) frames)
  | .firstKey frames, .string name => some (.colon [] name frames)
  | .key members frames, .string name => some (.colon members name frames)
  | .colon members name frames, .colon => some (.value (.member members name :: frames))
  | .moreItems items frames, .comma => some (.value (.array items :: frames))
  | .moreItems items frames, .closeArray => some (deliver (.array items.reverse) frames)
  | .moreMembers members frames, .comma => some (.key members frames)
  | .moreMembers members frames, .closeObject =>
    some (deliver (.object members.reverse) frames)
  | _, _ => none

/-- Reads tokens one after the other. -/
def steps : Parser → List Token → Option Parser
  | parser, [] => some parser
  | parser, token :: rest => (parser.step token).bind (steps · rest)

/-- The value, if the document is over. -/
def value? : Parser → Option Json
  | .finish v => some v
  | _ => none

end Parser

/-- Reads a document. -/
def read? (source : Source) : Option Json :=
  (tokens? source).bind fun tokens => ((Parser.value []).steps tokens).bind Parser.value?

/-! ## Looking at values -/

/-- The text of a string without gaps. -/
def text? : Json → Option Text
  | string content => content.text?
  | _ => none

/-- A truth value. -/
def bool? : Json → Option Bool
  | bool b => some b
  | _ => none

/-- A number below `bound` that is written with digits only. -/
def natBelow? (bound : Nat) : Json → Option Nat
  | number lexeme =>
    if lexeme.all Char.isDigit then
      let n := lexeme.foldl (fun n c => 10 * n + (c.toNat - '0'.toNat)) 0
      if n < bound then some n else none
    else none
  | _ => none

/-- What stands in a place that may hold `null`. -/
def optional? {α : Type} (read : Json → Option α) : Json → Option (Option α)
  | null => some none
  | value => (read value).map some

end Json

end Polyvoice
