import Polyvoice.DigitNames
import Polyvoice.Fault
import Polyvoice.Json.Value

/-!
# Documents of digit names

Digit names are written as a JSON object with a member for each language, which is an object with a
member for each digit. A language that is written again replaces all that was said of it before, a
digit that is written again only its name. A document that names anything but digits is refused as
a whole.
-/

namespace Polyvoice.DigitNames

/-- Enters a member of a language's object. -/
def addMember? (language : String) (names : DigitNames) (member : Json.Source × Json) :
    Option DigitNames := do
  let [digit] ← member.1.text? | none
  let name ← member.2.text?
  return names.insert language digit name

/-- Enters a language's object. -/
def addLanguage? (names : DigitNames) (member : Json.Source × Json) : Option DigitNames := do
  let language := String.ofList (← member.1.text?)
  let .object digits := member.2 | none
  digits.foldlM (addMember? language) (names.eraseLanguage language)

/-- Reads digit names from a value, whatever they name. -/
def ofJson? : Json → Option DigitNames
  | .object languages => languages.foldlM addLanguage? empty
  | _ => none

/-- Reads a document of digit names. -/
def ofText (t : Text) : Except Fault DigitNames :=
  match (Json.read? (.ofText t)).bind ofJson? with
  | none => .error .malformedDigitNames
  | some names =>
    match names.stray? with
    | some (language, symbol) => .error (.notADigit symbol language)
    | none => .ok names

/-- Reads a file of digit names, of which `contents` are the bytes if it exists. A file that is no
text cannot be read. -/
def ofFile (path : String) (contents : Option ByteArray) : Except Fault DigitNames :=
  match contents.bind fun bytes => (Json.Source.ofBytes bytes).text? with
  | none => .error (.unreadableDigitNamesFile path)
  | some t => ofText t

end Polyvoice.DigitNames
