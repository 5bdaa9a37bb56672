import Polyvoice.Json.Value
import Polyvoice.Settings

/-!
# Settings documents

Settings are written as a JSON object with a member for each setting. What is not mentioned has its
default, members of other names mean nothing, and a setting that is mentioned twice is refused. The
values may also be written as an array, in the order of the members.
-/

namespace Polyvoice.Settings

/-- Reads one of several words: the word, or an object whose only member has it as its key and
`null` as its value. -/
def word? {α : Type} (words : List (String × α)) (value : Json) : Option α :=
  let found (content : Json.Source) : Option α := do
    let read ← content.text?
    let entry ← words.find? fun entry => entry.1.toList == read
    return entry.2
  match value with
  | .string content => found content
  | .object [(key, .null)] => found key
  | _ => none

/-- The words for normal forms. -/
def normalFormWords : List (String × NormalForm) :=
  NormalForm.all.map fun form => (form.name, form)

/-- The words for readings. -/
def readingWords : List (String × Numeral.Reading) :=
  [("value", .asValue), ("number", .digitByDigit)]

/-- Reads a setting from the values that are given for it: its default if there are none, and
nothing if there are several. -/
def given? {α : Type} (read : Json → Option α) (unsaid : α) : List Json → Option α
  | [] => some unsaid
  | [value] => read value
  | _ :: _ :: _ => none

/-- Reads settings, where `values` says which values are given for the setting of a name and a
position. -/
def collect? (values : String → Nat → List Json) : Option Settings := do
  let pointText ← given? Json.text? default.pointText (values "number_dot_replacement" 0)
  let dropsDigitCommas ←
    given? Json.bool? default.dropsDigitCommas (values "ignore_comma_between_numbers" 1)
  let gapFactor ←
    given? (Json.natBelow? 0x100000000) default.gapFactor.toNat (values "script_wait_factor" 2)
  let normalForm ← given? (word? normalFormWords) default.normalForm (values "normalization" 3)
  let reading ← given? (word? readingWords) default.reading (values "number_mode" 4)
  let numberLanguage ←
    given? (Json.optional? Json.text?) (default.numberLanguage.map String.toList)
      (values "number_language" 5)
  let fragmentLimit ←
    given? (Json.optional? (Json.natBelow? 0x10000000000000000))
      (default.fragmentLimit.map UInt64.toNat)
      (values "max_fragment_chars" 6)
  return {
    pointText := pointText
    dropsDigitCommas := dropsDigitCommas
    gapFactor := UInt32.ofNat gapFactor
    normalForm := normalForm
    reading := reading
    numberLanguage := numberLanguage.map String.ofList
    fragmentLimit := fragmentLimit.map UInt64.ofNat }

/-- How many settings there are. -/
def count : Nat := 7

/-- Reads settings from a value. -/
def ofJson? : Json → Option Settings
  | .object members => do
    let members ← members.mapM fun member => do return (← member.1.text?, member.2)
    collect? fun name _ => (members.filter (·.1 == name.toList)).map Prod.snd
  | .array items =>
    if items.length ≤ count then collect? fun _ position => items[position]?.toList else none
  | _ => none

/-- Reads a settings document. -/
def ofText (t : Text) : Except Fault Settings :=
  match (Json.read? (.ofText t)).bind ofJson? with
  | some settings => .ok settings
  | none => .error .malformedSettings

/-- Reads a settings file, of which `contents` are the bytes if it exists. -/
def ofFile (path : String) (contents : Option ByteArray) : Except Fault Settings :=
  match contents with
  | none => .error (.unreadableSettingsFile path)
  | some bytes =>
    match (Json.read? (.ofBytes bytes)).bind ofJson? with
    | some settings => .ok settings
    | none => .error (.malformedSettingsFile path)

end Polyvoice.Settings
