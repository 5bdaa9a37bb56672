import Polyvoice.Cue.Wording

/-!
# Faults

Compiling a speech never fails. What can fail is reading settings and digit names, and turning
phonetic letters into phones; each cause is one constructor, and `Fault.message` words it.
-/

namespace Polyvoice

/-- Why something could not be read. -/
inductive Fault where
  | unknownNormalForm (name : String)
  | unknownReading (name : String)
  /-- A character of a phonetic text stands for no phone. -/
  | unknownPhone (symbol : Char) (ipa : Text)
  /-- A settings document is not JSON, or not of the right shape. -/
  | malformedSettings
  | malformedSettingsFile (path : String)
  | unreadableSettingsFile (path : String)
  /-- A document of digit names is not JSON, or not of the right shape. -/
  | malformedDigitNames
  /-- A document of digit names has an entry for what is no digit. -/
  | notADigit (symbol : Char) (language : String)
  | unreadableDigitNamesFile (path : String)
deriving DecidableEq

/-- A fault in words. -/
def Fault.message : Fault → String
  | unknownNormalForm name => s!"Unknown normalization form: {name}"
  | unknownReading name => s!"Unknown number mode: {name}"
  | unknownPhone symbol ipa =>
    s!"Cannot convert IPA symbol {String.ofList (Text.quotedChar symbol)} in {quote ipa}"
  | malformedSettings => "Failed to parse compiler config"
  | malformedSettingsFile path => s!"Failed to parse config: {path}"
  | unreadableSettingsFile path => s!"Cannot read config: {path}"
  | malformedDigitNames => "Failed to parse symbol table"
  | notADigit symbol language =>
    s!"Symbol table entry {String.ofList (Text.quotedChar symbol)} for " ++
      "'" ++ language ++ "' is not a digit"
  | unreadableDigitNamesFile path => s!"Cannot read symbol table: {path}"

end Polyvoice
