import Polyvoice.Fault
import Polyvoice.Unicode.NormalForm

/-!
# Normal forms of texts

A speech is left as it is, or its texts are brought into one of the four normal forms of the
Unicode standard.
-/

namespace Polyvoice

/-- What is done to the characters of a text. -/
inductive NormalForm where
  /-- Nothing. -/
  | off
  | nfc
  | nfkc
  | nfd
  | nfkd
deriving DecidableEq, Repr

namespace NormalForm

/-- The normal forms in the order in which a name is looked for. -/
def all : List NormalForm := [off, nfc, nfkc, nfd, nfkd]

/-- The name of a normal form. -/
def name : NormalForm → String
  | off => "OFF"
  | nfc => "NFC"
  | nfkc => "NFKC"
  | nfd => "NFD"
  | nfkd => "NFKD"

/-- Reads the name of a normal form, in capitals or small letters. -/
def ofName (name : String) : Except Fault NormalForm :=
  match all.find? fun form => form.name.toList == name.toList.map Char.toUpper with
  | some form => .ok form
  | none => .error (.unknownNormalForm name)

/-- A text in a normal form. -/
def apply : NormalForm → Text → Text
  | off, t => t
  | nfc, t => Unicode.compose (Unicode.decompose false t)
  | nfkc, t => Unicode.compose (Unicode.decompose true t)
  | nfd, t => Unicode.decompose false t
  | nfkd, t => Unicode.decompose true t

end NormalForm

/-- A speech with its texts in a normal form. -/
def Speech.normalize (form : NormalForm) (speech : Speech) : Speech :=
  speech.mapText form.apply

end Polyvoice
