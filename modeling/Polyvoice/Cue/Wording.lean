import Polyvoice.Cue
import Polyvoice.Decimal.Wording
import Polyvoice.Text.Quoted

/-!
# Cues in words

Log records name a cue briefly (`Cue.wording`); a listing of a speech names each cue with all that
it holds (`Cue.fullWording`).
-/

namespace Polyvoice

/-- A text between double quotes, for a message. -/
def quote (t : Text) : String :=
  String.ofList (Text.quoted t)

/-- A setting with its value. -/
def Prosody.wording : Prosody → String
  | absolute value => s!"Absolute({value.toNat})"
  | relative factor => s!"Multiplier({Decimal.floatWording factor})"

namespace Cue

/-- A cue in brief. -/
def wording : Cue → String
  | text t => quote t
  | bookmark id => s!"IndexMark({id.toNat})"
  | language (some code) => s!"LanguageChange({code})"
  | language none => "LanguageChange(default)"
  | silence ms => s!"Break({ms.toNat}ms)"
  | spelling on => s!"CharacterMode({on})"
  | pitch setting => s!"Pitch({setting.wording})"
  | rate setting => s!"Rate({setting.wording})"
  | volume setting => s!"Volume({setting.wording})"
  | phonetic ipa _ => s!"Phoneme({String.ofList ipa})"
  | cut => "Split"
  | unknown kind => s!"Unsupported({kind})"

/-- A cue with all that it holds. -/
def fullWording : Cue → String
  | text t => s!"Text({quote t})"
  | bookmark id => s!"IndexMark({id.toNat})"
  | language (some code) => s!"LanguageChange(Some({quote code.toList}))"
  | language none => "LanguageChange(None)"
  | silence ms => s!"Break({ms.toNat})"
  | spelling on => s!"CharacterMode({on})"
  | pitch setting => s!"Pitch({setting.wording})"
  | rate setting => s!"Rate({setting.wording})"
  | volume setting => s!"Volume({setting.wording})"
  | phonetic ipa fallback =>
    "Phoneme \x7b ipa: " ++ quote ipa ++ ", text: " ++ quote fallback ++ " \x7d"
  | cut => "Split"
  | unknown kind => s!"Unsupported({quote kind.toList})"

end Cue

end Polyvoice
