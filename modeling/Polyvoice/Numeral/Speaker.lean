import Polyvoice.DigitNames
import Polyvoice.Numeral.Reading
import Polyvoice.Numeral.Run

/-!
# Numbers in a language of their own

A speaker of numbers cuts every numeric run out of the texts of a speech and brackets it between two
language changes: one into the number language before the run, and one back to the language in force
behind it. The language in force is the active one until a cue changes it; a
change to the default returns to the active one.
-/

namespace Polyvoice.Numeral

/-- How numbers are spoken. -/
structure Speaker where
  reading : Reading
  /-- The language that numbers are spoken in. -/
  language : String
  /-- What stands for a point. -/
  point : Text
  /-- How digits are spoken. -/
  spelling : DigitSpelling

namespace Speaker

/-- A run as the speaker reads it. -/
def spoken (speaker : Speaker) (run : Text) : Text :=
  speaker.reading.spoken (fun digit => speaker.spelling digit speaker.language) speaker.point run

/-- The cues for a piece of a text, where `current` is the language in force. -/
def cues (speaker : Speaker) (current : String) : Piece → Speech
  | .plain t => [.text t]
  | .run t =>
    [.language (some speaker.language), .text (speaker.spoken t), .language (some current)]

/-- Brackets the numbers of a speech that starts while `current` is the language in force. -/
def bracketFrom (speaker : Speaker) (active current : String) : Speech → Speech
  | [] => []
  | .text t :: rest =>
    (pieces t).flatMap (speaker.cues current) ++ bracketFrom speaker active current rest
  | .language code :: rest =>
    .language code :: bracketFrom speaker active (code.getD active) rest
  | cue :: rest => cue :: bracketFrom speaker active current rest

/-- Brackets the numbers of a speech that starts in the active language. -/
def bracket (speaker : Speaker) (active : String) (speech : Speech) : Speech :=
  speaker.bracketFrom active active speech

end Speaker

end Polyvoice.Numeral
