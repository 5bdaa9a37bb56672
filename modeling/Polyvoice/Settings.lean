import Polyvoice.NormalForm
import Polyvoice.Numeral.Speaker

/-!
# Settings

What the user has chosen about how a speech is prepared. One value of settings governs the
compilation of a whole speech.
-/

namespace Polyvoice

/-- The settings that govern how a speech is prepared. -/
structure Settings where
  /-- What is said for a point between the segments of a number. -/
  pointText : Text
  /-- Whether commas between digits are left out. -/
  dropsDigitCommas : Bool
  /-- How long the silence in a gap between ideographs is; zero leaves gaps alone. -/
  gapFactor : UInt32
  /-- The normal form that texts are brought into. -/
  normalForm : NormalForm
  /-- How numbers are read. -/
  reading : Numeral.Reading
  /-- The language that numbers are spoken in, if it is not the language of the speech. -/
  numberLanguage : Option String
  /-- How many characters a fragment may have before it ends with the next word. -/
  fragmentLimit : Option UInt64
deriving DecidableEq

namespace Settings

/-- The settings of a user who has chosen nothing. -/
def default : Settings where
  pointText := ['.']
  dropsDigitCommas := false
  gapFactor := 0
  normalForm := .off
  reading := .asValue
  numberLanguage := none
  fragmentLimit := none

/-- The milliseconds of silence for each unit of the gap factor. -/
def gapUnit : Nat := 5

/-- The silence in a gap between ideographs in milliseconds, if there is one. It is limited to 32
bits. -/
def gapSilence? (settings : Settings) : Option UInt32 :=
  if settings.gapFactor = 0 then none
  else some (UInt32.ofNat (min (gapUnit * settings.gapFactor.toNat) 0xFFFFFFFF))

/-- Who speaks the numbers of a speech in the given language. -/
def numberSpeaker (settings : Settings) (spelling : DigitSpelling) (language : String) :
    Numeral.Speaker where
  reading := settings.reading
  language := settings.numberLanguage.getD language
  point := settings.pointText
  spelling := spelling

end Settings

end Polyvoice
