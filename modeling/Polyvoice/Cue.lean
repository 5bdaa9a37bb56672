import Polyvoice.Text

/-!
# Cues

A speech is a linear sequence of cues: texts to be spoken, interleaved with cues that steer the
voices. Every pass of the library maps a speech to a speech, and the delivery maps a prepared speech
to calls on voices.
-/

namespace Polyvoice

/-- A setting of pitch, rate or volume, on a scale from 0 to 100. -/
inductive Prosody where
  /-- A value on the scale. -/
  | absolute (value : UInt8)
  /-- A multiple of the voice's own base value. -/
  | relative (factor : Float)
deriving DecidableEq

namespace Prosody

/-- The value for a voice with the given base value, which may lie off the scale. -/
def resolve (base : UInt8) : Prosody → Float
  | absolute value => value.toFloat
  | relative factor => base.toFloat * factor

/-- Whether the setting leaves a voice at its base value. -/
def keepsBase (base : UInt8) : Prosody → Bool
  | absolute value => value == base
  | relative factor => factor == 1.0

end Prosody

/-- One element of a speech. -/
inductive Cue where
  /-- Words to be spoken. -/
  | text (t : Text)
  /-- A position that the host wants to hear of when playback reaches it. -/
  | bookmark (id : UInt32)
  /-- From here on another language is spoken, or the default one. -/
  | language (code : Option String)
  /-- Silence, in milliseconds. -/
  | silence (ms : UInt32)
  /-- Turns spelling on or off. -/
  | spelling (on : Bool)
  | pitch (setting : Prosody)
  | rate (setting : Prosody)
  | volume (setting : Prosody)
  /-- A pronunciation in phonetic letters, and words to fall back on. -/
  | phonetic (ipa fallback : Text)
  /-- An end of a fragment: what was said so far goes out. -/
  | cut
  /-- A command of the host that means nothing here. -/
  | unknown (kind : String)
deriving DecidableEq

/-- A sequence of cues. -/
abbrev Speech := List Cue

namespace Speech

/-- Changes every text of a speech and keeps all else. -/
def mapText (f : Text → Text) (speech : Speech) : Speech :=
  speech.map fun
    | .text t => .text (f t)
    | cue => cue

end Speech

end Polyvoice
