import Polyvoice.Fault
import Polyvoice.Roster

/-!
# The log

What the library tells about its work beside its results. A note is what happened; a record is how
it is written down, with a level, a message and named details.
-/

namespace Polyvoice

/-- How much a record matters. -/
inductive Level where
  | debug
  | warning
deriving DecidableEq, Repr

/-- The name of a level. -/
def Level.name : Level → String
  | debug => "DEBUG"
  | warning => "WARN"

/-- A line of the log. -/
structure Record where
  level : Level
  message : String
  details : List (String × String)
deriving DecidableEq, Repr

/-- Something worth telling. -/
inductive Note where
  /-- A prepared speech of so many cues is compiled, from a language on. -/
  | compiling (cues : Nat) (language : String)
  /-- A cue that nothing stands for in any protocol. -/
  | notUnderstood (kind : String)
  /-- A cue that nothing stands for in the chunk protocol. -/
  | notForChunk (cue : Cue)
  /-- A cue that nothing stands for in the plain protocol. -/
  | notForPlain (cue : Cue)
  /-- No voice speaks a language. -/
  | noVoice (language : String)
  /-- Another voice takes over. -/
  | voiceChanged (earlier later : Voice) (language : String)
  /-- A phonetic text could not be read, and its words are spoken in its place. -/
  | phonesNotRead (fault : Fault)
  /-- A voice refused a call. -/
  | callFailed (voice : Voice) (reason : String)
  /-- A voice is told to stop. -/
  | stopping (voice : Voice)
  /-- A voice is told to pause, or to go on. -/
  | pausing (voice : Voice) (on : Bool)
deriving DecidableEq

/-- How a note is written down. -/
def Note.record : Note → Record
  | compiling cues language =>
    ⟨.debug, "compiling speech sequence",
      [("instructions", toString cues), ("language", language)]⟩
  | notUnderstood kind => ⟨.warning, "Unsupported speech command", [("command", kind)]⟩
  | notForChunk cue => ⟨.warning, "Unsupported speech command", [("command", cue.wording)]⟩
  | notForPlain cue =>
    ⟨.debug, "not supported by plain engine, skipped", [("command", cue.wording)]⟩
  | noVoice language =>
    ⟨.debug, "no voice for language, using default", [("language", language)]⟩
  | voiceChanged earlier later language =>
    ⟨.debug, "voice switch",
      [("from", earlier.name), ("to", later.name), ("language", language)]⟩
  | phonesNotRead fault => ⟨.debug, fault.message, []⟩
  | callFailed voice reason =>
    ⟨.warning, s!"backend call failed: {reason}", [("voice", voice.name)]⟩
  | stopping voice => ⟨.debug, "cancel", [("voice", voice.name)]⟩
  | pausing voice on => ⟨.debug, "pause", [("voice", voice.name), ("paused", toString on)]⟩

end Polyvoice
