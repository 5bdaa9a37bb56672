/-!
# Voices and their roster

A voice speaks one of three protocols. The roster says which voices there are and which of them
speaks a language. Voices are told apart by their handles only: two handles are two voices even if
all that is known of them agrees.
-/

namespace Polyvoice

/-- The protocols that voices speak. -/
inductive Engine where
  /-- Chunks of text and inline directives, joined into one string. -/
  | chunk
  /-- Text inside nested elements. -/
  | markup
  /-- One call after the other, text and bookmarks apart. -/
  | plain
deriving DecidableEq, Repr

/-- The name of a protocol. -/
def Engine.name : Engine → String
  | chunk => "chunk"
  | markup => "markup"
  | plain => "plain"

/-- What is known of a voice; its base values are on a scale from 0 to 100. -/
structure Voice where
  name : String
  engine : Engine
  language : String
  pitch : UInt8
  rate : UInt8
  volume : UInt8
deriving DecidableEq, Repr

/-- The voices at hand, named by handles of type `H`. -/
structure Roster (H : Type) where
  /-- The voice that a handle stands for. -/
  voice : H → Voice
  /-- The voice that speaks what no other voice does. -/
  default : H
  /-- The language that is spoken where a speech names none. -/
  defaultLanguage : String
  /-- The voice for a language, if there is one. -/
  voiceFor : String → Option H

/-- The protocol of a voice. -/
def Roster.engine {H : Type} (roster : Roster H) (h : H) : Engine :=
  (roster.voice h).engine

end Polyvoice
