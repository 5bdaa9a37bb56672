import Polyvoice.Call
import Polyvoice.Chunk
import Polyvoice.Markup.Fragment
import Polyvoice.Markup.Staging
import Polyvoice.Phones
import Polyvoice.Scale
import Polyvoice.Unicode.Lowercase

/-!
# The state of a delivery

A delivery reads a prepared speech from left to right. It keeps one active voice and what is
buffered for that voice: chunks for the chunk and plain protocols, pieces with staged elements for
the markup protocol. This module says how single cues change the buffers, and what goes out when
they are flushed.
-/

namespace Polyvoice.Delivery

/-- What a delivery keeps between two cues. -/
structure State (H : Type) where
  /-- The active voice. -/
  voice : H
  /-- The language in force. -/
  language : String
  /-- What is buffered for a voice of the chunk or the plain protocol. -/
  chunks : List Chunk
  /-- What is buffered for a voice of the markup protocol. -/
  markup : List Markup.Piece
  /-- The elements around the buffered markup. -/
  staging : Markup.Staging
  /-- Whether texts are spelled. -/
  spelling : Bool
  /-- Whether a chunk voice that took over has yet to be told to spell. -/
  spellDue : Bool
  /-- Whether there is anything to send. -/
  pending : Bool
deriving DecidableEq

variable {H : Type}

/-- A delivery starts with the default voice and the default language. -/
def State.start (roster : Roster H) : State H where
  voice := roster.default
  language := roster.defaultLanguage
  chunks := []
  markup := []
  staging := .fresh
  spelling := false
  spellDue := false
  pending := false

namespace State

/-- Buffers chunks. -/
def addChunks (s : State H) (chunks : List Chunk) : State H :=
  { s with chunks := s.chunks ++ chunks, pending := true }

/-- Buffers a piece of markup. -/
def addPiece (s : State H) (piece : Markup.Piece) : State H :=
  { s with markup := s.markup ++ [piece], pending := true }

/-! ## Flushing -/

/-- What is buffered for the active voice, in its protocol. -/
def payload (roster : Roster H) (s : State H) : Text :=
  match roster.engine s.voice with
  | .chunk => Chunk.frame s.chunks
  | .plain => s.chunks.flatMap Chunk.render
  | .markup => Markup.render (s.markup ++ s.staging.closings.map .tag)

/-- The call that a flush makes: none if nothing is pending or the payload is empty. -/
def flushCalls (roster : Roster H) (s : State H) : List (Call H) :=
  if s.pending ∧ s.payload roster ≠ [] then [⟨s.voice, .speak (s.payload roster)⟩] else []

/-- The state after a flush. The elements of a markup voice are closed and stay staged. -/
def flushed (roster : Roster H) (s : State H) : State H :=
  { s with
    chunks := []
    markup := []
    staging := if roster.engine s.voice = .markup then s.staging.closed else s.staging
    pending := false }

/-! ## Texts -/

/-- Buffers a text for a chunk voice. Blanks around it are dropped, and a text of blanks altogether.
Spelled texts and single characters are in lower case, as the voice would announce capitals; an
escape character would start a directive and is taken out. -/
def addSpoken (s : State H) (t : Text) : State H :=
  let trimmed := Text.trim t
  if trimmed.isEmpty then s
  else
    let lowered :=
      if s.spelling || trimmed.length == 1 then Unicode.lowercase trimmed else trimmed
    let spoken := lowered.filter (· != escapeCharacter)
    let due : List Chunk := if s.spellDue then [.directive (.spelling true)] else []
    { s.addChunks (due ++ [.text spoken]) with spellDue := false }

/-- The pitch of a markup voice when nothing was said of it. -/
def basePitch (roster : Roster H) (h : H) : Markup.Attributes :=
  [("absmiddle", Scale.wholeOffset (roster.voice h).pitch)]

/-- Brings the open elements in line with the staged ones. The protocol has no default pitch, so
from then on the voice's own pitch is staged for the next time that elements are opened. -/
def openElements (roster : Roster H) (s : State H) : State H :=
  if s.staging.dirty then
    { s with
      markup := s.markup ++ s.staging.emission.map .tag
      staging := s.staging.emitted.plan .pitch (basePitch roster s.voice) }
  else s

/-- Buffers a phonetic text for a markup voice: its pronunciation, or the words to fall back on if
there are some. -/
def addPhonetic (roster : Roster H) (s : State H) (ipa fallback : Text) : State H :=
  match Phones.ofIpa ipa with
  | .ok phones => (s.openElements roster).addPiece (.pronunciation phones fallback)
  | .error _ =>
    if fallback.isEmpty then s.openElements roster
    else (s.openElements roster).addPiece (.text fallback)

/-! ## Settings of a markup voice -/

/-- Stages an element with one attribute, or drops it if the setting keeps the base value. -/
def stageSetting (s : State H) (element : Markup.Element) (key : String) (setting : Prosody)
    (base : UInt8) : State H :=
  if setting.keepsBase base then { s with staging := s.staging.drop element }
  else
    { s with
      staging := s.staging.stage element [(key, setting.level base)] }

/-- Stages spelling, or drops it. -/
def stageSpelling (s : State H) (on : Bool) : State H :=
  { s with
    spelling := on
    staging := if on then s.staging.stage .spell [] else s.staging.drop .spell }

/-! ## Language changes -/

/-- The voice and the language that a language change asks for. -/
def target (roster : Roster H) : Option String → H × String
  | some code => ((roster.voiceFor code).getD roster.default, code)
  | none => (roster.default, roster.defaultLanguage)

/-- Makes a voice active. Nothing of the earlier voice is kept but whether texts are spelled: a
markup voice gets its own pitch and spelling staged, a chunk voice is told to spell with its next
text. -/
def takenOver (roster : Roster H) (s : State H) (h : H) : State H :=
  let fresh : Markup.Staging := .fresh
  match roster.engine h with
  | .markup =>
    let pitched := fresh.plan .pitch (basePitch roster h)
    { s with
      voice := h
      staging := if s.spelling then pitched.plan .spell [] else pitched
      spellDue := false }
  | .chunk => { s with voice := h, staging := fresh, spellDue := s.spelling }
  | .plain => { s with voice := h, staging := fresh, spellDue := false }

/-- Whether a language change makes another voice active. A change to the language in force does
nothing, whichever voice speaks that language. -/
def turns [DecidableEq H] (roster : Roster H) (s : State H) (code : Option String) : Bool :=
  code ≠ some s.language && (target roster code).1 ≠ s.voice

/-- The state after a language change. -/
def turned [DecidableEq H] (roster : Roster H) (s : State H) (code : Option String) : State H :=
  if code = some s.language then s
  else
    let (h, language) := target roster code
    if h = s.voice then { s with language := language }
    else takenOver roster { s.flushed roster with language := language } h

end State

end Polyvoice.Delivery
