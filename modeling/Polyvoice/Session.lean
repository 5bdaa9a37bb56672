import Polyvoice.Backend
import Polyvoice.Compilation

/-!
# Sessions

A session speaks one speech after the other and can be interrupted. It remembers the voices that
were ever called, in the order of their first call: to cancel and to pause concerns all of them. As
long as there are none, the default voice stands in. To cancel also stops the default voice.

A session is a machine with output: a request leads to the next session (`Session.next`), makes
voices act (`Session.events`), some because they are told to (`Session.told`), and is noted in the
log (`Session.notes`).
-/

namespace Polyvoice

/-- What a session works with and cannot change. -/
structure Setup (H : Type) where
  roster : Roster H
  spelling : DigitSpelling
  backend : Backend H

/-- What a session remembers. -/
structure Session (H : Type) where
  settings : Settings
  /-- The voices that were called so far, in the order of their first call. -/
  called : List H
deriving DecidableEq

/-- What the host can ask of a session. -/
inductive Request where
  | speak (speech : Speech)
  | cancel
  /-- To pause, or to go on. -/
  | pause (on : Bool)
  /-- To use other settings from the next speech on. -/
  | configure (settings : Settings)
deriving DecidableEq

namespace Session

variable {H : Type} [DecidableEq H]

/-- A session begins before any voice is called. -/
def start (settings : Settings) : Session H where
  settings := settings
  called := []

/-- The calls for a speech. -/
def speechCalls (setup : Setup H) (session : Session H) (speech : Speech) : List (Call H) :=
  compileCalls session.settings setup.roster setup.spelling speech

/-- A list of voices with a voice that is added at its end unless it is there. -/
def remember (called : List H) (h : H) : List H :=
  if h ∈ called then called else called ++ [h]

/-- A voice that was added is there, and the others stay. -/
theorem mem_remember {called : List H} {h voice : H} :
    voice ∈ remember called h ↔ voice ∈ called ∨ voice = h := by
  unfold remember
  split
  · rename_i present
    exact ⟨Or.inl, fun either => either.elim id fun same => same ▸ present⟩
  · simp

/-- No voice is added twice. -/
theorem nodup_remember {called : List H} (distinct : called.Nodup) (h : H) :
    (remember called h).Nodup := by
  unfold remember
  split
  · exact distinct
  · rename_i absent
    have alone : [h].Nodup := List.nodup_cons.2 ⟨List.not_mem_nil, List.nodup_nil⟩
    refine List.nodup_append.2 ⟨distinct, alone, ?_⟩
    intro voice member other single
    rw [List.mem_singleton.1 single]
    exact fun same => absent (same ▸ member)

/-- The voices that were called so far, or else the default voice. -/
def voices (setup : Setup H) (session : Session H) : List H :=
  if session.called.isEmpty then [setup.roster.default] else session.called

/-- The voices that are stopped when the session is cancelled. -/
def stoppedVoices (setup : Setup H) (session : Session H) : List H :=
  remember (session.voices setup) setup.roster.default

/-- The session after a request. -/
def next (setup : Setup H) (session : Session H) : Request → Session H
  | .speak speech =>
    { session with
      called := ((session.speechCalls setup speech).map Call.voice).foldl remember
        session.called }
  | .cancel => session
  | .pause _ => session
  | .configure settings => { session with settings := settings }

/-- What the voices are told on a request, a speech aside. -/
def told (setup : Setup H) (session : Session H) : Request → List (H × Control)
  | .cancel => (session.stoppedVoices setup).map (·, .stop)
  | .pause on => (session.voices setup).map (·, if on then .pause else .resume)
  | .speak _ => []
  | .configure _ => []

/-- What the voices do on a request. -/
def events (setup : Setup H) (session : Session H) : Request → List (Event H)
  | .speak speech => setup.backend.events (session.speechCalls setup speech)
  | request => setup.backend.controlEvents (session.told setup request)

/-- What is noted on a request. -/
def notes (setup : Setup H) (session : Session H) : Request → List Note
  | .speak speech =>
    compileNotes session.settings setup.roster setup.spelling speech ++
      setup.backend.notes setup.roster (session.speechCalls setup speech)
  | .cancel => (session.stoppedVoices setup).map fun h => .stopping (setup.roster.voice h)
  | .pause on => (session.voices setup).map fun h => .pausing (setup.roster.voice h) on
  | .configure _ => []

/-- The session after several requests. -/
def after (setup : Setup H) (session : Session H) (requests : List Request) : Session H :=
  requests.foldl (next setup) session

/-- What the voices do on several requests. -/
def eventsDuring (setup : Setup H) (session : Session H) : List Request → List (Event H)
  | [] => []
  | request :: rest =>
    session.events setup request ++ (session.next setup request).eventsDuring setup rest

/-- What the voices are told on several requests. -/
def toldDuring (setup : Setup H) (session : Session H) : List Request → List (H × Control)
  | [] => []
  | request :: rest =>
    session.told setup request ++ (session.next setup request).toldDuring setup rest

/-- What is noted on several requests. -/
def notesDuring (setup : Setup H) (session : Session H) : List Request → List Note
  | [] => []
  | request :: rest =>
    session.notes setup request ++ (session.next setup request).notesDuring setup rest

/-- Requests in a row lead where their two parts lead, one after the other. -/
theorem after_append (setup : Setup H) (session : Session H) (requests more : List Request) :
    session.after setup (requests ++ more) = (session.after setup requests).after setup more :=
  List.foldl_append

/-- What voices are told on requests in a row is what they are told on the two parts. -/
theorem toldDuring_append (setup : Setup H) (session : Session H)
    (requests more : List Request) :
    session.toldDuring setup (requests ++ more) =
      session.toldDuring setup requests ++
        (session.after setup requests).toldDuring setup more := by
  induction requests generalizing session with
  | nil => rfl
  | cons request rest ih =>
    simp only [List.cons_append, toldDuring, ih, List.append_assoc]
    rfl

end Session

end Polyvoice
