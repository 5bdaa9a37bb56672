import Polyvoice.Call
import Polyvoice.Log

/-!
# Backends

A backend is what stands behind the voices: it says how a voice answers to a call and whether it
takes a control. Calls are made in order; one that is refused is noted, and the others still go
out.
-/

namespace Polyvoice

/-- How a voice answers to a call. -/
inductive Reply where
  /-- The voice does what it is asked to do. -/
  | done
  /-- The voice does nothing, and finds nothing wrong with that. -/
  | ignored
  /-- The voice cannot do it. -/
  | refused (reason : String)
deriving DecidableEq, Repr

/-- What a voice can be told at any time. -/
inductive Control where
  | pause
  | resume
  | stop
deriving DecidableEq, Repr

/-- Something that a voice did. -/
inductive Action where
  | op (op : Op)
  | control (control : Control)
deriving DecidableEq, Repr

/-- Something that a voice did, with the voice. -/
structure Event (H : Type) where
  voice : H
  action : Action
deriving DecidableEq, Repr

/-- What stands behind the voices. -/
structure Backend (H : Type) where
  /-- How a voice answers to a call. -/
  answer : H → Op → Reply
  /-- Whether a voice does as it is told. -/
  obeys : H → Control → Bool

namespace Backend

variable {H : Type}

/-- What happens on a call. -/
def callEvents (backend : Backend H) (call : Call H) : List (Event H) :=
  match backend.answer call.voice call.op with
  | .done => [⟨call.voice, .op call.op⟩]
  | .ignored => []
  | .refused _ => []

/-- What is noted of a call. -/
def callNotes (roster : Roster H) (backend : Backend H) (call : Call H) : List Note :=
  match backend.answer call.voice call.op with
  | .refused reason => [.callFailed (roster.voice call.voice) reason]
  | .done => []
  | .ignored => []

/-- What happens when calls are made. -/
def events (backend : Backend H) (calls : List (Call H)) : List (Event H) :=
  calls.flatMap backend.callEvents

/-- What is noted when calls are made. -/
def notes (roster : Roster H) (backend : Backend H) (calls : List (Call H)) :
    List Note :=
  calls.flatMap (backend.callNotes roster)

/-- What happens when voices are told something, one after the other. -/
def controlEvents (backend : Backend H) (told : List (H × Control)) : List (Event H) :=
  (told.filter fun entry => backend.obeys entry.1 entry.2).map fun entry =>
    ⟨entry.1, .control entry.2⟩

end Backend

end Polyvoice
