import Polyvoice.Delivery.Step

/-!
# Runs of a delivery

A run feeds the cues of a speech to the machine, one after the other. A delivery is a run from the
start with a last flush.
-/

namespace Polyvoice.Delivery

variable {H : Type} [DecidableEq H]

namespace State

/-- The state after a speech. -/
def after (roster : Roster H) (s : State H) (speech : Speech) : State H :=
  speech.foldl (next roster) s

/-- The calls made while a speech is read. -/
def callsDuring (roster : Roster H) (s : State H) : Speech → List (Call H)
  | [] => []
  | cue :: rest => s.calls roster cue ++ (s.next roster cue).callsDuring roster rest

/-- The notes made while a speech is read. -/
def notesDuring (roster : Roster H) (s : State H) : Speech → List Note
  | [] => []
  | cue :: rest => s.notes roster cue ++ (s.next roster cue).notesDuring roster rest

/-- Reading two speeches in a row leads where reading their concatenation leads. -/
theorem after_append (roster : Roster H) (s : State H) (p q : Speech) :
    s.after roster (p ++ q) = (s.after roster p).after roster q :=
  List.foldl_append

/-- The calls of a concatenation are those of its parts. -/
theorem callsDuring_append (roster : Roster H) (s : State H) (p q : Speech) :
    s.callsDuring roster (p ++ q) =
      s.callsDuring roster p ++ (s.after roster p).callsDuring roster q := by
  induction p generalizing s with
  | nil => rfl
  | cons cue rest ih => simp only [callsDuring, List.cons_append, ih, List.append_assoc]; rfl

/-- All calls from a state on: those made while a speech is read, and a last flush. -/
def callsToEnd (roster : Roster H) (s : State H) (speech : Speech) : List (Call H) :=
  s.callsDuring roster speech ++ (s.after roster speech).flushCalls roster

/-- The calls of a speech are those of its first cue and those of the rest. -/
theorem callsToEnd_cons (roster : Roster H) (s : State H) (cue : Cue) (rest : Speech) :
    s.callsToEnd roster (cue :: rest) =
      s.calls roster cue ++ (s.next roster cue).callsToEnd roster rest :=
  List.append_assoc _ _ _

/-- The calls to the end of a concatenation are those of its first part and those to the end from
there. -/
theorem callsToEnd_append (roster : Roster H) (s : State H) (p q : Speech) :
    s.callsToEnd roster (p ++ q) =
      s.callsDuring roster p ++ (s.after roster p).callsToEnd roster q := by
  rw [callsToEnd, callsDuring_append, after_append, List.append_assoc]
  rfl

end State

/-- The calls that deliver a prepared speech. -/
def deliver (roster : Roster H) (speech : Speech) : List (Call H) :=
  (State.start roster).callsToEnd roster speech

/-- The notes made while a prepared speech is delivered. -/
def deliveryNotes (roster : Roster H) (speech : Speech) : List Note :=
  (State.start roster).notesDuring roster speech

end Polyvoice.Delivery
