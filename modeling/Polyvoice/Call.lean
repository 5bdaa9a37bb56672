import Polyvoice.Cue.Wording
import Polyvoice.Roster

/-!
# Calls on voices

The outcome of compiling a speech is a list of calls, each an operation for one voice.
-/

namespace Polyvoice

/-- What a voice is asked to do for a speech. -/
inductive Op where
  /-- To speak a payload in its protocol. -/
  | speak (payload : Text)
  /-- To be silent for some milliseconds. -/
  | silence (ms : UInt32)
  /-- To note a bookmark, for voices that take none in a payload. -/
  | bookmark (id : UInt32)
deriving DecidableEq, Repr

/-- An operation for one voice. -/
structure Call (H : Type) where
  voice : H
  op : Op
deriving DecidableEq, Repr

/-- An operation with all that it holds. -/
def Op.fullWording : Op → String
  | speak payload => s!"Speak({quote payload})"
  | silence ms => s!"Break({ms.toNat})"
  | bookmark id => s!"Index({id.toNat})"

/-- A call with all that it holds; of the voice, its name. -/
def Call.fullWording {H : Type} (roster : Roster H) (call : Call H) : String :=
  "BackendCall \x7b voice: " ++ quote (roster.voice call.voice).name.toList ++ ", op: " ++
    call.op.fullWording ++ " \x7d"

end Polyvoice
