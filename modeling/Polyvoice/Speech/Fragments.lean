import Polyvoice.Speech.IdeographGaps

/-!
# Fragments of limited length

A long text is cut into fragments. A fragment ends with the first blank that makes it longer than
the limit, so that no word is cut; what is left over is the last fragment.
-/

namespace Polyvoice.Speech

/-- The fragments of a text of which `count` characters belong to the first fragment already. -/
def fragmentsFrom (limit : Nat) (count : Nat) : Text → List Text
  | [] => [[]]
  | c :: rest =>
    if isBlank c ∧ limit < count + 1 then [c] :: fragmentsFrom limit 0 rest
    else Text.consFirst c (fragmentsFrom limit (count + 1) rest)

/-- The fragments of a text. -/
def fragments (limit : Nat) (t : Text) : List Text :=
  fragmentsFrom limit 0 t

/-- The fragments join to the text. -/
theorem flatten_fragmentsFrom (limit count : Nat) (t : Text) :
    (fragmentsFrom limit count t).flatten = t := by
  induction t generalizing count with
  | nil => rfl
  | cons c rest ih =>
    unfold fragmentsFrom
    split
    · rw [List.flatten_cons, ih, List.singleton_append]
    · rw [Text.flatten_consFirst, ih]

/-- There is always a last fragment, if only an empty one. -/
theorem fragmentsFrom_ne_nil (limit count : Nat) (t : Text) :
    fragmentsFrom limit count t ≠ [] := by
  cases t with
  | nil => exact List.cons_ne_nil _ _
  | cons c rest =>
    unfold fragmentsFrom
    split
    · exact List.cons_ne_nil _ _
    · exact Text.consFirst_ne_nil _ _

/-- Cuts every text of a speech into fragments. -/
def cutLong (limit : Nat) (speech : Speech) : Speech :=
  speech.flatMap fun
    | .text t => separated .cut (fragments limit t)
    | cue => [cue]

end Polyvoice.Speech
