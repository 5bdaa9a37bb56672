import Polyvoice.Cue

/-!
# Gaps between ideographs

Blanks between two ideographs mark a pause and are not spoken. `cutGaps` parts a text at these
gaps; `pauseAtGaps` puts a silence into each of them. A gap may lie across several texts in a row,
which are joined first.
-/

namespace Polyvoice.Speech

/-- The characters that count as ideographs here: the unified ideographs with their first
extension, and all from U+8C48 to U+FAFF, compatibility ideographs, Hangul and Yi included. -/
def isIdeograph (c : Char) : Bool :=
  let n := c.toNat
  (0x3400 ≤ n && n ≤ 0x4DBF) || (0x4E00 ≤ n && n ≤ 0x9FFF) || (0x8C48 ≤ n && n ≤ 0xFAFF)

/-- What follows the blanks at the front of a text, if there are some and an ideograph follows. -/
def afterGap? (t : Text) : Option Text :=
  match t.takeWhile isBlank, t.dropWhile isBlank with
  | _ :: _, c :: rest => if isIdeograph c then some (c :: rest) else none
  | _, _ => none

/-- What follows a gap is shorter than the text that starts with it. -/
theorem length_afterGap?_lt {t rest : Text} (h : afterGap? t = some rest) :
    rest.length < t.length := by
  have lengths : (t.takeWhile isBlank).length + (t.dropWhile isBlank).length = t.length := by
    rw [← List.length_append, List.takeWhile_append_dropWhile]
  unfold afterGap? at h
  split at h
  · rename_i _ _ _ _ blanks after
    split at h
    · cases h
      rw [blanks, after] at lengths
      simp only [List.length_cons] at lengths ⊢
      omega
    · cases h
  · cases h

/-- The stretches of a text between its gaps. -/
def cutGaps : Text → List Text
  | [] => [[]]
  | c :: rest =>
    match _gap : if isIdeograph c then afterGap? rest else none with
    | some after => [c] :: cutGaps after
    | none => Text.consFirst c (cutGaps rest)
termination_by t => t.length
decreasing_by
  · have shorter : after.length < rest.length := by
      refine length_afterGap?_lt ?_
      split at _gap
      · exact _gap
      · cases _gap
    simp only [List.length_cons]
    omega
  · simp

/-- Puts a text in front of a speech, joining it to a text that stands there. An empty text is
left out. -/
def consText (t : Text) : Speech → Speech
  | .text u :: rest => .text (t ++ u) :: rest
  | speech => if t.isEmpty then speech else .text t :: speech

/-- Joins the texts that stand in a row and leaves out empty ones. -/
def joinTexts : Speech → Speech
  | [] => []
  | .text t :: rest => consText t (joinTexts rest)
  | cue :: rest => cue :: joinTexts rest

/-- The pieces of a text with a cue between each two of them. -/
def separated (separator : Cue) (pieces : List Text) : Speech :=
  (pieces.map Cue.text).intersperse separator

/-- Puts a silence into every gap between ideographs. -/
def pauseAtGaps (ms : UInt32) (speech : Speech) : Speech :=
  (joinTexts speech).flatMap fun
    | .text t => separated (.silence ms) (cutGaps t)
    | cue => [cue]

end Polyvoice.Speech
