import Polyvoice.Text

/-!
# Numeric runs

A numeric run is a signed integer, a decimal, a ratio or a clock time inside a text: it opens with
digits and signs, goes on with digits, points and colons, and ends on a digit. `cutRuns` parts a
text into its numeric runs and what stands between them; nothing is lost (`flatten_cutRuns`).
-/

namespace Polyvoice.Numeral

/-- The characters that a run may open with. -/
def opensRun (c : Char) : Bool :=
  c.isDigit || c == '+' || c == '-'

/-- The characters that a run may go on with once its opening is over. -/
def continuesRun (c : Char) : Bool :=
  c.isDigit || c == '.' || c == ':'

/-- A text cut after its last digit. -/
def throughLastDigit : Text → Text
  | [] => []
  | c :: rest =>
    match throughLastDigit rest with
    | [] => if c.isDigit then [c] else []
    | kept => c :: kept

/-- The longest run at the front of a text, empty if there is none. -/
def leadingRun (t : Text) : Text :=
  match t.takeWhile opensRun with
  | [] => []
  | opening => throughLastDigit (opening ++ (t.dropWhile opensRun).takeWhile continuesRun)

/-- A part of a text. -/
inductive Piece where
  | plain (t : Text)
  | run (t : Text)
deriving DecidableEq, Repr

/-- The characters of a piece. -/
def Piece.text : Piece → Text
  | plain t => t
  | run t => t

/-- Puts a character in front of the pieces, as plain text. -/
def consPlain (c : Char) : List Piece → List Piece
  | .plain t :: pieces => .plain (c :: t) :: pieces
  | pieces => .plain [c] :: pieces

/-- Parts a text at its numeric runs, each of which is the longest at the first place where one
can start. -/
def cutRuns : Text → List Piece
  | [] => []
  | c :: rest =>
    let run := leadingRun (c :: rest)
    if run = [] then consPlain c (cutRuns rest)
    else .run run :: cutRuns ((c :: rest).drop run.length)
termination_by t => t.length
decreasing_by
  · simp
  · have nonempty : 0 < (leadingRun (c :: rest)).length := List.length_pos_iff.2 (by assumption)
    simp only [List.length_drop, List.length_cons]
    exact Nat.sub_lt (Nat.succ_pos _) nonempty

/-- The pieces of a text; an empty text is one empty piece. -/
def pieces (t : Text) : List Piece :=
  if t.isEmpty then [.plain []] else cutRuns t

/-- Cutting after the last digit leaves a front part. -/
theorem throughLastDigit_isPrefix (t : Text) : throughLastDigit t <+: t := by
  induction t with
  | nil => exact List.prefix_rfl
  | cons c rest ih =>
    unfold throughLastDigit
    split
    · split
      · exact (List.prefix_cons_inj c).2 (List.nil_prefix)
      · exact List.nil_prefix
    · exact (List.prefix_cons_inj c).2 ih

/-- The run at the front of a text is a front part of it. -/
theorem leadingRun_isPrefix (t : Text) : leadingRun t <+: t := by
  unfold leadingRun
  split
  · exact List.nil_prefix
  · refine (throughLastDigit_isPrefix _).trans ?_
    have whole : t.takeWhile opensRun ++ t.dropWhile opensRun = t :=
      List.takeWhile_append_dropWhile
    have front : (t.dropWhile opensRun).takeWhile continuesRun <+: t.dropWhile opensRun :=
      List.takeWhile_prefix continuesRun
    have joined := (List.prefix_append_right_inj (t.takeWhile opensRun)).2 front
    rwa [whole] at joined

/-- A plain character in front goes in front of the joined pieces. -/
theorem flatten_consPlain (c : Char) (ps : List Piece) :
    ((consPlain c ps).map Piece.text).flatten = c :: (ps.map Piece.text).flatten := by
  unfold consPlain
  split <;> simp [Piece.text]

/-- A plain character in front makes no run and takes none away. -/
theorem run_mem_consPlain {c : Char} {ps : List Piece} {run : Text} :
    .run run ∈ consPlain c ps ↔ .run run ∈ ps := by
  unfold consPlain
  split <;> simp

/-- The pieces of a text join to the text. -/
theorem flatten_cutRuns (t : Text) : ((cutRuns t).map Piece.text).flatten = t := by
  fun_induction cutRuns t with
  | case1 => rfl
  | case2 c rest run none ih => rw [flatten_consPlain, ih]
  | case3 c rest run some ih =>
    obtain ⟨after, joined⟩ := leadingRun_isPrefix (c :: rest)
    have dropped : (c :: rest).drop run.length = after := by
      rw [← joined]
      exact List.drop_left
    rw [List.map_cons, List.flatten_cons, ih, dropped]
    exact joined

end Polyvoice.Numeral
