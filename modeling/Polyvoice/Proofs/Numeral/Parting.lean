import Polyvoice.Proofs.Numeral.Pattern

/-!
# How a text falls into numeric runs and the rest

A text falls into numeric runs and what stands between them. A run is the longest one at its place,
and it is the match of the pattern of runs that is found there first (`RunBefore`); what stands
between two runs has no digit, and no run could start in it (`PlainBefore`). A text falls into such
pieces in one way only, which is the one that `pieces` finds (`parting_iff`).
-/

namespace Polyvoice.Numeral

open Pattern

/-! ## A piece in front of a text -/

/-- A run in front of the rest of a text. -/
structure RunBefore (after r : Text) : Prop where
  shape : run.Matches r
  /-- It begins with a digit or a sign. -/
  begins : ∃ c rest, r = c :: rest ∧ opensRun c = true
  /-- It ends with a digit. -/
  ends : ∃ front d, r = front ++ [d] ∧ d.isDigit = true
  /-- No run that starts where it does goes further. -/
  longest : ∀ w, run.Matches w → w <+: r ++ after → w.length ≤ r.length
  /-- Of all matches there, it is the one that is found first. -/
  first : (run.remainders (r ++ after)).head? = Option.some after

/-- Characters outside runs, in front of the rest of a text. -/
structure PlainBefore (after p : Text) : Prop where
  digitless : ∀ c ∈ p, c.isDigit = false
  /-- No run starts at any of the characters. -/
  runless : ∀ back, back <:+ p → back ≠ [] → ∀ w, run.Matches w → ¬w <+: back ++ after

/-- What `leadingRun` finds is a run in front of the rest. -/
theorem runBefore_leadingRun {t : Text} (found : leadingRun t ≠ []) :
    RunBefore (t.drop (leadingRun t).length) (leadingRun t) := by
  have shape := matches_leadingRun found
  have whole : leadingRun t ++ t.drop (leadingRun t).length = t :=
    List.prefix_iff_eq_append.1 (leadingRun_isPrefix t)
  constructor
  case shape => exact shape
  case begins => exact exists_opens_of_matches shape
  case ends => exact exists_digit_of_matches shape
  case longest =>
    intro w matched front
    rw [whole] at front
    exact (isPrefix_leadingRun matched front).length_le
  case first => rw [whole, head?_remainders_run, behind?, if_neg found]

/-- A run in front of the rest is what `leadingRun` finds. -/
theorem RunBefore.leadingRun_eq {after r : Text} (before : RunBefore after r) :
    leadingRun (r ++ after) = r := by
  have inside : r <+: leadingRun (r ++ after) :=
    isPrefix_leadingRun before.shape (List.prefix_append r after)
  have found : leadingRun (r ++ after) ≠ [] := by
    obtain ⟨c, rest, rfl, -⟩ := before.begins
    exact fun none => List.cons_ne_nil c rest (List.prefix_nil.1 (none ▸ inside))
  have shorter : (leadingRun (r ++ after)).length ≤ r.length :=
    before.longest _ (matches_leadingRun found) (leadingRun_isPrefix _)
  exact (inside.eq_of_length_le shorter).symm

/-- A digit alone is a run, so that there is none where no run starts. -/
theorem plainBefore_of_runless {after p : Text}
    (runless : ∀ back, back <:+ p → back ≠ [] → ∀ w, run.Matches w → ¬w <+: back ++ after) :
    PlainBefore after p where
  digitless c member := by
    obtain ⟨front, back, rfl⟩ := List.append_of_mem member
    refine Bool.eq_false_iff.2 fun digit => ?_
    refine runless (c :: back) (List.suffix_append front _) (List.cons_ne_nil c back) [c]
      (Or.inr ⟨c, digit, rfl⟩) ?_
    exact List.prefix_append [c] (back ++ after)
  runless := runless

theorem plainBefore_nil (after : Text) : PlainBefore after [] :=
  plainBefore_of_runless fun _ behind some => absurd (List.suffix_nil.1 behind) some

theorem PlainBefore.tail {after p : Text} {c : Char} (before : PlainBefore after (c :: p)) :
    PlainBefore after p :=
  plainBefore_of_runless fun back behind =>
    before.runless back (behind.trans (List.suffix_cons c p))

theorem PlainBefore.leadingRun_eq {after p : Text} {c : Char}
    (before : PlainBefore after (c :: p)) : leadingRun (c :: (p ++ after)) = [] :=
  leadingRun_eq_nil_iff.2 (before.runless (c :: p) List.suffix_rfl (List.cons_ne_nil c p))

/-- A character at which no run starts may be put in front. -/
theorem PlainBefore.cons {after p : Text} {c : Char} (before : PlainBefore after p)
    (none : leadingRun (c :: (p ++ after)) = []) : PlainBefore after (c :: p) := by
  refine plainBefore_of_runless fun back behind some => ?_
  rcases List.suffix_cons_iff.1 behind with rfl | later
  · exact leadingRun_eq_nil_iff.1 none
  · exact before.runless back later some

/-! ## Pieces one behind the other -/

/-- What a piece is in front of others. -/
def Piece.Fits (after : List Piece) : Piece → Prop
  | .run r => RunBefore (after.flatMap Piece.text) r
  | .plain p => p ≠ [] ∧ PlainBefore (after.flatMap Piece.text) p ∧
    ∀ q more, after ≠ .plain q :: more

/-- Each piece is what it has to be in front of those behind it. -/
def Settled : List Piece → Prop
  | [] => True
  | piece :: rest => piece.Fits rest ∧ Settled rest

theorem flatMap_text_cutRuns (t : Text) : (cutRuns t).flatMap Piece.text = t := by
  rw [List.flatMap_def]
  exact flatten_cutRuns t

theorem Settled.consPlain {ps : List Piece} {c : Char} (settled : Settled ps)
    (none : leadingRun (c :: ps.flatMap Piece.text) = []) : Settled (consPlain c ps) := by
  unfold Numeral.consPlain
  split
  · rename_i p rest
    obtain ⟨⟨-, before, apart⟩, later⟩ := settled
    exact ⟨⟨List.cons_ne_nil c p, before.cons none, apart⟩, later⟩
  · rename_i other
    have alone : PlainBefore (ps.flatMap Piece.text) [c] := (plainBefore_nil _).cons none
    exact ⟨⟨List.cons_ne_nil c [], alone, fun q more => other q more⟩, settled⟩

theorem settled_cutRuns (t : Text) : Settled (cutRuns t) := by
  fun_induction cutRuns t with
  | case1 => trivial
  | case2 c rest run none ih =>
    refine ih.consPlain ?_
    rw [flatMap_text_cutRuns]
    exact none
  | case3 c rest run some ih =>
    refine ⟨?_, ih⟩
    rw [Piece.Fits, flatMap_text_cutRuns]
    exact runBefore_leadingRun some

theorem cutRuns_append_of_plain {p after : Text} {ps : List Piece} (some : p ≠ [])
    (before : PlainBefore after p) (apart : ∀ q more, ps ≠ .plain q :: more)
    (behind : ps = cutRuns after) : .plain p :: ps = cutRuns (p ++ after) := by
  induction p with
  | nil => exact absurd rfl some
  | cons c p ih =>
    rw [List.cons_append, cutRuns, if_pos before.leadingRun_eq]
    cases p with
    | nil =>
      rw [List.nil_append, ← behind, consPlain]
      exact fun q more => apart q more
    | cons d p =>
      rw [← ih (List.cons_ne_nil d p) before.tail]
      rfl

theorem cutRuns_append_of_run {r after : Text} (before : RunBefore after r) :
    cutRuns (r ++ after) = .run r :: cutRuns after := by
  have found := before.leadingRun_eq
  have dropped : (r ++ after).drop r.length = after := List.drop_left
  obtain ⟨c, more, rfl, -⟩ := before.begins
  rw [List.cons_append] at found dropped ⊢
  rw [cutRuns, found, dropped, if_neg (List.cons_ne_nil c more)]

/-- Pieces that are what they have to be are those that `cutRuns` finds. -/
theorem Settled.eq_cutRuns {ps : List Piece} (settled : Settled ps) :
    ps = cutRuns (ps.flatMap Piece.text) := by
  induction ps with
  | nil => rw [List.flatMap_nil, cutRuns]
  | cons piece rest ih =>
    obtain ⟨fits, later⟩ := settled
    rw [List.flatMap_cons]
    cases piece with
    | plain p =>
      obtain ⟨some, before, apart⟩ := fits
      exact cutRuns_append_of_plain some before apart (ih later)
    | run r => rw [Piece.text, cutRuns_append_of_run fits, ← ih later]

theorem Settled.fits {before after : List Piece} {piece : Piece}
    (settled : Settled (before ++ piece :: after)) : piece.Fits after := by
  induction before with
  | nil => exact settled.1
  | cons first before ih => exact ih settled.2

/-! ## The pieces of a text -/

/-- How a text falls into numeric runs and what stands between them. -/
structure Parting (t : Text) (ps : List Piece) : Prop where
  /-- The pieces join to the text, so that none of it is lost and no two runs overlap. -/
  joined : ps.flatMap Piece.text = t
  /-- There is a piece, also of an empty text. -/
  present : ps ≠ []
  /-- Only an empty text has an empty piece. -/
  worded : ∀ piece ∈ ps, piece.text = [] → t = []
  runs : ∀ before r after, ps = before ++ .run r :: after →
    RunBefore (after.flatMap Piece.text) r
  plain : ∀ before p after, ps = before ++ .plain p :: after →
    PlainBefore (after.flatMap Piece.text) p
  /-- What stands between two runs is in one piece. -/
  apart : ∀ before p q after, ps ≠ before ++ .plain p :: .plain q :: after

theorem Settled.parting {ps : List Piece} (settled : Settled ps) (present : ps ≠ []) :
    Parting (ps.flatMap Piece.text) ps where
  joined := rfl
  present := present
  worded piece member := by
    obtain ⟨before, after, rfl⟩ := List.append_of_mem member
    have fits := settled.fits
    intro none
    cases piece with
    | plain p => exact absurd none fits.1
    | run r =>
      obtain ⟨c, rest, rfl, -⟩ := RunBefore.begins fits
      cases none
  runs before r after split := (split ▸ settled).fits
  plain before p after split := (split ▸ settled).fits.2.1
  apart before p q after split := (split ▸ settled).fits.2.2 q after rfl

/-- The pieces that a text with characters falls into are what they have to be. -/
theorem Parting.settled {t : Text} {ps : List Piece} (parting : Parting t ps) (some : t ≠ []) :
    Settled ps := by
  suffices behind : ∀ before after, ps = before ++ after → Settled after from behind [] ps rfl
  intro before after split
  induction after generalizing before with
  | nil => trivial
  | cons piece after ih =>
    refine ⟨?_, ih (before ++ [piece]) (by rw [split, List.append_cons])⟩
    cases piece with
    | run r => exact parting.runs before r after split
    | plain p =>
      have member : .plain p ∈ ps := split ▸ List.mem_append_right before List.mem_cons_self
      refine ⟨fun none => some (parting.worded _ member none), parting.plain before p after split,
        ?_⟩
      rintro q more rfl
      exact parting.apart before p q more split

theorem parting_nil : Parting [] [.plain []] where
  joined := rfl
  present := List.cons_ne_nil _ []
  worded _ _ _ := rfl
  runs before r after split := by
    have member : .run r ∈ [Piece.plain []] :=
      split ▸ List.mem_append_right before List.mem_cons_self
    cases List.mem_singleton.1 member
  plain before p after split := by
    have member : .plain p ∈ [Piece.plain []] :=
      split ▸ List.mem_append_right before List.mem_cons_self
    cases List.mem_singleton.1 member
    exact plainBefore_nil _
  apart before p q after split := by
    have lengths := congrArg List.length split
    simp only [List.length_append, List.length_cons, List.length_nil] at lengths
    omega

/-- An empty text is one empty piece. -/
theorem Parting.eq_of_nil {ps : List Piece} (parting : Parting [] ps) : ps = [.plain []] := by
  have empty : ∀ piece ∈ ps, ∃ p, piece = .plain p ∧ p = [] := by
    intro piece member
    have none : piece.text = [] := List.flatMap_eq_nil_iff.1 parting.joined piece member
    cases piece with
    | plain p => exact ⟨p, rfl, none⟩
    | run r =>
      obtain ⟨before, after, split⟩ := List.append_of_mem member
      obtain ⟨c, rest, rfl, -⟩ := (parting.runs before r after split).begins
      cases none
  obtain ⟨first, rest, rfl⟩ := List.exists_cons_of_ne_nil parting.present
  obtain ⟨_, rfl, rfl⟩ := empty first List.mem_cons_self
  cases rest with
  | nil => rfl
  | cons second rest =>
    obtain ⟨q, rfl, -⟩ := empty second (List.mem_cons_of_mem _ List.mem_cons_self)
    exact absurd rfl (parting.apart [] [] q rest)

/-- **A text falls into numeric runs and the rest in one way, and `pieces` finds it.** Each run is
the longest at its place and the first match of the pattern there; what stands between runs has no
digit, and no run could start in it. -/
theorem parting_iff {t : Text} {ps : List Piece} : Parting t ps ↔ ps = pieces t := by
  cases t with
  | nil =>
    constructor
    · exact Parting.eq_of_nil
    · rintro rfl
      exact parting_nil
  | cons c t =>
    have cut : pieces (c :: t) = cutRuns (c :: t) := rfl
    rw [cut]
    constructor
    · intro parting
      have found := (parting.settled (List.cons_ne_nil c t)).eq_cutRuns
      rwa [parting.joined] at found
    · rintro rfl
      have parting := (settled_cutRuns (c :: t)).parting fun none => ?_
      · rwa [flatMap_text_cutRuns] at parting
      · have whole := flatMap_text_cutRuns (c :: t)
        rw [none] at whole
        cases whole

/-- What follows the last digit is given back, be it a point, a colon or a sign. -/
example : pieces "-+.5:x1.+".toList =
    [.run "-+.5".toList, .plain ":x".toList, .run "1".toList, .plain ".+".toList] := by
  decide +kernel

end Polyvoice.Numeral
