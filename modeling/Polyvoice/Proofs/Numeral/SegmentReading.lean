import Polyvoice.Numeral.Reading
import Polyvoice.Proofs.Numeral.Pattern

/-!
# Runs read segment by segment

What is said for a run can be put together from its segments, the texts between its points
(`Reading.segmentWise`). Where a run is read digit by digit, its segments are not taken one by one:
blanks are put between all characters, those around a point are taken away again, and only then the
run is parted at its points. As a blank between two points belongs to one of them only, blanks are
left over where several points stand in a row: one in front of each segment that an even number of
points precedes (`spoken_run`).
-/

namespace Polyvoice.Numeral

/-! ## What is said for segments -/

/-- A segment with its digits named and a blank between each two characters. -/
def saidApart (name : Char → Option Text) (segment : Text) : Text :=
  [' '].intercalate (segment.map fun c => nameDigits name [c])

/-- A run as it is spoken segment by segment, with `point` in place of each point and nothing else
between the segments. -/
def Reading.segmentWise (reading : Reading) (name : Char → Option Text) (point run : Text) : Text :=
  match reading with
  | .asValue =>
    if (segments run).length ≤ 2 then run
    else point.intercalate ((segments run).map fun segment =>
      if segment.length = 1 then nameDigits name segment else segment)
  | .digitByDigit => point.intercalate ((segments run).map (saidApart name))

/-- Segments, each with whether the empty ones right before it are odd in number. They are if and
only if the points right before it are even in number. -/
def parities (odd : Bool) : List Text → List (Text × Bool)
  | [] => []
  | segment :: rest => (segment, odd) :: parities (segment.isEmpty && !odd) rest

/-- The blank that is left over in front of a segment. -/
def strayBlank : Text × Bool → Text
  | (_ :: _, true) => [' ']
  | _ => []

/-! ## Segments of a spaced run -/

theorem segments_point (t : Text) : segments ('.' :: t) = [] :: segments t := by
  rw [segments, List.splitOn_eq_splitOnP, List.splitOnP_cons_eq_if_modifyHead, if_pos (by decide)]
  rfl

theorem segments_cons {c : Char} (other : c ≠ '.') (t : Text) :
    segments (c :: t) = Text.consFirst c (segments t) := by
  have split : segments (c :: t) = (segments t).modifyHead (List.cons c) := by
    rw [segments, List.splitOn_eq_splitOnP, List.splitOnP_cons_eq_if_modifyHead,
      if_neg (by simpa using other)]
    rfl
  obtain ⟨first, rest, found⟩ := List.exists_cons_of_ne_nil (List.splitOn_ne_nil '.' t)
  have parts : segments t = first :: rest := found
  rw [split, parts]
  rfl

theorem segments_blank (t : Text) : segments (' ' :: t) = Text.consFirst ' ' (segments t) :=
  segments_cons (by decide) t

theorem closePoints_cons {c : Char} (other : c ≠ ' ') (t : Text) :
    closePoints (c :: t) = c :: closePoints t := by
  rw [closePoints]
  rintro rest ⟨⟩
  exact absurd rfl other

theorem closePoints_point (t : Text) :
    closePoints (' ' :: '.' :: ' ' :: t) = '.' :: closePoints t := by
  rw [closePoints]

theorem closePoints_blank {c : Char} (other : c ≠ '.') (t : Text) :
    closePoints (' ' :: c :: t) = ' ' :: closePoints (c :: t) := by
  rw [closePoints]
  rintro rest - same
  exact other (List.cons.inj same).1

/-- A segment as it stands in a spaced run. -/
def spaced (segment : Text × Bool) : Text :=
  strayBlank segment ++ segment.1.intersperse ' '

/-- Behind a character of its own, a segment is spaced without a blank of its own. -/
theorem consFirst_spaced (c : Char) (ts : List Text) :
    Text.consFirst c ((parities true ts).map spaced) =
      (parities false (Text.consFirst c ts)).map spaced := by
  cases ts with
  | nil => rfl
  | cons t ts => cases t <;> simp [parities, spaced, strayBlank, Text.consFirst]

theorem consFirst_blank (c : Char) (ts : List Text) :
    Text.consFirst ' ' ((parities false (Text.consFirst c ts)).map spaced) =
      (parities true (Text.consFirst c ts)).map spaced := by
  cases ts <;> rfl

/-- The segments of a spaced run, at its front and behind a blank. -/
theorem segments_closePoints {t : Text} (blankless : ' ' ∉ t) (some : t ≠ [])
    (ended : t.getLast? ≠ Option.some '.') :
    segments (closePoints (t.intersperse ' ')) = (parities false (segments t)).map spaced ∧
      segments (closePoints (' ' :: t.intersperse ' ')) =
        (parities true (segments t)).map spaced := by
  induction t with
  | nil => exact absurd rfl some
  | cons c t ih =>
    obtain ⟨blank, blankless⟩ : c ≠ ' ' ∧ ' ' ∉ t := by
      rwa [List.mem_cons, not_or, eq_comm] at blankless
    cases t with
    | nil =>
      have other : c ≠ '.' := fun same => ended (congrArg Option.some same)
      have alone : closePoints [c] = [c] := closePoints_cons blank []
      have behind : closePoints [' ', c] = [' ', c] :=
        (closePoints_blank other []).trans (congrArg (' ' :: ·) alone)
      rw [List.intersperse_singleton, alone, behind, segments_blank, segments_cons other]
      exact ⟨rfl, rfl⟩
    | cons d t =>
      have later : (d :: t).getLast? ≠ Option.some '.' := by rwa [List.getLast?_cons_cons] at ended
      obtain ⟨front, behind⟩ := ih blankless (List.cons_ne_nil d t) later
      rw [List.intersperse_cons_cons]
      by_cases point : c = '.'
      · subst point
        rw [closePoints_cons blank, closePoints_point, segments_point, segments_point,
          segments_point, front, behind]
        exact ⟨rfl, rfl⟩
      · have first : segments (closePoints (c :: ' ' :: (d :: t).intersperse ' ')) =
            (parities false (segments (c :: d :: t))).map spaced := by
          rw [closePoints_cons blank, segments_cons point, segments_cons point, behind,
            consFirst_spaced]
        refine ⟨first, ?_⟩
        rw [closePoints_blank point, segments_blank, first, segments_cons point,
          consFirst_blank]

/-! ## Runs read digit by digit -/

section Names

variable {name : Char → Option Text}

/-- In a spaced segment, digits may be named one by one. -/
theorem nameDigits_intersperse (t : Text) :
    nameDigits name (t.intersperse ' ') = saidApart name t := by
  induction t with
  | nil => rfl
  | cons c t ih =>
    cases t with
    | nil => exact (List.intercalate_singleton).symm
    | cons d t =>
      have blank (u : Text) : nameDigits name (' ' :: u) = [' '] ++ nameDigits name u :=
        nameDigits_append name [' '] u
      calc nameDigits name ((c :: d :: t).intersperse ' ')
          = nameDigits name [c] ++ nameDigits name (' ' :: (d :: t).intersperse ' ') :=
            nameDigits_append name [c] _
        _ = nameDigits name [c] ++ ([' '] ++ saidApart name (d :: t)) := by rw [blank, ih]
        _ = saidApart name (c :: d :: t) := by
            rw [← List.append_assoc]
            exact List.intercalate_cons_cons.symm

theorem nameDigits_spaced (segment : Text × Bool) :
    nameDigits name (spaced segment) = strayBlank segment ++ saidApart name segment.1 := by
  have stray : nameDigits name (strayBlank segment) = strayBlank segment := by
    unfold strayBlank
    split <;> rfl
  rw [spaced, nameDigits_append, stray, nameDigits_intersperse]

end Names

section Joining

variable {α : Type} (point : Text) (extra said : α → Text)

theorem sublist_intercalate_map_append (l : List α) :
    (point.intercalate (l.map said)).Sublist
      (point.intercalate (l.map fun a => extra a ++ said a)) := by
  induction l with
  | nil => exact List.Sublist.refl _
  | cons a l ih =>
    have here : (said a).Sublist (extra a ++ said a) := List.sublist_append_right _ _
    cases l with
    | nil =>
      rw [List.map_singleton, List.map_singleton, List.intercalate_singleton,
        List.intercalate_singleton]
      exact here
    | cons b l =>
      simp only [List.map_cons, List.intercalate_cons_cons] at ih ⊢
      exact (here.append (List.Sublist.refl point)).append ih

/-- Texts that go on longer join to the same only if none is longer. -/
theorem extra_eq_nil_of_intercalate {l : List α}
    (same : point.intercalate (l.map fun a => extra a ++ said a) = point.intercalate (l.map said)) :
    ∀ a ∈ l, extra a = [] := by
  induction l with
  | nil => nofun
  | cons a l ih =>
    rw [List.forall_mem_cons]
    cases l with
    | nil =>
      rw [List.map_singleton, List.map_singleton, List.intercalate_singleton,
        List.intercalate_singleton, List.append_left_eq_self] at same
      exact ⟨same, nofun⟩
    | cons b l =>
      have longer := (sublist_intercalate_map_append point extra said (b :: l)).length_le
      simp only [List.map_cons, List.intercalate_cons_cons] at same longer ih
      have lengths := congrArg List.length same
      simp only [List.length_append] at lengths
      have none : extra a = [] := List.eq_nil_of_length_eq_zero (by omega)
      rw [none, List.nil_append] at same
      exact ⟨none, ih (List.append_cancel_left same)⟩

end Joining

theorem map_fst_parities (odd : Bool) (ts : List Text) :
    (parities odd ts).map Prod.fst = ts := by
  induction ts generalizing odd with
  | nil => rfl
  | cons t ts ih => exact congrArg (t :: ·) (ih _)

theorem strayBlank_eq_nil_iff {segment : Text} {odd : Bool} :
    strayBlank (segment, odd) = [] ↔ (odd = true → segment = []) := by
  cases segment <;> cases odd <;> simp [strayBlank]

/-- The characters of a run are no blanks, and the last one is no point. -/
theorem blank_notMem_of_matches {run : Text} (shape : Pattern.run.Matches run) : ' ' ∉ run := by
  obtain ⟨opening, more, rfl, opens, goesOn⟩ := exists_opening_of_matches shape
  intro member
  rcases List.mem_append.1 member with first | later
  · exact absurd (opens ' ' first) (by decide)
  · exact absurd (goesOn ' ' later) (by decide)

theorem spoken_digitByDigit {run : Text} (shape : Pattern.run.Matches run)
    (name : Char → Option Text) (point : Text) :
    Reading.digitByDigit.spoken name point run =
      point.intercalate ((parities false (segments run)).map fun segment =>
        strayBlank segment ++ saidApart name segment.1) := by
  obtain ⟨front, d, rfl, digit⟩ := exists_digit_of_matches shape
  have ended : (front ++ [d]).getLast? ≠ some '.' := by
    rw [List.getLast?_concat]
    intro same
    rw [Option.some.inj same] at digit
    cases digit
  have parted := (segments_closePoints (blank_notMem_of_matches shape)
    (List.append_ne_nil_of_right_ne_nil front nofun) ended).1
  rw [Reading.spoken, parted, List.map_map]
  exact congrArg point.intercalate (List.map_congr_left fun segment _ => nameDigits_spaced segment)

/-- **How a run is read.** Read as a value, it is read segment by segment. Read digit by digit, it is
read so but for a blank in front of each segment that an even number of points precedes; it is read
segment by segment if there are no such segments, and only then. -/
theorem spoken_run {run : Text} (shape : Pattern.run.Matches run) (reading : Reading)
    (name : Char → Option Text) (point : Text) :
    reading.spoken name point run =
        (match reading with
        | .asValue => reading.segmentWise name point run
        | .digitByDigit => point.intercalate ((parities false (segments run)).map fun segment =>
          strayBlank segment ++ saidApart name segment.1)) ∧
      (reading.spoken name point run = reading.segmentWise name point run ↔
        reading = .digitByDigit → ∀ segment ∈ parities false (segments run),
          segment.2 = true → segment.1 = []) := by
  cases reading with
  | asValue => exact ⟨rfl, fun _ => nofun, fun _ => rfl⟩
  | digitByDigit =>
    have said := spoken_digitByDigit shape name point
    have apart : Reading.digitByDigit.segmentWise name point run =
        point.intercalate ((parities false (segments run)).map (saidApart name ∘ Prod.fst)) := by
      rw [← List.map_map, map_fst_parities]
      rfl
    refine ⟨said, ?_⟩
    rw [said, apart]
    constructor
    · intro same _ segment member
      have none : strayBlank segment = [] :=
        extra_eq_nil_of_intercalate point strayBlank _ same segment member
      exact strayBlank_eq_nil_iff.1 none
    · intro none
      refine congrArg point.intercalate (List.map_congr_left fun segment member => ?_)
      have stray : strayBlank segment = [] := strayBlank_eq_nil_iff.2 (none rfl segment member)
      rw [stray]
      rfl

/-- A version number with two points in a row and digits that have names. -/
theorem spoken_run_version :
    let name (c : Char) : Option Text := if c = '0' then some "oh".toList else none
    let run := "1.20..3".toList
    Pattern.run.Matches run ∧
      Reading.digitByDigit.spoken name " point ".toList run =
        "1 point 2 oh point  point  3".toList := by
  intro name run
  have shape : Pattern.run.Matches run := by decide
  refine ⟨shape, (spoken_run shape .digitByDigit name " point ".toList).1.trans ?_⟩
  decide

/-- Digit by digit, a run with two points in a row is not read segment by segment: a blank stands at
the edge of the last segment. -/
theorem spoken_points_in_a_row :
    let run := "1..2".toList
    Pattern.run.Matches run ∧
      Reading.digitByDigit.spoken (fun _ => none) ".".toList run = "1.. 2".toList ∧
      Reading.digitByDigit.segmentWise (fun _ => none) ".".toList run = "1..2".toList := by
  decide

end Polyvoice.Numeral
