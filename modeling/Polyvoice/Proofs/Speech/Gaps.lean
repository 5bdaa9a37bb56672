import Polyvoice.Proofs.Speech.EmptyTexts

/-!
# Where a text is cut at its gaps

A gap is a run of blanks between two ideographs (`GapIn`). `cutGaps` cuts a text at each of its gaps
and nowhere else (`exists_cutAtGaps`): the parts that it cuts out are the gaps, each one at its
place (`Cutting.cutOut`), and the pieces are what stands between them.

A gap begins either right behind the first character of a text or later (`gapIn_cons_iff`), which is
how `cutGaps` looks for them.
-/

namespace Polyvoice.Speech

/-! ## Gaps -/

/-- A gap of a text, with what stands before it and behind it. -/
structure GapIn (t before gap after : Text) : Prop where
  whole : before ++ gap ++ after = t
  some : gap ≠ []
  blank : ∀ c ∈ gap, isBlank c = true
  /-- No blank stands next to it, so that it is as long as possible. -/
  longest : (∀ c ∈ before.getLast?, isBlank c = false) ∧ ∀ c ∈ after.head?, isBlank c = false
  left : ∃ c ∈ before.getLast?, isIdeograph c = true
  right : ∃ c ∈ after.head?, isIdeograph c = true

/-- A text in which there is no gap. -/
def Gapless (t : Text) : Prop :=
  ∀ before gap after, ¬GapIn t before gap after

theorem isBlank_of_isIdeograph {c : Char} (ideograph : isIdeograph c = true) :
    isBlank c = false := by
  unfold isIdeograph at ideograph
  unfold isBlank
  simp only [Bool.or_eq_true, Bool.and_eq_true, decide_eq_true_eq] at ideograph
  have high : 0x3400 ≤ c.toNat := by omega
  simp only [Bool.or_eq_false_iff, Bool.and_eq_false_iff, decide_eq_false_iff_not,
    beq_eq_false_iff_ne]
  omega

section Gaps

variable {c : Char} {t before gap after : Text}

/-- Blanks between two ideographs are as many as possible. -/
theorem gapIn_of_between (whole : before ++ gap ++ after = t) (some : gap ≠ [])
    (blank : ∀ c ∈ gap, isBlank c = true) (left : ∃ c ∈ before.getLast?, isIdeograph c = true)
    (right : ∃ c ∈ after.head?, isIdeograph c = true) : GapIn t before gap after where
  whole := whole
  some := some
  blank := blank
  longest := by
    obtain ⟨l, atLeft, ideograph⟩ := left
    obtain ⟨r, atRight, ideographToo⟩ := right
    constructor
    · rintro c member
      obtain rfl := Option.mem_unique atLeft member
      exact isBlank_of_isIdeograph ideograph
    · rintro c member
      obtain rfl := Option.mem_unique atRight member
      exact isBlank_of_isIdeograph ideographToo
  left := left
  right := right

/-- A character may be put in front of the text. -/
theorem GapIn.cons (inside : GapIn t before gap after) (c : Char) :
    GapIn (c :: t) (c :: before) gap after := by
  refine gapIn_of_between (congrArg (c :: ·) inside.whole) inside.some inside.blank ?_ inside.right
  obtain ⟨l, atLeft, ideograph⟩ := inside.left
  exact ⟨l, List.mem_getLast?_cons atLeft, ideograph⟩

/-- What `afterGap?` finds stands behind blanks and begins with an ideograph. -/
theorem afterGap?_eq_some_iff :
    afterGap? t = Option.some after ↔
      ∃ gap, t = gap ++ after ∧ gap ≠ [] ∧ (∀ c ∈ gap, isBlank c = true) ∧
        ∃ c ∈ after.head?, isIdeograph c = true := by
  constructor
  · intro found
    obtain ⟨gap, c, rest, whole, rfl, ideograph, some, blank⟩ := exists_of_afterGap? found
    exact ⟨gap, whole, some, blank, c, rfl, ideograph⟩
  · rintro ⟨gap, rfl, some, blank, c, first, ideograph⟩
    obtain ⟨b, gap, rfl⟩ := List.exists_cons_of_ne_nil some
    obtain ⟨rest, rfl⟩ := List.head?_eq_some_iff.1 first
    have stop : ¬isBlank c = true := Bool.eq_false_iff.1 (isBlank_of_isIdeograph ideograph)
    rw [afterGap?, List.takeWhile_append_of_pos blank, List.dropWhile_append_of_pos blank,
      List.dropWhile_cons_of_neg stop]
    exact if_pos ideograph

/-- More text may follow what stands behind a gap. -/
theorem afterGap?_append (found : afterGap? t = Option.some after) (u : Text) :
    afterGap? (t ++ u) = Option.some (after ++ u) := by
  obtain ⟨gap, rfl, some, blank, c, first, ideograph⟩ := afterGap?_eq_some_iff.1 found
  exact afterGap?_eq_some_iff.2 ⟨gap, List.append_assoc gap after u, some, blank, c,
    List.mem_head?_append_of_mem_head? first, ideograph⟩

/-- A gap of a text begins right behind its first character or is a gap of the rest. -/
theorem gapIn_cons_iff :
    GapIn (c :: t) before gap after ↔
      (before = [c] ∧ gap ++ after = t ∧
          (if isIdeograph c then afterGap? t else none) = Option.some after) ∨
        ∃ front, before = c :: front ∧ GapIn t front gap after := by
  constructor
  · intro inside
    obtain ⟨whole, some, blank, -, ⟨l, atLeft, ideograph⟩, right⟩ := inside
    cases before with
    | nil => cases atLeft
    | cons d front =>
      obtain ⟨rfl, rest⟩ := List.cons.inj whole
      cases front with
      | nil =>
        obtain rfl : d = l := Option.some.inj atLeft
        have found : afterGap? t = Option.some after :=
          afterGap?_eq_some_iff.2 ⟨gap, rest.symm, some, blank, right⟩
        exact Or.inl ⟨rfl, rest, (if_pos ideograph).trans found⟩
      | cons e front =>
        have left : ∃ c ∈ (e :: front).getLast?, isIdeograph c = true := ⟨l, atLeft, ideograph⟩
        exact Or.inr ⟨e :: front, rfl, gapIn_of_between rest some blank left right⟩
  · rintro (⟨rfl, rfl, found⟩ | ⟨front, rfl, inside⟩)
    · split at found
      · rename_i ideograph
        obtain ⟨blanks, split, some, blank, right⟩ := afterGap?_eq_some_iff.1 found
        obtain rfl := List.append_cancel_right split
        exact gapIn_of_between rfl some blank ⟨c, rfl, ideograph⟩ right
      · cases found
    · exact inside.cons c

/-- Blanks in front of a text bring no gap. -/
theorem gapIn_append_iff {blanks : Text} (blank : ∀ c ∈ blanks, isBlank c = true) :
    GapIn (blanks ++ t) before gap after ↔
      ∃ front, before = blanks ++ front ∧ GapIn t front gap after := by
  induction blanks generalizing before with
  | nil => simp
  | cons b blanks ih =>
    obtain ⟨here, later⟩ := List.forall_mem_cons.1 blank
    have other : ¬isIdeograph b = true := fun ideograph => by
      rw [isBlank_of_isIdeograph ideograph] at here
      cases here
    rw [List.cons_append, gapIn_cons_iff, if_neg other]
    constructor
    · rintro (⟨-, -, found⟩ | ⟨_, rfl, inside⟩)
      · cases found
      · obtain ⟨front, rfl, behind⟩ := (ih later).1 inside
        exact ⟨front, rfl, behind⟩
    · rintro ⟨front, rfl, inside⟩
      exact Or.inr ⟨blanks ++ front, rfl, (ih later).2 ⟨front, rfl, inside⟩⟩

theorem gapless_nil : Gapless [] := by
  intro before gap after inside
  obtain ⟨front, -⟩ := List.append_eq_nil_iff.1 inside.whole
  exact inside.some (List.append_eq_nil_iff.1 front).2

/-- A character behind which no gap begins may be put in front of a text without gaps. -/
theorem Gapless.cons (gapless : Gapless t)
    (none : (if isIdeograph c then afterGap? t else none) = none) : Gapless (c :: t) := by
  intro before gap after inside
  rcases gapIn_cons_iff.1 inside with ⟨-, -, found⟩ | ⟨front, -, behind⟩
  · rw [none] at found
    cases found
  · exact gapless front gap after behind

theorem gapless_single (c : Char) : Gapless [c] :=
  gapless_nil.cons (by split <;> rfl)

end Gaps

/-! ## Cuttings -/

/-- A text that is cut: the first piece, and each part that is cut out with the piece behind it. -/
structure Cutting where
  first : Text
  rest : List (Text × Text)

namespace Cutting

/-- The parts and pieces behind the first piece, as one text. -/
def tail (rest : List (Text × Text)) : Text :=
  rest.flatMap fun part => part.1 ++ part.2

/-- The text that is cut. -/
def whole (cutting : Cutting) : Text :=
  cutting.first ++ tail cutting.rest

/-- What is left of the text. -/
def pieces (cutting : Cutting) : List Text :=
  cutting.first :: cutting.rest.map Prod.snd

/-- The parts that are cut out behind some text, each with what stands before it and behind it. -/
def cutOutBehind (before : Text) : List (Text × Text) → List (Text × Text × Text)
  | [] => []
  | (gap, piece) :: rest =>
    (before, gap, piece ++ tail rest) :: cutOutBehind (before ++ gap ++ piece) rest

/-- The parts that are cut out, each with what stands before it and behind it in the text. -/
def cutOut (cutting : Cutting) : List (Text × Text × Text) :=
  cutOutBehind cutting.first cutting.rest

theorem length_cutOutBehind (before : Text) (rest : List (Text × Text)) :
    (cutOutBehind before rest).length = rest.length := by
  induction rest generalizing before with
  | nil => rfl
  | cons part rest ih => rw [cutOutBehind, List.length_cons, List.length_cons, ih]

/-- More text may stand in front. -/
theorem mem_cutOutBehind_append {front before b gap after : Text} {rest : List (Text × Text)} :
    (b, gap, after) ∈ cutOutBehind (front ++ before) rest ↔
      ∃ behind, b = front ++ behind ∧ (behind, gap, after) ∈ cutOutBehind before rest := by
  induction rest generalizing before with
  | nil => simp [cutOutBehind]
  | cons part rest ih =>
    obtain ⟨here, piece⟩ := part
    have later : front ++ before ++ here ++ piece = front ++ (before ++ here ++ piece) := by
      simp only [List.append_assoc]
    simp only [cutOutBehind, List.mem_cons, Prod.mk.injEq, later, ih]
    constructor
    · rintro (⟨rfl, rfl, rfl⟩ | ⟨behind, rfl, member⟩)
      · exact ⟨before, rfl, Or.inl ⟨rfl, rfl, rfl⟩⟩
      · exact ⟨behind, rfl, Or.inr member⟩
    · rintro ⟨behind, rfl, ⟨rfl, rfl, rfl⟩ | member⟩
      · exact Or.inl ⟨rfl, rfl, rfl⟩
      · exact Or.inr ⟨behind, rfl, member⟩

theorem exists_mem_cutOutBehind {part : Text × Text} {rest : List (Text × Text)}
    (member : part ∈ rest) (before : Text) :
    ∃ front after, (front, part.1, after) ∈ cutOutBehind before rest := by
  induction rest generalizing before with
  | nil => cases member
  | cons first rest ih =>
    rcases List.mem_cons.1 member with rfl | later
    · exact ⟨before, _, List.mem_cons_self⟩
    · obtain ⟨front, after, inside⟩ := ih later (before ++ first.1 ++ first.2)
      exact ⟨front, after, List.mem_cons_of_mem _ inside⟩

/-- Parts with characters are cut out one behind the other, and none of them twice. -/
theorem nodup_cutOutBehind {rest : List (Text × Text)} (some : ∀ part ∈ rest, part.1 ≠ [])
    (before : Text) : (cutOutBehind before rest).Nodup := by
  induction rest generalizing before with
  | nil => exact List.nodup_nil
  | cons part rest ih =>
    obtain ⟨here, later⟩ := List.forall_mem_cons.1 some
    refine List.nodup_cons.2 ⟨fun again => ?_, ih later _⟩
    rw [← List.append_nil (before ++ part.1 ++ part.2), mem_cutOutBehind_append] at again
    obtain ⟨more, same, -⟩ := again
    have lengths := congrArg List.length same
    have long : 0 < part.1.length := List.length_pos_of_ne_nil here
    simp only [List.length_append] at lengths
    omega

end Cutting

/-- How a text is cut at its gaps. -/
structure CutAtGaps (t : Text) (cutting : Cutting) : Prop where
  /-- The pieces and what was cut out are the text when they are put together again. -/
  whole : cutting.whole = t
  /-- What is cut out are the gaps of the text. -/
  gaps : ∀ before gap after, (before, gap, after) ∈ cutting.cutOut ↔ GapIn t before gap after
  /-- No piece has a gap in it. -/
  gapless : ∀ piece ∈ cutting.pieces, Gapless piece

namespace CutAtGaps

open Cutting

variable {t : Text} {cutting : Cutting} {c : Char}

theorem nil : CutAtGaps [] ⟨[], []⟩ where
  whole := rfl
  gaps before gap after := iff_of_false List.not_mem_nil (gapless_nil before gap after)
  gapless _ member := List.mem_singleton.1 member ▸ gapless_nil

/-- A character behind which no gap begins belongs to the first piece. -/
theorem cons (cut : CutAtGaps t cutting)
    (none : (if isIdeograph c then afterGap? t else none) = none) :
    CutAtGaps (c :: t) ⟨c :: cutting.first, cutting.rest⟩ where
  whole := congrArg (c :: ·) cut.whole
  gaps before gap after := by
    have moved : (before, gap, after) ∈ cutOutBehind ([c] ++ cutting.first) cutting.rest ↔
        ∃ front, before = [c] ++ front ∧ GapIn t front gap after := by
      simp only [mem_cutOutBehind_append, ← cut.gaps, cutOut]
    refine moved.trans ?_
    rw [gapIn_cons_iff, none]
    exact (or_iff_right fun found => by cases found.2.2).symm
  gapless := by
    refine List.forall_mem_cons.2 ⟨?_, (List.forall_mem_cons.1 cut.gapless).2⟩
    refine (cut.gapless cutting.first List.mem_cons_self).cons ?_
    -- a gap that begins behind the character in the first piece begins there in the text
    split
    · rename_i ideograph
      rw [if_pos ideograph, ← cut.whole] at none
      cases found : afterGap? cutting.first with
      | none => rfl
      | some after =>
        have inText := afterGap?_append found (tail cutting.rest)
        cases none.symm.trans inText
    · rfl

/-- A gap behind a character parts it from the first piece behind the gap. -/
theorem gap {gap after : Text} (cut : CutAtGaps after cutting) (ideograph : isIdeograph c = true)
    (blank : ∀ b ∈ gap, isBlank b = true) (found : afterGap? (gap ++ after) = some after) :
    CutAtGaps (c :: (gap ++ after)) ⟨[c], (gap, cutting.first) :: cutting.rest⟩ where
  whole := by
    have behind : cutting.first ++ tail cutting.rest = after := cut.whole
    simp only [Cutting.whole, tail, List.flatMap_cons, List.singleton_append, List.append_assoc]
    rw [← behind, tail]
  gaps before part behind := by
    have moved : (before, part, behind) ∈
        cutOutBehind ([c] ++ gap ++ cutting.first) cutting.rest ↔
          ∃ front, before = c :: (gap ++ front) ∧ GapIn after front part behind := by
      simp only [mem_cutOutBehind_append, ← cut.gaps, cutOut]
      rfl
    have whole : cutting.first ++ tail cutting.rest = after := cut.whole
    rw [cutOut, cutOutBehind, List.mem_cons, moved, whole, gapIn_cons_iff, if_pos ideograph, found]
    refine or_congr ?_ ?_
    · simp only [Prod.mk.injEq, Option.some.injEq]
      constructor
      · rintro ⟨rfl, rfl, rfl⟩
        exact ⟨rfl, rfl, rfl⟩
      · rintro ⟨rfl, same, rfl⟩
        exact ⟨rfl, List.append_cancel_right same, rfl⟩
    · simp only [gapIn_append_iff blank]
      constructor
      · rintro ⟨front, rfl, inside⟩
        exact ⟨gap ++ front, rfl, front, rfl, inside⟩
      · rintro ⟨_, rfl, front, rfl, inside⟩
        exact ⟨front, rfl, inside⟩
  gapless := List.forall_mem_cons.2 ⟨gapless_single c, cut.gapless⟩

theorem nodup_cutOut (cut : CutAtGaps t cutting) : cutting.cutOut.Nodup := by
  refine nodup_cutOutBehind (fun part member => ?_) cutting.first
  obtain ⟨front, after, inside⟩ := exists_mem_cutOutBehind member cutting.first
  exact ((cut.gaps front part.1 after).1 inside).some

end CutAtGaps

/-- `cutGaps` cuts a text at its gaps. -/
theorem exists_cutAtGaps (t : Text) :
    ∃ cutting, CutAtGaps t cutting ∧ cutting.pieces = cutGaps t := by
  fun_induction cutGaps t with
  | case1 => exact ⟨⟨[], []⟩, .nil, rfl⟩
  | case2 c rest after found ih =>
    obtain ⟨cutting, cut, pieces⟩ := ih
    split at found
    · rename_i ideograph
      obtain ⟨gap, rfl, -, blank, -⟩ := afterGap?_eq_some_iff.1 found
      exact ⟨_, cut.gap ideograph blank found, congrArg ([c] :: ·) pieces⟩
    · cases found
  | case3 c rest none ih =>
    obtain ⟨cutting, cut, pieces⟩ := ih
    refine ⟨_, cut.cons none, ?_⟩
    rw [← pieces]
    rfl

/-- **A text is cut at its gaps and nowhere else.** What is cut out are the runs of blanks, as long
as possible, between two ideographs, each of them once and at its place; the pieces are the
stretches between them, so that there is one more of them, and no gap is left in one. If something
is cut out, no piece is empty. -/
theorem cutGaps_cuts_at_gaps (t : Text) :
    ∃ cutting, CutAtGaps t cutting ∧ cutGaps t = cutting.pieces ∧ cutting.cutOut.Nodup ∧
      (cutGaps t).length = cutting.cutOut.length + 1 ∧
      (cutting.cutOut ≠ [] → ∀ piece ∈ cutGaps t, piece ≠ []) := by
  obtain ⟨cutting, cut, pieces⟩ := exists_cutAtGaps t
  refine ⟨cutting, cut, pieces.symm, cut.nodup_cutOut, ?_, fun some piece member => ?_⟩
  · rw [← pieces, Cutting.pieces, Cutting.cutOut, Cutting.length_cutOutBehind, List.length_cons,
      List.length_map]
  · obtain ⟨⟨before, gap, after⟩, inside⟩ := List.exists_mem_of_ne_nil _ some
    have gapIn := (cut.gaps before gap after).1 inside
    refine ne_nil_of_mem_cutGaps (fun none => ?_) member
    exact gapless_nil before gap after (none ▸ gapIn)

/-- Latin neighbours and blanks at the ends make no gap, and one ideograph may stand between two. -/
example : cutGaps "中 文	 字 x ".toList = ["中".toList, "文".toList, "字 x ".toList] := by
  decide +kernel

end Polyvoice.Speech
