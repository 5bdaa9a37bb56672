import Polyvoice.Proofs.Speech.Pieces

/-!
# How early a long text is cut

A piece may end behind a blank once it has more characters than the limit (`Full`). `fragments` ends
each piece at the first such place and leaves a last piece in which there is none (`CutEarly`). Any
full piece at the front of a text is at least as long as the first one
(`CutEarly.isPrefix_of_full`); so the pieces are the only ones of this kind, and in no other cutting
into full pieces does a cut come earlier.
-/

namespace Polyvoice.Speech

/-- A piece that ends with a blank and has more characters than the limit. -/
def Full (limit : Nat) (piece : Text) : Prop :=
  (∃ b ∈ piece.getLast?, isBlank b = true) ∧ limit < piece.length

/-- A text in pieces that are cut off as early as possible. -/
structure CutEarly (limit : Nat) (t : Text) (pieces : List Text) : Prop where
  /-- There is a last piece. -/
  present : pieces ≠ []
  joined : pieces.flatten = t
  full : ∀ piece ∈ pieces.dropLast, Full limit piece
  /-- No full piece could have been cut off before. -/
  early : ∀ piece ∈ pieces.dropLast, ∀ front, front <+: piece → Full limit front → front = piece
  /-- No full piece could have been cut off from the last one. -/
  left : ∀ last ∈ pieces.getLast?, ∀ front, front <+: last → ¬Full limit front

/-- The words of a text, which are what stands between its blanks. -/
def words (t : Text) : List Text :=
  (t.splitOnP isBlank).filter (!·.isEmpty)

section

variable {limit : Nat} {t u front piece : Text} {pieces ps qs : List Text}

theorem Full.append (full : Full limit u) (t : Text) : Full limit (t ++ u) := by
  rcases full with ⟨⟨b, last, blank⟩, long⟩
  refine ⟨⟨b, List.mem_getLast?_append_of_mem_getLast? last, blank⟩, ?_⟩
  rw [List.length_append]
  omega

/-! ## Pieces one by one -/

theorem cutEarly_singleton (short : ∀ front, front <+: t → ¬Full limit front) :
    CutEarly limit t [t] where
  present := List.cons_ne_nil t []
  joined := List.flatten_singleton
  full piece member := absurd member List.not_mem_nil
  early piece member := absurd member List.not_mem_nil
  left last member := by
    cases member
    exact short

theorem CutEarly.cons (cut : CutEarly limit t pieces) (full : Full limit piece)
    (early : ∀ front, front <+: piece → Full limit front → front = piece) :
    CutEarly limit (piece ++ t) (piece :: pieces) where
  present := List.cons_ne_nil piece pieces
  joined := by rw [List.flatten_cons, cut.joined]
  full := by
    rw [List.dropLast_cons_of_ne_nil cut.present]
    exact List.forall_mem_cons.2 ⟨full, cut.full⟩
  early := by
    rw [List.dropLast_cons_of_ne_nil cut.present]
    exact List.forall_mem_cons.2 ⟨early, cut.early⟩
  left := by
    rcases List.exists_cons_of_ne_nil cut.present with ⟨next, rest, rfl⟩
    rw [List.getLast?_cons_cons]
    exact cut.left

/-- What is behind the first piece is cut early as well. -/
theorem CutEarly.tail (cut : CutEarly limit t (piece :: pieces)) (more : pieces ≠ []) :
    CutEarly limit pieces.flatten pieces where
  present := more
  joined := rfl
  full := by
    have full := cut.full
    rw [List.dropLast_cons_of_ne_nil more] at full
    exact (List.forall_mem_cons.1 full).2
  early := by
    have early := cut.early
    rw [List.dropLast_cons_of_ne_nil more] at early
    exact (List.forall_mem_cons.1 early).2
  left := by
    rcases List.exists_cons_of_ne_nil more with ⟨next, rest, rfl⟩
    have left := cut.left
    rw [List.getLast?_cons_cons] at left
    exact left

section First

variable (cut : CutEarly limit t (piece :: pieces))

include cut

theorem CutEarly.begins : piece <+: t :=
  ⟨pieces.flatten, cut.joined⟩

/-- A piece that has another one behind it is full, and no shorter one is. -/
theorem CutEarly.first (more : pieces ≠ []) :
    Full limit piece ∧ ∀ front, front <+: piece → Full limit front → front = piece := by
  have member : piece ∈ (piece :: pieces).dropLast := by
    rw [List.dropLast_cons_of_ne_nil more]
    exact List.mem_cons_self
  exact ⟨cut.full piece member, cut.early piece member⟩

/-- The first piece is the shortest one that could be cut off. -/
theorem CutEarly.isPrefix_of_full (full : Full limit front) (inside : front <+: t) :
    pieces ≠ [] ∧ piece <+: front := by
  have more : pieces ≠ [] := by
    intro none
    have whole : piece = t := by rw [← cut.joined, none, List.flatten_singleton]
    rw [none] at cut
    exact cut.left piece rfl front (whole ▸ inside) full
  refine ⟨more, ?_⟩
  rcases List.prefix_or_prefix_of_prefix inside cut.begins with shorter | longer
  · obtain rfl := (cut.first more).2 front shorter full
    exact List.prefix_rfl
  · exact longer

end First

/-! ## One cutting, and the earliest one -/

/-- A text is cut early in one way only. -/
theorem CutEarly.eq (first : CutEarly limit t ps) (second : CutEarly limit t qs) : ps = qs := by
  induction ps generalizing t qs with
  | nil => exact absurd rfl first.present
  | cons p ps ih =>
    rcases List.exists_cons_of_ne_nil second.present with ⟨q, qs, rfl⟩
    have joined := first.joined.trans second.joined.symm
    rw [List.flatten_cons, List.flatten_cons] at joined
    by_cases more : ps = []
    · -- a second piece of the other cutting needs a full one, and there is none in the only piece
      have none : qs = [] := by
        by_contra others
        exact (first.isPrefix_of_full (second.first others).1 second.begins).1 more
      rw [more, none] at joined ⊢
      rw [List.append_cancel_right joined]
    · rcases second.isPrefix_of_full (first.first more).1 first.begins with ⟨others, atMost⟩
      have atLeast := (first.isPrefix_of_full (second.first others).1 second.begins).2
      have same : p = q := List.IsPrefix.eq_of_length_le atLeast atMost.length_le
      rw [same] at joined
      have behind := second.tail others
      rw [← List.append_cancel_left joined] at behind
      rw [same, ih (first.tail more) behind]

/-- Where a text is cut early, also with more text in front, each cut comes no later than in any
cutting into full pieces. -/
theorem CutEarly.take_isPrefix (cut : CutEarly limit (front ++ qs.flatten) ps)
    (full : ∀ piece ∈ qs.dropLast, Full limit piece) (n : Nat) :
    (ps.take n).flatten <+: front ++ (qs.take n).flatten := by
  induction n generalizing front ps qs with
  | zero => exact List.nil_prefix
  | succ n ih =>
    rcases List.exists_cons_of_ne_nil cut.present with ⟨p, ps, rfl⟩
    have inside : ((p :: ps).take (n + 1)).flatten <+: front ++ qs.flatten := by
      rw [← cut.joined, ← List.take_append_drop (n + 1) (p :: ps), List.flatten_append,
        List.take_append_drop]
      exact List.prefix_append _ _
    cases qs with
    | nil => exact inside
    | cons q qs =>
      by_cases last : qs = []
      · -- the only piece goes on to the end of the text
        rw [last] at inside ⊢
        rwa [List.take_succ_cons (a := q), List.take_nil]
      · rw [List.dropLast_cons_of_ne_nil last] at full
        rcases List.forall_mem_cons.1 full with ⟨fullHere, fullLater⟩
        have begins : front ++ q <+: front ++ (q :: qs).flatten := by
          rw [List.flatten_cons, ← List.append_assoc]
          exact List.prefix_append _ _
        -- what the longer piece has beyond the shorter one stands in front of the rest
        rcases cut.isPrefix_of_full (fullHere.append front) begins with ⟨more, beyond, split⟩
        have joined := cut.joined
        rw [List.flatten_cons, List.flatten_cons, ← List.append_assoc, ← split,
          List.append_assoc] at joined
        have behind := cut.tail more
        rw [List.append_cancel_left joined] at behind
        have later := ih behind fullLater
        rw [List.take_succ_cons, List.take_succ_cons, List.flatten_cons, List.flatten_cons,
          ← List.append_assoc, ← split, List.append_assoc]
        exact (List.prefix_append_right_inj p).2 later

/-! ## The fragments of a text -/

theorem not_full_of_isPrefix_nil (start : Text) (inside : start <+: []) : ¬Full limit start := by
  rw [List.prefix_nil.1 inside]
  intro full
  rcases full.1 with ⟨b, member, -⟩
  cases member

theorem full_concat_iff {c : Char} :
    Full limit (front ++ [c]) ↔ isBlank c = true ∧ limit < front.length + 1 := by
  rw [Full, List.getLast?_concat, List.length_append, List.length_singleton]
  simp

/-- The walk over a text ends each piece as early as possible, whatever part of the first piece was
read before in which it could not end. -/
theorem cutEarly_fragmentsFrom (short : ∀ start, start <+: front → ¬Full limit start) (t : Text) :
    ∃ first rest, fragmentsFrom limit front.length t = first :: rest ∧
      CutEarly limit (front ++ t) ((front ++ first) :: rest) := by
  induction t generalizing front with
  | nil =>
    refine ⟨[], [], rfl, ?_⟩
    rw [List.append_nil]
    exact cutEarly_singleton short
  | cons c t ih =>
    unfold fragmentsFrom
    split
    · rename_i ends
      have early : ∀ start, start <+: front ++ [c] → Full limit start → start = front ++ [c] := by
        intro start inside full
        rcases List.prefix_concat_iff.1 inside with same | shorter
        · exact same
        · exact absurd full (short start shorter)
      rcases ih not_full_of_isPrefix_nil with ⟨first, rest, found, cut⟩
      have whole := cut.cons (full_concat_iff.2 ends) early
      rw [List.append_assoc] at whole
      exact ⟨[c], first :: rest, congrArg ([c] :: ·) found, whole⟩
    · rename_i goesOn
      have still : ∀ start, start <+: front ++ [c] → ¬Full limit start := by
        intro start inside
        rcases List.prefix_concat_iff.1 inside with rfl | shorter
        · exact fun full => goesOn (full_concat_iff.1 full)
        · exact short start shorter
      rcases ih still with ⟨first, rest, found, cut⟩
      rw [List.length_append, List.length_singleton] at found
      rw [List.append_assoc, List.append_assoc] at cut
      exact ⟨c :: first, rest, by rw [found, Text.consFirst], cut⟩

theorem cutEarly_fragments (limit : Nat) (t : Text) : CutEarly limit t (fragments limit t) := by
  rcases cutEarly_fragmentsFrom not_full_of_isPrefix_nil t with ⟨first, rest, found, cut⟩
  have whole : fragments limit t = first :: rest := found
  rw [whole]
  exact cut

/-! ## Words -/

theorem words_append_blank {b : Char} (blank : isBlank b = true) (t u : Text) :
    words (t ++ b :: u) = words t ++ words u := by
  rw [words, List.splitOnP_append_cons t u blank, List.filter_append]
  rfl

/-- Texts that end with blanks have their words to themselves. -/
theorem BlankEnds.words_flatten {ts : List Text} (ends : BlankEnds ts) :
    words ts.flatten = ts.flatMap words := by
  induction ends with
  | last t => rw [List.flatten_singleton, List.flatMap_singleton]
  | @cons b rest t blank _ ih =>
    have here : words (t ++ [b]) = words t := by
      rw [words_append_blank blank t []]
      exact List.append_nil (words t)
    rw [List.flatten_cons, List.append_assoc, List.singleton_append, words_append_blank blank, ih,
      List.flatMap_cons, here]

end

/-- **A long text is cut as early as it can be.** Its fragments are the one list of pieces that join
to the text, of which all but the last end with a blank and have more characters than the limit, and
in which no shorter front of a piece and no front of the last one does so too. No word is cut; in
any other cutting into such pieces the cuts come no earlier; and a text that is within the limit, or
that has no blank, stays whole. -/
theorem fragments_cut_early (limit : Nat) (t : Text) :
    (∀ pieces : List Text, pieces = fragments limit t ↔ CutEarly limit t pieces) ∧
      words t = (fragments limit t).flatMap words ∧
      (∀ pieces : List Text, pieces.flatten = t →
        (∀ piece ∈ pieces.dropLast, Full limit piece) →
        ∀ n, ((fragments limit t).take n).flatten <+: (pieces.take n).flatten) ∧
      (t.length ≤ limit ∨ (∀ c ∈ t, isBlank c = false) → fragments limit t = [t]) := by
  have found := cutEarly_fragments limit t
  refine ⟨fun pieces => ⟨?_, fun other => other.eq found⟩, ?_, ?_, ?_⟩
  · intro same
    rw [same]
    exact found
  · have ends : BlankEnds (fragments limit t) := blankEnds_fragmentsFrom limit 0 t
    have whole := ends.words_flatten
    rwa [found.joined] at whole
  · intro pieces joined full n
    have cut : CutEarly limit ([] ++ pieces.flatten) (fragments limit t) := by
      rw [List.nil_append, joined]
      exact found
    exact cut.take_isPrefix full n
  · intro short
    apply found.eq
    apply cutEarly_singleton
    intro front inside full
    rcases full with ⟨⟨b, last, blank⟩, long⟩
    rcases short with within | blankless
    · have length := inside.length_le
      omega
    · have member : b ∈ t := inside.subset (List.mem_of_getLast? last)
      rw [blankless b member] at blank
      cases blank

/-- Of two blanks the first one ends a piece, and the second one is a piece of its own if the limit
is zero. -/
example : fragments 0 "a  b".toList = ["a ".toList, " ".toList, "b".toList] := by
  decide

end Polyvoice.Speech
