import Polyvoice.NormalForm

/-!
# Normal forms and blanks

A blank parts a text for all four normal forms: no mark is put in order over a blank, and nothing
composes with one. So the normal form of a text that is cut behind a blank is the normal forms of
the two parts, one behind the other (`NormalForm.apply_append`).
-/

namespace Polyvoice

namespace Unicode

/-! ## Marks in order -/

/-- A starter parts what is put in order. -/
theorem insertMark_append {s : Char} (starter : combiningClass s = 0) (mark : Char)
    (t u : List Char) : insertMark mark (t ++ s :: u) = insertMark mark t ++ s :: u := by
  induction t with
  | nil =>
    have stops : ¬(combiningClass s ≠ 0 ∧ combiningClass s < combiningClass mark) :=
      fun both => both.1 starter
    exact if_neg stops
  | cons c t ih =>
    rw [List.cons_append, insertMark, insertMark]
    split
    · rw [ih, List.cons_append]
    · rfl

theorem sortMarks_starter {s : Char} (starter : combiningClass s = 0) (u : List Char) :
    sortMarks (s :: u) = s :: sortMarks u := by
  change insertMark s (sortMarks u) = s :: sortMarks u
  cases sortMarks u with
  | nil => rfl
  | cons c rest =>
    have stops : ¬(combiningClass c ≠ 0 ∧ combiningClass c < combiningClass s) := by
      rw [starter]
      exact fun both => Nat.not_lt_zero _ both.2
    rw [insertMark, if_neg stops]

theorem sortMarks_append {s : Char} (starter : combiningClass s = 0) (t u : List Char) :
    sortMarks (t ++ s :: u) = sortMarks t ++ s :: sortMarks u := by
  induction t with
  | nil => exact sortMarks_starter starter u
  | cons c t ih =>
    calc sortMarks (c :: t ++ s :: u)
        = insertMark c (sortMarks (t ++ s :: u)) := rfl
      _ = insertMark c (sortMarks t) ++ s :: sortMarks u := by
        rw [ih, insertMark_append starter]

/-! ## Composition -/

/-- A starter that composes with nothing. -/
structure Inert (s : Char) : Prop where
  starter : combiningClass s = 0
  first : ∀ c, composePair? s c = none
  second : ∀ c, composePair? c s = none

namespace Inert

variable {s : Char} (inert : Inert s)

include inert

theorem composeBehind?_first (kept : List Char) (c : Char) : composeBehind? s kept c = none := by
  rw [composeBehind?, inert.first]
  exact ite_self none

theorem composeBehind?_second (c : Char) (kept : List Char) : composeBehind? c kept s = none := by
  rw [composeBehind?, inert.second]
  exact ite_self none

end Inert

/-- Marks that follow an inert character stay as they are. -/
theorem composeFrom_inert {s : Char} (inert : Inert s) (kept u : List Char) :
    composeFrom s kept u = s :: (kept.reverse ++ compose u) := by
  induction u generalizing kept with
  | nil => rw [composeFrom, compose, List.append_nil]
  | cons c rest ih =>
    rw [composeFrom, compose, inert.composeBehind?_first]
    dsimp only
    split
    · rfl
    · rw [ih, List.reverse_cons, List.append_assoc, List.singleton_append]

theorem composeFrom_append {s : Char} (inert : Inert s) (c : Char) (kept t u : List Char) :
    composeFrom c kept (t ++ s :: u) = composeFrom c kept (t ++ [s]) ++ compose u := by
  induction t generalizing c kept with
  | nil =>
    rw [List.nil_append, List.nil_append, composeFrom, composeFrom, inert.composeBehind?_second]
    dsimp only
    rw [if_pos inert.starter, if_pos inert.starter, composeFrom_inert inert,
      composeFrom_inert inert]
    simp [compose]
  | cons d t ih =>
    rw [List.cons_append, List.cons_append, composeFrom, composeFrom]
    split
    · exact ih _ _
    · split
      · rw [ih]
        simp
      · exact ih _ _

/-- An inert character parts what is composed. -/
theorem compose_append {s : Char} (inert : Inert s) (t u : List Char) :
    compose (t ++ s :: u) = compose (t ++ [s]) ++ compose u := by
  induction t with
  | nil =>
    rw [List.nil_append, List.nil_append, compose, compose, if_pos inert.starter,
      if_pos inert.starter, composeFrom_inert inert, composeFrom_inert inert]
    rfl
  | cons c t ih =>
    rw [List.cons_append, List.cons_append, compose, compose]
    split
    · exact composeFrom_append inert c [] t u
    · rw [ih, List.cons_append]

/-! ## Blanks -/

theorem inert_of_isBlank {b : Char} (blank : isBlank b = true) : Inert b where
  starter := by
    rw [combiningClass, if_pos]
    simp [blank]
  first c := by simp [composePair?, blank]
  second c := by simp [composePair?, blank]

/-- A blank decomposes to a blank. -/
theorem isBlank_decomposedBlank (compatible : Bool) {b : Char} (blank : isBlank b = true) :
    isBlank (decomposedBlank compatible b) = true := by
  unfold decomposedBlank
  split
  · rfl
  · split
    · rfl
    · split
      · rfl
      · exact blank

/-- Behind a blank, a text may be decomposed in two parts. -/
theorem decompose_append (compatible : Bool) {b : Char} (blank : isBlank b = true)
    (t u : List Char) :
    decompose compatible (t ++ [b]) =
        sortMarks (t.flatMap (decomposeChar compatible)) ++ [decomposedBlank compatible b] ∧
      decompose compatible (t ++ [b] ++ u) =
        decompose compatible (t ++ [b]) ++ decompose compatible u := by
  have starter := (inert_of_isBlank (isBlank_decomposedBlank compatible blank)).starter
  have whole (v : List Char) : decompose compatible (t ++ [b] ++ v) =
      sortMarks (t.flatMap (decomposeChar compatible)) ++
        decomposedBlank compatible b :: decompose compatible v := by
    have char : decomposeChar compatible b = [decomposedBlank compatible b] := if_pos blank
    rw [decompose, List.flatMap_append, List.flatMap_append, List.flatMap_singleton, char,
      List.append_assoc, List.singleton_append, sortMarks_append starter]
    rfl
  have first := whole []
  rw [List.append_nil] at first
  refine ⟨first, ?_⟩
  rw [whole, first, List.append_assoc]
  rfl

end Unicode

/-- Behind a blank, a text may be brought into a normal form in two parts. -/
theorem NormalForm.apply_append (form : NormalForm) {b : Char} (blank : isBlank b = true)
    (t u : Text) : form.apply (t ++ [b] ++ u) = form.apply (t ++ [b]) ++ form.apply u := by
  have composed (compatible : Bool) :
      Unicode.compose (Unicode.decompose compatible (t ++ [b] ++ u)) =
        Unicode.compose (Unicode.decompose compatible (t ++ [b])) ++
          Unicode.compose (Unicode.decompose compatible u) := by
    obtain ⟨first, both⟩ := Unicode.decompose_append compatible blank t u
    have inert := Unicode.inert_of_isBlank (Unicode.isBlank_decomposedBlank compatible blank)
    rw [both, first, List.append_assoc, List.singleton_append]
    exact Unicode.compose_append inert _ _
  cases form with
  | off => rfl
  | nfc => exact composed false
  | nfkc => exact composed true
  | nfd => exact (Unicode.decompose_append false blank t u).2
  | nfkd => exact (Unicode.decompose_append true blank t u).2

end Polyvoice
