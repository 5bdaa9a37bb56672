import Mathlib.Data.List.Basic
import Polyvoice.Numeral.Run

/-!
# Numeric runs as matches of a pattern

A pattern says which texts have a certain shape (`Pattern.Matches`), and in which order the matches
at the front of a text are tried: a repetition is tried with as many characters as possible first,
and then with fewer and fewer of them (`Pattern.remainders`). Nothing else is tried
(`Pattern.mem_remainders_iff`).

Numeric runs are written as such a pattern (`Pattern.run`), the classes of which overlap. The run at
the front of a text, which is found without trying, is the first of all matches there
(`head?_remainders_run`), and it is the longest one (`isPrefix_leadingRun`).
-/

namespace Polyvoice.Numeral

/-! ## Patterns -/

/-- A pattern for the front of a text. -/
inductive Pattern where
  /-- A character of a class. -/
  | one (accepts : Char → Bool)
  /-- Any number of characters of a class. -/
  | many (accepts : Char → Bool)
  /-- A pattern, and behind it another one. -/
  | next (first second : Pattern)
  /-- One of two patterns, of which the first one is tried first. -/
  | either (first second : Pattern)

namespace Pattern

/-- One or more characters of a class. -/
def some (accepts : Char → Bool) : Pattern :=
  .next (.one accepts) (.many accepts)

/-- The pattern of numeric runs: digits and signs, then digits, points and colons if there are some,
then digits; or else a single digit. -/
def run : Pattern :=
  .either (.next (.some opensRun) (.next (.many continuesRun) (.some Char.isDigit)))
    (.one Char.isDigit)

/-- The texts that have the shape of a pattern. -/
def Matches : Pattern → Text → Prop
  | one accepts, t => ∃ c, accepts c = true ∧ t = [c]
  | many accepts, t => ∀ c ∈ t, accepts c = true
  | next first second, t => ∃ u v, first.Matches u ∧ second.Matches v ∧ t = u ++ v
  | either first second, t => first.Matches t ∨ second.Matches t

/-- What is left of a text behind characters of a class, behind as many as possible first. -/
def behindMany (accepts : Char → Bool) : Text → List Text
  | [] => [[]]
  | c :: rest =>
    if accepts c then behindMany accepts rest ++ [c :: rest] else [c :: rest]

/-- What is left of a text behind each match at its front, in the order in which they are tried. -/
def remainders : Pattern → Text → List Text
  | one accepts, t =>
    match t with
    | [] => []
    | c :: rest => if accepts c then [rest] else []
  | many accepts, t => behindMany accepts t
  | next first second, t => (first.remainders t).flatMap second.remainders
  | either first second, t => first.remainders t ++ second.remainders t

theorem mem_behindMany_iff {accepts : Char → Bool} {t rest : Text} :
    rest ∈ behindMany accepts t ↔ ∃ w, (∀ c ∈ w, accepts c = true) ∧ t = w ++ rest := by
  induction t with
  | nil =>
    rw [behindMany, List.mem_singleton]
    constructor
    · rintro rfl
      exact ⟨[], nofun, rfl⟩
    · rintro ⟨w, -, empty⟩
      exact (List.append_eq_nil_iff.1 empty.symm).2
  | cons c t ih =>
    have parted : (∃ w, (∀ d ∈ w, accepts d = true) ∧ c :: t = w ++ rest) ↔
        rest = c :: t ∨ accepts c = true ∧ ∃ w, (∀ d ∈ w, accepts d = true) ∧ t = w ++ rest := by
      constructor
      · rintro ⟨w, inside, split⟩
        cases w with
        | nil => exact Or.inl split.symm
        | cons d w =>
          obtain ⟨rfl, later⟩ := List.cons.inj split
          exact Or.inr ⟨inside c List.mem_cons_self, w,
            fun d member => inside d (List.mem_cons_of_mem c member), later⟩
      · rintro (rfl | ⟨here, w, inside, rfl⟩)
        · exact ⟨[], nofun, rfl⟩
        · exact ⟨c :: w, List.forall_mem_cons.2 ⟨here, inside⟩, rfl⟩
    rw [parted, behindMany]
    cases accepts c with
    | true => simp only [if_true, List.mem_append, List.mem_singleton, ih, true_and, or_comm]
    | false => simp only [Bool.false_eq_true, if_false, List.mem_singleton, false_and, or_false]

/-- What is tried at the front of a text are the matches there, and all of them. -/
theorem mem_remainders_iff {p : Pattern} {t rest : Text} :
    rest ∈ p.remainders t ↔ ∃ w, p.Matches w ∧ t = w ++ rest := by
  induction p generalizing t rest with
  | one accepts =>
    constructor
    · intro member
      cases t with
      | nil => cases member
      | cons c t =>
        rw [remainders] at member
        split at member
        · rename_i here
          rw [List.mem_singleton.1 member]
          exact ⟨[c], ⟨c, here, rfl⟩, rfl⟩
        · cases member
    · rintro ⟨_, ⟨c, here, rfl⟩, rfl⟩
      rw [List.singleton_append, remainders, if_pos here]
      exact List.mem_singleton_self rest
  | many accepts => exact mem_behindMany_iff
  | next first second ihFirst ihSecond =>
    rw [remainders, List.mem_flatMap]
    constructor
    · rintro ⟨middle, left, right⟩
      obtain ⟨u, front, rfl⟩ := ihFirst.1 left
      obtain ⟨v, back, rfl⟩ := ihSecond.1 right
      exact ⟨u ++ v, ⟨u, v, front, back, rfl⟩, (List.append_assoc u v rest).symm⟩
    · rintro ⟨_, ⟨u, v, front, back, rfl⟩, rfl⟩
      refine ⟨v ++ rest, ihFirst.2 ⟨u, front, List.append_assoc u v rest⟩, ?_⟩
      exact ihSecond.2 ⟨v, back, rfl⟩
  | either first second ihFirst ihSecond =>
    rw [remainders, List.mem_append, ihFirst, ihSecond, ← exists_or]
    simp only [Matches, or_and_right]

theorem matches_some_iff {accepts : Char → Bool} {t : Text} :
    (some accepts).Matches t ↔ t ≠ [] ∧ ∀ c ∈ t, accepts c = true := by
  constructor
  · rintro ⟨_, v, ⟨c, here, rfl⟩, later, rfl⟩
    exact ⟨List.cons_ne_nil c v, List.forall_mem_cons.2 ⟨here, later⟩⟩
  · rintro ⟨nonempty, inside⟩
    obtain ⟨c, v, rfl⟩ := List.exists_cons_of_ne_nil nonempty
    obtain ⟨here, later⟩ := List.forall_mem_cons.1 inside
    exact ⟨[c], v, ⟨c, here, rfl⟩, later, rfl⟩

/-! ## The first match -/

theorem head?_behindMany (accepts : Char → Bool) (t : Text) :
    (behindMany accepts t).head? = Option.some (t.dropWhile accepts) := by
  induction t with
  | nil => rfl
  | cons c t ih =>
    rw [behindMany]
    split
    · rename_i here
      rw [List.head?_append, ih, List.dropWhile_cons_of_pos here]
      rfl
    · rename_i other
      rw [List.dropWhile_cons_of_neg other]
      rfl

/-- What is tried behind one or more characters is tried behind any number of those that follow the
first one. -/
theorem remainders_some_cons (accepts : Char → Bool) (p : Pattern) (c : Char) (t : Text) :
    (next (.some accepts) p).remainders (c :: t) =
      if accepts c then (next (.many accepts) p).remainders t else [] := by
  simp only [remainders, Pattern.some]
  split
  · rw [List.flatMap_singleton]
  · rfl

/-- A character more for a repetition is tried before the text is left as it is. -/
theorem head?_remainders_many_cons {accepts : Char → Bool} {c : Char} (here : accepts c = true)
    (p : Pattern) (t : Text) :
    ((next (.many accepts) p).remainders (c :: t)).head? =
      (((next (.many accepts) p).remainders t).head?).or (p.remainders (c :: t)).head? := by
  simp only [remainders, behindMany, if_pos here, List.flatMap_append, List.head?_append,
    List.flatMap_singleton]

theorem remainders_many_of_stop {accepts : Char → Bool} {t : Text}
    (stop : ∀ c ∈ t.head?, accepts c = false) (p : Pattern) :
    (next (.many accepts) p).remainders t = p.remainders t := by
  cases t with
  | nil => exact List.flatMap_singleton _ _
  | cons c t =>
    have other : ¬accepts c = true := Bool.eq_false_iff.1 (stop c rfl)
    simp only [remainders, behindMany, if_neg other, List.flatMap_singleton]

end Pattern

/-! ## The run at the front of a text -/

/-- The characters at the front of a text among which a run lies: those of an opening, and those
that go on. -/
def reach (t : Text) : Text :=
  t.takeWhile opensRun ++ (t.dropWhile opensRun).takeWhile continuesRun

theorem reach_of_opens {c : Char} (opens : opensRun c = true) (t : Text) :
    reach (c :: t) = c :: reach t := by
  rw [reach, List.takeWhile_cons_of_pos opens, List.dropWhile_cons_of_pos opens]
  rfl

theorem reach_of_not_opens {c : Char} (closed : ¬opensRun c = true) (t : Text) :
    reach (c :: t) = (c :: t).takeWhile continuesRun := by
  rw [reach, List.takeWhile_cons_of_neg closed, List.dropWhile_cons_of_neg closed]
  rfl

theorem leadingRun_of_opens {c : Char} (opens : opensRun c = true) (t : Text) :
    leadingRun (c :: t) = throughLastDigit (c :: reach t) := by
  rw [leadingRun, List.takeWhile_cons_of_pos opens, List.dropWhile_cons_of_pos opens]
  rfl

theorem leadingRun_of_not_opens {c : Char} (closed : ¬opensRun c = true) (t : Text) :
    leadingRun (c :: t) = [] := by
  rw [leadingRun, List.takeWhile_cons_of_neg closed]

theorem opensRun_of_isDigit {c : Char} (digit : c.isDigit = true) : opensRun c = true := by
  simp [opensRun, digit]

theorem continuesRun_of_isDigit {c : Char} (digit : c.isDigit = true) :
    continuesRun c = true := by
  simp [continuesRun, digit]

/-- What can open a run and go on with it is a digit. -/
theorem isDigit_of_opens_of_continues {c : Char} (opens : opensRun c = true)
    (goesOn : continuesRun c = true) : c.isDigit = true := by
  simp only [opensRun, continuesRun, Bool.or_eq_true, beq_iff_eq] at opens goesOn
  rcases opens with (digit | rfl) | rfl
  · exact digit
  · simp at goesOn
  · simp at goesOn

/-- Nothing is left of a text that is cut after its last digit if it has none. -/
theorem throughLastDigit_eq_nil_iff {t : Text} :
    throughLastDigit t = [] ↔ ∀ c ∈ t, c.isDigit = false := by
  induction t with
  | nil => simp [throughLastDigit]
  | cons c t ih =>
    rw [throughLastDigit, List.forall_mem_cons, ← ih]
    cases throughLastDigit t <;> cases c.isDigit <;> simp

/-- What could go on with a run lies within reach. -/
theorem takeWhile_continuesRun_isPrefix (t : Text) : t.takeWhile continuesRun <+: reach t := by
  induction t with
  | nil => exact List.prefix_rfl
  | cons c t ih =>
    by_cases opens : opensRun c = true
    · rw [reach_of_opens opens]
      by_cases goesOn : continuesRun c = true
      · rw [List.takeWhile_cons_of_pos goesOn]
        exact (List.prefix_cons_inj c).2 ih
      · rw [List.takeWhile_cons_of_neg goesOn]
        exact List.nil_prefix
    · exact ⟨[], (List.append_nil _).trans (reach_of_not_opens opens t).symm⟩

/-- What is left of a text behind some of its characters, if there are some. -/
def behind? (w t : Text) : Option Text :=
  if w = [] then none else some (t.drop w.length)

/-- Digits at the front are dropped where none is among the characters that go on with a run. -/
theorem dropWhile_isDigit_of_digitless {t : Text}
    (digitless : ∀ c ∈ t.takeWhile continuesRun, c.isDigit = false) :
    t.dropWhile Char.isDigit = t := by
  cases t with
  | nil => rfl
  | cons c t =>
    refine List.dropWhile_cons_of_neg fun digit => ?_
    have member : c ∈ (c :: t).takeWhile continuesRun := by
      rw [List.takeWhile_cons_of_pos (continuesRun_of_isDigit digit)]
      exact List.mem_cons_self
    rw [digitless c member] at digit
    cases digit

namespace Pattern

theorem head?_remainders_digits (c : Char) (t : Text) :
    ((some Char.isDigit).remainders (c :: t)).head? =
      if c.isDigit then Option.some (t.dropWhile Char.isDigit) else none := by
  have repeated : (some Char.isDigit).remainders (c :: t) =
      if c.isDigit then behindMany Char.isDigit t else [] := by
    simp only [some, remainders]
    cases c.isDigit with
    | true => exact List.flatMap_singleton _ _
    | false => rfl
  rw [repeated, ← head?_behindMany]
  cases c.isDigit <;> rfl

/-- The digits at the end, behind what goes on with a run: what is tried first reaches to the last
digit. -/
theorem head?_remainders_continued (t : Text) :
    ((next (.many continuesRun) (.some Char.isDigit)).remainders t).head? =
      behind? (throughLastDigit (t.takeWhile continuesRun)) t := by
  induction t with
  | nil => rfl
  | cons c t ih =>
    by_cases goesOn : continuesRun c = true
    · rw [head?_remainders_many_cons goesOn, ih, List.takeWhile_cons_of_pos goesOn,
        throughLastDigit]
      cases kept : throughLastDigit (t.takeWhile continuesRun) with
      | cons d w => rfl
      | nil =>
        -- no digit follows, so that a digit here is the last one
        have digitless := throughLastDigit_eq_nil_iff.1 kept
        rw [head?_remainders_digits, dropWhile_isDigit_of_digitless digitless]
        cases c.isDigit <;> rfl
    · have stop : ∀ d ∈ (c :: t).head?, continuesRun d = false := by
        rintro d ⟨⟩
        exact Bool.eq_false_iff.2 goesOn
      have other : ¬c.isDigit = true := fun digit => goesOn (continuesRun_of_isDigit digit)
      rw [remainders_many_of_stop stop, head?_remainders_digits, if_neg other,
        List.takeWhile_cons_of_neg goesOn]
      rfl

/-- All of a run behind its first character: what is tried first reaches to the last digit. -/
theorem head?_remainders_opened (t : Text) :
    ((next (.many opensRun) (.next (.many continuesRun) (.some Char.isDigit))).remainders t).head? =
      behind? (throughLastDigit (reach t)) t := by
  induction t with
  | nil => rfl
  | cons c t ih =>
    by_cases opens : opensRun c = true
    · rw [head?_remainders_many_cons opens, ih, reach_of_opens opens, throughLastDigit]
      cases kept : throughLastDigit (reach t) with
      | cons d w => rfl
      | nil =>
        have digitless := throughLastDigit_eq_nil_iff.1 kept
        have none : throughLastDigit (t.takeWhile continuesRun) = [] :=
          throughLastDigit_eq_nil_iff.2 fun d member =>
            digitless d ((takeWhile_continuesRun_isPrefix t).subset member)
        rw [head?_remainders_continued]
        by_cases digit : c.isDigit = true
        · rw [List.takeWhile_cons_of_pos (continuesRun_of_isDigit digit), throughLastDigit, none]
          rfl
        · have stops : ¬continuesRun c = true := fun goesOn =>
            digit (isDigit_of_opens_of_continues opens goesOn)
          rw [List.takeWhile_cons_of_neg stops, if_neg digit]
          rfl
    · have stop : ∀ d ∈ (c :: t).head?, opensRun d = false := by
        rintro d ⟨⟩
        exact Bool.eq_false_iff.2 opens
      rw [remainders_many_of_stop stop, head?_remainders_continued, reach_of_not_opens opens]

end Pattern

open Pattern

/-- The run at the front of a text is the match that is found first. -/
theorem head?_remainders_run (t : Text) :
    (run.remainders t).head? = behind? (leadingRun t) t := by
  cases t with
  | nil => rfl
  | cons c t =>
    rw [run, remainders, List.head?_append, remainders_some_cons]
    by_cases opens : opensRun c = true
    · rw [if_pos opens, head?_remainders_opened, leadingRun_of_opens opens, throughLastDigit]
      cases throughLastDigit (reach t) with
      | cons d w => rfl
      | nil =>
        -- a single digit is left to try
        rw [remainders]
        cases c.isDigit <;> rfl
    · have other : ¬c.isDigit = true := fun digit => opens (opensRun_of_isDigit digit)
      rw [if_neg opens, leadingRun_of_not_opens opens, remainders, if_neg other]
      rfl

/-! ## The longest match -/

/-- A run begins with a digit or a sign. -/
theorem exists_opens_of_matches {w : Text} (shape : run.Matches w) :
    ∃ c rest, w = c :: rest ∧ opensRun c = true := by
  rcases shape with ⟨u, v, opening, -, rfl⟩ | ⟨c, digit, rfl⟩
  · obtain ⟨nonempty, inside⟩ := matches_some_iff.1 opening
    obtain ⟨c, u, rfl⟩ := List.exists_cons_of_ne_nil nonempty
    exact ⟨c, u ++ v, rfl, inside c List.mem_cons_self⟩
  · exact ⟨c, [], rfl, opensRun_of_isDigit digit⟩

/-- A run ends with a digit. -/
theorem exists_digit_of_matches {w : Text} (shape : run.Matches w) :
    ∃ front d, w = front ++ [d] ∧ d.isDigit = true := by
  rcases shape with ⟨u, _, -, ⟨m, v, -, ending, rfl⟩, rfl⟩ | ⟨c, digit, rfl⟩
  · obtain ⟨nonempty, inside⟩ := matches_some_iff.1 ending
    obtain ⟨front, d, rfl⟩ := List.eq_nil_or_concat v |>.resolve_left nonempty
    refine ⟨u ++ (m ++ front), d, by simp only [List.concat_eq_append, List.append_assoc], ?_⟩
    exact inside d (by simp)
  · exact ⟨[], c, rfl, digit⟩

/-- A run is an opening and what goes on with it. -/
theorem exists_opening_of_matches {w : Text} (shape : run.Matches w) :
    ∃ opening more, w = opening ++ more ∧ (∀ c ∈ opening, opensRun c = true) ∧
      ∀ c ∈ more, continuesRun c = true := by
  rcases shape with ⟨u, _, opening, ⟨m, v, middle, ending, rfl⟩, rfl⟩ | ⟨c, digit, rfl⟩
  · refine ⟨u, m ++ v, rfl, (matches_some_iff.1 opening).2, fun c member => ?_⟩
    rcases List.mem_append.1 member with inMiddle | atEnd
    · exact middle c inMiddle
    · exact continuesRun_of_isDigit ((matches_some_iff.1 ending).2 c atEnd)
  · refine ⟨[c], [], rfl, fun d member => ?_, nofun⟩
    rw [List.mem_singleton.1 member]
    exact opensRun_of_isDigit digit

theorem isPrefix_takeWhile {accepts : Char → Bool} {w t : Text}
    (inside : ∀ c ∈ w, accepts c = true) (front : w <+: t) : w <+: t.takeWhile accepts := by
  obtain ⟨rest, rfl⟩ := front
  rw [List.takeWhile_append_of_pos inside]
  exact List.prefix_append w _

/-- A run at the front of a text lies within reach. -/
theorem isPrefix_reach {opening more t : Text} (opens : ∀ c ∈ opening, opensRun c = true)
    (goesOn : ∀ c ∈ more, continuesRun c = true) (front : opening ++ more <+: t) :
    opening ++ more <+: reach t := by
  induction opening generalizing t with
  | nil => exact (isPrefix_takeWhile goesOn front).trans (takeWhile_continuesRun_isPrefix t)
  | cons c opening ih =>
    obtain ⟨here, later⟩ := List.forall_mem_cons.1 opens
    obtain ⟨rest, rfl⟩ := front
    rw [List.cons_append, List.cons_append, reach_of_opens here]
    exact (List.prefix_cons_inj c).2 (ih later (List.prefix_append _ rest))

/-- What ends with a digit is not cut off behind the last digit. -/
theorem isPrefix_throughLastDigit {w t : Text} {d : Char} (digit : d.isDigit = true)
    (front : w ++ [d] <+: t) : w ++ [d] <+: throughLastDigit t := by
  induction t generalizing w with
  | nil => exact absurd (List.prefix_nil.1 front) (List.append_ne_nil_of_right_ne_nil w nofun)
  | cons c t ih =>
    rw [throughLastDigit]
    cases w with
    | nil =>
      obtain ⟨rfl, -⟩ := List.cons_prefix_cons.1 front
      cases throughLastDigit t with
      | nil =>
        rw [if_pos digit]
        exact List.prefix_append [d] []
      | cons e kept => exact List.prefix_append [d] (e :: kept)
    | cons e w =>
      obtain ⟨rfl, later⟩ := List.cons_prefix_cons.1 front
      have kept := ih later
      cases found : throughLastDigit t with
      | nil =>
        rw [found] at kept
        exact absurd (List.prefix_nil.1 kept) (List.append_ne_nil_of_right_ne_nil w nofun)
      | cons f more => exact List.cons_prefix_cons.2 ⟨rfl, found ▸ kept⟩

/-- Every run at the front of a text is a part of the one that is found there, which is the longest
therefore. -/
theorem isPrefix_leadingRun {w t : Text} (shape : run.Matches w) (front : w <+: t) :
    w <+: leadingRun t := by
  obtain ⟨c, rest, begins, opens⟩ := exists_opens_of_matches shape
  obtain ⟨opening, more, parts, opening_opens, more_goesOn⟩ := exists_opening_of_matches shape
  obtain ⟨early, d, ends, digit⟩ := exists_digit_of_matches shape
  have within : w <+: reach t := by
    rw [parts] at front ⊢
    exact isPrefix_reach opening_opens more_goesOn front
  have uncut : w <+: throughLastDigit (reach t) := by
    rw [ends] at within ⊢
    exact isPrefix_throughLastDigit digit within
  obtain ⟨after, rfl⟩ := front
  rw [begins, List.cons_append] at uncut ⊢
  rwa [leadingRun_of_opens opens, ← reach_of_opens opens]

/-- The run at the front of a text has the shape of a run. -/
theorem matches_leadingRun {t : Text} (found : leadingRun t ≠ []) : run.Matches (leadingRun t) := by
  have first : t.drop (leadingRun t).length ∈ run.remainders t := by
    refine List.mem_of_mem_head? ?_
    rw [head?_remainders_run, behind?, if_neg found]
    rfl
  obtain ⟨w, shape, split⟩ := mem_remainders_iff.1 first
  have whole : leadingRun t ++ t.drop (leadingRun t).length = t :=
    List.prefix_iff_eq_append.1 (leadingRun_isPrefix t)
  have same := split.symm.trans whole.symm
  exact List.append_cancel_right same ▸ shape

/-- A text is a run if it has characters and is the run at its own front. -/
theorem matches_run_iff {t : Text} : run.Matches t ↔ t ≠ [] ∧ leadingRun t = t := by
  constructor
  · intro shape
    have inside : t <+: leadingRun t := isPrefix_leadingRun shape List.prefix_rfl
    obtain ⟨c, rest, rfl, -⟩ := exists_opens_of_matches shape
    exact ⟨List.cons_ne_nil c rest,
      ((leadingRun_isPrefix _).eq_of_length_le inside.length_le)⟩
  · rintro ⟨some, same⟩
    have found : leadingRun t ≠ [] := same.symm ▸ some
    exact same ▸ matches_leadingRun found

instance (t : Text) : Decidable (run.Matches t) :=
  decidable_of_iff _ matches_run_iff.symm

/-- No run is found at the front of a text only if there is none. -/
theorem leadingRun_eq_nil_iff {t : Text} :
    leadingRun t = [] ↔ ∀ w, run.Matches w → ¬w <+: t := by
  constructor
  · intro none w shape front
    obtain ⟨c, rest, rfl, -⟩ := exists_opens_of_matches shape
    have inside := isPrefix_leadingRun shape front
    rw [none] at inside
    exact List.cons_ne_nil c rest (List.prefix_nil.1 inside)
  · intro none
    by_contra found
    exact none _ (matches_leadingRun found) (leadingRun_isPrefix t)

end Polyvoice.Numeral
