import Polyvoice.Proofs.Numeral.Parting
import Polyvoice.Speech.DigitCommas

/-!
# Which commas are dropped

A comma groups the digits of a number where it has one on each side (`groupsAt`). Exactly these
commas are dropped (`dropDigitCommas_drops`): none is left between digits, so that dropping them
again changes nothing, and two digits that such a comma parted become neighbours. Neighbouring
digits are in one numeric run, whatever is around them (`Settled.exists_run`).
-/

namespace Polyvoice

namespace Numeral

open Pattern (matches_some_iff)

/-! ## Neighbouring digits -/

/-- A run that goes on with a digit is a run. -/
theorem matches_run_concat {w : Text} {d : Char} (shape : Pattern.run.Matches w)
    (digit : d.isDigit = true) : Pattern.run.Matches (w ++ [d]) := by
  have alone : (Pattern.some Char.isDigit).Matches [d] :=
    matches_some_iff.2 ⟨List.cons_ne_nil d [], by simpa using digit⟩
  rcases shape with ⟨u, _, opening, ⟨m, v, middle, ending, rfl⟩, rfl⟩ | ⟨c, single, rfl⟩
  · rcases matches_some_iff.1 ending with ⟨-, inside⟩
    have goesOn : (Pattern.some Char.isDigit).Matches (v ++ [d]) := by
      refine matches_some_iff.2 ⟨List.append_ne_nil_of_right_ne_nil v (List.cons_ne_nil d []), ?_⟩
      intro c member
      rcases List.mem_append.1 member with old | new
      · exact inside c old
      · rwa [List.mem_singleton.1 new]
    refine Or.inl ⟨u, m ++ (v ++ [d]), opening, ⟨m, v ++ [d], middle, goesOn, rfl⟩, ?_⟩
    rw [List.append_assoc, List.append_assoc]
  · have opening : (Pattern.some opensRun).Matches [c] :=
      matches_some_iff.2 ⟨List.cons_ne_nil c [], by simpa using opensRun_of_isDigit single⟩
    have none : (Pattern.many continuesRun).Matches [] := by
      intro c member
      cases member
    exact Or.inl ⟨[c], [d], opening, ⟨[], [d], none, alone, rfl⟩, rfl⟩

/-- A run ends only where no digit follows. -/
theorem RunBefore.not_isDigit {w after : Text} {d : Char} (before : RunBefore (d :: after) w) :
    d.isDigit = false := by
  refine Bool.eq_false_iff.2 fun digit => ?_
  have longer : w ++ [d] <+: w ++ d :: after :=
    ⟨after, by rw [List.append_assoc, List.singleton_append]⟩
  have length := before.longest (w ++ [d]) (matches_run_concat before.shape digit) longer
  rw [List.length_append, List.length_singleton] at length
  omega

/-- Two neighbouring digits are in one run. -/
theorem Settled.exists_run {ps : List Piece} (settled : Settled ps) {before after : Text}
    {l r : Char} (left : l.isDigit = true) (right : r.isDigit = true)
    (joined : ps.flatMap Piece.text = before ++ l :: r :: after) :
    ∃ front u v back, ps = front ++ .run (u ++ l :: r :: v) :: back ∧
      front.flatMap Piece.text ++ u = before ∧ v ++ back.flatMap Piece.text = after := by
  induction ps generalizing before with
  | nil =>
    have some : before ++ l :: r :: after ≠ [] :=
      List.append_ne_nil_of_right_ne_nil before (List.cons_ne_nil l _)
    exact absurd joined.symm some
  | cons piece ps ih =>
    rcases settled with ⟨fits, later⟩
    rw [List.flatMap_cons] at joined
    rcases List.append_eq_append_iff.1 joined with ⟨u, rfl, behind⟩ | ⟨u, here, behind⟩
    · rcases ih later behind with ⟨front, w, v, back, rfl, rfl, rfl⟩
      refine ⟨piece :: front, w, v, back, rfl, ?_, rfl⟩
      rw [List.flatMap_cons, List.append_assoc]
    · cases u with
      | nil =>
        -- the pair begins with the next piece
        have others : ps.flatMap Piece.text = [] ++ l :: r :: after := behind.symm
        rcases ih later others with ⟨front, w, v, back, rfl, empty, rfl⟩
        refine ⟨piece :: front, w, v, back, rfl, ?_, rfl⟩
        rw [List.append_nil] at here
        rw [List.flatMap_cons, List.append_assoc, empty, here, List.append_nil]
      | cons first u =>
        rcases List.cons.inj behind with ⟨same, behind⟩
        rw [← same] at here
        cases piece with
        | plain p =>
          have inside : l ∈ p := by
            rw [show p = before ++ l :: u from here]
            exact List.mem_append_right before List.mem_cons_self
          rw [fits.2.1.digitless l inside] at left
          cases left
        | run w =>
          cases u with
          | nil =>
            have ends : RunBefore (r :: after) w := by
              rw [show r :: after = ps.flatMap Piece.text from behind]
              exact fits
            rw [ends.not_isDigit] at right
            cases right
          | cons second v =>
            rcases List.cons.inj behind with ⟨next, rest⟩
            refine ⟨[], before, v, ps, ?_, rfl, rest.symm⟩
            rw [show w = before ++ l :: second :: v from here, next]
            rfl

end Numeral

namespace Speech

/-! ## Commas that group digits -/

/-- Whether a comma stands at a position of a text, between two digits. -/
def groupsAt (t : Text) : Nat → Bool
  | 0 => false
  | i + 1 => t[i]?.any Char.isDigit && t[i + 1]? == some ',' && t[i + 2]?.any Char.isDigit

/-- What is left of a part of a text, which begins at position `n`, without these commas. -/
def ungrouped (whole : Text) (n : Nat) (part : Text) : Text :=
  ((part.zipIdx n).filter fun place => !groupsAt whole place.2).map Prod.fst

section

variable {t u front back whole : Text} {c l r : Char} {i n : Nat}

theorem groupsAt_append (front t : Text) (i : Nat) :
    groupsAt (front ++ t) (front.length + (i + 1)) = groupsAt t (i + 1) := by
  have place (n : Nat) : (front ++ t)[front.length + n]? = t[n]? := by
    rw [List.getElem?_append_right (Nat.le_add_right _ n), Nat.add_sub_cancel_left]
  show ((front ++ t)[front.length + i]?.any Char.isDigit &&
      (front ++ t)[front.length + (i + 1)]? == some ',' &&
      (front ++ t)[front.length + (i + 2)]?.any Char.isDigit) = groupsAt t (i + 1)
  rw [place, place, place]
  rfl

theorem groupsAt_append_of_lt (inside : i + 1 < t.length) (u : Text) :
    groupsAt (t ++ u) i = groupsAt t i := by
  rcases i with _ | i
  · rfl
  · have place (n : Nat) (early : n < t.length) : (t ++ u)[n]? = t[n]? :=
      List.getElem?_append_left early
    rw [groupsAt, groupsAt, place i (by omega), place (i + 1) (by omega), place (i + 2) inside]

theorem groupsAt_of_ne (other : t[i]? ≠ some ',') : groupsAt t i = false := by
  cases i with
  | zero => rfl
  | succ i => simp [groupsAt, other]

theorem ne_comma_of_isDigit (digit : c.isDigit = true) : c ≠ ',' := by
  intro same
  rw [same] at digit
  cases digit

theorem groupsAt_digit (digit : c.isDigit = true) (front t : Text) :
    groupsAt (front ++ c :: t) front.length = false := by
  apply groupsAt_of_ne
  rw [List.getElem?_append_right (Nat.le_refl _), Nat.sub_self]
  intro same
  exact ne_comma_of_isDigit digit (Option.some.inj same)

theorem ungrouped_append (whole : Text) (n : Nat) (t u : Text) :
    ungrouped whole n (t ++ u) = ungrouped whole n t ++ ungrouped whole (n + t.length) u := by
  rw [ungrouped, List.zipIdx_append, List.filter_append, List.map_append]
  rfl

theorem ungrouped_cons_of_not (kept : groupsAt whole n = false) (c : Char) (t : Text) :
    ungrouped whole n (c :: t) = c :: ungrouped whole (n + 1) t := by
  rw [ungrouped, List.zipIdx_cons, List.filter_cons_of_pos (by simp [kept])]
  rfl

theorem ungrouped_cons_of_grouped (grouped : groupsAt whole n = true) (c : Char) (t : Text) :
    ungrouped whole n (c :: t) = ungrouped whole (n + 1) t := by
  rw [ungrouped, List.zipIdx_cons, List.filter_cons_of_neg (by simp [grouped])]
  rfl

theorem groupsAt_one (l c r : Char) (t : Text) :
    groupsAt (l :: c :: r :: t) 1 = (l.isDigit && c == ',' && r.isDigit) := by
  simp [groupsAt]

theorem exists_of_groupsAt_one (grouped : groupsAt (c :: t) 1 = true) :
    c.isDigit = true ∧ ∃ r u, t = ',' :: r :: u ∧ r.isDigit = true := by
  rcases t with _ | ⟨d, _ | ⟨r, t⟩⟩
  · simp [groupsAt] at grouped
  · simp [groupsAt] at grouped
  · rw [groupsAt_one, Bool.and_eq_true, Bool.and_eq_true, beq_iff_eq] at grouped
    rcases grouped with ⟨⟨left, rfl⟩, right⟩
    exact ⟨left, r, t, rfl, right⟩

/-! ## What is dropped -/

theorem dropDigitCommas_grouped (left : l.isDigit = true) (right : r.isDigit = true) (t : Text) :
    dropDigitCommas (l :: ',' :: r :: t) = l :: dropDigitCommas (r :: t) := by
  rw [dropDigitCommas, left, right]
  rfl

theorem dropDigitCommas_cons (next : groupsAt (c :: t) 1 = false) :
    dropDigitCommas (c :: t) = c :: dropDigitCommas t := by
  rw [dropDigitCommas.eq_def]
  split
  · rename_i l r rest same
    cases same
    rw [groupsAt_one] at next
    rw [if_neg (by simpa using next)]
  · rename_i d rest _ same
    cases same
    rfl
  · rename_i none
    cases none

/-- The walk over a text takes a comma between digits together with the digit in front of it, and
all else character by character. -/
theorem grouped_induction {motive : Text → Prop} (nil : motive [])
    (grouped : ∀ l r t, l.isDigit = true → r.isDigit = true →
      motive (r :: t) → motive (l :: ',' :: r :: t))
    (cons : ∀ c t, groupsAt (c :: t) 1 = false → motive t → motive (c :: t)) (t : Text) :
    motive t := by
  induction size : t.length using Nat.strongRecOn generalizing t with
  | _ n ih =>
    rcases t with _ | ⟨c, t⟩
    · exact nil
    · rw [List.length_cons] at size
      cases next : groupsAt (c :: t) 1 with
      | false => exact cons c t next (ih t.length (by omega) t rfl)
      | true =>
        rcases exists_of_groupsAt_one next with ⟨left, r, u, rfl, right⟩
        rw [List.length_cons] at size
        exact grouped c r u left right (ih (r :: u).length (by omega) (r :: u) rfl)

/-- What is left behind a front of a text, if the character that comes first is. -/
theorem dropDigitCommas_eq_ungrouped (front : Text)
    (first : groupsAt (front ++ t) front.length = false) :
    dropDigitCommas t = ungrouped (front ++ t) front.length t := by
  induction t using grouped_induction generalizing front with
  | nil => rfl
  | grouped l r t left right ih =>
    have comma : groupsAt (front ++ l :: ',' :: r :: t) (front.length + 1) = true := by
      rw [groupsAt_append front _ 0, groupsAt_one, left, right]
      rfl
    have later := ih (front ++ [l, ',']) (groupsAt_digit right _ _)
    rw [List.append_assoc, List.length_append] at later
    rw [dropDigitCommas_grouped left right, later, ungrouped_cons_of_not first,
      ungrouped_cons_of_grouped comma]
    rfl
  | cons c t next ih =>
    have later := ih (front ++ [c])
    rw [List.append_assoc, List.length_append] at later
    rw [dropDigitCommas_cons next, ungrouped_cons_of_not first]
    refine congrArg (c :: ·) (later ?_)
    rw [← next]
    exact groupsAt_append front (c :: t) 0

theorem dropDigitCommas_eq (t : Text) : dropDigitCommas t = ungrouped t 0 t :=
  dropDigitCommas_eq_ungrouped [] rfl

/-- The first character of a text stays. -/
theorem exists_of_dropDigitCommas_eq_cons (found : dropDigitCommas t = c :: u) :
    ∃ v, t = c :: v := by
  rcases t with _ | ⟨d, v⟩
  · cases found
  · rw [dropDigitCommas_eq, ungrouped_cons_of_not rfl] at found
    exact ⟨v, congrArg (· :: v) (List.cons.inj found).1⟩

/-- No comma is left between digits. -/
theorem groupsAt_dropDigitCommas (t : Text) (i : Nat) :
    groupsAt (dropDigitCommas t) i = false := by
  induction t using grouped_induction generalizing i with
  | nil => exact groupsAt_of_ne (by simp [dropDigitCommas])
  | grouped l r t left right ih =>
    rw [dropDigitCommas_grouped left right]
    match i with
    | 0 => rfl
    | 1 =>
      refine Bool.eq_false_iff.2 fun grouped => ?_
      rcases exists_of_groupsAt_one grouped with ⟨-, d, u, found, -⟩
      rcases exists_of_dropDigitCommas_eq_cons found with ⟨v, same⟩
      exact ne_comma_of_isDigit right (List.cons.inj same).1
    | i + 2 => exact ih (i + 1)
  | cons c t next ih =>
    rw [dropDigitCommas_cons next]
    match i with
    | 0 => rfl
    | 1 =>
      refine Bool.eq_false_iff.2 fun grouped => ?_
      rcases exists_of_groupsAt_one grouped with ⟨left, r, u, found, right⟩
      rcases exists_of_dropDigitCommas_eq_cons found with ⟨v, rfl⟩
      rw [dropDigitCommas_cons (rfl : groupsAt (',' :: v) 1 = false)] at found
      rcases exists_of_dropDigitCommas_eq_cons (List.cons.inj found).2 with ⟨w, rfl⟩
      rw [groupsAt_one, left, right] at next
      cases next
    | i + 2 => exact ih (i + 1)

theorem ungrouped_of_none (none : ∀ i, groupsAt whole i = false) (n : Nat) (t : Text) :
    ungrouped whole n t = t := by
  induction t generalizing n with
  | nil => rfl
  | cons c t ih => rw [ungrouped_cons_of_not (none n), ih]

/-- What stands up to a digit is left as it is without what follows it. -/
theorem ungrouped_append_digit (digit : c.isDigit = true) (front back : Text) :
    ungrouped (front ++ c :: back) 0 (front ++ [c]) = dropDigitCommas (front ++ [c]) := by
  rw [dropDigitCommas_eq]
  refine congrArg (List.map Prod.fst) (List.filter_congr fun place member => ?_)
  have within : place.2 < front.length + 1 := by
    have early := (List.mem_zipIdx member).2.1
    rwa [Nat.zero_add, List.length_append] at early
  refine congrArg (! ·) ?_
  rcases Nat.lt_succ_iff_lt_or_eq.1 within with before | here
  · have inside : place.2 + 1 < (front ++ [c]).length := by
      rw [List.length_append, List.length_singleton]
      omega
    rw [List.append_cons]
    exact groupsAt_append_of_lt inside back
  · rw [here, groupsAt_digit digit front back]
    exact (groupsAt_digit digit front []).symm

/-- What stands on one side of a comma between digits is left as it is without the other side. -/
theorem dropDigitCommas_append_grouped (left : l.isDigit = true) (right : r.isDigit = true)
    (front back : Text) :
    dropDigitCommas (front ++ l :: ',' :: r :: back) =
      dropDigitCommas (front ++ [l]) ++ dropDigitCommas (r :: back) := by
  let whole := front ++ l :: ',' :: r :: back
  have parts : whole = (front ++ [l]) ++ ',' :: r :: back := List.append_cons front l _
  have comma : groupsAt whole (front.length + 1) = true := by
    rw [groupsAt_append front _ 0, groupsAt_one, left, right]
    rfl
  have behind := dropDigitCommas_eq_ungrouped (front ++ [l, ',']) (t := r :: back)
    (groupsAt_digit right _ back)
  rw [List.append_assoc, List.length_append] at behind
  have length : (front ++ [l]).length = front.length + 1 := List.length_append
  calc dropDigitCommas whole
    _ = ungrouped whole 0 ((front ++ [l]) ++ ',' :: r :: back) := by
      rw [dropDigitCommas_eq, ← parts]
    _ = ungrouped whole 0 (front ++ [l]) ++
          ungrouped whole (front.length + 1) (',' :: r :: back) := by
      rw [ungrouped_append, Nat.zero_add, length]
    _ = dropDigitCommas (front ++ [l]) ++ ungrouped whole (front.length + 2) (r :: back) := by
      rw [ungrouped_append_digit left, ungrouped_cons_of_grouped comma]
    _ = dropDigitCommas (front ++ [l]) ++ dropDigitCommas (r :: back) := by
      rw [behind]
      rfl

/-- A digit at the end of a text stays. -/
theorem exists_dropDigitCommas_concat (digit : c.isDigit = true) (front : Text) :
    ∃ before, dropDigitCommas (front ++ [c]) = before ++ [c] := by
  have kept := groupsAt_digit digit front []
  rw [dropDigitCommas_eq, ungrouped_append, Nat.zero_add, ungrouped_cons_of_not kept]
  exact ⟨_, rfl⟩

end

/-- **Exactly the commas between digits are dropped.** A character of a text is dropped if it is a
comma with a digit on each side, and all others stay, in their order; no such comma is left, so that
a second time nothing is dropped. Two digits that were parted by one comma become neighbours, with
what was left of the text on either side of them, and they are in the same numeric run. -/
theorem dropDigitCommas_drops (t : Text) :
    dropDigitCommas t = (t.zipIdx.filter fun place => !groupsAt t place.2).map Prod.fst ∧
      (∀ i, groupsAt (dropDigitCommas t) i = false) ∧
      dropDigitCommas (dropDigitCommas t) = dropDigitCommas t ∧
      ∀ front l r back, l.isDigit = true → r.isDigit = true →
        t = front ++ l :: ',' :: r :: back →
        ∃ before after, dropDigitCommas (front ++ [l]) = before ++ [l] ∧
          dropDigitCommas (r :: back) = r :: after ∧
          dropDigitCommas t = before ++ l :: r :: after ∧
          ∃ ps u v qs, Numeral.pieces (dropDigitCommas t) = ps ++ .run (u ++ l :: r :: v) :: qs ∧
            ps.flatMap Numeral.Piece.text ++ u = before ∧
            v ++ qs.flatMap Numeral.Piece.text = after := by
  refine ⟨dropDigitCommas_eq t, groupsAt_dropDigitCommas t, ?_, ?_⟩
  · rw [dropDigitCommas_eq (dropDigitCommas t),
      ungrouped_of_none (groupsAt_dropDigitCommas t) 0 (dropDigitCommas t)]
  · intro front l r back left right parts
    rcases exists_dropDigitCommas_concat left front with ⟨before, inFront⟩
    have first := dropDigitCommas_eq (r :: back)
    rw [ungrouped_cons_of_not rfl] at first
    have joined := dropDigitCommas_append_grouped left right front back
    rw [← parts, inFront, first, List.append_assoc, List.singleton_append] at joined
    have whole := Numeral.flatMap_text_cutRuns (dropDigitCommas t)
    have settled := Numeral.settled_cutRuns (dropDigitCommas t)
    rcases settled.exists_run left right (whole.trans joined) with ⟨ps, u, v, qs, cut, fore, aft⟩
    refine ⟨before, _, inFront, first, joined, ps, u, v, qs, ?_, fore, aft⟩
    rw [← cut, Numeral.pieces, joined, List.isEmpty_eq_false_iff.2 (by simp)]
    rfl

/-- A digit between two commas, of which both are dropped, and commas that stay. -/
theorem dropDigitCommas_drops_shared :
    let t := "1,2,3 ,4,,5".toList
    dropDigitCommas t = "123 ,4,,5".toList ∧
      ∃ ps u v qs,
        Numeral.pieces (dropDigitCommas t) = ps ++ .run (u ++ '2' :: '3' :: v) :: qs := by
  intro t
  have drops := (dropDigitCommas_drops t).2.2.2 "1,".toList '2' '3' " ,4,,5".toList (by decide)
    (by decide) rfl
  rcases drops with ⟨before, after, -, -, -, ps, u, v, qs, cut, -, -⟩
  exact ⟨by decide, ps, u, v, qs, cut⟩

end Speech

end Polyvoice
