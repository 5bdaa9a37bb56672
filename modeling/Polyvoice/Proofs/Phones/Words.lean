import Polyvoice.Proofs.Phones.Stresses

/-!
# Phonetic texts of several words

A blank between two words parts their tokens, but a stress mark that waits for a vowel waits behind
the blank as well. So a word that ends while a stress waits gives it to the first vowel of the next
word, if there is one and no mark of its own comes before it (`TakesStress`): the next word is read
as if it began with that mark. Other words do not depend on each other (`ofIpa_blank`).
-/

namespace Polyvoice.Phones

/-- The first vowel of the tokens has no stress mark in front of it. -/
def TakesStress (tokens : List Text) : Prop :=
  ∃ before token after, tokens = before ++ token :: after ∧ isVowel token = true ∧
    ∀ earlier ∈ before, isVowel earlier = false ∧ mark? earlier = none

section

variable {w : Option Stress} {a b token : Text} {tokens ts us xs ys : List Text}
  {degree : Stress} {c : Char}

/-! ## A stress from the front -/

theorem not_takesStress_nil : ¬TakesStress [] := by
  intro takes
  rcases takes with ⟨before, token, after, split, -⟩
  cases before <;> cases split

theorem takesStress_of_isVowel (vowel : isVowel token = true) : TakesStress (token :: tokens) :=
  ⟨[], token, tokens, rfl, vowel, fun _ member => absurd member List.not_mem_nil⟩

theorem takesStress_cons_iff (consonant : isVowel token = false) :
    TakesStress (token :: tokens) ↔ mark? token = none ∧ TakesStress tokens := by
  constructor
  · intro takes
    rcases takes with ⟨before, here, after, split, vowel, earlier⟩
    cases before with
    | nil =>
      cases split
      rw [consonant] at vowel
      cases vowel
    | cons first before =>
      cases split
      rcases List.forall_mem_cons.1 earlier with ⟨unmarked, later⟩
      exact ⟨unmarked.2, before, here, after, rfl, vowel, later⟩
  · intro takes
    rcases takes with ⟨unmarked, before, here, after, rfl, vowel, earlier⟩
    exact ⟨token :: before, here, after, rfl, vowel,
      List.forall_mem_cons.2 ⟨⟨consonant, unmarked⟩, earlier⟩⟩

/-- Only a vowel takes a stress. -/
theorem spoken_of_consonant (consonant : isVowel token = false) (w : Option Stress) :
    spoken w token = spoken none token := by
  rw [spoken, spoken]
  cases phone : phone? token with
  | none => rfl
  | some found =>
    rw [isVowel, phone] at consonant
    have still : ¬found.isVowel = true := by simpa using consonant
    dsimp only
    rw [stressBehind, stressBehind, if_neg still, if_neg still]

theorem spoken_of_vowel (vowel : isVowel token = true) (degree : Stress) :
    spoken (some degree) token = spoken none token ++ [degree.name] := by
  cases phone : phone? token with
  | none =>
    rw [isVowel, phone] at vowel
    cases vowel
  | some found =>
    rw [isVowel, phone] at vowel
    have voiced : found.isVowel = true := by simpa using vowel
    rw [spoken_of_phone phone, spoken_of_phone phone, stressBehind, stressBehind, if_pos voiced,
      if_pos voiced]
    rfl

/-- A stress that waits in front is heard if and only if the tokens take it. -/
theorem soundsFrom_eq_iff (degree : Stress) (tokens : List Text) :
    soundsFrom (some degree) tokens = soundsFrom none tokens ↔ ¬TakesStress tokens := by
  induction tokens with
  | nil => exact iff_of_true rfl not_takesStress_nil
  | cons token tokens ih =>
    rw [soundsFrom_cons, soundsFrom_cons, passed, passed]
    cases vowel : isVowel token with
    | true =>
      rw [mark?_of_isVowel vowel, spoken_of_vowel vowel]
      refine iff_of_false (fun same => ?_) (not_not_intro (takesStress_of_isVowel vowel))
      have lengths := congrArg List.length same
      simp at lengths
    | false =>
      rw [spoken_of_consonant vowel, List.append_cancel_left_eq, takesStress_cons_iff vowel]
      cases mark? token with
      | none => simpa using ih
      | some other => simp

/-! ## Two words -/

theorem soundsFrom_append (w : Option Stress) (ts us : List Text) :
    soundsFrom w (ts ++ us) = soundsFrom w ts ++ soundsFrom (ts.foldl passed w) us := by
  induction ts generalizing w with
  | nil => rfl
  | cons token ts ih =>
    rw [List.cons_append, soundsFrom_cons, soundsFrom_cons, ih, List.append_assoc, List.foldl_cons]

/-- A blank has no sound, and a stress waits on behind it. -/
theorem soundsFrom_blank (w : Option Stress) (tokens : List Text) :
    soundsFrom w ([' '] :: tokens) = soundsFrom w tokens := by
  rw [soundsFrom_cons]
  rfl

theorem soundsFrom_mark (mark : Stress.ofMark? c = some degree) (w : Option Stress)
    (tokens : List Text) : soundsFrom w ([c] :: tokens) = soundsFrom (some degree) tokens := by
  have marks : mark? [c] = some degree := mark
  rw [soundsFrom_cons, spoken_of_silent (phone?_of_mark? marks), passed, marks]
  rfl

theorem intercalate_append (first : xs ≠ []) (second : ys ≠ []) :
    [' '].intercalate (xs ++ ys) = [' '].intercalate xs ++ ' ' :: [' '].intercalate ys := by
  induction xs with
  | nil => exact absurd rfl first
  | cons x xs ih =>
    cases xs with
    | nil =>
      rcases List.exists_cons_of_ne_nil second with ⟨y, ys, rfl⟩
      rw [List.singleton_append, List.intercalate_cons_cons, List.intercalate_singleton,
        List.append_assoc]
      rfl
    | cons next xs =>
      rw [List.cons_append, List.cons_append, List.intercalate_cons_cons, ← List.cons_append,
        ih (List.cons_ne_nil next xs), List.intercalate_cons_cons]
      simp only [List.append_assoc]

theorem soundsFrom_eq_nil_iff (w : Option Stress) (tokens : List Text) :
    soundsFrom w tokens = [] ↔ phoneNames tokens = [] :=
  ((pronounced_iff w tokens _).2 rfl).eq_nil_iff

/-- Sounds can be told from what is written. -/
theorem soundsFrom_eq_of_written {v : Option Stress} (some : phoneNames tokens ≠ [])
    (same : [' '].intercalate (soundsFrom v tokens) = [' '].intercalate (soundsFrom w tokens)) :
    soundsFrom v tokens = soundsFrom w tokens := by
  have back (waits : Option Stress) :
      List.splitOn ' ' ([' '].intercalate (soundsFrom waits tokens)) = soundsFrom waits tokens := by
    have apart := ((pronounced_iff waits tokens _).2 rfl).apart
    apply List.splitOn_intercalate ' ' fun sound member => (apart sound member).2
    rwa [ne_eq, soundsFrom_eq_nil_iff]
  rw [← back v, ← back w, same]

end

/-- **Words are read one by one, a stress aside that waits at the end of the first one.** If two
phonetic texts have phones, then so does one with a blank between them. Unless a stress is marked
behind the last vowel of the first text and the first vowel of the second one is without a mark, it
has the phones of the first text and those of the second one. Else it has the phones of the first
text and those of the second one with the mark that waits in front of it, and these are others. -/
theorem ofIpa_blank {a b first second : Text} (readFirst : ofIpa a = .ok first)
    (someFirst : first ≠ []) (readSecond : ofIpa b = .ok second) (someSecond : second ≠ []) :
    ∃ ts us, Tokens a ts ∧ Tokens b us ∧
      (waiting ts = none ∨ ¬TakesStress us →
        ofIpa (a ++ ' ' :: b) = .ok (first ++ ' ' :: second)) ∧
      ∀ mark degree, waiting ts = some degree → TakesStress us →
        Stress.ofMark? mark = some degree →
        ∃ stressed, ofIpa (mark :: b) = .ok stressed ∧ stressed ≠ second ∧
          ofIpa (a ++ ' ' :: b) = .ok (first ++ ' ' :: stressed) := by
  rcases ofIpa_eq_ok_iff_tokens.1 readFirst with ⟨ts, fallsFirst, rfl⟩
  rcases ofIpa_eq_ok_iff_tokens.1 readSecond with ⟨us, fallsSecond, rfl⟩
  have soundsFirst : soundsFrom none ts ≠ [] := fun none => someFirst (by rw [none]; rfl)
  have phones : phoneNames us ≠ [] := by
    intro none
    rw [(soundsFrom_eq_nil_iff _ us).2 none] at someSecond
    exact someSecond rfl
  have whole : ofIpa (a ++ ' ' :: b) = .ok ([' '].intercalate (soundsFrom none ts) ++
      ' ' :: [' '].intercalate (soundsFrom (waiting ts) us)) := by
    have falls : Tokens (a ++ ' ' :: b) (ts ++ [' '] :: us) := fallsFirst.append rfl fallsSecond
    refine ofIpa_eq_ok_iff_tokens.2 ⟨_, falls, ?_⟩
    rw [soundsFrom_append, soundsFrom_blank, ← waiting_eq, intercalate_append soundsFirst]
    rwa [ne_eq, soundsFrom_eq_nil_iff]
  refine ⟨ts, us, fallsFirst, fallsSecond, fun apart => ?_, fun mark degree waits takes is => ?_⟩
  · have same : soundsFrom (waiting ts) us = soundsFrom none us := by
      cases waits : waiting ts with
      | none => rfl
      | some degree =>
        rw [waits] at apart
        exact (soundsFrom_eq_iff degree us).2 (apart.resolve_left (Option.some_ne_none degree))
    rw [whole, same]
  · refine ⟨[' '].intercalate (soundsFrom (some degree) us), ?_, fun same => ?_, ?_⟩
    · have part : isBreak mark = true := by rw [isBreak, is, Option.isSome_some, Bool.or_true]
      refine ofIpa_eq_ok_iff_tokens.2 ⟨_, .part part fallsSecond, ?_⟩
      rw [soundsFrom_mark is]
    · exact (soundsFrom_eq_iff degree us).1 (soundsFrom_eq_of_written phones same) takes
    · rw [whole, waits]

/-- A syllabic consonant is no vowel, so that the stress of its word waits at the end of it. -/
theorem ofIpa_blank_syllabic :
    let a := ['ˈ', 'n', '\u0329']
    let b := ['ə']
    ofIpa a = .ok ['n'] ∧ ofIpa b = .ok ['a', 'x'] ∧
      ∃ ts us, Tokens a ts ∧ Tokens b us ∧
        (waiting ts = none ∨ ¬TakesStress us →
          ofIpa (a ++ ' ' :: b) = .ok (['n'] ++ ' ' :: ['a', 'x'])) ∧
        ∀ mark degree, waiting ts = some degree → TakesStress us →
          Stress.ofMark? mark = some degree →
          ∃ stressed, ofIpa (mark :: b) = .ok stressed ∧ stressed ≠ ['a', 'x'] ∧
            ofIpa (a ++ ' ' :: b) = .ok (['n'] ++ ' ' :: stressed) := by
  intro a b
  have readFirst : ofIpa a = .ok ['n'] := by decide
  have readSecond : ofIpa b = .ok ['a', 'x'] := by decide
  exact ⟨readFirst, readSecond,
    ofIpa_blank readFirst (List.cons_ne_nil _ _) readSecond (List.cons_ne_nil _ _)⟩

/-- The stress of one word is heard in the next one. -/
theorem stress_behind_blank :
    let a := ['ˈ', 'n', '\u0329']
    let b := ['ə']
    ofIpa a = .ok ['n'] ∧ ofIpa b = .ok ['a', 'x'] ∧
      ofIpa (a ++ ' ' :: b) = .ok ['n', ' ', 'a', 'x', ' ', '1'] ∧
      ofIpa (a ++ ' ' :: b) ≠ .ok (['n'] ++ ' ' :: ['a', 'x']) := by
  decide

end Polyvoice.Phones
