import Mathlib.Data.List.Chain
import Polyvoice.Proofs.Speech.Gaps

/-!
# Silence in the gaps of a speech

A speech falls into cues that are no texts and the stretches of text between them (`parted`). What
`pauseAtGaps` makes of it hangs on these only, however a stretch is made up of texts: the cues stay,
and each stretch is cut at its gaps (`pauseAtGaps_eq`). Each silence that is put in stands between
an ideograph and another one (`exists_meets_of_pausedText`), and once a speech is paused there is no
gap left in it (`gapfree_pauseAtGaps`).
-/

namespace Polyvoice.Speech

/-! ## Stretches of text between cues -/

/-- The text in front of the first cue that is no text, and each such cue with the text between it
and the next one. -/
def parted : Speech → Text × List (Cue × Text)
  | [] => ([], [])
  | .text t :: rest => (t ++ (parted rest).1, (parted rest).2)
  | cue :: rest => ([], (cue, (parted rest).1) :: (parted rest).2)

/-- A speech that begins with `front` and goes on with cues, each with what stands behind it. -/
def assembled (front : Speech) (parts : List (Cue × Speech)) : Speech :=
  front ++ parts.flatMap fun part => part.1 :: part.2

/-- A stretch of text as one text, if it is not empty. -/
def joinedText (t : Text) : Speech :=
  if t = [] then [] else [.text t]

/-- A stretch of text with a silence in each of its gaps. -/
def pausedText (ms : UInt32) (t : Text) : Speech :=
  if t = [] then [] else separated (.silence ms) (cutGaps t)

theorem assembled_cons (front : Speech) (part : Cue × Speech) (parts : List (Cue × Speech)) :
    assembled front (part :: parts) = front ++ part.1 :: assembled part.2 parts :=
  rfl

theorem parted_of_silent {cue : Cue} (silent : ∀ t, cue ≠ .text t) (rest : Speech) :
    parted (cue :: rest) = ([], (cue, (parted rest).1) :: (parted rest).2) := by
  cases cue with
  | text t => exact absurd rfl (silent t)
  | _ => rfl

theorem silent_of_mem_parted {speech : Speech} {part : Cue × Text}
    (member : part ∈ (parted speech).2) (t : Text) : part.1 ≠ .text t := by
  fun_induction parted speech with
  | case1 => cases member
  | case2 u rest ih => exact ih member
  | case3 cue rest silent ih =>
    rcases List.mem_cons.1 member with rfl | later
    · exact silent t
    · exact ih later

/-- Speeches that are parted in the same way are so behind others. -/
theorem parted_append_congr {p q : Speech} (same : parted p = parted q) (front : Speech) :
    parted (front ++ p) = parted (front ++ q) := by
  induction front with
  | nil => exact same
  | cons cue front ih =>
    rcases cue.text_or_silent with ⟨t, rfl⟩ | silent
    · rw [List.cons_append, List.cons_append, parted, parted, ih]
    · rw [List.cons_append, List.cons_append, parted_of_silent silent, parted_of_silent silent, ih]

/-- Texts in a row are one stretch. -/
theorem parted_texts_append (ts : List Text) (rest : Speech) :
    parted (ts.map .text ++ rest) = parted (.text ts.flatten :: rest) := by
  induction ts with
  | nil => rfl
  | cons t ts ih =>
    rw [List.map_cons, List.cons_append, parted, ih, parted, parted, List.flatten_cons,
      List.append_assoc]

/-! ## Stretches that are joined and paused -/

theorem consText_joinedText (t u : Text) {rest : Speech} (silent : ∀ v, .text v ∉ rest.head?) :
    consText t (joinedText u ++ rest) = joinedText (t ++ u) ++ rest := by
  by_cases none : u = []
  · subst none
    rw [joinedText, if_pos rfl, List.nil_append, List.append_nil, consText, joinedText]
    · by_cases empty : t = []
      · rw [if_pos empty, if_pos (List.isEmpty_iff.2 empty), List.nil_append]
      · rw [if_neg empty, if_neg (mt List.isEmpty_iff.1 empty), List.singleton_append]
    · rintro v more rfl
      exact silent v rfl
  · have some : t ++ u ≠ [] := List.append_ne_nil_of_right_ne_nil t none
    rw [joinedText, if_neg none, joinedText, if_neg some]
    rfl

/-- Each stretch of a speech is joined to one text. -/
theorem joinTexts_eq (speech : Speech) :
    joinTexts speech = assembled (joinedText (parted speech).1)
      ((parted speech).2.map fun part => (part.1, joinedText part.2)) := by
  fun_induction joinTexts speech with
  | case1 => rfl
  | case2 t rest ih =>
    rw [ih, parted, assembled, assembled, consText_joinedText]
    intro v first
    cases parts : (parted rest).2 with
    | nil =>
      rw [parts] at first
      cases first
    | cons part parts' =>
      rw [parts] at first
      have member : part ∈ (parted rest).2 := parts ▸ List.mem_cons_self
      exact silent_of_mem_parted member v (Option.some.inj first)
  | case3 cue rest silent ih =>
    rw [ih, parted_of_silent silent]
    rfl

theorem flatMap_assembled {f : Cue → Speech} {parts : List (Cue × Speech)}
    (same : ∀ part ∈ parts, f part.1 = [part.1]) (front : Speech) :
    (assembled front parts).flatMap f =
      assembled (front.flatMap f) (parts.map fun part => (part.1, part.2.flatMap f)) := by
  induction parts generalizing front with
  | nil => simp [assembled]
  | cons part parts ih =>
    obtain ⟨here, later⟩ := List.forall_mem_cons.1 same
    rw [assembled_cons, List.flatMap_append, List.flatMap_cons, here, List.singleton_append,
      ih later, List.map_cons, assembled_cons]

theorem flatMap_joinedText (f : Cue → Speech) (t : Text) :
    (joinedText t).flatMap f = if t = [] then [] else f (.text t) := by
  unfold joinedText
  split
  · rfl
  · exact List.flatMap_singleton f (.text t)

/-- The cues that are no texts stay, and each stretch between them is paused. -/
theorem pauseAtGaps_eq (ms : UInt32) (speech : Speech) :
    pauseAtGaps ms speech = assembled (pausedText ms (parted speech).1)
      ((parted speech).2.map fun part => (part.1, pausedText ms part.2)) := by
  rw [pauseAtGaps, joinTexts_eq, flatMap_assembled]
  · simp only [List.map_map, Function.comp_def, flatMap_joinedText]
    rfl
  · intro part member
    obtain ⟨stretch, listed, rfl⟩ := List.mem_map.1 member
    have silent := silent_of_mem_parted listed
    dsimp only
    split
    · rename_i t same
      exact absurd same (silent t)
    · rfl

/-! ## What stands around a silence -/

/-- A text ends with an ideograph, and the next one begins with one. -/
def Meets (t u : Text) : Prop :=
  (∃ c ∈ t.getLast?, isIdeograph c = true) ∧ ∃ c ∈ u.head?, isIdeograph c = true

theorem exists_cutGaps_cons (c : Char) (t : Text) :
    ∃ piece pieces, cutGaps (c :: t) = (c :: piece) :: pieces := by
  rw [cutGaps]
  split
  · exact ⟨[], _, rfl⟩
  · cases cutGaps t with
    | nil => exact ⟨[], [], rfl⟩
    | cons piece pieces => exact ⟨piece, pieces, rfl⟩

/-- The pieces of a text are parted between ideographs. -/
theorem isChain_cutGaps (t : Text) : (cutGaps t).IsChain Meets := by
  fun_induction cutGaps t with
  | case1 => exact List.isChain_singleton []
  | case2 c rest after found ih =>
    split at found
    · rename_i ideograph
      obtain ⟨-, -, -, -, d, first, next⟩ := afterGap?_eq_some_iff.1 found
      obtain ⟨more, rfl⟩ := List.head?_eq_some_iff.1 first
      obtain ⟨piece, pieces, split⟩ := exists_cutGaps_cons d more
      rw [split] at ih ⊢
      exact List.isChain_cons_cons.2 ⟨⟨⟨c, rfl, ideograph⟩, d, rfl, next⟩, ih⟩
    · cases found
  | case3 c rest none ih =>
    cases pieces : cutGaps rest with
    | nil => exact List.isChain_singleton [c]
    | cons piece others =>
      rw [pieces] at ih
      refine List.isChain_cons.2 ⟨fun next following => ?_, (List.isChain_cons.1 ih).2⟩
      obtain ⟨⟨d, last, ideograph⟩, begins⟩ := (List.isChain_cons.1 ih).1 next following
      exact ⟨⟨d, List.mem_getLast?_cons last, ideograph⟩, begins⟩

/-- A silence between pieces stands between two texts that meet. -/
theorem exists_meets_of_separated {ms : UInt32} {pieces : List Text}
    (meets : pieces.IsChain Meets) {front behind : Speech}
    (split : separated (.silence ms) pieces = front ++ .silence ms :: behind) :
    ∃ t u, .text t ∈ front.getLast? ∧ .text u ∈ behind.head? ∧ Meets t u := by
  induction pieces generalizing front with
  | nil => cases front <;> cases split
  | cons t pieces ih =>
    cases pieces with
    | nil =>
      cases front with
      | nil => cases split
      | cons cue front => cases front <;> cases split
    | cons u pieces =>
      obtain ⟨here, later⟩ := List.isChain_cons_cons.1 meets
      rw [separated_cons] at split
      cases front with
      | nil => cases split
      | cons cue front =>
        obtain ⟨rfl, rest⟩ := List.cons.inj split
        cases front with
        | nil =>
          obtain ⟨-, rfl⟩ := List.cons.inj rest
          refine ⟨t, u, rfl, ?_, here⟩
          cases pieces <;> rfl
        | cons other front =>
          obtain ⟨-, rest⟩ := List.cons.inj rest
          obtain ⟨t', u', last, first, meet⟩ := ih later rest
          exact ⟨t', u', List.mem_getLast?_cons (List.mem_getLast?_cons last), first, meet⟩

/-! ## Speeches without gaps -/

/-- No two texts stand in a row. -/
def TextsApart (speech : Speech) : Prop :=
  speech.IsChain fun cue next => (∃ t, cue = .text t) → ∀ u, next ≠ .text u

/-- There is nothing left to join or to pause in a speech. -/
structure Gapfree (speech : Speech) : Prop where
  apart : speech.TextsApart
  worded : .text [] ∉ speech
  gapless : ∀ t, .text t ∈ speech → Gapless t

theorem textsApart_cons_iff {cue : Cue} {speech : Speech} :
    TextsApart (cue :: speech) ↔
      (∀ next ∈ speech.head?, (∃ t, cue = .text t) → ∀ u, next ≠ .text u) ∧
        speech.TextsApart :=
  List.isChain_cons

theorem TextsApart.cons_silent {cue : Cue} {speech : Speech} (apart : speech.TextsApart)
    (silent : ∀ t, cue ≠ .text t) : TextsApart (cue :: speech) := by
  refine textsApart_cons_iff.2 ⟨fun _ _ is => ?_, apart⟩
  obtain ⟨t, same⟩ := is
  exact absurd same (silent t)

/-- Texts that stand apart are not joined, and none is left out if none is empty. -/
theorem TextsApart.joinTexts_eq {speech : Speech} (apart : speech.TextsApart)
    (worded : .text [] ∉ speech) : joinTexts speech = speech := by
  induction speech with
  | nil => rfl
  | cons cue rest ih =>
    obtain ⟨first, later⟩ := textsApart_cons_iff.1 apart
    have same := ih later fun member => worded (List.mem_cons_of_mem cue member)
    rcases cue.text_or_silent with ⟨t, rfl⟩ | silent
    · have some : ¬t.isEmpty = true := fun none =>
        worded (List.isEmpty_iff.1 none ▸ List.mem_cons_self)
      rw [joinTexts, same, consText, if_neg some]
      rintro u more rfl
      exact first (.text u) rfl ⟨t, rfl⟩ u rfl
    · rw [joinTexts, same]
      exact fun t is => silent t is

/-- A text without gaps is one piece. -/
theorem Gapless.cutGaps_eq {t : Text} (gapless : Gapless t) : cutGaps t = [t] := by
  obtain ⟨⟨first, rest⟩, cut, pieces⟩ := exists_cutAtGaps t
  cases rest with
  | nil =>
    have whole : first = t := (List.append_nil first).symm.trans cut.whole
    rw [← pieces, ← whole]
    rfl
  | cons part rest =>
    have member : (first, part.1, part.2 ++ Cutting.tail rest) ∈
        (Cutting.mk first (part :: rest)).cutOut := List.mem_cons_self
    exact absurd ((cut.gaps _ _ _).1 member) (gapless _ _ _)

/-- Such a speech stays as it is. -/
theorem Gapfree.pauseAtGaps_eq {speech : Speech} (free : speech.Gapfree) (ms : UInt32) :
    pauseAtGaps ms speech = speech := by
  rw [pauseAtGaps, free.apart.joinTexts_eq free.worded]
  conv_rhs => rw [← List.flatMap_singleton' speech]
  refine List.flatMap_congr fun cue member => ?_
  rcases cue.text_or_silent with ⟨t, rfl⟩ | silent
  · dsimp only
    rw [(free.gapless t member).cutGaps_eq]
    rfl
  · cases cue with
    | text t => exact absurd rfl (silent t)
    | _ => rfl

/-! ## Paused speeches -/

theorem TextsApart.append {p q : Speech} (first : p.TextsApart) (second : q.TextsApart)
    (silent : ∀ t, .text t ∉ q.head?) : TextsApart (p ++ q) := by
  refine List.isChain_append.2 ⟨first, second, fun _ _ next begins _ u same => ?_⟩
  exact silent u (same ▸ begins)

theorem textsApart_separated (ms : UInt32) (pieces : List Text) :
    TextsApart (separated (.silence ms) pieces) := by
  induction pieces with
  | nil => exact List.isChain_nil
  | cons t pieces ih =>
    cases pieces with
    | nil => exact List.isChain_singleton _
    | cons u pieces =>
      rw [separated_cons]
      refine textsApart_cons_iff.2 ⟨?_, ih.cons_silent (silence_ne_text ms)⟩
      rintro next ⟨⟩ - v
      exact silence_ne_text ms v

theorem textsApart_pausedText (ms : UInt32) (t : Text) : TextsApart (pausedText ms t) := by
  unfold pausedText
  split
  · exact List.isChain_nil
  · exact textsApart_separated ms (cutGaps t)

/-- Texts stand apart in a speech if they do so between the cues that are no texts. -/
theorem textsApart_assembled {front : Speech} {parts : List (Cue × Speech)}
    (apart : front.TextsApart) (silent : ∀ part ∈ parts, ∀ t, part.1 ≠ .text t)
    (later : ∀ part ∈ parts, part.2.TextsApart) : TextsApart (assembled front parts) := by
  induction parts generalizing front with
  | nil =>
    rw [assembled, List.flatMap_nil, List.append_nil]
    exact apart
  | cons part parts ih =>
    obtain ⟨silentHere, silentLater⟩ := List.forall_mem_cons.1 silent
    obtain ⟨apartHere, apartLater⟩ := List.forall_mem_cons.1 later
    have behind : TextsApart (part.1 :: assembled part.2 parts) :=
      (ih apartHere silentLater apartLater).cons_silent silentHere
    exact apart.append behind fun t first => silentHere t (Option.some.inj first)

/-- A paused speech has no gaps left. -/
theorem gapfree_pauseAtGaps (ms : UInt32) (speech : Speech) :
    Gapfree (pauseAtGaps ms speech) where
  apart := by
    rw [pauseAtGaps_eq]
    refine textsApart_assembled (textsApart_pausedText ms _) (fun part member => ?_)
      fun part member => ?_
    · obtain ⟨stretch, listed, rfl⟩ := List.mem_map.1 member
      exact silent_of_mem_parted listed
    · obtain ⟨stretch, -, rfl⟩ := List.mem_map.1 member
      exact textsApart_pausedText ms stretch.2
  worded := empty_notMem_pauseAtGaps ms speech
  gapless t member := by
    obtain ⟨u, -, piece⟩ := exists_of_text_mem_pauseAtGaps member
    obtain ⟨cutting, cut, pieces⟩ := exists_cutAtGaps u
    exact cut.gapless t (pieces ▸ piece)

/-- What a stretch of text becomes: its pieces with a silence in place of each gap. -/
def PausedAs (ms : UInt32) (t : Text) (paused : Speech) : Prop :=
  ∃ cutting, CutAtGaps t cutting ∧
    paused = if t = [] then [] else separated (.silence ms) cutting.pieces

/-- How a speech is paused. -/
structure Pausing (ms : UInt32) (speech paused : Speech) : Prop where
  /-- The cues that are no texts are the same, and between them are the same stretches of text, but
  with silences for gaps. Each of these silences stands between two texts, of which the first one
  ends with an ideograph and the second one begins with one. -/
  stretches : ∃ front parts, paused = assembled front parts ∧
    PausedAs ms (parted speech).1 front ∧
    List.Forall₂ (fun stretch part => part.1 = stretch.1 ∧ PausedAs ms stretch.2 part.2)
      (parted speech).2 parts ∧
    ∀ stretch ∈ front :: parts.map Prod.snd, ∀ before after,
      stretch = before ++ .silence ms :: after →
        ∃ t u, .text t ∈ before.getLast? ∧ .text u ∈ after.head? ∧ Meets t u
  worded : .text [] ∉ paused

theorem pausedAs_pausedText (ms : UInt32) (t : Text) : PausedAs ms t (pausedText ms t) := by
  obtain ⟨cutting, cut, pieces⟩ := exists_cutAtGaps t
  exact ⟨cutting, cut, by rw [pausedText, pieces]⟩

theorem exists_meets_of_pausedText {ms : UInt32} {t : Text} {before after : Speech}
    (split : pausedText ms t = before ++ .silence ms :: after) :
    ∃ u v, .text u ∈ before.getLast? ∧ .text v ∈ after.head? ∧ Meets u v := by
  unfold pausedText at split
  split at split
  · cases before <;> cases split
  · exact exists_meets_of_separated (isChain_cutGaps t) split

theorem pausing_pauseAtGaps (ms : UInt32) (speech : Speech) :
    Pausing ms speech (pauseAtGaps ms speech) where
  stretches := by
    refine ⟨_, _, pauseAtGaps_eq ms speech, pausedAs_pausedText ms _, ?_, ?_⟩
    · refine List.forall₂_map_right_iff.2 (List.forall₂_same.2 fun stretch _ => ?_)
      exact ⟨rfl, pausedAs_pausedText ms stretch.2⟩
    · intro stretch member before after split
      rw [List.map_map] at member
      rcases List.mem_cons.1 member with rfl | later
      · exact exists_meets_of_pausedText split
      · obtain ⟨part, -, rfl⟩ := List.mem_map.1 later
        exact exists_meets_of_pausedText split
  worded := empty_notMem_pauseAtGaps ms speech

/-- **Silence goes into the gaps of a speech, however its text is made up.** Speeches with the same
text between the same cues get the same silences; so texts may be cut and joined before, and empty
ones put in or left out. All cues that are no texts stay where they are, each stretch between them
is cut at its gaps with a silence in each, no text is empty, and there is nothing to do a second
time. -/
theorem pauseAtGaps_pauses (ms : UInt32) :
    (∀ p q, parted p = parted q → pauseAtGaps ms p = pauseAtGaps ms q) ∧
      (∀ (p : Speech) (ts : List Text) (q : Speech),
        pauseAtGaps ms (p ++ ts.map .text ++ q) = pauseAtGaps ms (p ++ .text ts.flatten :: q)) ∧
      (∀ speech, Pausing ms speech (pauseAtGaps ms speech)) ∧
      ∀ speech, pauseAtGaps ms (pauseAtGaps ms speech) = pauseAtGaps ms speech := by
  have congr (p q : Speech) (same : parted p = parted q) :
      pauseAtGaps ms p = pauseAtGaps ms q := by
    rw [pauseAtGaps_eq, pauseAtGaps_eq, same]
  refine ⟨congr, fun p ts q => ?_, pausing_pauseAtGaps ms, fun speech => ?_⟩
  · rw [List.append_assoc]
    exact congr _ _ (parted_append_congr (parted_texts_append ts q) p)
  · exact (gapfree_pauseAtGaps ms speech).pauseAtGaps_eq ms

/-- A gap may lie across three texts, but not across a cue. -/
example : pauseAtGaps 10 [.text ['中'], .text [' '], .text ['文'], .cut, .text [' ', '字']] =
    [.text ['中'], .silence 10, .text ['文'], .cut, .text [' ', '字']] := by
  decide +kernel

end Polyvoice.Speech
