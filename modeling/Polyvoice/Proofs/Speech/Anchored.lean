import Mathlib.Data.List.Chain
import Polyvoice.Proofs.Speech.Markers

/-!
# What anchoring makes of a speech

Texts and language changes keep their order when a speech is anchored, and so do all cues that are
no language changes; the two orders leave open where the other cues, the markers, stand between the
language changes. In an anchored speech no marker stands directly in front of a language change
(`Anchored`), which settles it (`Anchored.eq_of_filter`): there is one anchored speech with these
two orders, and `anchor` finds it (`anchor_unique`).
-/

namespace Polyvoice.Speech

/-- No marker stands directly in front of a language change. -/
def Anchored (speech : Speech) : Prop :=
  speech.IsChain fun cue next => cue.isMarker = true → next.isLanguage = false

/-- What a speech has to be if it is another one with its language changes anchored. -/
structure AnchoringOf (speech anchored : Speech) : Prop where
  /-- Texts and language changes are the same, in the same order. -/
  spoken : anchored.filter (!·.isMarker) = speech.filter (!·.isMarker)
  /-- All cues but the language changes are the same, in the same order. -/
  cues : anchored.filter (!·.isLanguage) = speech.filter (!·.isLanguage)
  settled : anchored.Anchored

/-! ## One anchored speech at most -/

section Unique

variable {c d : Cue} {p q : Speech}

theorem anchored_cons_iff :
    Anchored (c :: p) ↔
      (∀ next ∈ p.head?, c.isMarker = true → next.isLanguage = false) ∧ Anchored p :=
  List.isChain_cons

/-- Behind a marker, a text comes before the next language change. -/
theorem Anchored.isLanguage_head? (anchored : Anchored (c :: p)) (marker : c.isMarker = true) :
    ∀ next ∈ (p.filter (!·.isMarker)).head?, next.isLanguage = false := by
  induction p generalizing c with
  | nil => exact fun next member => absurd member (Option.not_mem_none next)
  | cons cue rest ih =>
    obtain ⟨first, later⟩ := anchored_cons_iff.1 anchored
    by_cases waits : cue.isMarker = true
    · rw [List.filter_cons_of_neg (by simp [waits])]
      exact ih later waits
    · rw [List.filter_cons_of_pos (by simp [waits])]
      rintro next ⟨⟩
      exact first cue rfl marker

/-- Where one of two speeches with the same orders goes on with a marker, so does the other. -/
theorem Anchored.isMarker_of_filter (anchored : Anchored (c :: p))
    (spoken : (c :: p).filter (!·.isMarker) = (d :: q).filter (!·.isMarker))
    (cues : (c :: p).filter (!·.isLanguage) = (d :: q).filter (!·.isLanguage))
    (marker : c.isMarker = true) : d.isMarker = true := by
  by_contra speaks
  rw [List.filter_cons_of_neg (by simp [marker]), List.filter_cons_of_pos (by simp [speaks])]
    at spoken
  have text : d.isLanguage = false :=
    anchored.isLanguage_head? marker d (by rw [spoken]; rfl)
  have still : c.isLanguage = false := Cue.isLanguage_of_isMarker marker
  rw [List.filter_cons_of_pos (by simp [still]), List.filter_cons_of_pos (by simp [text])] at cues
  obtain ⟨rfl, -⟩ := List.cons.inj cues
  exact speaks marker

theorem eq_nil_of_filter (spoken : p.filter (!·.isMarker) = [])
    (cues : p.filter (!·.isLanguage) = []) : p = [] := by
  refine List.eq_nil_iff_forall_not_mem.2 fun cue member => ?_
  have marker : cue.isMarker = true := by simpa using List.filter_eq_nil_iff.1 spoken cue member
  have language : cue.isLanguage = true := by simpa using List.filter_eq_nil_iff.1 cues cue member
  rw [Cue.isLanguage_of_isMarker marker] at language
  cases language

/-- Two anchored speeches are the same if their texts and language changes are, and all their cues
but the language changes. -/
theorem Anchored.eq_of_filter (first : p.Anchored) (second : q.Anchored)
    (spoken : p.filter (!·.isMarker) = q.filter (!·.isMarker))
    (cues : p.filter (!·.isLanguage) = q.filter (!·.isLanguage)) : p = q := by
  induction p generalizing q with
  | nil => exact (eq_nil_of_filter spoken.symm cues.symm).symm
  | cons c p ih =>
    cases q with
    | nil => exact eq_nil_of_filter spoken cues
    | cons d q =>
      have later := (anchored_cons_iff.1 first).2
      have laterToo := (anchored_cons_iff.1 second).2
      by_cases marker : c.isMarker = true
      · have markerToo := first.isMarker_of_filter spoken cues marker
        -- both markers are the first of the cues other than language changes
        have still := Cue.isLanguage_of_isMarker marker
        have stillToo := Cue.isLanguage_of_isMarker markerToo
        rw [List.filter_cons_of_pos (by simp [still]),
          List.filter_cons_of_pos (by simp [stillToo])] at cues
        rw [List.filter_cons_of_neg (by simp [marker]),
          List.filter_cons_of_neg (by simp [markerToo])] at spoken
        obtain ⟨rfl, rest⟩ := List.cons.inj cues
        rw [ih later laterToo spoken rest]
      · have speaks : ¬d.isMarker = true := fun markerToo =>
          marker (second.isMarker_of_filter spoken.symm cues.symm markerToo)
        rw [List.filter_cons_of_pos (by simp [marker]),
          List.filter_cons_of_pos (by simp [speaks])] at spoken
        obtain ⟨rfl, rest⟩ := List.cons.inj spoken
        have restToo : p.filter (!·.isLanguage) = q.filter (!·.isLanguage) := by
          rw [List.filter_cons, List.filter_cons] at cues
          split at cues
          · exact (List.cons.inj cues).2
          · exact cues
        rw [ih later laterToo rest restToo]

end Unique

/-! ## The one that is found -/

/-- Cues that are no language changes may stand in front of an anchored speech that does not begin
with one. -/
theorem Anchored.append {held p : Speech} (anchored : p.Anchored)
    (still : ∀ cue ∈ held, cue.isLanguage = false)
    (first : ∀ next ∈ p.head?, next.isLanguage = false) : Anchored (held ++ p) := by
  induction held with
  | nil => exact anchored
  | cons cue held ih =>
    have stillLater := fun other member => still other (List.mem_cons_of_mem cue member)
    refine anchored_cons_iff.2 ⟨fun next ahead _ => ?_, ih stillLater⟩
    cases held with
    | nil => exact first next ahead
    | cons other held =>
      obtain rfl : other = next := Option.some.inj ahead
      exact stillLater other List.mem_cons_self

theorem anchored_anchorAfter {held : Speech} (still : ∀ cue ∈ held, cue.isLanguage = false)
    (speech : Speech) : Anchored (anchorAfter held speech) := by
  fun_induction anchorAfter held speech with
  | case1 held =>
    have nothing : Anchored [] := List.isChain_nil
    have waiting := nothing.append still fun _ ahead => absurd ahead (Option.not_mem_none _)
    rwa [List.append_nil] at waiting
  | case2 held code rest ih =>
    exact anchored_cons_iff.2 ⟨fun _ _ marker => absurd marker Bool.false_ne_true, ih still⟩
  | case3 held t rest ih =>
    have behind : Anchored (.text t :: anchorAfter [] rest) :=
      anchored_cons_iff.2
        ⟨fun _ _ marker => absurd marker Bool.false_ne_true, ih (List.forall_mem_nil _)⟩
    refine behind.append still ?_
    rintro next ⟨⟩
    rfl
  | case4 held cue rest language _ ih =>
    refine ih fun next member => ?_
    rcases List.mem_append.1 member with earlier | last
    · exact still next earlier
    · rw [List.mem_singleton.1 last]
      cases cue with
      | language code => exact absurd rfl (language code)
      | _ => rfl

theorem anchoringOf_anchor (speech : Speech) : AnchoringOf speech (anchor speech) where
  spoken := filter_anchorAfter_of_waiting (fun cue marker => by simp [marker]) rfl speech
  cues := filter_anchorAfter (!·.isLanguage) (fun _ => rfl) [] speech
  settled := anchored_anchorAfter (List.forall_mem_nil _) speech

/-- **A speech is anchored in one way only, and `anchor` finds it.** Texts and language changes keep
their order, all cues but the language changes keep theirs, and no marker stands directly in front
of a language change. So to anchor a speech twice is to anchor it once, and a speech stays as it is
if and only if no marker in it stands directly in front of a language change. -/
theorem anchor_unique (speech : Speech) :
    (∀ anchored, AnchoringOf speech anchored ↔ anchored = anchor speech) ∧
      anchor (anchor speech) = anchor speech ∧ (anchor speech = speech ↔ speech.Anchored) := by
  have found := anchoringOf_anchor speech
  have unique (anchored : Speech) (other : AnchoringOf speech anchored) :
      anchored = anchor speech :=
    other.settled.eq_of_filter found.settled (other.spoken.trans found.spoken.symm)
      (other.cues.trans found.cues.symm)
  have again := anchoringOf_anchor (anchor speech)
  refine ⟨fun anchored => ⟨unique anchored, ?_⟩, ?_, ?_, ?_⟩
  · rintro rfl
    exact found
  · exact unique _ ⟨again.spoken.trans found.spoken, again.cues.trans found.cues, again.settled⟩
  · intro same
    exact same ▸ found.settled
  · intro anchored
    exact (unique speech ⟨rfl, rfl, anchored⟩).symm

end Polyvoice.Speech
