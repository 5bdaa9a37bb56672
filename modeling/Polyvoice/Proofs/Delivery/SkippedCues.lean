import Polyvoice.Proofs.Delivery.NumberVoices
import Polyvoice.Proofs.Numeral.LanguageInForce
import Polyvoice.Proofs.Speech.Pieces

/-!
# Cues that are skipped

Some cues mean nothing to a voice: no voice knows what to do with an unknown one, and a plain voice
cannot be told how to sound. Such cues leave no trace in the calls. They are firm, so that no pass
looks at them, and it makes no difference whether they are left out of a speech or of the prepared
speech (`Speech.prepared_without`); and a delivery stays as it is where they stand
(`State.callsToEnd_without`).

This takes a speech whose gaps get no silence. Where gaps get some, texts that stand in a row are
joined, and a cue between two of them keeps them apart.
-/

namespace Polyvoice

namespace Cue

/-- Commands that mean nothing to any voice. -/
def isUnknown : Cue → Bool
  | .unknown _ => true
  | _ => false

/-- Cues that say how a voice should sound. -/
def shapesVoice : Cue → Bool
  | .phonetic _ _ => true
  | .pitch _ => true
  | .rate _ => true
  | .volume _ => true
  | _ => false

end Cue

/-- The default voice and all that speak a language are plain ones. -/
structure Roster.IsPlain {H : Type} (roster : Roster H) : Prop where
  default : roster.engine roster.default = .plain
  named : ∀ code h, roster.voiceFor code = some h → roster.engine h = .plain

namespace Speech

open Numeral (Speaker bracketFrom_of_silent languageBehind_of_isFirm)

/-! ## Passes over a speech without some cues -/

/-- A speech without the cues that are skipped. -/
def without (skipped : Cue → Bool) (speech : Speech) : Speech :=
  speech.filter fun cue => !skipped cue

section Passes

variable {skipped : Cue → Bool}

theorem without_cons_of_skipped {cue : Cue} (skips : skipped cue = true) (rest : Speech) :
    without skipped (cue :: rest) = without skipped rest :=
  List.filter_cons_of_neg (by simp [skips])

theorem without_cons_of_heard {cue : Cue} (heard : skipped cue = false) (rest : Speech) :
    without skipped (cue :: rest) = cue :: without skipped rest :=
  List.filter_cons_of_pos (by simp [heard])

theorem without_append (p q : Speech) :
    without skipped (p ++ q) = without skipped p ++ without skipped q :=
  List.filter_append p q

variable (firm : ∀ cue, skipped cue = true → cue.isFirm = true)

include firm

theorem heard_of_loose {cue : Cue} (loose : cue.isFirm = false) : skipped cue = false := by
  cases skips : skipped cue with
  | false => rfl
  | true =>
    rw [firm cue skips] at loose
    cases loose

theorem without_of_loose {cues : Speech} (loose : ∀ cue ∈ cues, cue.isFirm = false) :
    without skipped cues = cues := by
  refine List.filter_eq_self.2 fun cue member => ?_
  rw [heard_of_loose firm (loose cue member)]
  rfl

theorem without_inPieces (cut : Text → List Text) (speech : Speech) :
    without skipped (inPieces cut speech) = inPieces cut (without skipped speech) := by
  have heard {cue : Cue} (loose : cue.isFirm = false) : (!skipped cue) = true := by
    rw [heard_of_loose firm loose]
    rfl
  exact filter_inPieces (fun _ => heard rfl) (heard rfl) cut speech

theorem without_mapText (f : Text → Text) (speech : Speech) :
    without skipped (mapText f speech) = mapText f (without skipped speech) := by
  rw [← inPieces_single, ← inPieces_single]
  exact without_inPieces firm (fun t => [f t]) speech

theorem without_cutLong (limit : Nat) (speech : Speech) :
    without skipped (cutLong limit speech) = cutLong limit (without skipped speech) :=
  without_inPieces firm (fragments limit) speech

/-- Numbers and language changes stand where they stood. -/
theorem without_bracketFrom (speaker : Speaker) (active current : String)
    (speech : Speech) :
    without skipped (speaker.bracketFrom active current speech) =
      speaker.bracketFrom active current (without skipped speech) := by
  induction speech generalizing current with
  | nil => rfl
  | cons cue rest ih =>
    rcases cue.text_or_silent with ⟨t, rfl⟩ | silent
    · have heard : skipped (.text t) = false := heard_of_loose firm rfl
      rw [Speaker.bracketFrom, without_append, without_of_loose firm isFirm_flatMap_cues, ih,
        without_cons_of_heard heard, Speaker.bracketFrom]
    · rw [bracketFrom_of_silent silent]
      cases skips : skipped cue with
      | true =>
        rw [languageBehind_of_isFirm (firm cue skips), without_cons_of_skipped skips, ih,
          without_cons_of_skipped skips]
      | false =>
        rw [without_cons_of_heard skips, ih, without_cons_of_heard skips,
          bracketFrom_of_silent silent]

/-- Skipped cues wait for a text with the others, and keep none of them back. -/
theorem without_anchorAfter (held speech : Speech) :
    without skipped (anchorAfter held speech) =
      anchorAfter (without skipped held) (without skipped speech) := by
  fun_induction anchorAfter held speech with
  | case1 held => rfl
  | case2 held code rest ih =>
    have heard : skipped (.language code) = false := heard_of_loose firm rfl
    rw [without_cons_of_heard heard, without_cons_of_heard heard, ih, anchorAfter]
  | case3 held t rest ih =>
    have heard : skipped (.text t) = false := heard_of_loose firm rfl
    rw [without_append, without_cons_of_heard heard, without_cons_of_heard heard, ih, anchorAfter]
    rfl
  | case4 held cue rest still silent ih =>
    rw [ih, without_append]
    cases skips : skipped cue with
    | true =>
      have none : without skipped [cue] = [] := without_cons_of_skipped skips []
      rw [none, List.append_nil, without_cons_of_skipped skips]
    | false =>
      have alone : without skipped [cue] = [cue] := without_cons_of_heard skips []
      rw [alone, without_cons_of_heard skips, Delivery.anchorAfter_waits silent still]

/-- **Firm cues may be left out before a speech is prepared or behind that**, if gaps get no
silence. -/
theorem prepared_without {settings : Settings} (even : settings.gapFactor = 0)
    (spelling : DigitSpelling) (language : String) (speech : Speech) :
    (without skipped speech).prepared settings spelling language =
      without skipped (speech.prepared settings spelling language) := by
  have groups (speech : Speech) :
      grouped settings (without skipped speech) = without skipped (grouped settings speech) := by
    unfold grouped
    split
    · exact (without_mapText firm dropDigitCommas speech).symm
    · rfl
  have unspaced (speech : Speech) : spaced settings speech = speech := by
    have silent : settings.gapSilence? = none := if_pos even
    rw [spaced, silent]
  have limits (speech : Speech) :
      limited settings (without skipped speech) = without skipped (limited settings speech) := by
    unfold limited
    split
    · exact (without_cutLong firm _ speech).symm
    · rfl
  have normal (speech : Speech) : normalize settings.normalForm (without skipped speech) =
      without skipped (normalize settings.normalForm speech) :=
    (without_mapText firm settings.normalForm.apply speech).symm
  have anchors (speech : Speech) :
      anchor (without skipped speech) = without skipped (anchor speech) :=
    (without_anchorAfter firm [] speech).symm
  have brackets (speech : Speech) :
      (settings.numberSpeaker spelling language).bracket language (without skipped speech) =
        without skipped ((settings.numberSpeaker spelling language).bracket language speech) :=
    (without_bracketFrom firm _ language language speech).symm
  rw [prepared_eq, prepared_eq, groups, brackets, unspaced, unspaced, limits, normal, anchors]

end Passes

end Speech

namespace Delivery

open Speech (without without_cons_of_skipped without_cons_of_heard)

variable {H : Type} [DecidableEq H] {roster : Roster H}

/-! ## Deliveries that stay as they are -/

namespace State

variable {s : State H}

/-- Where a delivery stays as it is at skipped cues, it makes the same calls without them. What
`holds` of a state may depend on the cues that it has read. -/
theorem callsToEnd_without {skipped : Cue → Bool} (holds : State H → Prop)
    (kept : ∀ s cue, holds s → holds (s.next roster cue))
    (idle : ∀ s cue, holds s → skipped cue = true →
      s.next roster cue = s ∧ s.calls roster cue = [])
    (here : holds s) (speech : Speech) :
    s.callsToEnd roster (without skipped speech) = s.callsToEnd roster speech := by
  induction speech generalizing s with
  | nil => rfl
  | cons cue rest ih =>
    rw [callsToEnd_cons]
    cases skips : skipped cue with
    | true =>
      obtain ⟨stays, silent⟩ := idle s cue here skips
      rw [without_cons_of_skipped skips, stays, silent, List.nil_append, ih here]
    | false =>
      rw [without_cons_of_heard skips, callsToEnd_cons, ih (kept s cue here)]

/-- Nobody knows what to do with an unknown cue. -/
theorem idle_of_isUnknown (s : State H) {cue : Cue} (unknown : cue.isUnknown = true) :
    s.next roster cue = s ∧ s.calls roster cue = [] := by
  cases cue with
  | unknown kind => exact ⟨rfl, rfl⟩
  | _ => cases unknown

/-- A plain voice cannot be told how to sound. -/
theorem idle_of_shapesVoice (plain : roster.engine s.voice = .plain) {cue : Cue}
    (shapes : cue.shapesVoice = true) : s.next roster cue = s ∧ s.calls roster cue = [] := by
  have engine : (roster.voice s.voice).engine = .plain := plain
  cases cue with
  | phonetic ipa fallback => exact ⟨by simp only [next, engine], rfl⟩
  | pitch setting => exact ⟨by simp only [next, engine], rfl⟩
  | rate setting => exact ⟨by simp only [next, engine], rfl⟩
  | volume setting => exact ⟨by simp only [next, engine], rfl⟩
  | _ => cases shapes

/-- Among plain voices, the active one stays plain. -/
theorem engine_next (plain : roster.IsPlain) (active : roster.engine s.voice = .plain)
    (cue : Cue) : roster.engine (s.next roster cue).voice = .plain := by
  have engine : (roster.voice s.voice).engine = .plain := active
  cases cue with
  | language code =>
    have asked : roster.engine (target roster code).1 = .plain :=
      target_of (roster.engine · = .plain) plain.default plain.named code
    simp only [next, turned]
    split
    · exact active
    · split
      · exact active
      · rw [takenOver_voice]
        exact asked
  | _ =>
    simp only [next, engine]
    exact active

end State

/-- Unknown cues leave no trace. -/
theorem deliver_without_unknown (roster : Roster H) (speech : Speech) :
    deliver roster (without Cue.isUnknown speech) = deliver roster speech :=
  State.callsToEnd_without (fun _ => True) (fun _ _ _ => trivial)
    (fun s _ _ unknown => s.idle_of_isUnknown unknown) trivial speech

/-- Nor do cues that say how a voice should sound, among plain voices. -/
theorem deliver_without_shaping (plain : roster.IsPlain) (speech : Speech) :
    deliver roster (without Cue.shapesVoice speech) = deliver roster speech :=
  State.callsToEnd_without (fun s => roster.engine s.voice = .plain)
    (fun _ cue active => State.engine_next plain active cue)
    (fun _ _ active shapes => State.idle_of_shapesVoice active shapes) plain.default speech

end Delivery

section Compiling

variable {H : Type} [DecidableEq H]

theorem Cue.isFirm_of_isUnknown (cue : Cue) (unknown : cue.isUnknown = true) :
    cue.isFirm = true := by
  cases cue with
  | unknown kind => rfl
  | _ => cases unknown

theorem Cue.isFirm_of_shapesVoice (cue : Cue) (shapes : cue.shapesVoice = true) :
    cue.isFirm = true := by
  cases cue <;> first | rfl | cases shapes

/-- **Commands that are not understood leave no trace.** If gaps get no silence, a speech is
compiled to the same calls without the unknown cues. Among plain voices, it is compiled to the same
calls without the phonetic texts and the cues for pitch, rate and volume. -/
theorem compileCalls_without {settings : Settings} (even : settings.gapFactor = 0)
    (roster : Roster H) (spelling : DigitSpelling) (speech : Speech) :
    compileCalls settings roster spelling (speech.without Cue.isUnknown) =
        compileCalls settings roster spelling speech ∧
      (roster.IsPlain →
        compileCalls settings roster spelling (speech.without Cue.shapesVoice) =
          compileCalls settings roster spelling speech) := by
  constructor
  · rw [compileCalls, Speech.prepared_without Cue.isFirm_of_isUnknown even]
    exact Delivery.deliver_without_unknown roster _
  · intro plain
    rw [compileCalls, Speech.prepared_without Cue.isFirm_of_shapesVoice even]
    exact Delivery.deliver_without_shaping plain _

/-- Two plain voices, and all kinds of commands that are not for them. -/
theorem compileCalls_without_duet :
    let roster := { Delivery.duet (some false) with
      voice := fun chinese =>
        { (Delivery.duet none).voice chinese with engine := .plain } }
    let settings := { Settings.default with numberLanguage := some "zh" }
    let speech : Speech :=
      [.unknown "beep", .text "a".toList, .rate (.absolute 75), .phonetic "a".toList [],
        .text "b 5".toList, .language (some "zh"), .unknown "wave", .text "c".toList]
    settings.gapFactor = 0 ∧ roster.IsPlain ∧
      compileCalls settings roster (fun _ _ => none) (speech.without Cue.isUnknown) =
        compileCalls settings roster (fun _ _ => none) speech ∧
      compileCalls settings roster (fun _ _ => none) (speech.without Cue.shapesVoice) =
        compileCalls settings roster (fun _ _ => none) speech ∧
      compileCalls settings roster (fun _ _ => none) speech =
        [⟨false, .speak "ab ".toList⟩, ⟨true, .speak "5".toList⟩, ⟨true, .speak "c".toList⟩] := by
  intro roster settings speech
  have plain : roster.IsPlain := ⟨rfl, fun _ _ _ => rfl⟩
  have even : settings.gapFactor = 0 := rfl
  have skipped := compileCalls_without even roster (fun _ _ => none) speech
  exact ⟨even, plain, skipped.1, skipped.2 plain, by decide +kernel⟩

end Compiling

end Polyvoice
