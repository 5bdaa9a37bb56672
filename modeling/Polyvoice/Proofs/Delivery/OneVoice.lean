import Polyvoice.Proofs.Delivery.Congruence
import Polyvoice.Proofs.Delivery.NumberVoices

/-!
# One voice for all languages

Where one voice speaks all languages, language changes ask for nothing. The delivery of a speech is
that of the speech without them (`State.callsToEnd_unvoiced`). If the voice hears texts in a row as
one text, they may come in pieces as well (`State.callsToEnd_inTexts`). So it makes no difference
whether numbers are put in a language of their own and language changes are anchored
(`compileCalls_of_hasOneVoice`).
-/

namespace Polyvoice

/-- The default voice is the only one that speaks any language. -/
def Roster.HasOneVoice {H : Type} (roster : Roster H) : Prop :=
  ∀ code h, roster.voiceFor code = some h → h = roster.default

namespace Speech

open Numeral (Speaker pieces)

/-- A speech without language changes. -/
def unvoiced (speech : Speech) : Speech :=
  speech.filter fun cue => !cue.isLanguage

/-- A speech with each text in pieces. -/
def inTexts (cut : Text → List Text) (speech : Speech) : Speech :=
  speech.flatMap fun
    | .text t => (cut t).map .text
    | cue => [cue]

theorem unvoiced_append (p q : Speech) : unvoiced (p ++ q) = unvoiced p ++ unvoiced q :=
  List.filter_append p q

theorem unvoiced_cons_of_still {cue : Cue} (still : ∀ code, cue ≠ .language code) (rest : Speech) :
    unvoiced (cue :: rest) = cue :: unvoiced rest := by
  cases cue with
  | language code => exact absurd rfl (still code)
  | _ => rfl

theorem unvoiced_anchor (speech : Speech) : unvoiced (anchor speech) = unvoiced speech :=
  filter_anchorAfter _ (fun _ => rfl) [] speech

/-- A piece of a text is a text of its own, language changes left aside. -/
theorem unvoiced_cues {speaker : Speaker} (value : speaker.reading = .asValue)
    {piece : Numeral.Piece} (short : piece.isShort = true) (current : String) :
    unvoiced (speaker.cues current piece) = [.text piece.text] := by
  cases piece with
  | plain t => rfl
  | run t =>
    have spoken : speaker.spoken t = t := spoken_of_short value (of_decide_eq_true short)
    rw [Speaker.cues, spoken]
    rfl

theorem unvoiced_flatMap_cues {speaker : Speaker} (value : speaker.reading = .asValue)
    {ps : List Numeral.Piece} (short : ∀ piece ∈ ps, piece.isShort = true) (current : String) :
    unvoiced (ps.flatMap (speaker.cues current)) = (ps.map Numeral.Piece.text).map .text := by
  induction ps with
  | nil => rfl
  | cons piece rest ih =>
    have later := ih fun other member => short other (List.mem_cons_of_mem piece member)
    have here := unvoiced_cues value (short piece List.mem_cons_self) current
    rw [List.flatMap_cons, unvoiced_append, here, later]
    rfl

/-- Numbers in a language of their own are pieces of their texts, language changes left aside. -/
theorem unvoiced_bracketFrom {speaker : Speaker} (value : speaker.reading = .asValue)
    {speech : Speech} (short : speech.ShortRuns) (active current : String) :
    unvoiced (speaker.bracketFrom active current speech) =
      inTexts (fun t => (pieces t).map Numeral.Piece.text) (unvoiced speech) := by
  induction speech generalizing current with
  | nil => rfl
  | cons cue rest ih =>
    have later (current : String) := ih
      (fun other member => short other (List.mem_cons_of_mem cue member)) current
    cases cue with
    | text t =>
      have here : unvoiced ((pieces t).flatMap (speaker.cues current)) =
          ((pieces t).map Numeral.Piece.text).map .text :=
        unvoiced_flatMap_cues value (short (.text t) List.mem_cons_self) current
      have parts : speaker.bracketFrom active current (.text t :: rest) =
          (pieces t).flatMap (speaker.cues current) ++ speaker.bracketFrom active current rest :=
        rfl
      rw [parts, unvoiced_append, later, here]
      rfl
    | language code => exact later _
    | _ => exact congrArg (_ :: ·) (later current)

end Speech

namespace Delivery

open Speech (unvoiced inTexts)

variable {H : Type} {roster : Roster H}

/-- Nobody but the default voice is asked for. -/
theorem State.target_of_hasOneVoice (one : roster.HasOneVoice) (code : Option String) :
    (target roster code).1 = roster.default :=
  target_of (· = roster.default) rfl one code

variable [DecidableEq H]

namespace State

variable {s s' : State H}

theorem stays_of_hasOneVoice (one : roster.HasOneVoice) (active : s.voice = roster.default)
    (code : Option String) : s.cursor.parts roster (.language code) = false :=
  Bool.eq_false_iff.2 fun parts =>
    (Cursor.parts_language.1 parts).2 ((target_of_hasOneVoice one code).trans active.symm)

/-- One voice sends the same if the language changes are left out. -/
theorem callsToEnd_unvoiced (one : roster.HasOneVoice) (active : s.voice = roster.default)
    (buffered : s.Buffered roster) (congruent : Congruent roster s s') (speech : Speech) :
    s'.callsToEnd roster (unvoiced speech) = s.callsToEnd roster speech := by
  induction speech generalizing s s' with
  | nil => exact congruent.flushCalls
  | cons cue rest ih =>
    rcases cue.language_or_still with ⟨code, rfl⟩ | still
    · have stays := stays_of_hasOneVoice one active code
      have noted : s.next roster (.language code) =
          { s with language := (s.cursor.next roster (.language code)).language } :=
        turned_of_stays stays
      have later : Congruent roster (s.next roster (.language code)) s' := by
        rw [noted]
        exact congruent.language _ s'.language
      rw [callsToEnd_cons, calls_of_stays stays, List.nil_append]
      exact ih (by rw [noted]; exact active) (buffered.next _) later
    · have parts := congruent.parts_of_still still
      rw [Speech.unvoiced_cons_of_still still, callsToEnd_cons, callsToEnd_cons,
        congruent.calls parts, ih ((voice_next_of_still buffered.due still).trans active)
          (buffered.next cue) (congruent.next buffered.due parts)]

/-- A speech without language changes sends the same if its texts come in pieces. -/
theorem callsToEnd_inTexts (buffered : s.Buffered roster) (buffered' : s'.Buffered roster)
    (congruent : Congruent roster s s') (joins : s.Joins roster) {cut : Text → List Text}
    (some : ∀ t, cut t ≠ []) (joined : ∀ t, (cut t).flatten = t) {speech : Speech}
    (still : ∀ cue ∈ speech, ∀ code, cue ≠ .language code)
    (unspelled : roster.engine s.voice = .plain → .spelling true ∉ speech) :
    s'.callsToEnd roster (inTexts cut speech) = s.callsToEnd roster speech := by
  induction speech generalizing s s' with
  | nil => exact congruent.flushCalls
  | cons cue rest ih =>
    have stillHere := still cue List.mem_cons_self
    have voice := voice_next_of_still buffered.due stillHere
    have joinsLater : (s.next roster cue).Joins roster :=
      joins.next buffered.due stillHere fun plain is =>
        unspelled plain (is ▸ List.mem_cons_self)
    have later {s'' : State H} (buffered'' : s''.Buffered roster)
        (congruent : Congruent roster (s.next roster cue) s'') :
        s''.callsToEnd roster (inTexts cut rest) = (s.next roster cue).callsToEnd roster rest :=
      ih (buffered.next cue) buffered'' congruent joinsLater
        (fun other member => still other (List.mem_cons_of_mem cue member))
        fun plain member => unspelled (voice ▸ plain) (List.mem_cons_of_mem cue member)
    have parts := congruent.parts_of_still stillHere
    have next := congruent.next buffered.due parts
    rcases cue.text_or_silent with ⟨t, rfl⟩ | silent
    · have pieces : Congruent roster (s.next roster (.text t))
          (s'.after roster ((cut t).map .text)) := by
        have joins' : s'.Joins roster := joins.congr congruent.voice congruent.spelling
        have apart := joins'.after_texts buffered' (some t)
        rw [joined t] at apart
        exact next.trans apart
      have front : inTexts cut (.text t :: rest) = (cut t).map .text ++ inTexts cut rest := rfl
      rw [front, callsToEnd_append, callsDuring_texts, callsToEnd_cons,
        later (buffered'.after _) pieces]
      rfl
    · have front : inTexts cut (cue :: rest) = cue :: inTexts cut rest := by
        cases cue with
        | text t => exact absurd rfl (silent t)
        | _ => rfl
      rw [front, callsToEnd_cons, callsToEnd_cons, congruent.calls parts,
        later (buffered'.next cue) next]

end State

end Delivery

section Compiling

open Speech Numeral

variable {H : Type} [DecidableEq H]

/-- **Where one voice speaks everything, numbers apart and anchored cues go unnoticed.** The calls
are those of the speech itself, for a markup voice, and for a plain voice that is never told to
spell. -/
theorem compileCalls_of_hasOneVoice {roster : Roster H} (one : roster.HasOneVoice)
    (spelling : DigitSpelling) (point : Text) (numbers : Option String) {speech : Speech}
    (short : speech.ShortRuns)
    (engine : roster.engine roster.default = .markup ∨
      roster.engine roster.default = .plain ∧ .spelling true ∉ speech) :
    compileCalls { Settings.default with numberLanguage := numbers, pointText := point } roster
        spelling speech =
      Delivery.deliver roster speech := by
  let settings := { Settings.default with numberLanguage := numbers, pointText := point }
  let speaker := settings.numberSpeaker spelling roster.defaultLanguage
  let bracketed := speaker.bracket roster.defaultLanguage speech
  let start := Delivery.State.start roster
  let cut (t : Text) : List Text := (pieces t).map Piece.text
  have value : speaker.reading = .asValue := rfl
  have buffered : start.Buffered roster := .start roster
  have alone (speech : Speech) :
      start.callsToEnd roster (unvoiced speech) = start.callsToEnd roster speech :=
    Delivery.State.callsToEnd_unvoiced one rfl buffered (.refl start) speech
  have joins : start.Joins roster := engine.imp id fun plain => ⟨plain.1, rfl⟩
  have some (t : Text) : cut t ≠ [] := by
    simpa only [cut, ne_eq, List.map_eq_nil_iff] using Delivery.pieces_ne_nil t
  have joined (t : Text) : (cut t).flatten = t := flatMap_text_pieces t
  have still : ∀ cue ∈ unvoiced speech, ∀ code, cue ≠ .language code := by
    rintro cue member code rfl
    simp [unvoiced, Cue.isLanguage] at member
  have unspelled (plain : roster.engine roster.default = .plain) :
      .spelling true ∉ unvoiced speech := by
    intro member
    rcases engine with markup | ⟨-, never⟩
    · rw [markup] at plain
      cases plain
    · exact never (List.mem_of_mem_filter member)
  have prepared : speech.prepared settings spelling roster.defaultLanguage = anchor bracketed :=
    congrArg anchor (Delivery.normalize_off bracketed)
  calc start.callsToEnd roster (speech.prepared settings spelling roster.defaultLanguage)
      = start.callsToEnd roster (unvoiced (anchor bracketed)) := by rw [prepared, alone]
    _ = start.callsToEnd roster (inTexts cut (unvoiced speech)) := by
        rw [unvoiced_anchor, ← unvoiced_bracketFrom value short]
        rfl
    _ = start.callsToEnd roster (unvoiced speech) :=
        Delivery.State.callsToEnd_inTexts buffered buffered (.refl start) joins some joined still
          unspelled
    _ = start.callsToEnd roster speech := alone speech

end Compiling

/-- A spelled text with numbers, spoken in a language that is not that of the text. -/
theorem compileCalls_of_hasOneVoice_soloist :
    let roster := { Delivery.soloist with voiceFor := fun _ => some () }
    let speech : Speech :=
      [.spelling true, .text "a<5.5".toList, .language (some "de"), .bookmark 3, .text "7".toList]
    let settings :=
      { Settings.default with numberLanguage := some "zh", pointText := ",".toList }
    speech.ShortRuns ∧
      roster.HasOneVoice ∧
      (roster.engine roster.default = .markup ∨
        roster.engine roster.default = .plain ∧ .spelling true ∉ speech) ∧
      compileCalls settings roster (fun _ _ => none) speech = Delivery.deliver roster speech := by
  intro roster speech settings
  have short : speech.ShortRuns := by decide +kernel
  have one : roster.HasOneVoice := fun _ _ _ => rfl
  have engine : roster.engine roster.default = .markup ∨
      roster.engine roster.default = .plain ∧ .spelling true ∉ speech := Or.inl rfl
  exact ⟨short, one, engine,
    compileCalls_of_hasOneVoice one (fun _ _ => none) ",".toList (some "zh") short engine⟩

end Polyvoice
