import Polyvoice.Proofs.Delivery.FragmentLimit
import Polyvoice.Proofs.Delivery.OneVoice
import Polyvoice.Proofs.Delivery.SpelledTexts

/-!
# Payloads of limited length

A limit on fragments is applied when numbers were cut out of the texts already, and a plain voice
joins texts again up to the next cut. So the limit is counted from the beginning of each number and
from its end, and no payload ends just because a number begins or ends there
(`compileCalls_limited`). A text without numbers is cut by itself (`pieces_of_numberless`).
-/

namespace Polyvoice

open Speech (joinFirst joinFirst_append inPieces separated unvoiced)

/-! ## Texts up to the next cut -/

namespace Text

/-- Two lists of texts in a row, the last text of the first one joined with the first text of the
second one. -/
def runOn : List Text → List Text → List Text
  | [], us => us
  | [t], us => joinFirst t us
  | t :: ts, us => t :: runOn ts us

/-- Several lists of texts in a row, joined where they meet. -/
def runTogether (parts : List (List Text)) : List Text :=
  parts.foldr runOn [[]]

theorem runOn_cons_cons (t u : Text) (ts us : List Text) :
    runOn (t :: u :: ts) us = t :: runOn (u :: ts) us :=
  rfl

theorem runTogether_singleton {ts : List Text} (some : ts ≠ []) : runTogether [ts] = ts := by
  induction ts with
  | nil => exact absurd rfl some
  | cons t rest ih =>
    cases rest with
    | nil => exact congrArg (· :: []) (List.append_nil t)
    | cons u rest => exact congrArg (t :: ·) (ih (List.cons_ne_nil u rest))

end Text

namespace Speech

open Text (runOn runTogether)

/-- The text up to the first cut of a speech, between each two cuts, and behind the last one. -/
def sections : Speech → List Text
  | [] => [[]]
  | .cut :: rest => [] :: sections rest
  | .text t :: rest => joinFirst t (sections rest)
  | _ :: rest => sections rest

theorem joinFirst_sections (speech : Speech) :
    joinFirst [] (sections speech) = sections speech := by
  induction speech with
  | nil => rfl
  | cons cue rest ih =>
    cases cue with
    | text t => exact (joinFirst_append [] t _).symm
    | cut => rfl
    | _ => exact ih

theorem sections_separated_append {ts : List Text} (some : ts ≠ []) (speech : Speech) :
    sections (separated .cut ts ++ speech) = runOn ts (sections speech) := by
  induction ts with
  | nil => exact absurd rfl some
  | cons t rest ih =>
    cases rest with
    | nil => rfl
    | cons u rest =>
      have later := ih (List.cons_ne_nil u rest)
      rw [separated_cons, Text.runOn_cons_cons, ← later]
      exact congrArg (· :: _) (List.append_nil t)

/-- Texts that come in pieces are joined where they meet. -/
theorem sections_inPieces {cut : Text → List Text} (some : ∀ t, cut t ≠ []) (ts : List Text) :
    sections (inPieces cut (ts.map .text)) = runTogether (ts.map cut) := by
  induction ts with
  | nil => rfl
  | cons t rest ih =>
    calc sections (inPieces cut ((t :: rest).map .text))
        = sections (separated .cut (cut t) ++ inPieces cut (rest.map .text)) := rfl
      _ = runOn (cut t) (runTogether (rest.map cut)) := by
        rw [sections_separated_append (some t), ih]

/-- Of texts in pieces nothing is made but texts and cuts. -/
theorem cut_or_text_of_mem_inPieces {cut : Text → List Text} {ts : List Text} :
    ∀ cue ∈ inPieces cut (ts.map .text), cue = .cut ∨ ∃ t, cue = .text t := by
  intro cue member
  obtain ⟨text, listed, inside⟩ := List.mem_flatMap.1 member
  obtain ⟨t, -, rfl⟩ := List.mem_map.1 listed
  exact mem_separated inside

/-- To cut texts in pieces and to leave language changes out can be done in either order. -/
theorem unvoiced_inPieces (cut : Text → List Text) (speech : Speech) :
    unvoiced (inPieces cut speech) = inPieces cut (unvoiced speech) :=
  filter_inPieces (fun _ => rfl) rfl cut speech

end Speech

/-! ## Payloads of a plain voice -/

namespace Delivery

open Speech (sections joinFirst_sections)

variable {H : Type} {roster : Roster H}

/-- Payloads are sent unless they are empty. -/
theorem flatMap_speakCalls (h : H) (payloads : List Text) :
    payloads.flatMap (speakCalls h) =
      (Text.worded payloads).map fun payload => ⟨h, .speak payload⟩ := by
  induction payloads with
  | nil => rfl
  | cons payload rest ih =>
    rw [List.flatMap_cons, ih]
    cases payload <;> rfl

namespace State

variable [DecidableEq H] {s : State H}

/-- A plain voice gets the texts of a speech in one payload up to each cut, joined to what is
buffered. -/
theorem callsToEnd_of_plain (buffered : s.Buffered roster)
    (plain : roster.engine s.voice = .plain) (unspelled : s.spelling = false) {speech : Speech}
    (only : ∀ cue ∈ speech, cue = .cut ∨ ∃ t, cue = .text t) :
    s.callsToEnd roster speech =
      (joinFirst (s.payload roster) (sections speech)).flatMap (speakCalls s.voice) := by
  induction speech generalizing s with
  | nil =>
    have last : s.callsToEnd roster [] = speakCalls s.voice (s.payload roster) :=
      flushCalls_of_plain buffered plain
    rw [last, sections, joinFirst, List.append_nil, List.flatMap_singleton]
  | cons cue rest ih =>
    have later := fun cue' member => only cue' (List.mem_cons_of_mem cue member)
    rw [callsToEnd_cons]
    rcases only cue List.mem_cons_self with rfl | ⟨t, rfl⟩
    · have sent : s.calls roster .cut = speakCalls s.voice (s.payload roster) :=
        flushCalls_of_plain buffered plain
      have nothing : (s.flushed roster).payload roster = [] := by
        have engine : roster.engine (s.flushed roster).voice = .plain := plain
        rw [payload, engine]
        rfl
      have behind := ih (s := s.flushed roster) (buffered.next .cut) plain unspelled later
      rw [nothing, joinFirst_sections] at behind
      rw [sent, sections, joinFirst, List.append_nil, List.flatMap_cons]
      exact congrArg (speakCalls s.voice (s.payload roster) ++ ·) behind
    · have next : s.next roster (.text t) = s.addChunks [.text t] := by
        have engine : (roster.voice s.voice).engine = .plain := plain
        simp only [State.next, engine, unspelled]
        rfl
      have grown : (s.addChunks [.text t]).payload roster = s.payload roster ++ t := by
        have engine : roster.engine (s.addChunks [.text t]).voice = .plain := plain
        rw [payload, engine, payload, plain]
        simp [addChunks, Chunk.render]
      have behind := ih (s := s.addChunks [.text t]) (next ▸ buffered.next (.text t)) plain
        unspelled later
      rw [grown, joinFirst_append] at behind
      rw [next]
      exact behind

end State

end Delivery

/-! ## Numbers and limits -/

section Compiling

open Numeral (Speaker pieces cutRuns)

/-- A piece of a text as a speaker of numbers has it said. -/
def Numeral.Speaker.said (speaker : Speaker) : Numeral.Piece → Text
  | .plain t => t
  | .run t => speaker.spoken t

theorem Speech.unvoiced_cues_eq (speaker : Speaker) (current : String) (piece : Numeral.Piece) :
    unvoiced (speaker.cues current piece) = [.text (speaker.said piece)] := by
  cases piece <;> rfl

theorem Speech.unvoiced_flatMap_cues_eq (speaker : Speaker) (current : String)
    (ps : List Numeral.Piece) :
    unvoiced (ps.flatMap (speaker.cues current)) = (ps.map speaker.said).map .text := by
  induction ps with
  | nil => rfl
  | cons piece rest ih =>
    rw [List.flatMap_cons, unvoiced_append, ih, unvoiced_cues_eq]
    rfl

theorem Numeral.cutRuns_of_numberless {c : Char} {t : Text}
    (numberless : ∀ run, .run run ∉ cutRuns (c :: t)) : cutRuns (c :: t) = [.plain (c :: t)] := by
  induction t generalizing c with
  | nil =>
    rw [cutRuns] at numberless ⊢
    split at numberless
    · rename_i none
      rw [if_pos none, cutRuns]
      rfl
    · exact absurd List.mem_cons_self (numberless _)
  | cons d rest ih =>
    rw [cutRuns] at numberless ⊢
    split at numberless
    · rename_i none
      rw [if_pos none, ih fun run member => numberless run (run_mem_consPlain.2 member)]
      rfl
    · exact absurd List.mem_cons_self (numberless _)

/-- A text without numbers is a single piece. -/
theorem Numeral.pieces_of_numberless {t : Text} (numberless : ∀ run, .run run ∉ pieces t) :
    pieces t = [.plain t] := by
  cases t with
  | nil => rfl
  | cons c t => exact cutRuns_of_numberless numberless

/-- The payloads for a text with a limit on fragments: what stands between numbers is cut into
fragments by itself, each number as it is said is, and where a number begins or ends, the last
fragment goes on with the next one. -/
def limitedPayloads (speaker : Speaker) (limit : Nat) (t : Text) : List Text :=
  Text.worded (Text.runTogether ((pieces t).map fun piece =>
    Speech.fragments limit (speaker.said piece)))

theorem limitedPayloads_of_numberless {t : Text} (numberless : ∀ run, .run run ∉ pieces t)
    (speaker : Speaker) (limit : Nat) :
    limitedPayloads speaker limit t = Text.worded (Speech.fragments limit t) := by
  have some : Speech.fragments limit t ≠ [] := Speech.fragmentsFrom_ne_nil limit 0 t
  rw [limitedPayloads, Numeral.pieces_of_numberless numberless, List.map_singleton]
  exact congrArg Text.worded (Text.runTogether_singleton some)

/-- With a limit on fragments and no other setting, a text is prepared piece by piece, language
changes left aside. -/
theorem Speech.unvoiced_prepared_limited (spelling : DigitSpelling) (language : String)
    (limit : UInt64) (t : Text) :
    let settings := { Settings.default with fragmentLimit := some limit }
    let speaker := settings.numberSpeaker spelling language
    unvoiced (Speech.prepared settings spelling language [.text t]) =
      inPieces (fragments limit.toNat) (((pieces t).map speaker.said).map .text) := by
  intro settings speaker
  have bracketed : speaker.bracket language [.text t] =
      (pieces t).flatMap (speaker.cues language) := List.append_nil _
  have prepared : Speech.prepared settings spelling language [.text t] =
      anchor (inPieces (fragments limit.toNat) (speaker.bracket language [.text t])) :=
    congrArg anchor (Delivery.normalize_off _)
  rw [prepared, unvoiced_anchor, unvoiced_inPieces, bracketed, unvoiced_flatMap_cues_eq]

/-- **What a limit on fragments does to a text.** One plain voice that speaks all languages gets the
text in payloads that are limited between numbers and in each number; a text without numbers is cut
into its fragments, and those that are empty are not sent. -/
theorem compileCalls_limited {H : Type} [DecidableEq H] {roster : Roster H}
    (one : roster.HasOneVoice) (plain : roster.engine roster.default = .plain)
    (spelling : DigitSpelling) (limit : UInt64) (t : Text) :
    let settings := { Settings.default with fragmentLimit := some limit }
    let speaker := settings.numberSpeaker spelling roster.defaultLanguage
    compileCalls settings roster spelling [.text t] =
        (limitedPayloads speaker limit.toNat t).map
          (fun payload => ⟨roster.default, .speak payload⟩) ∧
      ((∀ run, .run run ∉ pieces t) →
        limitedPayloads speaker limit.toNat t =
          Text.worded (Speech.fragments limit.toNat t)) := by
  intro settings speaker
  refine ⟨?_, fun numberless => limitedPayloads_of_numberless numberless speaker limit.toNat⟩
  let start := Delivery.State.start roster
  let prepared := Speech.prepared settings spelling roster.defaultLanguage [.text t]
  let parted := inPieces (Speech.fragments limit.toNat) (((pieces t).map speaker.said).map .text)
  have buffered : start.Buffered roster := .start roster
  have voiceless : unvoiced prepared = parted :=
    Speech.unvoiced_prepared_limited spelling roster.defaultLanguage limit t
  have empty : start.payload roster = [] := by
    have engine : roster.engine start.voice = .plain := plain
    rw [Delivery.State.payload, engine]
    rfl
  have sections : Speech.sections parted =
      Text.runTogether ((pieces t).map fun piece =>
        Speech.fragments limit.toNat (speaker.said piece)) := by
    have some (u : Text) : Speech.fragments limit.toNat u ≠ [] :=
      Speech.fragmentsFrom_ne_nil limit.toNat 0 u
    exact (Speech.sections_inPieces some _).trans (congrArg Text.runTogether List.map_map)
  calc start.callsToEnd roster prepared
      = start.callsToEnd roster parted := by
        rw [← voiceless, Delivery.State.callsToEnd_unvoiced one rfl buffered (.refl start)]
    _ = (joinFirst (start.payload roster) (Speech.sections parted)).flatMap
          (Delivery.speakCalls roster.default) :=
        Delivery.State.callsToEnd_of_plain buffered plain rfl Speech.cut_or_text_of_mem_inPieces
    _ = (limitedPayloads speaker limit.toNat t).map
          (fun payload => ⟨roster.default, .speak payload⟩) := by
        rw [empty, Speech.joinFirst_sections, sections, Delivery.flatMap_speakCalls,
          limitedPayloads]

/-- The limit is counted anew behind a number, so that the last payload takes in a word more. -/
theorem compileCalls_limited_narrator :
    let settings := { Settings.default with fragmentLimit := some 4 }
    let speaker := settings.numberSpeaker (fun _ _ => none) Delivery.narrator.defaultLanguage
    Delivery.narrator.HasOneVoice ∧
      Delivery.narrator.engine Delivery.narrator.default = .plain ∧
      compileCalls settings Delivery.narrator (fun _ _ => none) [.text "abcde 12fgh ij".toList] =
        (limitedPayloads speaker 4 "abcde 12fgh ij".toList).map
          (fun payload => ⟨(), .speak payload⟩) ∧
      limitedPayloads speaker 4 "abcde 12fgh ij".toList =
        ["abcde ".toList, "12fgh ij".toList] := by
  intro settings speaker
  have one : Delivery.narrator.HasOneVoice := fun _ _ other => nomatch other
  have plain : Delivery.narrator.engine Delivery.narrator.default = .plain := rfl
  exact ⟨one, plain,
    (compileCalls_limited one plain (fun _ _ => none) 4 "abcde 12fgh ij".toList).1,
    by decide +kernel⟩

/-- With a number in it, a text need not be cut where it would be cut by itself. -/
theorem limit_restarts_at_number :
    compileCalls { Settings.default with fragmentLimit := some 1 } Delivery.narrator
        (fun _ _ => none) [.text "a1 b".toList] =
      [⟨(), .speak "a1 b".toList⟩] ∧
      (Text.worded (Speech.fragments 1 "a1 b".toList)).map
          (fun piece => Call.mk () (.speak piece)) =
        [⟨(), .speak "a1 ".toList⟩, ⟨(), .speak "b".toList⟩] := by
  decide +kernel

end Compiling

end Polyvoice
