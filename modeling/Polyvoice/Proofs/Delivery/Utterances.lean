import Polyvoice.Proofs.Delivery.Bearing
import Polyvoice.Proofs.Delivery.Conservation

/-!
# In which manner voices say what they say

What is heard of a markup voice, with the manner of each character: a reader of the calls keeps the
tags that are open around it (`uttered?`). A bearing that walks over the speech says what is to be
heard in which manner (`Bearing.trace`), and just that is heard (`uttered_deliver`), spaces left
aside as they are for the atoms.
-/

namespace Polyvoice

/-- An atom as it is heard. A character that a markup voice says is said in some manner. -/
structure Utterance where
  manner : Option Markup.Manner
  atom : Atom
deriving DecidableEq, Repr

namespace Utterance

/-- An atom that is heard in no particular manner. -/
def plain (atom : Atom) : Utterance where
  manner := none
  atom := atom

/-- What a markup voice says in a manner, bookmarks apart. -/
def inManner (manner : Markup.Manner) : Atom → Utterance
  | .character c => ⟨some manner, .character c⟩
  | atom => plain atom

end Utterance

/-- The utterances of atoms that are not spaces. -/
def clear (utterances : List Utterance) : List Utterance :=
  utterances.filter fun utterance => utterance.atom.isAudible

theorem clear_map_plain (atoms : List Atom) :
    clear (atoms.map .plain) = (audible atoms).map .plain :=
  List.filter_map

/-! ## Reading markup -/

namespace Markup

/-- What a markup voice with the given pitch makes of tokens inside some tags. -/
def utterances (base : Int) (around : List Text) : List Token → List Utterance
  | [] => []
  | token :: rest =>
    token.atoms.map (.inManner (readManner base around)) ++
      utterances base (token.behind around) rest

/-- What pieces call for inside some elements. -/
def pieceUtterances (base : Int) (entries : Entries) : List Piece → List Utterance
  | [] => []
  | piece :: rest =>
    piece.atoms.map (.inManner (Manner.inside base entries)) ++
      pieceUtterances base (piece.behind entries) rest

theorem pieceUtterances_append (base : Int) (entries : Entries) (pieces more : List Piece) :
    pieceUtterances base entries (pieces ++ more) =
      pieceUtterances base entries pieces ++
        pieceUtterances base (entriesBehind entries pieces) more := by
  induction pieces generalizing entries with
  | nil => rfl
  | cons piece rest ih =>
    rw [List.cons_append, pieceUtterances, pieceUtterances, ih, List.append_assoc]
    rfl

/-- Tags are not heard. -/
theorem pieceUtterances_of_tags {pieces : List Piece} (tags : ∀ piece ∈ pieces, ∃ t, piece = .tag t)
    (base : Int) (entries : Entries) : pieceUtterances base entries pieces = [] := by
  induction pieces generalizing entries with
  | nil => rfl
  | cons piece rest ih =>
    obtain ⟨t, rfl⟩ := tags piece List.mem_cons_self
    exact ih (fun other member => tags other (List.mem_cons_of_mem _ member)) _

theorem pieceUtterances_map_tag (base : Int) (entries : Entries) (tags : List Tag) :
    pieceUtterances base entries (tags.map .tag) = [] := by
  refine pieceUtterances_of_tags (fun piece member => ?_) base entries
  obtain ⟨t, -, rfl⟩ := List.mem_map.1 member
  exact ⟨t, rfl⟩

/-- Pieces between two tags are said in one manner. -/
theorem pieceUtterances_of_untagged {pieces : List Piece} (untagged : ∀ t, .tag t ∉ pieces)
    (base : Int) (entries : Entries) :
    pieceUtterances base entries pieces =
      (pieces.flatMap Piece.atoms).map (.inManner (Manner.inside base entries)) := by
  induction pieces with
  | nil => rfl
  | cons piece rest ih =>
    have later := ih fun t member => untagged t (List.mem_cons_of_mem piece member)
    have here : piece.behind entries = entries := by
      cases piece with
      | tag t => exact absurd List.mem_cons_self (untagged t)
      | _ => rfl
    rw [pieceUtterances, here, later, List.flatMap_cons, List.map_append]

theorem utterances_characters (base : Int) (around : List Text) (t : Text) (rest : List Token) :
    utterances base around (t.map .character ++ rest) =
      (t.map Atom.character).map (.inManner (readManner base around)) ++
        utterances base around rest := by
  induction t with
  | nil => rfl
  | cons c t ih =>
    rw [List.map_cons, List.cons_append, utterances]
    exact congrArg (Utterance.inManner (readManner base around) (.character c) :: ·) ih

/-- What is read of a piece is what it calls for, inside the elements that were written. -/
theorem utterances_piece_append {piece : Piece} (fits : piece.Fits) {entries : Entries}
    (accepts : ∀ entry ∈ entries, entry.1.Accepts entry.2) (base : Int) (rest : List Token) :
    utterances base (bodies entries) (piece.tokens ++ rest) =
      piece.atoms.map (.inManner (Manner.inside base entries)) ++
        utterances base (bodies (piece.behind entries)) rest := by
  have manner := readManner_bodies accepts base
  cases piece with
  | tag t =>
    have silent : (Token.tag t.body).atoms = [] := by
      rw [Token.atoms, bookmark?_body]
      rfl
    rw [Piece.tokens, List.singleton_append, utterances, silent, Token.behind, behindTag_body]
    rfl
  | text t =>
    rw [Piece.tokens, utterances_characters, manner]
    rfl
  | bookmark id =>
    rw [Piece.tokens, List.singleton_append, utterances, Token.behind, behindTag_bookmark,
      Token.atoms, bookmark?_bookmark]
    rfl
  | pronunciation phones words =>
    have opening : (Token.tag (pronunciationBody phones)).atoms = [] := by
      have none : bookmark? (pronunciationBody phones) = none := rfl
      rw [Token.atoms, none]
      rfl
    have closing : (Token.tag "/pron".toList).atoms = [] := by decide
    have tokens : (Piece.pronunciation phones words).tokens ++ rest =
        .tag (pronunciationBody phones) ::
          (words.map .character ++ .tag "/pron".toList :: rest) := by
      rw [Piece.tokens, List.cons_append, List.append_assoc]
      rfl
    rw [tokens, utterances, opening, Token.behind, behindTag_pronunciation,
      utterances_characters, readManner_pronunciation, manner, utterances, closing, Token.behind,
      behindTag_pronunciation_end]
    rfl

theorem accepts_behind {piece : Piece} (fits : piece.Fits) {entries : Entries}
    (accepts : ∀ entry ∈ entries, entry.1.Accepts entry.2) :
    ∀ entry ∈ piece.behind entries, entry.1.Accepts entry.2 := by
  cases piece with
  | tag t =>
    cases t with
    | opening element attributes =>
      intro entry member
      rcases List.mem_cons.1 member with rfl | before
      · exact fits
      · exact accepts entry before
    | closing element => exact fun entry member => accepts entry (List.mem_of_mem_tail member)
  | _ => exact accepts

/-- Pieces are heard in the manner in which they were written. -/
theorem utterances_pieces {pieces : List Piece} (fits : ∀ piece ∈ pieces, piece.Fits)
    {entries : Entries} (accepts : ∀ entry ∈ entries, entry.1.Accepts entry.2) (base : Int) :
    utterances base (bodies entries) (pieces.flatMap Piece.tokens) =
      pieceUtterances base entries pieces := by
  induction pieces generalizing entries with
  | nil => rfl
  | cons piece rest ih =>
    have here := fits piece List.mem_cons_self
    rw [List.flatMap_cons, utterances_piece_append here accepts, pieceUtterances,
      ih (fun other member => fits other (List.mem_cons_of_mem piece member))
        (accepts_behind here accepts)]

end Markup

/-! ## Reading calls -/

namespace Delivery

variable {H : Type} {roster : Roster H}

/-- What a voice makes of a call, with the manner of what a markup voice says. -/
def utterances? (roster : Roster H) (call : Call H) : Option (List Utterance) :=
  match roster.engine call.voice, call.op with
  | .markup, .speak payload =>
    (Markup.scan? payload).map (Markup.utterances (ownPitch roster call.voice) [])
  | engine, op => (op.atoms? engine).map (List.map .plain)

/-- To an empty payload, any voice has nothing to say. -/
theorem utterances?_speak_nil (h : H) : utterances? roster ⟨h, .speak []⟩ = some [] := by
  unfold utterances?
  split
  · rename_i payload _ speaks
    cases speaks
    rfl
  · rw [Op.atoms?_speak_nil]
    rfl

/-- Utterances, noted with their voice. -/
def utteredBy (h : H) (utterances : List Utterance) : List (H × Utterance) :=
  utterances.map (h, ·)

/-- What the voices make of calls, one after the other. -/
def uttered? (roster : Roster H) (calls : List (Call H)) : Option (List (H × Utterance)) :=
  (calls.mapM fun call => (utterances? roster call).map (utteredBy call.voice)).map List.flatten

/-- What was noted of utterances that are not spaces. -/
def clearly (uttered : List (H × Utterance)) : List (H × Utterance) :=
  uttered.filter fun entry => entry.2.atom.isAudible

@[simp] theorem clearly_append (uttered more : List (H × Utterance)) :
    clearly (uttered ++ more) = clearly uttered ++ clearly more :=
  List.filter_append uttered more

theorem clearly_utteredBy (h : H) (utterances : List Utterance) :
    clearly (utteredBy h utterances) = utteredBy h (clear utterances) :=
  List.filter_map

/-- Calls can be read, and their utterances are the expected ones, spaces left aside. -/
def Uttered (roster : Roster H) (calls : List (Call H)) (expected : List (H × Utterance)) : Prop :=
  ∃ uttered, uttered? roster calls = some uttered ∧ clearly uttered = clearly expected

namespace Uttered

variable {calls more : List (Call H)} {expected later : List (H × Utterance)}

theorem nil : Uttered roster [] [] :=
  ⟨[], rfl, rfl⟩

theorem single {call : Call H} {utterances wanted : List Utterance}
    (reads : utterances? roster call = some utterances) (same : clear utterances = clear wanted) :
    Uttered roster [call] (utteredBy call.voice wanted) := by
  refine ⟨utteredBy call.voice utterances, ?_, ?_⟩
  · simp [uttered?, reads]
  · rw [clearly_utteredBy, clearly_utteredBy, same]

/-- Spaces may be left out of what is expected, or put in. -/
theorem congr (uttered : Uttered roster calls expected)
    (same : clearly expected = clearly later) : Uttered roster calls later := by
  obtain ⟨found, reads, clear⟩ := uttered
  exact ⟨found, reads, clear.trans same⟩

theorem append (first : Uttered roster calls expected) (second : Uttered roster more later) :
    Uttered roster (calls ++ more) (expected ++ later) := by
  obtain ⟨before, readsBefore, clearBefore⟩ := first
  obtain ⟨after, readsAfter, clearAfter⟩ := second
  obtain ⟨front, frontReads, rfl⟩ := Option.map_eq_some_iff.1 readsBefore
  obtain ⟨back, backReads, rfl⟩ := Option.map_eq_some_iff.1 readsAfter
  refine ⟨front.flatten ++ back.flatten, ?_, ?_⟩
  · simp [uttered?, List.mapM_append, frontReads, backReads]
  · rw [clearly_append, clearly_append, clearBefore, clearAfter]

end Uttered

/-! ## What a bearing says -/

namespace Bearing

/-- What a cue asks the active voice to say or note, in which manner. -/
def utterances (roster : Roster H) (b : Bearing H) (cue : Cue) : List Utterance :=
  (b.toCursor.atoms roster cue).map
    (if roster.engine b.voice = .markup then .inManner b.manner else .plain)

/-- What a speech asks the voices to say or note, in order. -/
def trace [DecidableEq H] (roster : Roster H) (b : Bearing H) : Speech → List (H × Utterance)
  | [] => []
  | cue :: rest =>
    utteredBy b.voice (b.utterances roster cue) ++ (b.next roster cue).trace roster rest

end Bearing

namespace Bearing

variable {b : Bearing H} {cue : Cue}

/-- A text or a pronunciation leaves the manner as it is, and the elements open. -/
theorem next_of_said [DecidableEq H] (markup : roster.engine b.voice = .markup)
    (said : (∃ t, cue = .text t) ∨ ∃ ipa fallback, cue = .phonetic ipa fallback) :
    (b.next roster cue).opened = true ∧ (b.next roster cue).manner = b.manner := by
  have engine : (roster.voice b.voice).engine = .markup := markup
  have step : b.next roster cue =
      { b with toCursor := b.toCursor.next roster cue, opened := true } := by
    rcases said with ⟨t, rfl⟩ | ⟨ipa, fallback, rfl⟩
    · simp only [next, engine]
    · simp only [next, engine]
  have spelling : (b.toCursor.next roster cue).spelling = b.spelling := by
    rcases said with ⟨t, rfl⟩ | ⟨ipa, fallback, rfl⟩ <;> rfl
  rw [step]
  refine ⟨rfl, ?_⟩
  simp only [manner, spelling]

/-- What a cue asks for is signalled where the cue parts the payload. -/
theorem uttered_signals [DecidableEq H] (parts : b.toCursor.parts roster cue = true) :
    Uttered roster ((b.toCursor.signals roster cue).map (⟨b.voice, ·⟩))
      (utteredBy b.voice (b.utterances roster cue)) := by
  have same (atom : Atom) (silent : ∀ c, atom ≠ .character c) :
      (if roster.engine b.voice = .markup then Utterance.inManner b.manner else .plain) atom =
        .plain atom := by
    split
    · cases atom with
      | character c => exact absurd rfl (silent c)
      | _ => rfl
    · rfl
  cases cue with
  | language code => exact .nil
  | cut => exact .nil
  | silence ms =>
    rw [utterances, Cursor.atoms, List.map_singleton, same _ (fun _ is => by cases is)]
    refine .single ?_ rfl
    unfold utterances?
    split
    · rename_i speaks
      cases speaks
    · rfl
  | bookmark id =>
    have plain : roster.engine b.voice = .plain := of_decide_eq_true parts
    rw [utterances, Cursor.atoms, List.map_singleton, same _ (fun _ is => by cases is),
      Cursor.signals, if_pos plain]
    refine .single ?_ rfl
    unfold utterances?
    split
    · rename_i speaks
      cases speaks
    · rfl
  | _ => cases parts

end Bearing

/-- Characters come from texts and pronunciations only. -/
theorem Cursor.character_of_mem_atoms {c : Cursor H} {cue : Cue} {d : Char}
    (member : .character d ∈ c.atoms roster cue) :
    (∃ t, cue = .text t) ∨ ∃ ipa fallback, cue = .phonetic ipa fallback := by
  cases cue with
  | text t => exact Or.inl ⟨t, rfl⟩
  | phonetic ipa fallback => exact Or.inr ⟨ipa, fallback, rfl⟩
  | bookmark id => cases List.mem_singleton.1 member
  | silence ms => cases List.mem_singleton.1 member
  | _ => cases member

namespace State

variable {s : State H} {b : Bearing H} {cue : Cue}

/-- What is buffered and has yet to be heard. -/
def unuttered (roster : Roster H) (s : State H) : List Utterance :=
  if roster.engine s.voice = .markup then
    Markup.pieceUtterances (ownPitch roster s.voice) [] s.markup
  else s.undelivered.map .plain

/-- A payload is heard as what is buffered. -/
theorem utterances?_payload (buffered : s.Buffered roster) (nested : s.Nested) :
    ∃ utterances, utterances? roster ⟨s.voice, .speak (s.payload roster)⟩ = some utterances ∧
      clear utterances = clear (s.unuttered roster) := by
  by_cases markup : roster.engine s.voice = .markup
  · have reads := Markup.scan?_render nested.fits_payload
    have outside : ∀ entry ∈ ([] : Markup.Entries), entry.1.Accepts entry.2 :=
      fun _ member => nomatch member
    have pieces := Markup.utterances_pieces nested.fits_payload outside (ownPitch roster s.voice)
    refine ⟨s.unuttered roster, ?_, rfl⟩
    simp only [utterances?, markup, State.payload]
    rw [reads, Option.map_some]
    refine congrArg some (pieces.trans ?_)
    rw [Markup.pieceUtterances_append, Markup.pieceUtterances_map_tag, List.append_nil, unuttered,
      if_pos markup]
  · obtain ⟨atoms, reads, same⟩ := atoms?_payload buffered nested
    refine ⟨atoms.map .plain, ?_, ?_⟩
    · unfold utterances?
      split
      · rename_i engine _
        exact absurd engine markup
      · rw [reads]
        rfl
    · rw [unuttered, if_neg markup, clear_map_plain, clear_map_plain, same]

/-- Where nothing is pending there is nothing to hear. -/
theorem unuttered_of_idle (buffered : s.Buffered roster) (idle : s.pending = false) :
    s.unuttered roster = [] := by
  unfold unuttered
  split
  · exact Markup.pieceUtterances_of_tags (buffered.idle_markup idle) _ _
  · rw [undelivered_of_idle buffered idle]
    rfl

/-- A flush delivers what is buffered. -/
theorem uttered_flushCalls (buffered : s.Buffered roster) (nested : s.Nested) :
    Uttered roster (s.flushCalls roster) (utteredBy s.voice (s.unuttered roster)) := by
  obtain ⟨utterances, reads, same⟩ := utterances?_payload buffered nested
  unfold flushCalls
  split
  · exact .single reads same
  · rename_i unsent
    refine Uttered.nil.congr ?_
    cases pending : s.pending with
    | false =>
      rw [unuttered_of_idle buffered pending]
      rfl
    | true =>
      -- a payload is held back only where it is empty
      have empty : s.payload roster = [] :=
        Decidable.byContradiction fun present => unsent ⟨pending, present⟩
      have nothing : utterances = [] := by
        rw [empty, utterances?_speak_nil] at reads
        exact (Option.some.inj reads).symm
      rw [clearly_utteredBy, ← same, nothing]
      rfl

/-- What a cue asks for is buffered behind what was buffered, in the manner of the bearing. -/
theorem clear_unuttered_continued [DecidableEq H] (buffered : s.Buffered roster)
    (agrees : Agrees roster s b)
    (later : Agrees roster (s.continued roster cue) (b.next roster cue))
    (inner : s.cursor.parts roster cue = false) :
    clear ((s.continued roster cue).unuttered roster) =
      clear (s.unuttered roster ++ b.utterances roster cue) := by
  have cursor : b.toCursor = s.cursor := agrees.cursor.symm
  have voice : b.voice = s.voice := agrees.voice_eq.symm
  by_cases markup : roster.engine s.voice = .markup
  · have untagged (t : Markup.Tag) : .tag t ∉ s.cursor.pieces roster cue :=
      Cursor.tag_notMem_pieces t
    have around : Markup.entriesBehind [] (s.continued roster cue).markup =
        Markup.entriesBehind [] (s.markup ++ (s.tagsFor roster cue).map .tag) :=
      (Markup.entriesBehind_append _ _ _).trans (Markup.entriesBehind_of_untagged untagged _)
    have said : (s.cursor.atoms roster cue).map (Utterance.inManner (Markup.Manner.inside
          (ownPitch roster s.voice) (Markup.entriesBehind [] (s.continued roster cue).markup))) =
        (s.cursor.atoms roster cue).map (Utterance.inManner b.manner) := by
      refine List.map_congr_left fun atom member => ?_
      cases atom with
      | bookmark id => rfl
      | silence ms => rfl
      | character d =>
        -- the elements around a character that is said are those that the bearing asks for
        obtain ⟨opened, manner⟩ := Bearing.next_of_said (b := b) (voice ▸ markup)
          (Cursor.character_of_mem_atoms member)
        rw [← manner]
        exact congrArg (Utterance.inManner · (.character d)) (later.around markup opened)
    have wanted : b.utterances roster cue =
        (s.cursor.atoms roster cue).map (Utterance.inManner b.manner) := by
      have here : roster.engine s.cursor.voice = .markup := markup
      rw [Bearing.utterances, cursor, if_pos here]
    have written : (s.continued roster cue).unuttered roster =
        s.unuttered roster ++ b.utterances roster cue := by
      calc (s.continued roster cue).unuttered roster
          = Markup.pieceUtterances (ownPitch roster s.voice) [] (s.markup ++
              (s.tagsFor roster cue).map .tag ++ s.cursor.pieces roster cue) := by
            rw [unuttered]
            exact if_pos markup
        _ = Markup.pieceUtterances (ownPitch roster s.voice) [] s.markup ++
              (s.cursor.atoms roster cue).map (Utterance.inManner b.manner) := by
            rw [Markup.pieceUtterances_append, Markup.pieceUtterances_append,
              Markup.pieceUtterances_map_tag, List.append_nil,
              Markup.pieceUtterances_of_untagged untagged, Cursor.flatMap_pieces markup inner,
              ← around, said]
        _ = s.unuttered roster ++ b.utterances roster cue := by
            rw [wanted, unuttered, if_pos markup]
    rw [written]
  · have wanted : b.utterances roster cue = (s.cursor.atoms roster cue).map .plain := by
      have here : roster.engine s.cursor.voice ≠ .markup := markup
      rw [Bearing.utterances, cursor, if_neg here]
    have joined := audible_undelivered_continued buffered inner
    calc clear ((s.continued roster cue).unuttered roster)
        = clear ((s.continued roster cue).undelivered.map .plain) :=
          congrArg clear (if_neg markup)
      _ = clear ((s.undelivered ++ s.cursor.atoms roster cue).map .plain) := by
          rw [clear_map_plain, clear_map_plain, joined]
      _ = clear (s.unuttered roster ++ b.utterances roster cue) := by
          rw [List.map_append, unuttered, if_neg markup, wanted]

/-- Behind a cue that parts the payload nothing is buffered. -/
theorem unuttered_next_of_parts [DecidableEq H] (buffered : s.Buffered roster)
    (parts : s.cursor.parts roster cue = true) : (s.next roster cue).unuttered roster = [] := by
  have chunks : (s.next roster cue).chunks = [] := by
    rw [chunks_next buffered.due, if_pos parts]
  have markup := markup_next_of_parts parts
  unfold unuttered
  split
  · rw [markup]
    rfl
  · rw [undelivered, chunks, markup]
    rfl

/-- Halfway through a speech, what will be heard is what is buffered and what the rest of the speech
asks for. -/
theorem uttered_callsToEnd [DecidableEq H] (buffered : s.Buffered roster) (nested : s.Nested)
    (agrees : Agrees roster s b) (speech : Speech) :
    Uttered roster (s.callsToEnd roster speech)
      (utteredBy s.voice (s.unuttered roster) ++ b.trace roster speech) := by
  induction speech generalizing s b with
  | nil =>
    have last : s.callsToEnd roster [] = s.flushCalls roster := rfl
    rw [last, Bearing.trace, List.append_nil]
    exact uttered_flushCalls buffered nested
  | cons cue rest ih =>
    have behind := agrees.next buffered nested cue
    have later := ih (buffered.next cue) (nested.next buffered cue) behind
    have cursor := agrees.cursor
    have voice := agrees.voice_eq
    rw [callsToEnd_cons, calls_eq, Bearing.trace]
    cases parts : s.cursor.parts roster cue with
    | true =>
      -- what was buffered is sent, and then what the cue itself asks for
      have signalled : Uttered roster ((s.cursor.signals roster cue).map (⟨s.voice, ·⟩))
          (utteredBy b.voice (b.utterances roster cue)) := by
        rw [cursor, voice]
        exact Bearing.uttered_signals (cursor ▸ parts)
      have sent := (uttered_flushCalls buffered nested).append signalled
      rw [unuttered_next_of_parts buffered parts] at later
      rw [if_pos rfl, ← List.append_assoc]
      exact sent.append later
    | false =>
      -- nothing is sent, and what the cue asks for joins what is buffered
      rw [Cursor.signals_of_inner parts]
      refine later.congr ?_
      rw [next_of_inner buffered.due parts] at behind ⊢
      have joined := clear_unuttered_continued buffered agrees behind parts
      have said : utteredBy s.voice (s.unuttered roster ++ b.utterances roster cue) =
          utteredBy s.voice (s.unuttered roster) ++
            utteredBy b.voice (b.utterances roster cue) := by
        rw [← voice]
        exact List.map_append
      calc clearly (utteredBy s.voice ((s.continued roster cue).unuttered roster) ++
              (b.next roster cue).trace roster rest)
          = clearly (utteredBy s.voice (s.unuttered roster ++ b.utterances roster cue)) ++
              clearly ((b.next roster cue).trace roster rest) := by
            rw [clearly_append, clearly_utteredBy, joined, ← clearly_utteredBy]
        _ = clearly (utteredBy s.voice (s.unuttered roster) ++
              (utteredBy b.voice (b.utterances roster cue) ++
                (b.next roster cue).trace roster rest)) := by
            rw [said, ← clearly_append, List.append_assoc]

end State

/-- **What is heard, in which manner.** All calls of a delivery can be read, and, spaces left aside,
each character is said by the voice and in the manner in which a bearing says it. -/
theorem uttered_deliver [DecidableEq H] (roster : Roster H) (speech : Speech) :
    Uttered roster (deliver roster speech) ((Bearing.start roster).trace roster speech) := by
  have started := State.uttered_callsToEnd (.start roster) (.start roster) (.start roster) speech
  have nothing : (State.start roster).unuttered roster = [] := by
    unfold State.unuttered
    split <;> rfl
  rwa [nothing] at started

end Delivery

end Polyvoice
