import Polyvoice.Proofs.Delivery.Hearing
import Polyvoice.Proofs.Delivery.MarkupPayloads

/-!
# Nothing is lost on the way to the voices

A cursor that walks over a speech says which voice has to say what (`Cursor.trace`). What the voices
make of the calls of a delivery is just that, spaces left aside (`heard_deliver`). Halfway, it is
what was sent and what is still buffered, and a flush only moves atoms from the one to the other
(`State.heard_callsToEnd`).
-/

namespace Polyvoice.Delivery

variable {H : Type} {roster : Roster H}

namespace Cursor

/-- What a cue asks the active voice to say or note. -/
def atoms (roster : Roster H) (c : Cursor H) : Cue → List Atom
  | .text t =>
    if roster.engine c.voice = .chunk then (spoken c.spelling t).map .character
    else t.map .character
  | .bookmark id => [.bookmark id]
  | .silence ms => [.silence ms]
  | .phonetic _ fallback =>
    if roster.engine c.voice = .markup then fallback.map .character else []
  | _ => []

/-- What a speech asks the voices to say or note, in order. -/
def trace [DecidableEq H] (roster : Roster H) (c : Cursor H) : Speech → List (H × Atom)
  | [] => []
  | cue :: rest => heardBy c.voice (c.atoms roster cue) ++ (c.next roster cue).trace roster rest

/-- The spaces between spelled characters are not heard. -/
theorem audible_intersperse (t : Text) :
    audible ((t.intersperse ' ').map .character) = audible (t.map .character) := by
  induction t with
  | nil => rfl
  | cons c t ih =>
    cases t with
    | nil => rfl
    | cons d t =>
      calc audible (((c :: d :: t).intersperse ' ').map .character)
          = audible ([.character c] ++ [.character ' '] ++
              ((d :: t).intersperse ' ').map .character) := rfl
        _ = audible ([.character c] ++ [.character ' '] ++ (d :: t).map .character) := by
          rw [audible_append, ih, ← audible_append]
        _ = audible ((c :: d :: t).map .character) := rfl

/-- What a cue asks of a chunk voice is in its chunks. -/
theorem audible_chunks_of_chunk [DecidableEq H] {c : Cursor H} {cue : Cue}
    (chunk : roster.engine c.voice = .chunk) (inner : c.parts roster cue = false) :
    audible ((c.chunks roster cue).flatMap Chunk.atoms) = audible (c.atoms roster cue) := by
  have engine : (roster.voice c.voice).engine = .chunk := chunk
  cases cue with
  | cut => cases inner
  | silence ms => cases inner
  | text t =>
    by_cases blank : (Text.trim t).isEmpty
    · simp [chunks, atoms, engine, chunk, blank, spoken_of_blank blank]
    · cases due : c.spellDue <;> simp [chunks, atoms, engine, chunk, blank, due, Chunk.atoms]
  | phonetic ipa fallback => simp [chunks, atoms, engine, chunk]
  | _ => simp [chunks, atoms, engine, Chunk.atoms]

theorem audible_chunks_of_plain [DecidableEq H] {c : Cursor H} {cue : Cue}
    (plain : roster.engine c.voice = .plain) (inner : c.parts roster cue = false) :
    audible ((c.chunks roster cue).flatMap Chunk.atoms) = audible (c.atoms roster cue) := by
  have engine : (roster.voice c.voice).engine = .plain := plain
  cases cue with
  | cut => cases inner
  | silence ms => cases inner
  | bookmark id => simp [parts, plain] at inner
  | text t =>
    cases spelling : c.spelling with
    | true => simp [chunks, atoms, engine, plain, spelling, Chunk.atoms, audible_intersperse]
    | false => simp [chunks, atoms, engine, plain, spelling, Chunk.atoms]
  | _ => simp [chunks, atoms, engine, plain]

/-- What a cue asks of a markup voice is in its pieces. -/
theorem flatMap_pieces [DecidableEq H] {c : Cursor H} {cue : Cue}
    (markup : roster.engine c.voice = .markup) (inner : c.parts roster cue = false) :
    (c.pieces roster cue).flatMap Markup.Piece.atoms = c.atoms roster cue := by
  cases cue with
  | cut => cases inner
  | silence ms => cases inner
  | phonetic ipa fallback =>
    cases read : Phones.ofIpa ipa with
    | ok phones => simp [pieces, atoms, markup, read, Markup.Piece.atoms]
    | error fault =>
      by_cases wordless : fallback = []
      · simp [pieces, atoms, markup, read, wordless]
      · simp [pieces, atoms, markup, read, wordless, Markup.Piece.atoms]
  | _ => simp [pieces, atoms, markup, Markup.Piece.atoms]

/-- What a cue asks for is signalled where the cue parts the payload. -/
theorem heard_signals [DecidableEq H] {c : Cursor H} {cue : Cue}
    (parts : c.parts roster cue = true) :
    Heard roster ((c.signals roster cue).map (⟨c.voice, ·⟩))
      (heardBy c.voice (c.atoms roster cue)) := by
  cases cue with
  | language code => exact .nil
  | cut => exact .nil
  | silence ms => exact .single rfl rfl
  | bookmark id =>
    have plain : roster.engine c.voice = .plain := of_decide_eq_true parts
    rw [signals, if_pos plain]
    exact .single rfl rfl
  | _ => cases parts

end Cursor

namespace State

variable {s : State H}

/-- What is buffered and has yet to be heard. -/
def undelivered (s : State H) : List Atom :=
  s.chunks.flatMap Chunk.atoms ++ s.markup.flatMap Markup.Piece.atoms

theorem flatMap_tags (tags : List Markup.Tag) :
    (tags.map Markup.Piece.tag).flatMap Markup.Piece.atoms = [] := by
  rw [List.flatMap_map]
  exact List.flatMap_eq_nil_iff.2 fun _ _ => rfl

theorem undelivered_of_idle (buffered : s.Buffered roster) (idle : s.pending = false) :
    s.undelivered = [] := by
  have silent : s.markup.flatMap Markup.Piece.atoms = [] := by
    refine List.flatMap_eq_nil_iff.2 fun piece member => ?_
    obtain ⟨t, rfl⟩ := buffered.idle_markup idle piece member
    rfl
  rw [undelivered, buffered.idle_chunks idle, silent]
  rfl

/-- A plain voice says what is in its texts. -/
theorem map_render {chunks : List Chunk} (plain : ∀ d, .directive d ∉ chunks) :
    (chunks.flatMap Chunk.render).map Atom.character = chunks.flatMap Chunk.atoms := by
  induction chunks with
  | nil => rfl
  | cons chunk rest ih =>
    have later := ih fun d member => plain d (List.mem_cons_of_mem chunk member)
    cases chunk with
    | text t =>
      rw [List.flatMap_cons, List.map_append, later, List.flatMap_cons]
      rfl
    | directive d => exact absurd List.mem_cons_self (plain d)

/-- A payload is heard as what is buffered. -/
theorem atoms?_payload (buffered : s.Buffered roster) (nested : s.Nested) :
    ∃ atoms, (Op.speak (s.payload roster)).atoms? (roster.engine s.voice) = some atoms ∧
      audible atoms = audible s.undelivered := by
  cases engine : roster.engine s.voice with
  | plain =>
    have other : roster.engine s.voice ≠ .markup := by rw [engine]; decide
    refine ⟨s.undelivered, ?_, rfl⟩
    simp only [Op.atoms?, State.payload, engine, undelivered, buffered.markup_nil other,
      map_render (buffered.plain_chunks engine)]
    rw [List.flatMap_nil, List.append_nil]
  | chunk =>
    have other : roster.engine s.voice ≠ .markup := by rw [engine]; decide
    have free := buffered.escapeFree engine
    refine ⟨(Chunk.layoutTokens s.chunks).flatMap Chunk.Token.atoms, ?_, ?_⟩
    · simp only [Op.atoms?, State.payload, engine]
      rw [Chunk.frame_eq_layout free, Chunk.scan?_layout free, Option.map_some]
    · rw [Chunk.audible_layoutTokens, undelivered, buffered.markup_nil other, List.flatMap_nil,
        List.append_nil]
  | markup =>
    refine ⟨s.undelivered, ?_, rfl⟩
    simp only [Op.atoms?, State.payload, engine]
    rw [Markup.scan?_render nested.fits_payload, Option.map_some, List.flatMap_assoc]
    simp only [Markup.atoms_tokens]
    rw [List.flatMap_append, flatMap_tags, List.append_nil, undelivered,
      buffered.chunks_nil engine, List.flatMap_nil, List.nil_append]

/-- A flush delivers what is buffered. -/
theorem heard_flushCalls (buffered : s.Buffered roster) (nested : s.Nested) :
    Heard roster (s.flushCalls roster) (heardBy s.voice s.undelivered) := by
  obtain ⟨atoms, reads, same⟩ := atoms?_payload buffered nested
  unfold flushCalls
  split
  · exact .single reads same
  · rename_i unsent
    refine Heard.nil.congr ?_
    cases pending : s.pending with
    | false =>
      rw [undelivered_of_idle buffered pending]
      rfl
    | true =>
      -- a payload is held back only where it is empty
      have empty : s.payload roster = [] :=
        Decidable.byContradiction fun present => unsent ⟨pending, present⟩
      rw [empty, Op.atoms?_speak_nil] at reads
      cases reads
      rw [audibly_heardBy, ← same]
      rfl

/-- What a cue asks for is buffered behind what was buffered, if the cue parts nothing. -/
theorem audible_undelivered_continued [DecidableEq H] {cue : Cue} (buffered : s.Buffered roster)
    (inner : s.cursor.parts roster cue = false) :
    audible (s.continued roster cue).undelivered =
      audible (s.undelivered ++ s.cursor.atoms roster cue) := by
  by_cases markup : roster.engine s.voice = .markup
  · have noChunks : s.cursor.chunks roster cue = [] := Cursor.chunks_of_markup markup
    have pieces := Cursor.flatMap_pieces markup inner
    simp only [undelivered, continued, buffered.chunks_nil markup, noChunks, List.flatMap_append,
      flatMap_tags, pieces, List.flatMap_nil, List.nil_append, List.append_nil]
  · have noPieces : s.cursor.pieces roster cue = [] := Cursor.pieces_of_other markup
    have chunks : audible ((s.cursor.chunks roster cue).flatMap Chunk.atoms) =
        audible (s.cursor.atoms roster cue) := by
      cases engine : roster.engine s.voice with
      | chunk => exact Cursor.audible_chunks_of_chunk engine inner
      | plain => exact Cursor.audible_chunks_of_plain engine inner
      | markup => exact absurd engine markup
    simp only [undelivered, continued, buffered.markup_nil markup, noPieces,
      tagsFor_of_other markup, List.map_nil, List.append_nil, List.flatMap_append,
      List.flatMap_nil, audible_append, chunks]

/-- Halfway through a speech, what will be heard is what is buffered and what the rest of the speech
asks for. -/
theorem heard_callsToEnd [DecidableEq H] (buffered : s.Buffered roster) (nested : s.Nested)
    (speech : Speech) :
    Heard roster (s.callsToEnd roster speech)
      (heardBy s.voice s.undelivered ++ s.cursor.trace roster speech) := by
  induction speech generalizing s with
  | nil =>
    have last : s.callsToEnd roster [] = s.flushCalls roster := rfl
    rw [last, Cursor.trace, List.append_nil]
    exact heard_flushCalls buffered nested
  | cons cue rest ih =>
    have later := ih (buffered.next cue) (nested.next buffered cue)
    rw [cursor_next buffered.due] at later
    rw [callsToEnd_cons, calls_eq, Cursor.trace]
    cases parts : s.cursor.parts roster cue with
    | true =>
      -- what was buffered is sent, and then what the cue itself asks for
      have emptied : (s.next roster cue).undelivered = [] := by
        rw [undelivered, chunks_next buffered.due, if_pos parts, markup_next_of_parts parts]
        rfl
      have sent := (heard_flushCalls buffered nested).append (Cursor.heard_signals parts)
      rw [emptied] at later
      simp only [if_true]
      rw [← List.append_assoc]
      exact sent.append later
    | false =>
      -- nothing is sent, and what the cue asks for joins what is buffered
      rw [Cursor.signals_of_inner parts]
      refine later.congr ?_
      rw [next_of_inner buffered.due parts]
      have joined : heardBy s.voice (s.undelivered ++ s.cursor.atoms roster cue) =
          heardBy s.voice s.undelivered ++ heardBy s.voice (s.cursor.atoms roster cue) :=
        List.map_append
      calc audibly (heardBy s.voice (s.continued roster cue).undelivered ++
              (s.cursor.next roster cue).trace roster rest)
          = audibly (heardBy s.voice (s.undelivered ++ s.cursor.atoms roster cue)) ++
              audibly ((s.cursor.next roster cue).trace roster rest) := by
            rw [audibly_append, audibly_heardBy, audible_undelivered_continued buffered parts,
              ← audibly_heardBy]
        _ = audibly (heardBy s.voice s.undelivered ++
              (heardBy s.voice (s.cursor.atoms roster cue) ++
                (s.cursor.next roster cue).trace roster rest)) := by
            rw [joined, ← audibly_append, List.append_assoc]

end State

/-- **Nothing is lost, doubled, put out of order or sent to another voice.** All calls of a delivery
can be read in the protocols of their voices, and, spaces left aside, what is read is what a walk
over the speech asks of each voice. -/
theorem heard_deliver [DecidableEq H] (roster : Roster H) (speech : Speech) :
    ∃ heard, readBack? roster (deliver roster speech) = some heard ∧
      audibly heard = audibly ((Cursor.start roster).trace roster speech) :=
  State.heard_callsToEnd (.start roster) (.start roster) speech

end Polyvoice.Delivery
