import Polyvoice.Proofs.Chunk.Framing
import Polyvoice.Proofs.Delivery.Cursor

/-!
# The buffers of a delivery

A state has a buffer of chunks and a buffer of markup, and a mark that says whether there is
anything to send. `State.Buffered` says how these hang together: only the buffer of the active
voice's protocol is in use, what is in it suits the protocol, and where nothing is pending a flush
throws no text, bookmark or pronunciation away. Flushes, voices that take over and what a cursor
calls for keep it, and so do each cue (`State.Buffered.next`) and each speech
(`State.Buffered.after`).
-/

namespace Polyvoice.Delivery

variable {H : Type} {roster : Roster H}

/-! ## What a cue asks for suits the voice -/

namespace Cursor

variable {c : Cursor H} {cue : Cue}

theorem chunks_of_markup (markup : roster.engine c.voice = .markup) :
    c.chunks roster cue = [] := by
  have engine : (roster.voice c.voice).engine = .markup := markup
  simp [chunks, engine]

theorem directive_notMem_chunks (plain : roster.engine c.voice = .plain) (d : Directive) :
    .directive d ∉ c.chunks roster cue := by
  have engine : (roster.voice c.voice).engine = .plain := plain
  cases cue <;> simp [chunks, engine]

theorem escape_notMem_spoken (spelling : Bool) (t : Text) :
    escapeCharacter ∉ spoken spelling t := by
  intro escape
  have kept := (List.mem_filter.1 escape).2
  simp at kept

theorem spoken_of_blank {spelling : Bool} {t : Text} (blank : (Text.trim t).isEmpty = true) :
    spoken spelling t = [] := by
  rw [List.isEmpty_iff] at blank
  rw [spoken, blank]
  cases spelling <;> rfl

theorem escapeFree_chunks (chunk : roster.engine c.voice = .chunk) :
    Chunk.EscapeFree (c.chunks roster cue) := by
  have engine : (roster.voice c.voice).engine = .chunk := chunk
  intro u member
  cases cue with
  | text t =>
    have spokenText : u = spoken c.spelling t := by
      simp only [chunks, engine] at member
      split at member
      · cases member
      · split at member
        · simpa using member
        · simpa using member
    rw [spokenText]
    exact escape_notMem_spoken c.spelling t
  | _ => simp [chunks, engine] at member

theorem pieces_of_other (other : roster.engine c.voice ≠ .markup) : c.pieces roster cue = [] := by
  cases engine : roster.engine c.voice with
  | markup => exact absurd engine other
  | chunk => simp [pieces, engine]
  | plain => simp [pieces, engine]

end Cursor

namespace State

variable {s : State H} {cue : Cue}

theorem tagsFor_of_other (other : roster.engine s.voice ≠ .markup) : s.tagsFor roster cue = [] := by
  cases engine : roster.engine s.voice with
  | markup => exact absurd engine other
  | chunk => simp [tagsFor, engine]
  | plain => simp [tagsFor, engine]

theorem stagingFor_of_other (other : roster.engine s.voice ≠ .markup) :
    s.stagingFor roster cue = s.staging := by
  cases engine : (roster.voice s.voice).engine with
  | markup => exact absurd engine other
  | chunk => simp [stagingFor, engine]
  | plain => simp [stagingFor, engine]

/-! ## Voices that take over -/

@[simp] theorem takenOver_voice (h : H) : (s.takenOver roster h).voice = h := by
  unfold takenOver
  split <;> rfl

@[simp] theorem takenOver_language (h : H) : (s.takenOver roster h).language = s.language := by
  unfold takenOver
  split <;> rfl

@[simp] theorem takenOver_spelling (h : H) : (s.takenOver roster h).spelling = s.spelling := by
  unfold takenOver
  split <;> rfl

@[simp] theorem takenOver_pending (h : H) : (s.takenOver roster h).pending = s.pending := by
  unfold takenOver
  split <;> rfl

@[simp] theorem takenOver_chunks (h : H) : (s.takenOver roster h).chunks = s.chunks := by
  unfold takenOver
  split <;> rfl

@[simp] theorem takenOver_markup (h : H) : (s.takenOver roster h).markup = s.markup := by
  unfold takenOver
  split <;> rfl

@[simp] theorem takenOver_opened (h : H) : (s.takenOver roster h).staging.opened = [] := by
  unfold takenOver
  split
  · dsimp only
    split <;> rfl
  · rfl
  · rfl

/-! ## Buffers in order -/

/-- How the buffers of a state hang together with its voice and its marks. -/
structure Buffered (roster : Roster H) (s : State H) : Prop where
  /-- A markup voice has no chunks. -/
  chunks_nil : roster.engine s.voice = .markup → s.chunks = []
  /-- Other voices have no markup, -/
  markup_nil : roster.engine s.voice ≠ .markup → s.markup = []
  /-- and no open elements. -/
  opened_nil : roster.engine s.voice ≠ .markup → s.staging.opened = []
  /-- Where nothing is pending there are no chunks, -/
  idle_chunks : s.pending = false → s.chunks = []
  /-- and there is no markup but tags. -/
  idle_markup : s.pending = false → ∀ piece ∈ s.markup, ∃ t, piece = .tag t
  /-- A plain voice has no directives. -/
  plain_chunks : roster.engine s.voice = .plain → ∀ d, .directive d ∉ s.chunks
  /-- A chunk voice has no escape character in its texts. -/
  escapeFree : roster.engine s.voice = .chunk → Chunk.EscapeFree s.chunks
  /-- Only a chunk voice can still have to be told to spell. -/
  due : s.DueToChunk roster

namespace Buffered

theorem start (roster : Roster H) : Buffered roster (State.start roster) where
  chunks_nil _ := rfl
  markup_nil _ := rfl
  opened_nil _ := rfl
  idle_chunks _ := rfl
  idle_markup _ _ member := nomatch member
  plain_chunks _ _ := List.not_mem_nil
  escapeFree _ _ member := nomatch member
  due due := nomatch due

theorem flushed (buffered : s.Buffered roster) : (s.flushed roster).Buffered roster where
  chunks_nil _ := rfl
  markup_nil _ := rfl
  opened_nil other := by
    have kept : (s.flushed roster).staging = s.staging := if_neg other
    rw [kept]
    exact buffered.opened_nil other
  idle_chunks _ := rfl
  idle_markup _ _ member := nomatch member
  plain_chunks _ _ := List.not_mem_nil
  escapeFree _ _ member := nomatch member
  due := buffered.due

/-- A voice that takes over starts with empty buffers. -/
theorem takenOver (chunks : s.chunks = []) (markup : s.markup = []) (h : H) :
    (s.takenOver roster h).Buffered roster := by
  constructor
  case chunks_nil => exact fun _ => (takenOver_chunks h).trans chunks
  case markup_nil => exact fun _ => (takenOver_markup h).trans markup
  case opened_nil => exact fun _ => takenOver_opened h
  case idle_chunks => exact fun _ => (takenOver_chunks h).trans chunks
  case idle_markup =>
    intro _ piece member
    rw [takenOver_markup, markup] at member
    cases member
  case plain_chunks =>
    intro _ d member
    rw [takenOver_chunks, chunks] at member
    cases member
  case escapeFree =>
    intro _ t member
    rw [takenOver_chunks, chunks] at member
    cases member
  case due =>
    intro due
    rw [takenOver_voice]
    cases engine : roster.engine h with
    | chunk => rfl
    | markup => simp [State.takenOver, engine] at due
    | plain => simp [State.takenOver, engine] at due

/-- What the cursor calls for suits the voice. -/
theorem continued [DecidableEq H] (buffered : s.Buffered roster)
    (inner : s.cursor.parts roster cue = false) : (s.continued roster cue).Buffered roster where
  chunks_nil markup := by
    have none : s.cursor.chunks roster cue = [] := Cursor.chunks_of_markup markup
    simp [State.continued, buffered.chunks_nil markup, none]
  markup_nil other := by
    have none : s.cursor.pieces roster cue = [] := Cursor.pieces_of_other other
    have untagged : s.tagsFor roster cue = [] := tagsFor_of_other other
    simp [State.continued, buffered.markup_nil other, none, untagged]
  opened_nil other := by
    have kept : s.stagingFor roster cue = s.staging := stagingFor_of_other other
    simp only [State.continued, kept]
    exact buffered.opened_nil other
  idle_chunks idle := by
    simp only [State.continued, Bool.or_eq_false_iff, Bool.not_eq_false', List.isEmpty_iff] at idle
    obtain ⟨⟨before, none⟩, -⟩ := idle
    simp [State.continued, buffered.idle_chunks before, none]
  idle_markup idle piece member := by
    simp only [State.continued, Bool.or_eq_false_iff, Bool.not_eq_false', List.isEmpty_iff] at idle
    obtain ⟨⟨before, -⟩, none⟩ := idle
    simp only [State.continued, none, List.append_nil, List.mem_append, List.mem_map] at member
    rcases member with earlier | ⟨t, -, written⟩
    · exact buffered.idle_markup before piece earlier
    · exact ⟨t, written.symm⟩
  plain_chunks plain d member := by
    rcases List.mem_append.1 member with earlier | added
    · exact buffered.plain_chunks plain d earlier
    · exact Cursor.directive_notMem_chunks (c := s.cursor) plain d added
  escapeFree chunk t member := by
    rcases List.mem_append.1 member with earlier | added
    · exact buffered.escapeFree chunk t earlier
    · exact Cursor.escapeFree_chunks (c := s.cursor) chunk t added
  due due := by
    refine buffered.due ?_
    cases cue with
    | language code =>
      rw [State.continued, Cursor.next_of_stays inner] at due
      exact due
    | text t => exact (Bool.and_eq_true_iff.1 due).1
    | spelling on => cases due
    | _ => exact due

/-! ## Runs -/

/-- Every cue keeps the buffers in order. -/
theorem next [DecidableEq H] (buffered : s.Buffered roster) (cue : Cue) :
    (s.next roster cue).Buffered roster := by
  cases parts : s.cursor.parts roster cue with
  | false =>
    rw [next_of_inner buffered.due parts]
    exact buffered.continued parts
  | true =>
    rcases next_of_parts parts with flush | ⟨language, h, takes⟩
    · rw [flush]
      exact buffered.flushed
    · rw [takes]
      exact takenOver rfl rfl h

/-- So does every speech. -/
theorem after [DecidableEq H] (buffered : s.Buffered roster) (speech : Speech) :
    (s.after roster speech).Buffered roster := by
  induction speech generalizing s with
  | nil => exact buffered
  | cons cue rest ih => exact ih (buffered.next cue)

end Buffered

/-- Behind a speech, the machine stands where a cursor would stand. -/
theorem cursor_after [DecidableEq H] (buffered : s.Buffered roster) (speech : Speech) :
    (s.after roster speech).cursor = s.cursor.after roster speech := by
  induction speech generalizing s with
  | nil => rfl
  | cons cue rest ih =>
    have later := ih (buffered.next cue)
    rwa [cursor_next buffered.due] at later

/-- A cue that parts the payload leaves no chunks, and no other cue loses one. -/
theorem chunks_next [DecidableEq H] (due : s.DueToChunk roster) (cue : Cue) :
    (s.next roster cue).chunks =
      if s.cursor.parts roster cue then [] else s.chunks ++ s.cursor.chunks roster cue := by
  cases parts : s.cursor.parts roster cue with
  | false =>
    rw [next_of_inner due parts]
    rfl
  | true =>
    rcases next_of_parts parts with flush | ⟨language, h, takes⟩
    · rw [flush]
      rfl
    · rw [takes, takenOver_chunks]
      rfl

/-- Nor does it leave any markup. -/
theorem markup_next_of_parts [DecidableEq H] {cue : Cue}
    (parts : s.cursor.parts roster cue = true) : (s.next roster cue).markup = [] := by
  rcases next_of_parts parts with flush | ⟨language, h, takes⟩
  · rw [flush]
    rfl
  · rw [takes, takenOver_markup]
    rfl

end State

end Polyvoice.Delivery
