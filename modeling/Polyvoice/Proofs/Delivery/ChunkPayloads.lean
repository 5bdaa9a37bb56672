import Polyvoice.Proofs.Chunk.Reader
import Polyvoice.Proofs.Delivery.Buffers

/-!
# Chunk payloads frame what a speech calls for

A speech calls for chunks, and cues that end a payload part them into groups (`Cursor.groups`). The
payloads of the chunk voices are these groups, framed, one for each group that is not silent; a
group is laid out in its payload and parsed back from it, its directives with the numbers and words
that they were called for with (`frames_deliver`).
-/

namespace Polyvoice.Delivery

variable {H : Type}

namespace Cursor

/-- The chunks that a speech calls for, with their voices: one group for each payload in progress.
The first group begins with what was gathered before. -/
def groups [DecidableEq H] (roster : Roster H) (c : Cursor H) (gathered : List Chunk) :
    Speech → List (H × List Chunk)
  | [] => [(c.voice, gathered)]
  | cue :: rest =>
    if c.parts roster cue then (c.voice, gathered) :: (c.next roster cue).groups roster [] rest
    else (c.next roster cue).groups roster (gathered ++ c.chunks roster cue) rest

theorem voice_next_of_inner [DecidableEq H] {roster : Roster H} {c : Cursor H} {cue : Cue}
    (inner : c.parts roster cue = false) : (c.next roster cue).voice = c.voice := by
  cases cue with
  | language code => rw [next_of_stays inner]
  | _ => rfl

/-- The groups of chunk voices have no escape character in their texts. -/
theorem escapeFree_groups [DecidableEq H] {roster : Roster H} {c : Cursor H}
    {gathered : List Chunk}
    (free : roster.engine c.voice = .chunk → Chunk.EscapeFree gathered) (speech : Speech) :
    ∀ group ∈ c.groups roster gathered speech,
      roster.engine group.1 = .chunk → Chunk.EscapeFree group.2 := by
  induction speech generalizing c gathered with
  | nil =>
    intro group member
    cases List.mem_singleton.1 member
    exact free
  | cons cue rest ih =>
    intro group member
    rw [groups] at member
    cases parts : c.parts roster cue with
    | true =>
      rw [if_pos parts] at member
      rcases List.mem_cons.1 member with rfl | later
      · exact free
      · have none : Chunk.EscapeFree [] := fun t inside => nomatch inside
        exact ih (fun _ => none) group later
    | false =>
      rw [if_neg (Bool.eq_false_iff.1 parts)] at member
      refine ih ?_ group member
      intro chunk t inside
      rw [voice_next_of_inner parts] at chunk
      rcases List.mem_append.1 inside with earlier | added
      · exact free chunk t earlier
      · exact escapeFree_chunks chunk t added

end Cursor

/-! ## Payloads -/

/-- The payload of a call on a chunk voice. -/
def chunkPayload? (roster : Roster H) (call : Call H) : Option (H × Text) :=
  match roster.engine call.voice, call.op with
  | .chunk, .speak payload => some (call.voice, payload)
  | _, _ => none

/-- The payload of a group of a chunk voice: none if there is nothing to say in it. -/
def framed? (roster : Roster H) (group : H × List Chunk) : Option (H × Text) :=
  if roster.engine group.1 = .chunk ∧ Chunk.frame group.2 ≠ [] then
    some (group.1, Chunk.frame group.2)
  else none

namespace State

variable {roster : Roster H} {s : State H}

/-- What a flush sends to a chunk voice is what is buffered, framed. -/
theorem filterMap_flushCalls (buffered : s.Buffered roster) :
    (s.flushCalls roster).filterMap (chunkPayload? roster) =
      (framed? roster (s.voice, s.chunks)).toList := by
  by_cases chunk : roster.engine s.voice = .chunk
  · have payload : s.payload roster = Chunk.frame s.chunks := by rw [State.payload, chunk]
    unfold flushCalls framed?
    rw [payload]
    cases pending : s.pending with
    | false =>
      have idle : s.chunks = [] := buffered.idle_chunks pending
      simp [idle, Chunk.frame, Chunk.attachDirectives]
    | true =>
      by_cases silent : Chunk.frame s.chunks = []
      · simp [silent]
      · simp [silent, chunk, chunkPayload?]
  · have unframed : framed? roster (s.voice, s.chunks) = none := if_neg fun both => chunk both.1
    rw [unframed]
    unfold flushCalls
    split
    · cases engine : roster.engine s.voice with
      | chunk => exact absurd engine chunk
      | markup => simp [chunkPayload?, engine]
      | plain => simp [chunkPayload?, engine]
    · rfl

theorem filterMap_signals (roster : Roster H) (s : State H) (cue : Cue) :
    ((s.cursor.signals roster cue).map (⟨s.voice, ·⟩)).filterMap (chunkPayload? roster) = [] := by
  rw [List.filterMap_eq_nil_iff]
  intro call member
  obtain ⟨op, signal, rfl⟩ := List.mem_map.1 member
  cases op with
  | speak payload => exact absurd signal (Cursor.speak_notMem_signals payload)
  | silence ms => simp [chunkPayload?]
  | bookmark id => simp [chunkPayload?]

/-- From a state on, the payloads of chunk voices are the framed groups. -/
theorem filterMap_callsToEnd [DecidableEq H] (buffered : s.Buffered roster) (speech : Speech) :
    (s.callsToEnd roster speech).filterMap (chunkPayload? roster) =
      (s.cursor.groups roster s.chunks speech).filterMap (framed? roster) := by
  induction speech generalizing s with
  | nil =>
    have last : s.callsToEnd roster [] = s.flushCalls roster := rfl
    rw [last, filterMap_flushCalls buffered, Cursor.groups]
    cases framed : framed? roster (s.voice, s.chunks) <;> simp [cursor, framed]
  | cons cue rest ih =>
    have later := ih (buffered.next cue)
    -- the group in progress is what is buffered, before the cue and behind it
    rw [cursor_next buffered.due, chunks_next buffered.due] at later
    rw [callsToEnd_cons, List.filterMap_append, later, calls_eq, List.filterMap_append,
      filterMap_signals, List.append_nil, Cursor.groups]
    cases parts : s.cursor.parts roster cue with
    | true =>
      simp only [if_true]
      rw [filterMap_flushCalls buffered]
      cases framed : framed? roster (s.voice, s.chunks) <;> simp [cursor, framed]
    | false => simp

end State

/-! ## Deliveries -/

/-- The groups of chunks that a speech calls for. -/
def groups [DecidableEq H] (roster : Roster H) (speech : Speech) : List (H × List Chunk) :=
  (Cursor.start roster).groups roster [] speech

/-- How a payload holds a group of chunks. -/
structure Frames (payload : Text) (chunks : List Chunk) : Prop where
  /-- The first chunk stands bare, each further text behind two spaces, and each further directive
  behind nothing. -/
  laid : payload = Chunk.layout chunks
  /-- The payload is parsed as the characters and the directives of its chunks, two spaces in front
  of each further text. -/
  parsed : Chunk.parse? payload = some (Chunk.layoutItems chunks)
  /-- The directives that are parsed are those that were called for, in their order and with their
  values. -/
  directives :
    (Chunk.layoutItems chunks).filterMap Chunk.Item.directive? = chunks.filterMap Chunk.called?

theorem frames_frame {chunks : List Chunk} (free : Chunk.EscapeFree chunks) :
    Frames (Chunk.frame chunks) chunks where
  laid := Chunk.frame_eq_layout free
  parsed := by rw [Chunk.frame_eq_layout free, Chunk.parse?_layout free]
  directives := Chunk.filterMap_layoutItems chunks

/-- **Chunk payloads frame what a speech calls for.** The payloads of chunk voices are the groups
that a speech calls for, framed. Each of these payloads is laid out from its group and is parsed as
it, directive by directive with the values that were called for; and a group without a payload has
nothing to say. -/
theorem frames_deliver [DecidableEq H] (roster : Roster H) (speech : Speech) :
    (deliver roster speech).filterMap (chunkPayload? roster) =
        (groups roster speech).filterMap (framed? roster) ∧
      ∀ group ∈ groups roster speech, roster.engine group.1 = .chunk →
        Frames (Chunk.frame group.2) group.2 ∧
          (Chunk.frame group.2 = [] → group.2 = [] ∨ group.2 = [.text []]) := by
  constructor
  · exact State.filterMap_callsToEnd (.start roster) speech
  · intro group member chunk
    have none : Chunk.EscapeFree [] := fun t inside => nomatch inside
    have free := Cursor.escapeFree_groups (fun _ => none) speech group member chunk
    refine ⟨frames_frame free, fun silent => ?_⟩
    rw [Chunk.frame_eq_layout free] at silent
    exact Chunk.eq_of_layout_eq_nil silent

end Polyvoice.Delivery
