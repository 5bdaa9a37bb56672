import Polyvoice.Proofs.Delivery.Contents
import Polyvoice.Proofs.Delivery.Enclosing
import Polyvoice.Proofs.Delivery.ToldToSpell
import Polyvoice.Proofs.Markup.OpenTags

/-!
# The states of a delivery are coherent

In every state that a speech leads to, the parts hang together (`coherent_after`). Only the buffer
of the active voice's protocol is in use. The open elements of the staging are those that the
buffered markup leaves unclosed, as its pieces tell and as a reader of the written buffer finds them
(`Markup.openNames?`). Where nothing is pending, a flush holds back nothing that could be heard. A
voice has yet to be told to spell only if it speaks the chunk protocol and texts are spelled. And of
the calls made on the way, no payload is empty, and bookmarks are sent to plain voices only
(`Admissible`).
-/

namespace Polyvoice

/-! ## Calls that may be made -/

namespace Delivery

variable {H : Type} {roster : Roster H}

/-- A payload is not empty, and a bookmark is sent beside payloads only to a plain voice. -/
structure Admissible (roster : Roster H) (call : Call H) : Prop where
  payload : ∀ payload, call.op = .speak payload → payload ≠ []
  bookmark : ∀ id, call.op = .bookmark id → roster.engine call.voice = .plain

namespace State

variable {s : State H}

theorem admissible_flushCalls : ∀ call ∈ s.flushCalls roster, Admissible roster call := by
  intro call made
  obtain ⟨some, rfl⟩ := eq_of_mem_flushCalls made
  constructor
  case payload =>
    intro payload speaks
    cases speaks
    exact some
  case bookmark =>
    intro id marks
    cases marks

variable [DecidableEq H]

/-- No cue makes a call that is not admissible. -/
theorem admissible_calls (cue : Cue) : ∀ call ∈ s.calls roster cue, Admissible roster call := by
  intro call made
  rcases flushed_or_signalled made with flushed | ⟨op, signal, rfl⟩
  · exact admissible_flushCalls call flushed
  · constructor
    case payload =>
      intro payload speaks
      cases speaks
      exact absurd signal (Cursor.speak_notMem_signals payload)
    case bookmark =>
      intro id marks
      cases marks
      exact Cursor.plain_of_bookmark_mem_signals signal

/-- Nor does a speech. -/
theorem admissible_callsDuring (roster : Roster H) (s : State H) (speech : Speech) :
    ∀ call ∈ s.callsDuring roster speech, Admissible roster call := by
  induction speech generalizing s with
  | nil => exact fun _ member => nomatch member
  | cons cue rest ih =>
    intro call member
    rcases List.mem_append.1 member with now | later
    · exact admissible_calls cue call now
    · exact ih _ call later

/-! ## States that are reached -/

omit [DecidableEq H] in
/-- What a flush holds back, because nothing is pending, has no content. -/
theorem content?_payload_of_idle (buffered : s.Buffered roster) (nested : s.Nested)
    (idle : s.pending = false) : Markup.content? (s.payload roster) = some [] := by
  have chunks : s.chunks = [] := buffered.idle_chunks idle
  unfold payload
  split
  · rw [chunks]
    rfl
  · rw [chunks]
    rfl
  · rw [Markup.content?_render nested.fits_payload, Markup.untagged_append,
      Markup.untagged_of_tags (buffered.idle_markup idle), Markup.untagged_map_tag]
    rfl

end State

/-- **In every state that a speech leads to, the buffers, the staging and the marks agree.** A
markup voice has no chunks, and other voices have no markup and no open elements. The open elements
are just those that the buffered markup leaves unclosed. Where nothing is pending there are no
chunks, and no markup but tags of elements, so what a flush holds back has no content. Only a chunk
voice has yet to be told to spell, and only while texts are spelled. Of the calls made so far, no
payload is empty, and each bookmark goes to a plain voice. -/
theorem coherent_after [DecidableEq H] (roster : Roster H) (speech : Speech) :
    let s := (State.start roster).after roster speech
    (roster.engine s.voice = .markup → s.chunks = []) ∧
      (roster.engine s.voice ≠ .markup → s.markup = [] ∧ s.staging.opened = []) ∧
      Markup.unclosed? [] s.markup = some s.staging.opened.reverse ∧
      Markup.openNames? (Markup.render s.markup) =
        some (s.staging.opened.reverse.map fun element => element.name.toList) ∧
      (s.pending = false →
        s.chunks = [] ∧ (∀ piece ∈ s.markup, ∃ t, piece = .tag t) ∧
          Markup.content? (s.payload roster) = some []) ∧
      (s.spellDue = true → roster.engine s.voice = .chunk ∧ s.spelling = true) ∧
      ∀ call ∈ (State.start roster).callsDuring roster speech, Admissible roster call := by
  intro s
  have buffered : s.Buffered roster := (State.Buffered.start roster).after speech
  have nested : s.Nested := (State.Nested.start roster).after (.start roster) speech
  have admissible := State.admissible_callsDuring roster (.start roster) speech
  refine ⟨buffered.chunks_nil, ?_, nested.unclosed, ?_, ?_, ?_, admissible⟩
  · exact fun other => ⟨buffered.markup_nil other, buffered.opened_nil other⟩
  · exact Markup.openNames?_render nested.fits nested.unclosed
  · exact fun idle => ⟨buffered.idle_chunks idle, buffered.idle_markup idle,
      State.content?_payload_of_idle buffered nested idle⟩
  · exact fun due => ⟨buffered.due due, spelling_of_due roster speech due⟩

/-- Where phonetic letters cannot be read and there are no words to fall back on, elements are
opened all the same. A flush holds their tags back. -/
example :
    let s := (State.start soloist).after soloist [.pitch (.absolute 60), .phonetic ['?'] []]
    s.pending = false ∧ s.markup = [.tag (.opening .pitch [("absmiddle", 5)])] ∧
      s.staging.opened = [.pitch] ∧ s.flushCalls soloist = [] := by
  decide +kernel

end Delivery

end Polyvoice
