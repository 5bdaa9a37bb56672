import Polyvoice.Proofs.Delivery.Buffers
import Polyvoice.Proofs.Markup.Grammar

/-!
# Markup payloads are fragments

A delivery writes opening tags in front of texts, from what is staged, and closing tags where it
flushes, from its list of open elements. `State.Nested` ties both to what stands in the buffer: the
open elements are those that the buffered tags leave unclosed. Each cue keeps it, so a payload
closes what it opens, and every payload that is sent to a markup voice is a fragment of the
grammar (`fragment_of_mem_deliver`).
-/

namespace Polyvoice

namespace Markup.Staging

/-! ## Staged elements -/

/-- No element is staged twice, and each has its own attributes. -/
structure Proper (staging : Staging) : Prop where
  distinct : staging.Distinct
  accepts : ∀ entry ∈ staging.staged, entry.1.Accepts entry.2

theorem mem_assign {element : Element} {attributes : Attributes}
    {staged : List (Element × Attributes)} {entry : Element × Attributes}
    (member : entry ∈ assign element attributes staged) :
    entry = (element, attributes) ∨ entry ∈ staged := by
  induction staged with
  | nil => exact Or.inl (List.mem_singleton.1 member)
  | cons first rest ih =>
    rw [assign] at member
    split at member
    · rcases List.mem_cons.1 member with new | later
      · exact Or.inl new
      · exact Or.inr (List.mem_cons_of_mem first later)
    · rcases List.mem_cons.1 member with same | later
      · exact Or.inr (same ▸ List.mem_cons_self)
      · rcases ih later with new | old
        · exact Or.inl new
        · exact Or.inr (List.mem_cons_of_mem first old)

namespace Proper

variable {staging : Staging}

theorem fresh : Proper Staging.fresh where
  distinct := distinct_fresh
  accepts _ member := nomatch member

theorem plan (proper : staging.Proper) {element : Element} {attributes : Attributes}
    (accepts : element.Accepts attributes) : (staging.plan element attributes).Proper where
  distinct := proper.distinct.plan element attributes
  accepts entry member := by
    rcases mem_assign member with rfl | old
    · exact accepts
    · exact proper.accepts entry old

theorem stage (proper : staging.Proper) {element : Element} {attributes : Attributes}
    (accepts : element.Accepts attributes) : (staging.stage element attributes).Proper where
  distinct := (proper.plan accepts).distinct
  accepts := (proper.plan accepts).accepts

theorem drop (proper : staging.Proper) (element : Element) : (staging.drop element).Proper where
  distinct := proper.distinct.drop element
  accepts entry member := proper.accepts entry (List.mem_filter.1 member).1

theorem emitted (proper : staging.Proper) : staging.emitted.Proper := by
  unfold Staging.emitted
  split
  · exact ⟨proper.distinct, proper.accepts⟩
  · exact proper

theorem closed (proper : staging.Proper) : staging.closed.Proper where
  distinct := proper.distinct
  accepts := proper.accepts

theorem fits_emission (proper : staging.Proper) : ∀ t ∈ staging.emission, t.Fits := by
  intro t member
  unfold emission at member
  split at member
  · rcases List.mem_append.1 member with closing | opening
    · obtain ⟨element, -, rfl⟩ := List.mem_map.1 closing
      trivial
    · obtain ⟨entry, staged, rfl⟩ := List.mem_map.1 opening
      exact proper.accepts entry staged
  · cases member

end Proper

theorem fits_closings (staging : Staging) : ∀ t ∈ staging.closings, t.Fits := by
  intro t member
  obtain ⟨element, -, rfl⟩ := List.mem_map.1 member
  trivial

end Markup.Staging

namespace Delivery

variable {H : Type} {roster : Roster H}

/-- No cue asks for a tag by itself. -/
theorem Cursor.tag_notMem_pieces {c : Cursor H} {cue : Cue} (t : Markup.Tag) :
    .tag t ∉ c.pieces roster cue := by
  intro member
  unfold pieces at member
  split at member
  · cases List.mem_singleton.1 member
  · cases List.mem_singleton.1 member
  · split at member
    · cases List.mem_singleton.1 member
    · split at member
      · cases member
      · cases List.mem_singleton.1 member
  · cases member

namespace State

variable {s : State H} {cue : Cue}

/-! ## The staging behind a cue -/

theorem accepts_basePitch (roster : Roster H) (h : H) :
    Markup.Element.pitch.Accepts (basePitch roster h) :=
  rfl

theorem proper_openElements (proper : s.staging.Proper) :
    (s.openElements roster).staging.Proper := by
  unfold openElements
  split
  · exact proper.emitted.plan (accepts_basePitch roster s.voice)
  · exact proper

theorem proper_stageSetting (proper : s.staging.Proper) {element : Markup.Element} {key : String}
    (keys : element.keys = [key]) (setting : Prosody) (base : UInt8) :
    (s.stageSetting element key setting base).staging.Proper := by
  unfold stageSetting
  split
  · exact proper.drop element
  · exact proper.stage keys.symm

/-- A cue keeps what is staged in order. -/
theorem proper_stagingFor (proper : s.staging.Proper) : (s.stagingFor roster cue).Proper := by
  unfold stagingFor
  dsimp only
  split
  · exact proper_openElements proper
  · exact proper_openElements proper
  · rename_i on _
    cases on with
    | true => exact proper.stage rfl
    | false => exact proper.drop .spell
  · exact proper.stage rfl
  · exact proper_stageSetting proper rfl _ _
  · exact proper_stageSetting proper rfl _ _
  · exact proper

/-- Behind the tags that are written, the elements are open that the staging says are open. -/
theorem unclosed?_openElements (proper : s.staging.Proper) :
    Markup.unclosed? s.staging.opened.reverse (s.staging.emission.map .tag) =
      some (s.openElements roster).staging.opened.reverse := by
  rw [Markup.Staging.unclosed?_emission proper.distinct]
  unfold openElements Markup.Staging.emitted
  split
  · rfl
  · rfl

theorem opened_stageSetting (element : Markup.Element) (key : String) (setting : Prosody)
    (base : UInt8) :
    (s.stageSetting element key setting base).staging.opened = s.staging.opened := by
  unfold stageSetting
  split
  · rfl
  · rfl

/-- The tags in front of the pieces of a cue lead to the elements that are open behind it. -/
theorem unclosed?_tagsFor (proper : s.staging.Proper) :
    Markup.unclosed? s.staging.opened.reverse ((s.tagsFor roster cue).map .tag) =
      some (s.stagingFor roster cue).opened.reverse := by
  by_cases markup : (roster.voice s.voice).engine = .markup
  · cases cue with
    | text t =>
      simp only [tagsFor, stagingFor, Roster.engine, markup]
      exact unclosed?_openElements proper
    | phonetic ipa fallback =>
      simp only [tagsFor, stagingFor, Roster.engine, markup]
      exact unclosed?_openElements proper
    | spelling on =>
      simp only [tagsFor, stagingFor, Roster.engine, markup]
      cases on <;> rfl
    | volume setting =>
      simp only [tagsFor, stagingFor, Roster.engine, markup, opened_stageSetting]
      rfl
    | rate setting =>
      simp only [tagsFor, stagingFor, Roster.engine, markup, opened_stageSetting]
      rfl
    | _ =>
      simp only [tagsFor, stagingFor, Roster.engine, markup]
      rfl
  · rw [tagsFor_of_other markup, stagingFor_of_other markup]
    rfl

theorem fits_tagsFor (proper : s.staging.Proper) : ∀ t ∈ s.tagsFor roster cue, t.Fits := by
  unfold tagsFor
  split
  · exact proper.fits_emission
  · exact proper.fits_emission
  · exact fun t member => nomatch member

/-! ## Nested buffers -/

/-- How the buffered markup hangs together with the staging. -/
structure Nested (s : State H) : Prop where
  /-- The open elements are those that the buffer leaves unclosed. -/
  unclosed : Markup.unclosed? [] s.markup = some s.staging.opened.reverse
  /-- What is staged is in order. -/
  proper : s.staging.Proper
  /-- The buffered tags fit. -/
  fits : ∀ piece ∈ s.markup, piece.Fits

namespace Nested

theorem start (roster : Roster H) : Nested (State.start roster) where
  unclosed := rfl
  proper := .fresh
  fits _ member := nomatch member

theorem flushed (nested : s.Nested) (buffered : s.Buffered roster) :
    (s.flushed roster).Nested := by
  by_cases markup : roster.engine s.voice = .markup
  · have staging : (s.flushed roster).staging = s.staging.closed := if_pos markup
    constructor
    case unclosed => rw [staging]; rfl
    case proper => rw [staging]; exact nested.proper.closed
    case fits => exact fun _ member => nomatch member
  · have staging : (s.flushed roster).staging = s.staging := if_neg markup
    constructor
    case unclosed => rw [staging, buffered.opened_nil markup]; rfl
    case proper => rw [staging]; exact nested.proper
    case fits => exact fun _ member => nomatch member

theorem takenOver (markup : s.markup = []) (h : H) : (s.takenOver roster h).Nested := by
  have pitched := Markup.Staging.Proper.fresh.plan (accepts_basePitch roster h)
  constructor
  case unclosed =>
    rw [takenOver_markup, markup, takenOver_opened]
    rfl
  case proper =>
    unfold State.takenOver
    split
    · dsimp only
      split
      · exact pitched.plan rfl
      · exact pitched
    · exact .fresh
    · exact .fresh
  case fits =>
    intro piece member
    rw [takenOver_markup, markup] at member
    cases member

/-- What a cue writes keeps the elements nested. -/
theorem continued [DecidableEq H] (nested : s.Nested) (cue : Cue) :
    (s.continued roster cue).Nested where
  unclosed := by
    have untagged (t : Markup.Tag) : .tag t ∉ s.cursor.pieces roster cue :=
      Cursor.tag_notMem_pieces t
    simp only [State.continued]
    rw [Markup.unclosed?_append, Markup.unclosed?_append, nested.unclosed, Option.bind_some,
      unclosed?_tagsFor nested.proper, Option.bind_some, Markup.unclosed?_of_untagged untagged]
  proper := proper_stagingFor nested.proper
  fits piece member := by
    simp only [State.continued, List.mem_append, List.mem_map] at member
    rcases member with (earlier | ⟨t, written, rfl⟩) | content
    · exact nested.fits piece earlier
    · exact fits_tagsFor nested.proper t written
    · cases piece with
      | tag t => exact absurd content (Cursor.tag_notMem_pieces t)
      | _ => trivial

theorem next [DecidableEq H] (nested : s.Nested) (buffered : s.Buffered roster) (cue : Cue) :
    (s.next roster cue).Nested := by
  cases parts : s.cursor.parts roster cue with
  | false =>
    rw [next_of_inner buffered.due parts]
    exact nested.continued cue
  | true =>
    rcases next_of_parts parts with flush | ⟨language, h, takes⟩
    · rw [flush]
      exact nested.flushed buffered
    · rw [takes]
      exact takenOver rfl h

/-- A whole speech keeps the elements nested. -/
theorem after [DecidableEq H] (nested : s.Nested) (buffered : s.Buffered roster)
    (speech : Speech) : (s.after roster speech).Nested := by
  induction speech generalizing s with
  | nil => exact nested
  | cons cue rest ih => exact ih (nested.next buffered cue) (buffered.next cue)

theorem fits_payload (nested : s.Nested) :
    ∀ piece ∈ s.markup ++ s.staging.closings.map .tag, piece.Fits := by
  intro piece member
  rcases List.mem_append.1 member with buffered | closing
  · exact nested.fits piece buffered
  · obtain ⟨t, written, rfl⟩ := List.mem_map.1 closing
    exact s.staging.fits_closings t written

/-- A payload closes all that it opens. -/
theorem fragment (nested : s.Nested) :
    Markup.Fragment [] (Markup.render (s.markup ++ s.staging.closings.map .tag)) := by
  refine Markup.fragment_render ?_ nested.fits_payload
  rw [Markup.unclosed?_append, nested.unclosed, Option.bind_some,
    Markup.Staging.unclosed?_closings]

end Nested

end State

/-! ## Calls -/

/-- A payload for a markup voice is a fragment. -/
def WellFormed (roster : Roster H) (call : Call H) : Prop :=
  roster.engine call.voice = .markup → ∀ payload, call.op = .speak payload →
    Markup.Fragment [] payload

namespace State

variable {s : State H}

theorem wellFormed_flushCalls (nested : s.Nested) :
    ∀ call ∈ s.flushCalls roster, WellFormed roster call := by
  intro call made markup payload speaks
  obtain ⟨-, rfl⟩ := eq_of_mem_flushCalls made
  have sent : s.payload roster = Markup.render (s.markup ++ s.staging.closings.map .tag) := by
    rw [State.payload, markup]
  cases speaks
  rw [sent]
  exact nested.fragment

theorem wellFormed_calls [DecidableEq H] (nested : s.Nested) (cue : Cue) :
    ∀ call ∈ s.calls roster cue, WellFormed roster call := by
  intro call made
  rcases flushed_or_signalled made with flushed | ⟨op, signal, rfl⟩
  · exact wellFormed_flushCalls nested call flushed
  · intro _ payload speaks
    cases speaks
    exact absurd signal (Cursor.speak_notMem_signals payload)

theorem wellFormed_callsToEnd [DecidableEq H] (nested : s.Nested) (buffered : s.Buffered roster)
    (speech : Speech) : ∀ call ∈ s.callsToEnd roster speech, WellFormed roster call := by
  induction speech generalizing s with
  | nil => exact wellFormed_flushCalls nested
  | cons cue rest ih =>
    intro call member
    rw [callsToEnd_cons] at member
    rcases List.mem_append.1 member with now | later
    · exact wellFormed_calls nested cue call now
    · exact ih (nested.next buffered cue) (buffered.next cue) call later

end State

/-- Whatever a speech holds, each payload that it sends to a markup voice is a fragment of
markup. -/
theorem fragment_of_mem_deliver [DecidableEq H] {speech : Speech} {call : Call H} {payload : Text}
    (made : call ∈ deliver roster speech) (markup : roster.engine call.voice = .markup)
    (speaks : call.op = .speak payload) : Markup.Fragment [] payload :=
  State.wellFormed_callsToEnd (.start roster) (.start roster) speech call made markup payload
    speaks

/-- One markup voice for all languages. -/
def soloist : Roster Unit where
  voice _ :=
    { name := "anna", engine := .markup, language := "en", pitch := 50, rate := 50, volume := 50 }
  default := ()
  defaultLanguage := "en"
  voiceFor _ := none

/-- A spelled text with a less-than sign and a bookmark goes out as a fragment. -/
theorem fragment_spelled :
    let payload := "<spell>a&lt;b<Bookmark Mark=\"3\" /></spell>".toList
    ⟨(), .speak payload⟩ ∈ deliver soloist [.spelling true, .text "a<b".toList, .bookmark 3] ∧
      Markup.Fragment [] payload := by
  have made : ⟨(), .speak "<spell>a&lt;b<Bookmark Mark=\"3\" /></spell>".toList⟩ ∈
      deliver soloist [.spelling true, .text "a<b".toList, .bookmark 3] := by decide
  exact ⟨made, fragment_of_mem_deliver made rfl rfl⟩

end Delivery

end Polyvoice
