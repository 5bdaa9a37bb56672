import Polyvoice.Proofs.Delivery.Buffers

/-!
# States that send the same

What a delivery sends does not depend on everything that it keeps. Two states are congruent if they
differ at most in the language in force and in how the buffered text is cut up
(`State.Congruent`). Congruent states send the same at a flush, and a cue that parts the payload of
both or of neither keeps them congruent (`State.Congruent.next`). So they send the same to the end
of a speech once they have the language in common too
(`State.Congruent.callsToEnd`).
-/

namespace Polyvoice.Delivery.State

variable {H : Type} {roster : Roster H} {s s' : State H} {cue : Cue}

/-- Two states that differ at most in the language in force and in how the buffered text is cut.
Only in the chunk protocol the cuts themselves are heard. -/
structure Congruent (roster : Roster H) (s s' : State H) : Prop where
  voice : s'.voice = s.voice
  spelling : s'.spelling = s.spelling
  spellDue : s'.spellDue = s.spellDue
  staging : s'.staging = s.staging
  pending : s'.pending = s.pending
  chunks : roster.engine s.voice = .chunk → s'.chunks = s.chunks
  rendered : s'.chunks.flatMap Chunk.render = s.chunks.flatMap Chunk.render
  markup : Markup.render s'.markup = Markup.render s.markup

namespace Congruent

theorem refl (s : State H) : Congruent roster s s :=
  ⟨rfl, rfl, rfl, rfl, rfl, fun _ => rfl, rfl, rfl⟩

theorem trans {s'' : State H} (first : Congruent roster s s') (second : Congruent roster s' s'') :
    Congruent roster s s'' where
  voice := second.voice.trans first.voice
  spelling := second.spelling.trans first.spelling
  spellDue := second.spellDue.trans first.spellDue
  staging := second.staging.trans first.staging
  pending := second.pending.trans first.pending
  chunks chunk := (second.chunks (first.voice ▸ chunk)).trans (first.chunks chunk)
  rendered := second.rendered.trans first.rendered
  markup := second.markup.trans first.markup

/-- The language in force may be another one. -/
theorem language (congruent : Congruent roster s s') (one other : String) :
    Congruent roster { s with language := one } { s' with language := other } :=
  ⟨congruent.voice, congruent.spelling, congruent.spellDue, congruent.staging, congruent.pending,
    congruent.chunks, congruent.rendered, congruent.markup⟩

theorem due (congruent : Congruent roster s s') (due : s.DueToChunk roster) :
    s'.DueToChunk roster := by
  unfold DueToChunk
  rw [congruent.spellDue, congruent.voice]
  exact due

theorem cursor (congruent : Congruent roster s s') :
    s'.cursor = { s.cursor with language := s'.language } := by
  simp only [State.cursor, congruent.voice, congruent.spelling, congruent.spellDue]

/-! ## Flushes -/

theorem payload (congruent : Congruent roster s s') : s'.payload roster = s.payload roster := by
  unfold State.payload
  rw [congruent.voice]
  cases engine : roster.engine s.voice with
  | chunk => exact congrArg Chunk.frame (congruent.chunks engine)
  | plain => exact congruent.rendered
  | markup =>
    simp only [Markup.render_append, congruent.markup, congruent.staging]

theorem flushCalls (congruent : Congruent roster s s') :
    s'.flushCalls roster = s.flushCalls roster := by
  simp only [State.flushCalls, congruent.payload, congruent.pending, congruent.voice]

theorem flushed (congruent : Congruent roster s s') :
    Congruent roster (s.flushed roster) (s'.flushed roster) where
  voice := congruent.voice
  spelling := congruent.spelling
  spellDue := congruent.spellDue
  staging := by simp only [State.flushed, congruent.voice, congruent.staging]
  pending := rfl
  chunks _ := rfl
  rendered := rfl
  markup := rfl

/-- A voice that takes over knows of the earlier one only whether texts are spelled. -/
theorem takenOver (congruent : Congruent roster s s') (chunks : s'.chunks = s.chunks) (h : H) :
    Congruent roster (s.takenOver roster h) (s'.takenOver roster h) := by
  constructor
  case voice => rw [takenOver_voice, takenOver_voice]
  case chunks => exact fun _ => by rw [takenOver_chunks, takenOver_chunks, chunks]
  case rendered => rw [takenOver_chunks, takenOver_chunks, chunks]
  case markup => rw [takenOver_markup, takenOver_markup, congruent.markup]
  all_goals
    cases engine : roster.engine h <;>
      simp [State.takenOver, engine, congruent.spelling, congruent.pending]

/-! ## Cues -/

theorem tagsFor (congruent : Congruent roster s s') :
    s'.tagsFor roster cue = s.tagsFor roster cue := by
  simp only [State.tagsFor, congruent.voice, congruent.staging]

theorem staging_openElements (congruent : Congruent roster s s') :
    (s'.openElements roster).staging = (s.openElements roster).staging := by
  unfold openElements
  rw [congruent.staging, congruent.voice]
  split
  · rfl
  · exact congruent.staging

theorem stagingFor (congruent : Congruent roster s s') :
    s'.stagingFor roster cue = s.stagingFor roster cue := by
  have setting (element : Markup.Element) (key : String) (setting : Prosody) (base : UInt8) :
      (s'.stageSetting element key setting base).staging =
        (s.stageSetting element key setting base).staging := by
    unfold stageSetting
    rw [congruent.staging]
    split <;> rfl
  simp only [State.stagingFor, stageSpelling, setting, congruent.voice, congruent.staging,
    congruent.staging_openElements]

variable [DecidableEq H]

/-- Only a language change asks which language is in force. -/
theorem parts_of_still (congruent : Congruent roster s s') (still : ∀ code, cue ≠ .language code) :
    s'.cursor.parts roster cue = s.cursor.parts roster cue := by
  rw [congruent.cursor]
  cases cue with
  | language code => exact absurd rfl (still code)
  | _ => rfl

/-- What a cue asks for is buffered behind what was buffered. -/
theorem continued (congruent : Congruent roster s s')
    (inner : s.cursor.parts roster cue = false) (inner' : s'.cursor.parts roster cue = false) :
    Congruent roster (s.continued roster cue) (s'.continued roster cue) := by
  have chunks : s'.cursor.chunks roster cue = s.cursor.chunks roster cue := by
    rw [congruent.cursor]
    rfl
  have pieces : s'.cursor.pieces roster cue = s.cursor.pieces roster cue := by
    rw [congruent.cursor]
    rfl
  have spelled : (s'.cursor.next roster cue).spelling = (s.cursor.next roster cue).spelling ∧
      (s'.cursor.next roster cue).spellDue = (s.cursor.next roster cue).spellDue := by
    cases cue with
    | language code =>
      rw [Cursor.next_of_stays inner, Cursor.next_of_stays inner']
      exact ⟨congruent.spelling, congruent.spellDue⟩
    | _ =>
      rw [congruent.cursor]
      exact ⟨rfl, rfl⟩
  constructor
  case voice => exact congruent.voice
  case spelling => exact spelled.1
  case spellDue => exact spelled.2
  case staging => exact congruent.stagingFor
  case pending => simp only [State.continued, congruent.pending, chunks, pieces]
  case chunks =>
    intro chunk
    simp only [State.continued, congruent.chunks chunk, chunks]
  case rendered =>
    simp only [State.continued, List.flatMap_append, congruent.rendered, chunks]
  case markup =>
    simp only [State.continued, Markup.render_append, congruent.markup, congruent.tagsFor, pieces]

/-- A cue that parts the payload of both or of neither keeps them congruent. -/
theorem next (congruent : Congruent roster s s') (due : s.DueToChunk roster)
    (parts : s'.cursor.parts roster cue = s.cursor.parts roster cue) :
    Congruent roster (s.next roster cue) (s'.next roster cue) := by
  cases here : s.cursor.parts roster cue with
  | false =>
    rw [next_of_inner due here, next_of_inner (congruent.due due) (parts.trans here)]
    exact congruent.continued here (parts.trans here)
  | true =>
    cases cue with
    | language code =>
      rw [State.next, State.next, turned_of_parts here, turned_of_parts (parts.trans here)]
      exact (congruent.flushed.language _ _).takenOver rfl _
    | cut => exact congruent.flushed
    | silence ms => exact congruent.flushed
    | bookmark id =>
      have plain : (roster.voice s.voice).engine = .plain := of_decide_eq_true here
      simp only [State.next, congruent.voice, plain]
      exact congruent.flushed
    | _ => cases here

theorem calls (congruent : Congruent roster s s')
    (parts : s'.cursor.parts roster cue = s.cursor.parts roster cue) :
    s'.calls roster cue = s.calls roster cue := by
  have signals : s'.cursor.signals roster cue = s.cursor.signals roster cue := by
    rw [congruent.cursor]
    cases cue <;> rfl
  rw [calls_eq, calls_eq, parts, signals, congruent.flushCalls, congruent.voice]

/-- Congruent states that have the language in common send the same to the end of a speech. -/
theorem callsToEnd (congruent : Congruent roster s s') (language : s'.language = s.language)
    (buffered : s.Buffered roster) (speech : Speech) :
    s'.callsToEnd roster speech = s.callsToEnd roster speech := by
  induction speech generalizing s s' with
  | nil => exact congruent.flushCalls
  | cons cue rest ih =>
    have cursor : s'.cursor = s.cursor := by
      rw [congruent.cursor, language]
      rfl
    have parts : s'.cursor.parts roster cue = s.cursor.parts roster cue := by rw [cursor]
    have later : (s'.next roster cue).cursor = (s.next roster cue).cursor := by
      rw [cursor_next buffered.due, cursor_next (congruent.due buffered.due), cursor]
    rw [callsToEnd_cons, callsToEnd_cons, congruent.calls parts,
      ih (congruent.next buffered.due parts) (congrArg Cursor.language later)
        (buffered.next cue)]

end Congruent

/-! ## Texts in pieces -/

/-- Elements that are open for a text are open for the next one. -/
theorem openElements_addPiece (s : State H) (piece : Markup.Piece) :
    ((s.openElements roster).addPiece piece).openElements roster =
      (s.openElements roster).addPiece piece := by
  have clean : ¬ (s.openElements roster).staging.dirty = true := by
    unfold openElements
    split
    · rename_i dirty
      simp [Markup.Staging.emitted, Markup.Staging.plan, dirty]
    · assumption
  exact if_neg clean

theorem congruent_addPiece (s : State H) (t u : Text) :
    Congruent roster (s.addPiece (.text (t ++ u)))
      ((s.addPiece (.text t)).addPiece (.text u)) where
  voice := rfl
  spelling := rfl
  spellDue := rfl
  staging := rfl
  pending := rfl
  chunks _ := rfl
  rendered := rfl
  markup := by
    have single (t : Text) : Markup.render [.text t] = Markup.escape t := List.flatMap_singleton _ _
    simp only [addPiece, Markup.render_append, single, Markup.escape_append, List.append_assoc]

theorem congruent_addChunks (other : roster.engine s.voice ≠ .chunk) (t u : Text) :
    Congruent roster (s.addChunks [.text (t ++ u)])
      ((s.addChunks [.text t]).addChunks [.text u]) where
  voice := rfl
  spelling := rfl
  spellDue := rfl
  staging := rfl
  pending := rfl
  chunks chunk := absurd chunk other
  rendered := by simp [addChunks, Chunk.render]
  markup := rfl

variable [DecidableEq H]

theorem next_text_of_markup (markup : roster.engine s.voice = .markup) (t : Text) :
    s.next roster (.text t) = (s.openElements roster).addPiece (.text t) := by
  have engine : (roster.voice s.voice).engine = .markup := markup
  simp only [next, engine]

theorem next_text_of_plain (plain : roster.engine s.voice = .plain)
    (unspelled : s.spelling = false) (t : Text) :
    s.next roster (.text t) = s.addChunks [.text t] := by
  have engine : (roster.voice s.voice).engine = .plain := plain
  simp [next, engine, unspelled]

/-- Whether a text is heard in the same way if it comes in pieces. A chunk voice sets them apart,
and a plain voice that spells puts no space between them. -/
def Joins (roster : Roster H) (s : State H) : Prop :=
  roster.engine s.voice = .markup ∨ roster.engine s.voice = .plain ∧ s.spelling = false

omit [DecidableEq H] in
theorem Joins.congr (joins : s.Joins roster) (voice : s'.voice = s.voice)
    (spelling : s'.spelling = s.spelling) : s'.Joins roster := by
  unfold Joins
  rw [voice, spelling]
  exact joins

theorem voice_next_of_still (due : s.DueToChunk roster) (still : ∀ code, cue ≠ .language code) :
    (s.next roster cue).voice = s.voice := by
  have cursor : (s.next roster cue).cursor = s.cursor.next roster cue := cursor_next due cue
  refine (congrArg Cursor.voice cursor).trans ?_
  cases cue with
  | language code => exact absurd rfl (still code)
  | _ => rfl

theorem Joins.next (joins : s.Joins roster) (due : s.DueToChunk roster)
    (still : ∀ code, cue ≠ .language code)
    (unspelled : roster.engine s.voice = .plain → cue ≠ .spelling true) :
    (s.next roster cue).Joins roster := by
  have voice := voice_next_of_still due still
  rcases joins with markup | ⟨plain, unspelledHere⟩
  · exact Or.inl (voice ▸ markup)
  · refine Or.inr ⟨voice ▸ plain, ?_⟩
    have cursor : (s.next roster cue).cursor = s.cursor.next roster cue := cursor_next due cue
    refine (congrArg Cursor.spelling cursor).trans ?_
    cases cue with
    | language code => exact absurd rfl (still code)
    | spelling on =>
      cases on with
      | true => exact absurd rfl (unspelled plain)
      | false => rfl
    | _ => exact unspelledHere

/-- A text that comes in two pieces. -/
theorem Joins.next_append (joins : s.Joins roster) (t u : Text) :
    Congruent roster (s.next roster (.text (t ++ u)))
      ((s.next roster (.text t)).next roster (.text u)) := by
  rcases joins with markup | ⟨plain, unspelled⟩
  · have stays : roster.engine ((s.openElements roster).addPiece (.text t)).voice = .markup := by
      rw [openElements_eq]
      exact markup
    rw [next_text_of_markup markup, next_text_of_markup markup, next_text_of_markup stays,
      openElements_addPiece]
    exact congruent_addPiece (s.openElements roster) t u
  · have stays : roster.engine (s.addChunks [.text t]).voice = .plain := plain
    have still : (s.addChunks [.text t]).spelling = false := unspelled
    have other : roster.engine s.voice ≠ .chunk := by rw [plain]; exact nofun
    rw [next_text_of_plain plain unspelled, next_text_of_plain plain unspelled,
      next_text_of_plain stays still]
    exact congruent_addChunks other t u

/-- A text that comes in pieces. -/
theorem Joins.after_texts (joins : s.Joins roster) (buffered : s.Buffered roster) {ts : List Text}
    (some : ts ≠ []) :
    Congruent roster (s.next roster (.text ts.flatten)) (s.after roster (ts.map .text)) := by
  induction ts generalizing s with
  | nil => exact absurd rfl some
  | cons t rest ih =>
    cases rest with
    | nil =>
      rw [List.flatten_cons, List.flatten_nil, List.append_nil]
      exact .refl _
    | cons u rest =>
      have stays : (s.next roster (.text t)).Joins roster :=
        joins.next buffered.due nofun fun _ => nofun
      have later := ih stays (buffered.next _) (List.cons_ne_nil u rest)
      rw [List.flatten_cons]
      exact (joins.next_append t _).trans later

/-- Texts are buffered and make no calls. -/
theorem callsDuring_texts (s : State H) (ts : List Text) :
    s.callsDuring roster (ts.map .text) = [] := by
  induction ts generalizing s with
  | nil => rfl
  | cons t rest ih => exact ih (s.next roster (.text t))

end Polyvoice.Delivery.State
