import Polyvoice.Delivery.Run

/-!
# The cursor of a delivery

Where a delivery stands, its buffers left aside: the active voice, the language in force, whether
texts are spelled, and whether a chunk voice has still to be told so. A cursor moves over a speech
by itself (`Cursor.next`), and it says what a cue asks for: chunks for a voice of the chunk or the
plain protocol (`Cursor.chunks`), pieces for a markup voice (`Cursor.pieces`).

The machine does just that. A cue that ends the payload in progress empties the buffers
(`State.next_of_parts`); any other cue adds the chunks and pieces that the cursor calls for, and
tags (`State.next_of_inner`). The machine makes calls where the cursor says so
(`State.calls_eq`), and stands where a cursor would stand (`State.cursor_next`).
-/

namespace Polyvoice

/-- Whether a cue turns spelling on or off. -/
def Cue.spelling? : Cue → Option Bool
  | .spelling on => some on
  | _ => none

namespace Delivery

/-- Where a delivery stands in a speech. -/
structure Cursor (H : Type) where
  voice : H
  language : String
  spelling : Bool
  /-- Whether a chunk voice that took over has yet to be told to spell. -/
  spellDue : Bool
deriving DecidableEq

variable {H : Type}

namespace Cursor

/-- A speech starts with the default voice and the default language. -/
def start (roster : Roster H) : Cursor H where
  voice := roster.default
  language := roster.defaultLanguage
  spelling := false
  spellDue := false

/-- A language change to the language in force is none; another one asks for the voice of its
language, or else for the default voice. -/
def turned [DecidableEq H] (roster : Roster H) (c : Cursor H) (code : Option String) : Cursor H :=
  if code = some c.language then c
  else
    let (h, language) := State.target roster code
    if h = c.voice then { c with language := language }
    else
      { voice := h
        language := language
        spelling := c.spelling
        spellDue := c.spelling && roster.engine h = .chunk }

/-- The cursor behind a cue. A voice is told to spell with the first text that is not blank. -/
def next [DecidableEq H] (roster : Roster H) (c : Cursor H) : Cue → Cursor H
  | .language code => c.turned roster code
  | .spelling on => { c with spelling := on, spellDue := false }
  | .text t => { c with spellDue := c.spellDue && (Text.trim t).isEmpty }
  | _ => c

/-- Only a cue for spelling changes whether texts are spelled. -/
theorem spelling_next_eq [DecidableEq H] {roster : Roster H} (c : Cursor H) (cue : Cue) :
    (c.next roster cue).spelling = cue.spelling?.getD c.spelling := by
  cases cue with
  | language code =>
    simp only [next, turned]
    split
    · rfl
    · split <;> rfl
  | _ => rfl

/-- Whether a cue ends the payload in progress. A language change does if it asks for another
voice. -/
def parts [DecidableEq H] (roster : Roster H) (c : Cursor H) : Cue → Bool
  | .language code => code ≠ some c.language && (State.target roster code).1 ≠ c.voice
  | .cut => true
  | .silence _ => true
  | .bookmark _ => roster.engine c.voice = .plain
  | _ => false

/-- What a cue sends beside payloads. -/
def signals (roster : Roster H) (c : Cursor H) : Cue → List Op
  | .silence ms => [.silence ms]
  | .bookmark id => if roster.engine c.voice = .plain then [.bookmark id] else []
  | _ => []

theorem speak_notMem_signals {roster : Roster H} {c : Cursor H} {cue : Cue} (payload : Text) :
    .speak payload ∉ c.signals roster cue := by
  intro member
  cases cue with
  | silence ms => cases List.mem_singleton.1 member
  | bookmark id =>
    rw [signals] at member
    split at member
    · cases List.mem_singleton.1 member
    · cases member
  | _ => cases member

/-- Only for a plain voice, a bookmark is signalled. -/
theorem plain_of_bookmark_mem_signals {roster : Roster H} {c : Cursor H} {cue : Cue} {id : UInt32}
    (signal : .bookmark id ∈ c.signals roster cue) : roster.engine c.voice = .plain := by
  cases cue with
  | bookmark here =>
    rw [signals] at signal
    split at signal
    · rename_i plain
      exact plain
    · cases signal
  | silence ms => cases List.mem_singleton.1 signal
  | _ => cases signal

/-- A cue that parts nothing signals nothing. -/
theorem signals_of_inner [DecidableEq H] {roster : Roster H} {c : Cursor H} {cue : Cue}
    (inner : c.parts roster cue = false) : c.signals roster cue = [] := by
  cases cue with
  | silence ms => cases inner
  | bookmark id => exact if_neg (of_decide_eq_false inner)
  | _ => rfl

/-- A text as a chunk voice gets it: without the blanks around it, in lower case if it is spelled or
is a single character, and without escape characters. -/
def spoken (spelling : Bool) (t : Text) : Text :=
  let trimmed := Text.trim t
  let lowered :=
    if spelling || trimmed.length == 1 then Unicode.lowercase trimmed else trimmed
  lowered.filter (· != escapeCharacter)

/-- The chunks that a cue asks for. -/
def chunks (roster : Roster H) (c : Cursor H) (cue : Cue) : List Chunk :=
  let voice := roster.voice c.voice
  match voice.engine, cue with
  | .chunk, .text t =>
    if (Text.trim t).isEmpty then []
    else if c.spellDue then [.directive (.spelling true), .text (spoken c.spelling t)]
    else [.text (spoken c.spelling t)]
  | .chunk, .bookmark id => [.directive (.mark id)]
  | .chunk, .spelling on => [.directive (.spelling on)]
  | .chunk, .rate setting =>
    [.directive (.rate (Scale.ratePercentage (setting.resolve voice.rate)))]
  | .chunk, .pitch setting =>
    [.directive (.pitch (Scale.pitchPercentage (setting.resolve voice.pitch)))]
  | .chunk, .volume setting =>
    [.directive (.volume (Scale.volumeLevel (setting.resolve voice.volume)))]
  | .plain, .text t => [.text (if c.spelling then t.intersperse ' ' else t)]
  | _, _ => []

/-- The pieces of markup that a cue asks for, tags left aside. -/
def pieces (roster : Roster H) (c : Cursor H) (cue : Cue) : List Markup.Piece :=
  match roster.engine c.voice, cue with
  | .markup, .text t => [.text t]
  | .markup, .bookmark id => [.bookmark id]
  | .markup, .phonetic ipa fallback =>
    match Phones.ofIpa ipa with
    | .ok phones => [.pronunciation phones fallback]
    | .error _ => if fallback.isEmpty then [] else [.text fallback]
  | _, _ => []

/-- The cursor behind a speech. -/
def after [DecidableEq H] (roster : Roster H) (c : Cursor H) (speech : Speech) : Cursor H :=
  speech.foldl (next roster) c

theorem after_append [DecidableEq H] (roster : Roster H) (c : Cursor H) (p q : Speech) :
    c.after roster (p ++ q) = (c.after roster p).after roster q :=
  List.foldl_append

/-- A language change parts the payload if it asks for another voice. -/
theorem parts_language [DecidableEq H] {roster : Roster H} {c : Cursor H} {code : Option String} :
    c.parts roster (.language code) = true ↔
      code ≠ some c.language ∧ (State.target roster code).1 ≠ c.voice := by
  rw [parts, Bool.and_eq_true, decide_eq_true_iff, decide_eq_true_iff]

/-- A language change that does not part the payload only notes the language. -/
theorem next_of_stays [DecidableEq H] {roster : Roster H} {c : Cursor H} {code : Option String}
    (stays : c.parts roster (.language code) = false) :
    c.next roster (.language code) =
      { c with language := (c.next roster (.language code)).language } := by
  by_cases same : code = some c.language
  · simp [next, turned, same]
  · have kept : (State.target roster code).1 = c.voice :=
      Decidable.byContradiction fun away => by simp [parts, same, away] at stays
    simp [next, turned, same, kept]

end Cursor

namespace State

variable {roster : Roster H} {s : State H}

/-- Where a state stands. -/
def cursor (s : State H) : Cursor H where
  voice := s.voice
  language := s.language
  spelling := s.spelling
  spellDue := s.spellDue

/-- The tags that a cue writes in front of its pieces. -/
def tagsFor (roster : Roster H) (s : State H) (cue : Cue) : List Markup.Tag :=
  match roster.engine s.voice, cue with
  | .markup, .text _ => s.staging.emission
  | .markup, .phonetic _ _ => s.staging.emission
  | _, _ => []

/-- The staging behind a cue that parts nothing. -/
def stagingFor (roster : Roster H) (s : State H) (cue : Cue) : Markup.Staging :=
  let voice := roster.voice s.voice
  match voice.engine, cue with
  | .markup, .text _ => (s.openElements roster).staging
  | .markup, .phonetic _ _ => (s.openElements roster).staging
  | .markup, .spelling on => (s.stageSpelling on).staging
  | .markup, .pitch setting =>
    s.staging.stage .pitch [("absmiddle", setting.offset voice.pitch)]
  | .markup, .volume setting => (s.stageSetting .volume "level" setting voice.volume).staging
  | .markup, .rate setting => (s.stageSetting .rate "absspeed" setting voice.rate).staging
  | _, _ => s.staging

/-- Only a chunk voice has still to be told to spell. -/
def DueToChunk (roster : Roster H) (s : State H) : Prop :=
  s.spellDue = true → roster.engine s.voice = .chunk

/-- A language change asks for the default voice or for one that speaks a language. -/
theorem target_of (property : H → Prop) (default : property roster.default)
    (named : ∀ code h, roster.voiceFor code = some h → property h) (code : Option String) :
    property (target roster code).1 := by
  cases code with
  | none => exact default
  | some code =>
    cases found : roster.voiceFor code with
    | none => simpa [target, found] using default
    | some h => simpa [target, found] using named code h found

theorem turned_of_stays [DecidableEq H] {code : Option String}
    (stays : s.cursor.parts roster (.language code) = false) :
    s.turned roster code =
      { s with language := (s.cursor.next roster (.language code)).language } := by
  by_cases same : code = some s.language
  · simp [turned, Cursor.next, Cursor.turned, cursor, same]
  · have kept : (target roster code).1 = s.voice :=
      Decidable.byContradiction fun away => by simp [Cursor.parts, cursor, same, away] at stays
    simp [turned, Cursor.next, Cursor.turned, cursor, same, kept]

/-- A language change that parts the payload makes another voice take over. -/
theorem turned_of_parts [DecidableEq H] {code : Option String}
    (parts : s.cursor.parts roster (.language code) = true) :
    s.turned roster code =
      takenOver roster { s.flushed roster with language := (target roster code).2 }
        (target roster code).1 := by
  obtain ⟨other, away⟩ := Cursor.parts_language.1 parts
  have otherHere : code ≠ some s.language := other
  have awayHere : (target roster code).1 ≠ s.voice := away
  simp [turned, otherHere, awayHere]

/-- A cue that parts the payload flushes, and then a voice may take over. -/
theorem next_of_parts [DecidableEq H] {cue : Cue} (parts : s.cursor.parts roster cue = true) :
    s.next roster cue = s.flushed roster ∨
      ∃ language h,
        s.next roster cue = takenOver roster { s.flushed roster with language := language } h := by
  cases cue with
  | language code => exact Or.inr ⟨_, _, turned_of_parts parts⟩
  | cut => exact Or.inl rfl
  | silence ms => exact Or.inl rfl
  | bookmark id =>
    have plain : (roster.voice s.voice).engine = .plain := of_decide_eq_true parts
    left
    simp only [next, plain]
  | _ => cases parts

/-- The state behind a cue that parts nothing: the buffers hold what they held and what the cursor
calls for, and there is something to send if there was, or if a chunk or a piece came in. -/
def continued [DecidableEq H] (roster : Roster H) (s : State H) (cue : Cue) : State H where
  voice := s.voice
  language := (s.cursor.next roster cue).language
  chunks := s.chunks ++ s.cursor.chunks roster cue
  markup := s.markup ++ (s.tagsFor roster cue).map .tag ++ s.cursor.pieces roster cue
  staging := s.stagingFor roster cue
  spelling := (s.cursor.next roster cue).spelling
  spellDue := (s.cursor.next roster cue).spellDue
  pending :=
    s.pending || !(s.cursor.chunks roster cue).isEmpty || !(s.cursor.pieces roster cue).isEmpty

/-- Elements that are opened, or left as they are, add the tags of the emission. -/
theorem openElements_eq (roster : Roster H) (s : State H) :
    s.openElements roster =
      { s with
        markup := s.markup ++ s.staging.emission.map .tag
        staging := (s.openElements roster).staging } := by
  unfold openElements Markup.Staging.emission
  split
  · rfl
  · simp

theorem next_of_inner_chunk [DecidableEq H] {cue : Cue}
    (chunk : (roster.voice s.voice).engine = .chunk) (inner : s.cursor.parts roster cue = false) :
    s.next roster cue = s.continued roster cue := by
  cases cue with
  | language code =>
    rw [continued, Cursor.next_of_stays inner]
    simp [next, turned_of_stays inner, chunk, Cursor.chunks, Cursor.pieces, tagsFor, stagingFor,
      cursor, Roster.engine]
  | cut => cases inner
  | silence ms => cases inner
  | text t =>
    -- a text of blanks adds no chunk, and leaves the voice to be told with the next text
    by_cases blank : (Text.trim t).isEmpty
    · simp [next, continued, chunk, Cursor.chunks, Cursor.pieces, Cursor.next, tagsFor, stagingFor,
        cursor, Roster.engine, addSpoken, blank]
    · cases spellDue : s.spellDue <;>
        simp [next, continued, chunk, Cursor.chunks, Cursor.pieces, Cursor.next, tagsFor,
          stagingFor, cursor, Roster.engine, addSpoken, blank, spellDue, addChunks, Cursor.spoken]
  | _ =>
    simp [next, continued, chunk, Cursor.chunks, Cursor.pieces, Cursor.next, tagsFor, stagingFor,
      cursor, Roster.engine, addChunks]

theorem next_of_inner_plain [DecidableEq H] {cue : Cue}
    (plain : (roster.voice s.voice).engine = .plain) (told : s.spellDue = false)
    (inner : s.cursor.parts roster cue = false) :
    s.next roster cue = s.continued roster cue := by
  cases cue with
  | language code =>
    rw [continued, Cursor.next_of_stays inner]
    simp [next, turned_of_stays inner, plain, Cursor.chunks, Cursor.pieces, tagsFor, stagingFor,
      cursor, Roster.engine]
  | cut => cases inner
  | silence ms => cases inner
  | bookmark id => simp [Cursor.parts, cursor, Roster.engine, plain] at inner
  | text t =>
    simp [next, continued, plain, Cursor.chunks, Cursor.pieces, Cursor.next, tagsFor, stagingFor,
      cursor, Roster.engine, addChunks, told]
  | spelling on =>
    simp [next, continued, plain, Cursor.chunks, Cursor.pieces, Cursor.next, tagsFor, stagingFor,
      cursor, Roster.engine, told]
  | _ =>
    simp [next, continued, plain, Cursor.chunks, Cursor.pieces, Cursor.next, tagsFor, stagingFor,
      cursor, Roster.engine]

theorem next_of_inner_markup [DecidableEq H] {cue : Cue}
    (markup : (roster.voice s.voice).engine = .markup) (told : s.spellDue = false)
    (inner : s.cursor.parts roster cue = false) :
    s.next roster cue = s.continued roster cue := by
  cases cue with
  | language code =>
    rw [continued, Cursor.next_of_stays inner]
    simp [next, turned_of_stays inner, markup, Cursor.chunks, Cursor.pieces, tagsFor, stagingFor,
      cursor, Roster.engine]
  | cut => cases inner
  | silence ms => cases inner
  | text t =>
    simp only [next, markup]
    rw [openElements_eq]
    simp [continued, markup, Cursor.chunks, Cursor.pieces, Cursor.next, tagsFor, stagingFor,
      cursor, Roster.engine, addPiece, told]
  | phonetic ipa fallback =>
    simp only [next, markup, addPhonetic]
    rw [openElements_eq]
    cases read : Phones.ofIpa ipa with
    | ok phones =>
      simp [continued, markup, Cursor.chunks, Cursor.pieces, Cursor.next, tagsFor, stagingFor,
        cursor, Roster.engine, addPiece, read]
    | error fault =>
      by_cases wordless : fallback.isEmpty <;>
        simp [continued, markup, Cursor.chunks, Cursor.pieces, Cursor.next, tagsFor, stagingFor,
          cursor, Roster.engine, addPiece, read, wordless]
  | volume setting =>
    cases keeps : setting.keepsBase (roster.voice s.voice).volume <;>
      simp [next, continued, markup, Cursor.chunks, Cursor.pieces, Cursor.next, tagsFor,
        stagingFor, cursor, Roster.engine, stageSetting, keeps]
  | rate setting =>
    cases keeps : setting.keepsBase (roster.voice s.voice).rate <;>
      simp [next, continued, markup, Cursor.chunks, Cursor.pieces, Cursor.next, tagsFor,
        stagingFor, cursor, Roster.engine, stageSetting, keeps]
  | spelling on =>
    simp [next, continued, markup, Cursor.chunks, Cursor.pieces, Cursor.next, tagsFor, stagingFor,
      cursor, Roster.engine, stageSpelling, told]
  | _ =>
    simp [next, continued, markup, Cursor.chunks, Cursor.pieces, Cursor.next, tagsFor, stagingFor,
      cursor, Roster.engine, addPiece]

/-- A cue that parts nothing adds what the cursor calls for. -/
theorem next_of_inner [DecidableEq H] {cue : Cue} (due : s.DueToChunk roster)
    (inner : s.cursor.parts roster cue = false) :
    s.next roster cue = s.continued roster cue := by
  have told (other : (roster.voice s.voice).engine ≠ .chunk) : s.spellDue = false :=
    Bool.eq_false_iff.2 fun spellDue => other (due spellDue)
  cases engine : (roster.voice s.voice).engine with
  | chunk => exact next_of_inner_chunk engine inner
  | plain => exact next_of_inner_plain engine (told (by rw [engine]; decide)) inner
  | markup => exact next_of_inner_markup engine (told (by rw [engine]; decide)) inner

/-! ## Calls and the cursor behind a cue -/

/-- A cue that parts the payload sends it; some cues send a signal of their own. -/
theorem calls_eq [DecidableEq H] (roster : Roster H) (s : State H) (cue : Cue) :
    s.calls roster cue =
      (if s.cursor.parts roster cue then s.flushCalls roster else []) ++
        (s.cursor.signals roster cue).map (⟨s.voice, ·⟩) := by
  cases cue with
  | bookmark id =>
    by_cases plain : roster.engine s.voice = .plain <;>
      simp [calls, Cursor.parts, Cursor.signals, cursor, plain]
  | language code =>
    have same : s.turns roster code = s.cursor.parts roster (.language code) := rfl
    simp [calls, same, Cursor.signals]
  | _ => simp [calls, Cursor.parts, Cursor.signals]

/-- A flush makes one call at most, with a payload that is not empty. -/
theorem eq_of_mem_flushCalls {call : Call H} (made : call ∈ s.flushCalls roster) :
    s.payload roster ≠ [] ∧ call = ⟨s.voice, .speak (s.payload roster)⟩ := by
  unfold flushCalls at made
  split at made
  · rename_i sends
    exact ⟨sends.2, List.mem_singleton.1 made⟩
  · cases made

/-- A call that a cue makes comes from a flush, or it is a signal. -/
theorem flushed_or_signalled [DecidableEq H] {cue : Cue} {call : Call H}
    (made : call ∈ s.calls roster cue) :
    call ∈ s.flushCalls roster ∨ ∃ op ∈ s.cursor.signals roster cue, call = ⟨s.voice, op⟩ := by
  rw [calls_eq] at made
  rcases List.mem_append.1 made with flushed | signalled
  · split at flushed
    · exact Or.inl flushed
    · cases flushed
  · obtain ⟨op, signal, rfl⟩ := List.mem_map.1 signalled
    exact Or.inr ⟨op, signal, rfl⟩

/-- A language change that keeps the voice makes no call. -/
theorem calls_of_stays [DecidableEq H] {code : Option String}
    (stays : s.cursor.parts roster (.language code) = false) :
    s.calls roster (.language code) = [] := by
  rw [calls_eq, stays]
  rfl

/-- The machine stands where a cursor would stand. -/
theorem cursor_next [DecidableEq H] (due : s.DueToChunk roster) (cue : Cue) :
    (s.next roster cue).cursor = s.cursor.next roster cue := by
  cases parts : s.cursor.parts roster cue with
  | false =>
    rw [next_of_inner due parts]
    cases cue with
    | language code =>
      have kept : s.voice = (s.cursor.next roster (.language code)).voice := by
        rw [Cursor.next_of_stays parts]
        rfl
      exact congrArg (fun h => { s.cursor.next roster (.language code) with voice := h }) kept
    | _ => rfl
  | true =>
    cases cue with
    | language code =>
      obtain ⟨other, away⟩ := Cursor.parts_language.1 parts
      change (s.turned roster code).cursor = s.cursor.turned roster code
      rw [turned_of_parts parts, Cursor.turned, if_neg other]
      simp only [if_neg away]
      cases engine : roster.engine (target roster code).1 <;>
        simp [takenOver, cursor, engine, flushed]
    | cut => rfl
    | silence ms => rfl
    | bookmark id =>
      have plain : (roster.voice s.voice).engine = .plain := of_decide_eq_true parts
      simp only [next, plain]
      rfl
    | _ => cases parts

end State

end Delivery

end Polyvoice
