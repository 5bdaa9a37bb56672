import Polyvoice.Compilation
import Polyvoice.Proofs.Delivery.ChunkPayloads

/-!
# Spelled texts of a plain voice

A plain voice spells a text with a space between each two characters, and joins texts as they come.
So texts that are spelled one after the other are each spelled by itself within the payload, and run
together where they meet (`deliver_spelled_texts`). The payload has a space between each two
characters of all of them just where at most one text has any.
-/

namespace Polyvoice

/-- The text of a cue, if it is one. -/
def Cue.text? : Cue → Option Text
  | .text t => some t
  | _ => none

/-- The texts of a speech, in their order. -/
def Speech.texts (speech : Speech) : List Text :=
  speech.filterMap Cue.text?

theorem Speech.texts_cons (cue : Cue) (rest : Speech) :
    Speech.texts (cue :: rest) = cue.text?.toList ++ Speech.texts rest := by
  cases found : cue.text? <;> simp [texts, found]

/-! ## Texts that are spelled one by one -/

namespace Text

/-- The texts that have characters. -/
def worded (ts : List Text) : List Text :=
  ts.filter fun t => !t.isEmpty

theorem worded_nil_cons (ts : List Text) : worded ([] :: ts) = worded ts :=
  rfl

theorem worded_cons_cons (c : Char) (t : Text) (ts : List Text) :
    worded ((c :: t) :: ts) = (c :: t) :: worded ts :=
  rfl

/-- There are no more of them than there are characters. -/
theorem length_worded_le (ts : List Text) : (worded ts).length ≤ ts.flatten.length := by
  induction ts with
  | nil => exact Nat.le_refl 0
  | cons t rest ih =>
    cases t with
    | nil => exact ih
    | cons c t =>
      simp only [worded_cons_cons, List.flatten_cons, List.length_append, List.length_cons]
      omega

/-- Texts without characters make no difference to what is written. -/
theorem flatMap_worded (write : Text → Text) (silent : write [] = []) (ts : List Text) :
    (worded ts).flatMap write = ts.flatMap write := by
  induction ts with
  | nil => rfl
  | cons t rest ih =>
    cases t with
    | nil => rw [worded_nil_cons, ih, List.flatMap_cons, silent, List.nil_append]
    | cons c t => rw [worded_cons_cons, List.flatMap_cons, List.flatMap_cons, ih]

/-- Each text that has characters is written without the space that would set it apart. -/
theorem length_flatMap_intersperse (ts : List Text) :
    (ts.flatMap (List.intersperse ' ')).length + (worded ts).length = 2 * ts.flatten.length := by
  induction ts with
  | nil => rfl
  | cons t rest ih =>
    cases t with
    | nil => exact ih
    | cons c t =>
      have here : ((c :: t).intersperse ' ').length = 2 * (t.length + 1) - 1 :=
        List.length_intersperse
      simp only [worded_cons_cons, List.flatMap_cons, List.flatten_cons, List.length_append,
        List.length_cons, here]
      omega

/-- Texts that are spelled one by one are spelled as one text just where at most one of them has
characters. -/
theorem flatMap_intersperse_eq_iff (ts : List Text) :
    ts.flatMap (List.intersperse ' ') = ts.flatten.intersperse ' ' ↔ (worded ts).length ≤ 1 := by
  constructor
  · intro same
    have lengths := congrArg List.length same
    rw [List.length_intersperse] at lengths
    have apart := length_flatMap_intersperse ts
    have few := length_worded_le ts
    omega
  · intro few
    have spelled := flatMap_worded (List.intersperse ' ') rfl ts
    have joined : (worded ts).flatten = ts.flatten := by
      simpa only [List.flatMap_id] using flatMap_worded id rfl ts
    rw [← spelled, ← joined]
    match worded ts, few with
    | [], _ => rfl
    | [t], _ => rw [List.flatMap_singleton, List.flatten_singleton]

end Text

namespace Delivery

variable {H : Type} {roster : Roster H}

/-! ## What a plain voice gets -/

namespace Cursor

variable [DecidableEq H] {c : Cursor H}

/-- Whether texts are spelled all along a speech, and within one payload. -/
def spellsThrough (roster : Roster H) (c : Cursor H) : Speech → Bool
  | [] => true
  | cue :: rest =>
    c.spelling && !c.parts roster cue && (c.next roster cue).spellsThrough roster rest

/-- What a speech adds to the payload in progress, up to the first cue that parts it. -/
def addition (roster : Roster H) (c : Cursor H) : Speech → Text
  | [] => []
  | cue :: rest =>
    if c.parts roster cue then []
    else (c.chunks roster cue).flatMap Chunk.render ++ (c.next roster cue).addition roster rest

omit [DecidableEq H] in
/-- While texts are spelled, a plain voice gets the characters of each text, set apart. -/
theorem render_chunks_of_spelling (plain : roster.engine c.voice = .plain)
    (spelling : c.spelling = true) (cue : Cue) :
    (c.chunks roster cue).flatMap Chunk.render =
      cue.text?.toList.flatMap (List.intersperse ' ') := by
  have engine : (roster.voice c.voice).engine = .plain := plain
  cases cue with
  | text t => simp [chunks, engine, spelling, Cue.text?, Chunk.render]
  | _ => simp [chunks, engine, Cue.text?]

/-- Texts that are spelled are added one by one. -/
theorem addition_spelled (plain : roster.engine c.voice = .plain) {run : Speech}
    (spells : c.spellsThrough roster run = true) (q : Speech) :
    c.addition roster (run ++ q) =
      run.texts.flatMap (List.intersperse ' ') ++ (c.after roster run).addition roster q := by
  induction run generalizing c with
  | nil => rfl
  | cons cue rest ih =>
    rw [spellsThrough, Bool.and_eq_true, Bool.and_eq_true, Bool.not_eq_true'] at spells
    obtain ⟨⟨spelling, inner⟩, later⟩ := spells
    have still : roster.engine (c.next roster cue).voice = .plain := by
      rw [voice_next_of_inner inner, plain]
    have here := render_chunks_of_spelling plain spelling cue
    rw [List.cons_append, addition, if_neg (Bool.eq_false_iff.1 inner), here, ih still later,
      Speech.texts_cons, List.flatMap_append, List.append_assoc]
    rfl

end Cursor

/-- The call for a payload; an empty one is not sent. -/
def speakCalls (h : H) (payload : Text) : List (Call H) :=
  if payload = [] then [] else [⟨h, .speak payload⟩]

namespace State

variable {s : State H}

/-- A flush sends a plain voice what is buffered. -/
theorem flushCalls_of_plain (buffered : s.Buffered roster)
    (plain : roster.engine s.voice = .plain) :
    s.flushCalls roster = speakCalls s.voice (s.payload roster) := by
  unfold flushCalls speakCalls
  cases pending : s.pending with
  | true =>
    by_cases empty : s.payload roster = []
    · simp [empty]
    · simp [empty]
  | false =>
    have empty : s.payload roster = [] := by
      rw [payload, plain, buffered.idle_chunks pending]
      rfl
    simp [empty]

/-- From a state on, a plain voice gets first what is buffered and what a speech adds to it. -/
theorem speakCalls_isPrefix [DecidableEq H] (buffered : s.Buffered roster)
    (plain : roster.engine s.voice = .plain) (speech : Speech) :
    speakCalls s.voice (s.payload roster ++ s.cursor.addition roster speech) <+:
      s.callsToEnd roster speech := by
  induction speech generalizing s with
  | nil =>
    have last : s.callsToEnd roster [] = speakCalls s.voice (s.payload roster) :=
      flushCalls_of_plain buffered plain
    rw [Cursor.addition, List.append_nil]
    exact last ▸ List.prefix_refl _
  | cons cue rest ih =>
    rw [callsToEnd_cons, calls_eq, Cursor.addition]
    cases parts : s.cursor.parts roster cue with
    | true =>
      rw [if_pos rfl, if_pos rfl, List.append_nil, flushCalls_of_plain buffered plain,
        List.append_assoc]
      exact List.prefix_append _ _
    | false =>
      have behind : s.next roster cue = s.continued roster cue := next_of_inner buffered.due parts
      have still : roster.engine (s.next roster cue).voice = .plain := by
        rw [behind]
        exact plain
      have voice : (s.next roster cue).voice = s.voice := by rw [behind]; rfl
      have grown : (s.next roster cue).payload roster =
          s.payload roster ++ (s.cursor.chunks roster cue).flatMap Chunk.render := by
        rw [payload, still, payload, plain, behind]
        exact List.flatMap_append
      have later := ih (buffered.next cue) still
      rw [grown, voice, cursor_next buffered.due, List.append_assoc] at later
      rw [Cursor.signals_of_inner parts]
      exact later

end State

/-- **Spelled texts run together where they meet.** Texts that are spelled one after the other for a
plain voice, within one payload, are each spelled by itself; the payload is made of what was
buffered, of these texts, and of what is added behind them, and it is the next call. All characters
of these texts are set apart just where at most one of them has any. -/
theorem deliver_spelled_texts [DecidableEq H] (roster : Roster H) (p run q : Speech)
    (plain : roster.engine ((State.start roster).after roster p).voice = .plain)
    (spells : ((State.start roster).after roster p).cursor.spellsThrough roster run = true) :
    let s := (State.start roster).after roster p
    let part := run.texts.flatMap (List.intersperse ' ')
    let behind := (s.cursor.after roster run).addition roster q
    (State.start roster).callsDuring roster p ++
        speakCalls s.voice (s.payload roster ++ part ++ behind) <+:
          deliver roster (p ++ run ++ q) ∧
      (part = run.texts.flatten.intersperse ' ' ↔ (Text.worded run.texts).length ≤ 1) := by
  intro s part behind
  have buffered : s.Buffered roster := (State.Buffered.start roster).after p
  refine ⟨?_, Text.flatMap_intersperse_eq_iff run.texts⟩
  have added : s.cursor.addition roster (run ++ q) = part ++ behind :=
    Cursor.addition_spelled plain spells q
  have next := State.speakCalls_isPrefix buffered plain (run ++ q)
  rw [added, ← List.append_assoc] at next
  rw [deliver, List.append_assoc p run q, State.callsToEnd_append]
  exact (List.prefix_append_right_inj _).2 next

/-- One plain voice for all languages. -/
def narrator : Roster Unit where
  voice _ :=
    { name := "otto", engine := .plain, language := "en", pitch := 50, rate := 50, volume := 50 }
  default := ()
  defaultLanguage := "en"
  voiceFor _ := none

/-- Two spelled texts, with a language change between them that keeps the voice. -/
theorem deliver_spelled_texts_narrator :
    let p : Speech := [.text "x".toList, .spelling true]
    let run : Speech := [.text "ab".toList, .language (some "de"), .text "cd".toList]
    let q : Speech := [.spelling false, .text "ef".toList]
    let s := (State.start narrator).after narrator p
    narrator.engine s.voice = .plain ∧ s.cursor.spellsThrough narrator run = true ∧
      [⟨(), .speak "xa bc def".toList⟩] <+: deliver narrator (p ++ run ++ q) ∧
      run.texts.flatMap (List.intersperse ' ') ≠ run.texts.flatten.intersperse ' ' := by
  intro p run q s
  have plain : narrator.engine s.voice = .plain := rfl
  have spells : s.cursor.spellsThrough narrator run = true := by decide
  obtain ⟨sent, apart⟩ := deliver_spelled_texts narrator p run q plain spells
  exact ⟨plain, spells, sent, fun same => absurd (apart.1 same) (by decide)⟩

/-- The characters where two texts meet are not set apart, whether the host cut the text or a number
was put in its own language. -/
theorem spelled_texts_run_together :
    deliver narrator [.spelling true, .text "ab".toList, .text "cd".toList] =
        [⟨(), .speak "a bc d".toList⟩] ∧
      "a bc d".toList ≠ ("ab".toList ++ "cd".toList).intersperse ' ' ∧
      compileCalls .default narrator (fun _ _ => none) [.spelling true, .text "a5".toList] =
        [⟨(), .speak "a5".toList⟩] ∧
      "a5".toList ≠ "a5".toList.intersperse ' ' := by
  decide +kernel

end Delivery

end Polyvoice
