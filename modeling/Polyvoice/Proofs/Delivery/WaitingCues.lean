import Polyvoice.Proofs.Delivery.Conservation
import Polyvoice.Proofs.Delivery.Homing

/-!
# Cues that go to the voice of the next text

In an anchored speech the language changes in front of a text come before the other cues there. So
each cue goes to the voice that is active when the next text is read (`State.voiceAtText`), and the
voices of the texts are those of the speech before it was anchored
(`heard_deliver_anchor`). The run over the anchored speech stays behind the other run by the cues
that wait for a text (`Cursor.Alongside`).
-/

namespace Polyvoice.Delivery

open Speech (anchor anchorAfter)

variable {H : Type} [DecidableEq H] {roster : Roster H}

namespace State

/-- The voice that is active when the next text of a speech is read, or at its end if it has no
further text. -/
def voiceAtText (roster : Roster H) (s : State H) : Speech → H
  | [] => s.voice
  | .text _ :: _ => s.voice
  | cue :: rest => (s.next roster cue).voiceAtText roster rest

/-- What a speech asks for if each cue asks the voice of the next text. -/
def settledTrace (roster : Roster H) (s : State H) : Speech → List (H × Atom)
  | [] => []
  | cue :: rest =>
    let h := s.voiceAtText roster (cue :: rest)
    heardBy h ({ s.cursor with voice := h }.atoms roster cue) ++
      (s.next roster cue).settledTrace roster rest

/-- The texts of a speech, each with the voice that is active when it is read. -/
def textVoices (roster : Roster H) (s : State H) : Speech → List (H × Text)
  | [] => []
  | .text t :: rest => (s.voice, t) :: (s.next roster (.text t)).textVoices roster rest
  | cue :: rest => (s.next roster cue).textVoices roster rest

end State

/-! ## What cues that wait ask for -/

namespace Cursor

variable {c c' : Cursor H} {cue : Cue} {held : Speech}

theorem trace_append (c : Cursor H) (p q : Speech) :
    c.trace roster (p ++ q) = c.trace roster p ++ (c.after roster p).trace roster q := by
  induction p generalizing c with
  | nil => rfl
  | cons cue rest ih =>
    have later := ih (c.next roster cue)
    rw [List.cons_append, trace, later, trace, List.append_assoc]
    rfl

omit [DecidableEq H] in
/-- What a cue asks for that is not a text is a matter of the voice only. -/
theorem atoms_congr (voice : c'.voice = c.voice) (silent : ∀ t, cue ≠ .text t) :
    c'.atoms roster cue = c.atoms roster cue := by
  cases cue with
  | text t => exact absurd rfl (silent t)
  | phonetic ipa fallback => simp only [atoms, voice]
  | _ => rfl

/-- What cues that wait ask for is a matter of the voice only. -/
theorem trace_waiting_congr (waiting : Waiting held) (voice : c'.voice = c.voice) :
    c'.trace roster held = c.trace roster held := by
  induction held generalizing c c' with
  | nil => rfl
  | cons cue rest ih =>
    obtain ⟨silent, still⟩ := waiting cue List.mem_cons_self
    have later : (c'.next roster cue).trace roster rest = (c.next roster cue).trace roster rest :=
      ih (fun other member => waiting other (List.mem_cons_of_mem cue member))
        (((c'.next_of_still still).1.trans voice).trans (c.next_of_still still).1.symm)
    rw [trace, trace, later, atoms_congr voice silent, voice]

/-! ## The two runs -/

/-- Where the run over an anchored speech stands in front of the cues that wait, beside where the
other run stands behind them. Voice and language are the same, and whether texts are spelled will
be. -/
structure Alongside (roster : Roster H) (held : Speech) (c c' : Cursor H) : Prop where
  waiting : Waiting held
  voice : c'.voice = c.voice
  language : c'.language = c.language
  spelling : (c'.after roster held).spelling = c.spelling

namespace Alongside

theorem refl (c : Cursor H) : Alongside roster [] c c :=
  ⟨.nil, rfl, rfl, rfl⟩

/-- Both read a language change. -/
theorem next_language (alongside : Alongside roster held c c') (code : Option String) :
    Alongside roster held (c.next roster (.language code)) (c'.next roster (.language code)) where
  waiting := alongside.waiting
  voice := voice_turned_congr alongside.voice alongside.language code
  language := (language_next c' code).trans (language_next c code).symm
  spelling := by
    have kept : ((c'.next roster (.language code)).after roster held).spelling =
        (c'.after roster held).spelling := spelling_after (spelling_next_language c' code) held
    rw [kept, spelling_next_language]
    exact alongside.spelling

/-- A cue that is to wait is read by one of them. -/
theorem wait (alongside : Alongside roster held c c') (silent : ∀ t, cue ≠ .text t)
    (still : ∀ code, cue ≠ .language code) :
    Alongside roster (held ++ [cue]) (c.next roster cue) c' where
  waiting := alongside.waiting.snoc silent still
  voice := alongside.voice.trans (c.next_of_still still).1.symm
  language := alongside.language.trans (c.next_of_still still).2.symm
  spelling := by
    rw [after_append]
    exact spelling_next alongside.spelling cue

/-- The cues that wait are read by the other one as well. -/
theorem caughtUp (alongside : Alongside roster held c c') :
    Alongside roster [] c (c'.after roster held) where
  waiting := .nil
  voice := (alongside.waiting.cursor_after roster c').1.trans alongside.voice
  language := (alongside.waiting.cursor_after roster c').2.trans alongside.language
  spelling := alongside.spelling

/-- Both read a text, and nothing waits for it any more. -/
theorem next_text (alongside : Alongside roster held c c') (t : Text) :
    Alongside roster [] (c.next roster (.text t)) ((c'.after roster held).next roster (.text t)) :=
  ⟨.nil, alongside.caughtUp.voice, alongside.caughtUp.language, alongside.spelling⟩

end Alongside

end Cursor

namespace State

open Cursor (Alongside)

variable {s s' : State H} {held : Speech}

theorem voiceAtText_cons (s : State H) {cue : Cue} (silent : ∀ t, cue ≠ .text t) (rest : Speech) :
    s.voiceAtText roster (cue :: rest) = (s.next roster cue).voiceAtText roster rest := by
  cases cue with
  | text t => exact absurd rfl (silent t)
  | _ => rfl

theorem textVoices_cons (s : State H) {cue : Cue} (silent : ∀ t, cue ≠ .text t) (rest : Speech) :
    s.textVoices roster (cue :: rest) = (s.next roster cue).textVoices roster rest := by
  cases cue with
  | text t => exact absurd rfl (silent t)
  | _ => rfl

/-- What an anchored speech asks for goes to the voices of the texts: first what waits for the next
text, and then what comes behind that. -/
theorem trace_anchorAfter (buffered : s.Buffered roster) {c' : Cursor H}
    (alongside : Alongside roster held s.cursor c') (speech : Speech) :
    c'.trace roster (anchorAfter held speech) =
      { c' with voice := s.voiceAtText roster speech }.trace roster held ++
        s.settledTrace roster speech := by
  fun_induction anchorAfter held speech generalizing s c' with
  | case1 held =>
    have voice : c'.voice = s.voice := alongside.voice
    exact (Cursor.trace_waiting_congr alongside.waiting voice).trans (List.append_nil _).symm
  | case2 held code rest ih =>
    -- what waits is asked of the voice behind the change
    let turned := c'.next roster (.language code)
    let h := (s.next roster (.language code)).voiceAtText roster rest
    have next : (s.next roster (.language code)).cursor = s.cursor.next roster (.language code) :=
      cursor_next buffered.due _
    have later : turned.trace roster (anchorAfter held rest) =
        { turned with voice := h }.trace roster held ++
          (s.next roster (.language code)).settledTrace roster rest :=
      ih (buffered.next (.language code)) (next ▸ alongside.next_language code)
    have same : { c' with voice := h }.trace roster held =
        { turned with voice := h }.trace roster held :=
      Cursor.trace_waiting_congr alongside.waiting rfl
    have settled : s.voiceAtText roster (.language code :: rest) = h := rfl
    rw [settled, same]
    exact later
  | case3 held t rest ih =>
    -- what waits is asked of the active voice, and then the text is said
    have next : (s.next roster (.text t)).cursor = s.cursor.next roster (.text t) :=
      cursor_next buffered.due _
    have voice : (c'.after roster held).voice = s.voice := alongside.caughtUp.voice
    have now : { c' with voice := s.voice }.trace roster held = c'.trace roster held :=
      Cursor.trace_waiting_congr alongside.waiting alongside.voice.symm
    have said : (c'.after roster held).atoms roster (.text t) =
        s.cursor.atoms roster (.text t) := by
      simp only [Cursor.atoms, alongside.caughtUp.voice, alongside.spelling]
    have later : ((c'.after roster held).next roster (.text t)).trace roster
        (anchorAfter [] rest) = (s.next roster (.text t)).settledTrace roster rest :=
      ih (buffered.next (.text t)) (next ▸ alongside.next_text t)
    rw [Cursor.trace_append, Cursor.trace, later, voice, said, settledTrace, voiceAtText, now]
    rfl
  | case4 held cue rest still silent ih =>
    -- the cue joins those that wait
    let h := (s.next roster cue).voiceAtText roster rest
    have next : (s.next roster cue).cursor = s.cursor.next roster cue :=
      cursor_next buffered.due cue
    have later : c'.trace roster (anchorAfter (held ++ [cue]) rest) =
        { c' with voice := h }.trace roster (held ++ [cue]) ++
          (s.next roster cue).settledTrace roster rest :=
      ih (buffered.next cue) (next ▸ alongside.wait silent still)
    have voice : ({ c' with voice := h }.after roster held).voice = h :=
      (alongside.waiting.cursor_after roster _).1
    have asked : ({ c' with voice := h }.after roster held).atoms roster cue =
        { s.cursor with voice := h }.atoms roster cue := Cursor.atoms_congr voice silent
    have last : { c' with voice := h }.trace roster (held ++ [cue]) =
        { c' with voice := h }.trace roster held ++
          heardBy h ({ s.cursor with voice := h }.atoms roster cue) := by
      rw [Cursor.trace_append, Cursor.trace, Cursor.trace, List.append_nil, voice, asked]
    rw [later, last, settledTrace, voiceAtText_cons s silent, List.append_assoc]

theorem textVoices_append (waiting : Waiting held) (s : State H) (rest : Speech) :
    s.textVoices roster (held ++ rest) = (s.after roster held).textVoices roster rest := by
  induction held generalizing s with
  | nil => rfl
  | cons cue held ih =>
    have later := ih (fun other member => waiting other (List.mem_cons_of_mem cue member))
      (s.next roster cue)
    rw [List.cons_append, textVoices_cons s (waiting cue List.mem_cons_self).1, later]
    rfl

/-- The texts of an anchored speech are said by the voices that say them otherwise, and the same
voice is active at the end. -/
theorem textVoices_anchorAfter (buffered : s.Buffered roster) (buffered' : s'.Buffered roster)
    (alongside : Alongside roster held s.cursor s'.cursor) (speech : Speech) :
    s'.textVoices roster (anchorAfter held speech) = s.textVoices roster speech ∧
      (s'.after roster (anchorAfter held speech)).voice = (s.after roster speech).voice := by
  fun_induction anchorAfter held speech generalizing s s' with
  | case1 held =>
    have none : s'.textVoices roster (held ++ []) = [] := textVoices_append alongside.waiting s' []
    rw [List.append_nil] at none
    have voice : (s'.after roster held).cursor.voice = s.voice := by
      rw [cursor_after buffered']
      exact alongside.caughtUp.voice
    exact ⟨none, voice⟩
  | case2 held code rest ih =>
    have later : Alongside roster held (s.next roster (.language code)).cursor
        (s'.next roster (.language code)).cursor := by
      rw [cursor_next buffered.due, cursor_next buffered'.due]
      exact alongside.next_language code
    exact ih (buffered.next _) (buffered'.next _) later
  | case3 held t rest ih =>
    let reached := s'.after roster held
    have stands : reached.cursor = s'.cursor.after roster held := cursor_after buffered' held
    have buffered'' : reached.Buffered roster := buffered'.after held
    have voice : reached.cursor.voice = s.voice := by
      rw [stands]
      exact alongside.caughtUp.voice
    have later : Alongside roster [] (s.next roster (.text t)).cursor
        (reached.next roster (.text t)).cursor := by
      rw [cursor_next buffered.due, cursor_next buffered''.due, stands]
      exact alongside.next_text t
    obtain ⟨texts, last⟩ := ih (buffered.next _) (buffered''.next _) later
    rw [textVoices_append alongside.waiting, after_append]
    exact ⟨congrArg₂ List.cons (congrArg (·, t) voice) texts, last⟩
  | case4 held cue rest still silent ih =>
    have later : Alongside roster (held ++ [cue]) (s.next roster cue).cursor s'.cursor := by
      rw [cursor_next buffered.due]
      exact alongside.wait silent still
    rw [textVoices_cons s silent]
    exact ih (buffered.next cue) buffered' later

end State

/-- **In an anchored speech every cue goes to the voice of the next text.** All calls can be read,
and, spaces left aside, what is read is what each cue asks of the voice that is active when the next
text is read, or at the end of the speech. The texts themselves are said by the voices that would
say them in the speech as it was. -/
theorem heard_deliver_anchor (roster : Roster H) (speech : Speech) :
    let start := State.start roster
    (∃ heard, readBack? roster (deliver roster (anchor speech)) = some heard ∧
        audibly heard = audibly (start.settledTrace roster speech)) ∧
      start.textVoices roster (anchor speech) = start.textVoices roster speech ∧
      (start.after roster (anchor speech)).voice = (start.after roster speech).voice := by
  intro start
  have trace : (Cursor.start roster).trace roster (anchor speech) =
      start.settledTrace roster speech :=
    State.trace_anchorAfter (.start roster) (.refl _) speech
  refine ⟨?_, State.textVoices_anchorAfter (.start roster) (.start roster) (.refl _) speech⟩
  rw [← trace]
  exact heard_deliver roster (anchor speech)

end Polyvoice.Delivery
