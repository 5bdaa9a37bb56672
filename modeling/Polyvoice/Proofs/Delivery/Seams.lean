import Polyvoice.Proofs.Delivery.Buffers

/-!
# Seams of a delivery

A cue that parts the payload is a seam. What came before it is delivered as if the speech ended
there, and the signal of the cue follows at once (`deliver_snoc`); behind it the delivery goes on
without changing what was sent (`deliver_seam`). A cut is a seam without a signal, and a second
cut finds nothing left to send; a silence is signalled to the voice that has just spoken
(`deliver_cut`).

Where another voice takes over, the seam is also a new beginning: the machine is as it would be if
it had begun with that voice, its language and the spelling that is in force
(`State.next_eq_entered`). So two speeches that lead to the same voice in this way go on alike,
whatever they asked of the voices before (`deliver_isolated`).
-/

namespace Polyvoice.Delivery

variable {H : Type} {roster : Roster H}

namespace State

variable {s : State H}

theorem flushCalls_of_idle (idle : s.pending = false) : s.flushCalls roster = [] := by
  simp [flushCalls, idle]

/-- A second flush changes nothing. -/
@[simp] theorem flushed_flushed (roster : Roster H) (s : State H) :
    (s.flushed roster).flushed roster = s.flushed roster := by
  by_cases markup : roster.engine s.voice = .markup
  · simp [flushed, markup, Markup.Staging.closed]
  · simp [flushed, markup]

/-! ## Voices that take over -/

/-- What a delivery keeps when it begins with a voice: nothing is buffered or open, a markup voice
has its own pitch staged, and a voice that is to spell is prepared for it. -/
def entered (roster : Roster H) (h : H) (language : String) (spelling : Bool) : State H :=
  takenOver roster { start roster with language := language, spelling := spelling } h

@[simp] theorem entered_voice (h : H) (language : String) (spelling : Bool) :
    (entered roster h language spelling).voice = h :=
  takenOver_voice h

@[simp] theorem entered_language (h : H) (language : String) (spelling : Bool) :
    (entered roster h language spelling).language = language :=
  takenOver_language h

@[simp] theorem entered_spelling (h : H) (language : String) (spelling : Bool) :
    (entered roster h language spelling).spelling = spelling :=
  takenOver_spelling h

/-- A voice that takes over behind a flush knows of what was before it only whether texts are
spelled. -/
theorem takenOver_flushed (s : State H) (language : String) (h : H) :
    takenOver roster { s.flushed roster with language := language } h =
      entered roster h language s.spelling := by
  unfold entered takenOver
  cases roster.engine h <;> rfl

variable [DecidableEq H]

/-- A language change that makes another voice active parts the payload. -/
theorem parts_of_voice_ne {code : Option String}
    (turns : (s.next roster (.language code)).voice ≠ s.voice) :
    s.cursor.parts roster (.language code) = true := by
  cases parts : s.cursor.parts roster (.language code) with
  | true => rfl
  | false =>
    have noted : s.next roster (.language code) =
        { s with language := (s.cursor.next roster (.language code)).language } :=
      turned_of_stays parts
    exact absurd (congrArg State.voice noted) turns

/-- Behind a language change that parts the payload, the machine is as if it had begun with the
voice that took over. -/
theorem next_eq_entered {code : Option String}
    (parts : s.cursor.parts roster (.language code) = true) :
    let t := s.next roster (.language code)
    t = entered roster t.voice t.language t.spelling := by
  intro t
  have here : t = entered roster (target roster code).1 (target roster code).2 s.spelling :=
    (turned_of_parts parts).trans (takenOver_flushed s _ _)
  rw [here, entered_voice, entered_language, entered_spelling]

/-! ## Calls at a seam -/

/-- Nothing is pending behind a seam. -/
theorem pending_next_of_parts {cue : Cue} (parts : s.cursor.parts roster cue = true) :
    (s.next roster cue).pending = false := by
  rcases next_of_parts parts with flush | ⟨language, h, takes⟩
  · rw [flush]
    rfl
  · rw [takes, takenOver_pending]
    rfl

/-- A seam sends what is buffered, and then its signal. -/
theorem calls_of_parts {cue : Cue} (parts : s.cursor.parts roster cue = true) :
    s.calls roster cue =
      s.flushCalls roster ++ (s.cursor.signals roster cue).map (⟨s.voice, ·⟩) := by
  rw [calls_eq, if_pos parts]

end State

section Seams

variable [DecidableEq H] (roster) (p : Speech) {cue : Cue}

/-- A speech that ends with a seam: what came before it is sent as it would be without the seam, and
the signal follows at once. -/
theorem deliver_snoc
    (parts : ((State.start roster).after roster p).cursor.parts roster cue = true) :
    let s := (State.start roster).after roster p
    deliver roster (p ++ [cue]) =
      deliver roster p ++ (s.cursor.signals roster cue).map (⟨s.voice, ·⟩) := by
  intro s
  have nothing : (s.next roster cue).callsToEnd roster [] = [] :=
    State.flushCalls_of_idle (State.pending_next_of_parts parts)
  calc deliver roster (p ++ [cue])
      = (State.start roster).callsDuring roster p ++
          (s.calls roster cue ++ (s.next roster cue).callsToEnd roster []) := by
        rw [deliver, State.callsToEnd_append, State.callsToEnd_cons]
    _ = ((State.start roster).callsDuring roster p ++ s.flushCalls roster) ++
          (s.cursor.signals roster cue).map (⟨s.voice, ·⟩) := by
        rw [nothing, List.append_nil, State.calls_of_parts parts, List.append_assoc]

/-- Behind a seam, the delivery goes on with what was sent so far as it is. -/
theorem deliver_seam (parts : ((State.start roster).after roster p).cursor.parts roster cue = true)
    (q : Speech) :
    deliver roster (p ++ [cue] ++ q) =
      deliver roster (p ++ [cue]) ++
        (((State.start roster).after roster p).next roster cue).callsToEnd roster q := by
  let s := (State.start roster).after roster p
  have behind : (State.start roster).after roster (p ++ [cue]) = s.next roster cue :=
    State.after_append roster _ p [cue]
  have complete : deliver roster (p ++ [cue]) =
      (State.start roster).callsDuring roster (p ++ [cue]) := by
    have nothing : (s.next roster cue).flushCalls roster = [] :=
      State.flushCalls_of_idle (State.pending_next_of_parts parts)
    rw [deliver, State.callsToEnd, behind, nothing, List.append_nil]
  rw [complete, deliver, State.callsToEnd_append, behind]

/-- A cut sends what is buffered, and signals nothing. -/
theorem deliver_cut_end : deliver roster (p ++ [.cut]) = deliver roster p :=
  (deliver_snoc roster p rfl).trans (List.append_nil _)

theorem deliver_cut_append (q : Speech) :
    deliver roster (p ++ [.cut] ++ q) =
      deliver roster p ++
        (((State.start roster).after roster p).flushed roster).callsToEnd roster q := by
  have seam : deliver roster (p ++ [.cut] ++ q) = deliver roster (p ++ [.cut]) ++ _ :=
    deliver_seam roster p rfl q
  rwa [deliver_cut_end] at seam

/-- **A cut is clean.** What came before it is delivered as it would be without the rest, at once
and once for all; a second cut changes nothing. A silence goes to the voice that is active, right
behind what came before it. -/
theorem deliver_cut (q : Speech) (ms : UInt32) :
    deliver roster p <+: deliver roster (p ++ [.cut] ++ q) ∧
      deliver roster (p ++ [.cut]) = deliver roster p ∧
      deliver roster (p ++ [.cut, .cut] ++ q) = deliver roster (p ++ [.cut] ++ q) ∧
      deliver roster p ++ [⟨((State.start roster).after roster p).voice, .silence ms⟩] <+:
        deliver roster (p ++ [.silence ms] ++ q) := by
  let s := (State.start roster).after roster p
  refine ⟨?_, deliver_cut_end roster p, ?_, ?_⟩
  · rw [deliver_cut_append]
    exact List.prefix_append _ _
  · have behind : (State.start roster).after roster (p ++ [.cut]) = s.flushed roster :=
      State.after_append roster _ p [.cut]
    have apart : p ++ [.cut, .cut] = p ++ [.cut] ++ [.cut] :=
      (List.append_assoc p [.cut] [.cut]).symm
    calc deliver roster (p ++ [.cut, .cut] ++ q)
        = deliver roster (p ++ [.cut] ++ [.cut] ++ q) := by rw [apart]
      _ = deliver roster p ++ ((s.flushed roster).flushed roster).callsToEnd roster q := by
        rw [deliver_cut_append, deliver_cut_end, behind]
      _ = deliver roster (p ++ [.cut] ++ q) := by
        rw [State.flushed_flushed, deliver_cut_append]
  · have silence : deliver roster (p ++ [.silence ms]) =
        deliver roster p ++ [⟨s.voice, .silence ms⟩] :=
      deliver_snoc roster p rfl
    rw [deliver_seam roster p rfl, silence]
    exact List.prefix_append _ _

end Seams

/-- Behind a change of voice, the delivery goes on as one that has begun with that voice. -/
theorem deliver_takeover [DecidableEq H] {p : Speech} {code : Option String}
    (turns : ((State.start roster).after roster (p ++ [.language code])).voice ≠
      ((State.start roster).after roster p).voice)
    (q : Speech) :
    let t := (State.start roster).after roster (p ++ [.language code])
    deliver roster (p ++ [.language code] ++ q) =
      deliver roster (p ++ [.language code]) ++
        (State.entered roster t.voice t.language t.spelling).callsToEnd roster q := by
  intro t
  let s := (State.start roster).after roster p
  have behind : t = s.next roster (.language code) := State.after_append roster _ p [_]
  have turnsHere : (s.next roster (.language code)).voice ≠ s.voice := by
    rw [← behind]
    exact turns
  have parts : s.cursor.parts roster (.language code) = true := State.parts_of_voice_ne turnsHere
  have begun : t = State.entered roster t.voice t.language t.spelling := by
    rw [behind]
    exact State.next_eq_entered parts
  rw [← begun, behind]
  exact deliver_seam roster p parts q

/-- **A voice that takes over knows nothing of the earlier one.** Two speeches end with a change to
the same voice, with the same language and spelling in force. Whatever they asked for before, they
go on with the same calls: those of a delivery that has begun with that voice. -/
theorem deliver_isolated [DecidableEq H] (roster : Roster H) {p p' : Speech}
    {code code' : Option String}
    (turns : ((State.start roster).after roster (p ++ [.language code])).voice ≠
      ((State.start roster).after roster p).voice)
    (turns' : ((State.start roster).after roster (p' ++ [.language code'])).voice ≠
      ((State.start roster).after roster p').voice)
    (voice : ((State.start roster).after roster (p' ++ [.language code'])).voice =
      ((State.start roster).after roster (p ++ [.language code])).voice)
    (language : ((State.start roster).after roster (p' ++ [.language code'])).language =
      ((State.start roster).after roster (p ++ [.language code])).language)
    (spelling : ((State.start roster).after roster (p' ++ [.language code'])).spelling =
      ((State.start roster).after roster (p ++ [.language code])).spelling)
    (q : Speech) :
    let t := (State.start roster).after roster (p ++ [.language code])
    let calls := (State.entered roster t.voice t.language t.spelling).callsToEnd roster q
    deliver roster (p ++ [.language code] ++ q) =
        deliver roster (p ++ [.language code]) ++ calls ∧
      deliver roster (p' ++ [.language code'] ++ q) =
        deliver roster (p' ++ [.language code']) ++ calls := by
  intro t calls
  refine ⟨deliver_takeover turns q, ?_⟩
  rw [deliver_takeover turns' q, voice, language, spelling]

/-- A voice for each protocol; the one of the markup protocol is the default. -/
def ensemble : Roster Engine where
  voice engine :=
    { name := engine.name, engine := engine, language := "en", pitch := 50, rate := 50,
      volume := 50 }
  default := .markup
  defaultLanguage := "en"
  voiceFor code := if code = "zh" then some .chunk else if code = "de" then some .plain else none

/-- The markup voice comes back from the plain one, or from the chunk one that has spelled, and does
not know which. -/
theorem deliver_isolated_ensemble :
    let p : Speech := [.volume (.absolute 75), .text "a".toList, .language (some "de")]
    let p' : Speech := [.spelling true, .language (some "zh"), .text "B".toList, .spelling false]
    let after (speech : Speech) := (State.start ensemble).after ensemble speech
    let t := after (p ++ [.language none])
    let t' := after (p' ++ [.language (some "en")])
    let calls := [⟨.markup, .speak "<pitch absmiddle=\"0\">c</pitch>".toList⟩]
    t.voice ≠ (after p).voice ∧ t'.voice ≠ (after p').voice ∧
      t'.voice = t.voice ∧ t'.language = t.language ∧ t'.spelling = t.spelling ∧
      deliver ensemble (p ++ [.language none] ++ [.text "c".toList]) =
        deliver ensemble (p ++ [.language none]) ++ calls ∧
      deliver ensemble (p' ++ [.language (some "en")] ++ [.text "c".toList]) =
        deliver ensemble (p' ++ [.language (some "en")]) ++ calls := by
  intro p p' after t t' calls
  have turns : t.voice ≠ (after p).voice := by decide
  have turns' : t'.voice ≠ (after p').voice := by decide
  have voice : t'.voice = t.voice := by decide
  have language : t'.language = t.language := by decide
  have spelling : t'.spelling = t.spelling := by decide
  have begun : (State.entered ensemble t.voice t.language t.spelling).callsToEnd ensemble
      [.text "c".toList] = calls := by decide +kernel
  have isolated :=
    deliver_isolated ensemble turns turns' voice language spelling [.text "c".toList]
  simp only at isolated
  rw [begun] at isolated
  exact ⟨turns, turns', voice, language, spelling, isolated⟩

end Polyvoice.Delivery
