import Polyvoice.Proofs.Delivery.Congruence
import Polyvoice.Proofs.Delivery.NumberVoices

/-!
# Language changes that keep the voice

A language change whose language is spoken by the active voice only notes the language. What is
noted matters to later language changes, as a change to the language in force is none. Where the
active voice is the one for the language in force, all later changes ask for the same voices with
and without the note, and the change goes unnoticed (`deliver_idle_change`). It is noticed
where a speech has named no language yet: there the code of the default language asks for no voice,
even if the roster has another one than the default voice for it.
-/

namespace Polyvoice

/-- The first language change of a speech. -/
def Speech.firstChange? : Speech → Option (Option String)
  | [] => none
  | .language code :: _ => some code
  | _ :: rest => firstChange? rest

theorem Speech.firstChange?_cons {cue : Cue} (still : ∀ code, cue ≠ .language code)
    (rest : Speech) : Speech.firstChange? (cue :: rest) = rest.firstChange? := by
  cases cue with
  | language code => exact absurd rfl (still code)
  | _ => rfl

namespace Delivery

variable {H : Type} [DecidableEq H] {roster : Roster H}

/-- Whether a language change parts the payload is a matter of voice and language. -/
theorem Cursor.parts_language_congr {c c' : Cursor H} (voice : c'.voice = c.voice)
    (language : c'.language = c.language) (code : Option String) :
    c'.parts roster (.language code) = c.parts roster (.language code) := by
  unfold parts
  rw [voice, language]

namespace State

variable {s s' : State H}

/-- Congruent states send the same to the end of a speech if they agree on its first language
change. Behind that, they have the language in common. -/
theorem Congruent.callsToEnd_of_firstChange (congruent : Congruent roster s s')
    (buffered : s.Buffered roster) {speech : Speech}
    (agree : ∀ code, speech.firstChange? = some code →
      s'.cursor.parts roster (.language code) = s.cursor.parts roster (.language code)) :
    s'.callsToEnd roster speech = s.callsToEnd roster speech := by
  induction speech generalizing s s' with
  | nil => exact congruent.flushCalls
  | cons cue rest ih =>
    have due := buffered.due
    have here : (s.next roster cue).cursor = s.cursor.next roster cue := cursor_next due cue
    have there : (s'.next roster cue).cursor = s'.cursor.next roster cue :=
      cursor_next (congruent.due due) cue
    rcases cue.language_or_still with ⟨code, rfl⟩ | still
    · have parts := agree code rfl
      have language : (s'.next roster (.language code)).language =
          (s.next roster (.language code)).language := by
        have same : (s'.cursor.next roster (.language code)).language =
            (s.cursor.next roster (.language code)).language :=
          (Cursor.language_next s'.cursor code).trans (Cursor.language_next s.cursor code).symm
        rwa [← here, ← there] at same
      rw [callsToEnd_cons, callsToEnd_cons, congruent.calls parts,
        (congruent.next due parts).callsToEnd language (buffered.next _)]
    · have parts : s'.cursor.parts roster cue = s.cursor.parts roster cue :=
        congruent.parts_of_still still
      obtain ⟨voice, language⟩ : (s.next roster cue).cursor.voice = s.cursor.voice ∧
          (s.next roster cue).cursor.language = s.cursor.language := by
        rw [here]
        exact s.cursor.next_of_still still
      obtain ⟨voice', language'⟩ : (s'.next roster cue).cursor.voice = s'.cursor.voice ∧
          (s'.next roster cue).cursor.language = s'.cursor.language := by
        rw [there]
        exact s'.cursor.next_of_still still
      have later : ∀ code, Speech.firstChange? rest = some code →
          (s'.next roster cue).cursor.parts roster (.language code) =
            (s.next roster cue).cursor.parts roster (.language code) := by
        intro code first
        rw [Cursor.parts_language_congr voice' language',
          Cursor.parts_language_congr voice language]
        exact agree code ((Speech.firstChange?_cons still rest).trans first)
      rw [callsToEnd_cons, callsToEnd_cons, congruent.calls parts,
        ih (congruent.next due parts) (buffered.next cue) later]

end State

namespace Cursor

variable {c c' : Cursor H}

/-- A cursor and one with the same voice agree on a language change, if the languages of both are
spoken by that voice; that of a homed cursor is, unless it is the default language. -/
theorem parts_language_of_homed (homed : c.Homed roster) (voice : c'.voice = c.voice)
    (spoken : (State.target roster (some c'.language)).1 = c.voice) {code : Option String}
    (heeded : c.language = roster.defaultLanguage → code = some roster.defaultLanguage →
      (State.target roster code).1 = c.voice) :
    c'.parts roster (.language code) = c.parts roster (.language code) := by
  rw [Bool.eq_iff_iff, parts_language, parts_language, voice]
  refine and_congr_left fun away => ?_
  have other' : code ≠ some c'.language := by
    rintro rfl
    exact away spoken
  have other : code ≠ some c.language := by
    rintro rfl
    rcases homed with here | ⟨default, -⟩
    · exact away here
    · exact away (heeded default (congrArg some default))
  exact iff_of_true other' other

end Cursor

/-- Behind a speech, the default language is in force with a voice that is not the one for its
code. The code asks for no voice then, as the language is in force already. -/
def DefaultUnheeded (roster : Roster H) (speech : Speech) : Prop :=
  let s := (State.start roster).after roster speech
  s.language = roster.defaultLanguage ∧
    (roster.voiceFor roster.defaultLanguage).getD roster.default ≠ s.voice

/-- **A language change that keeps the voice goes unnoticed.** The calls are those of the speech
without the change, unless the code of the default language was unheeded up to it, and is what the
next language change asks for. -/
theorem deliver_idle_change (roster : Roster H) (p q : Speech) (code : String)
    (active : (roster.voiceFor code).getD roster.default =
      ((State.start roster).after roster p).voice)
    (heeded : ¬ (DefaultUnheeded roster p ∧
      q.firstChange? = some (some roster.defaultLanguage))) :
    deliver roster (p ++ .language (some code) :: q) = deliver roster (p ++ q) := by
  let s := (State.start roster).after roster p
  let s' := s.next roster (.language (some code))
  have buffered : s.Buffered roster := (State.Buffered.start roster).after p
  have homed : s.cursor.Homed roster := by
    have cursor : s.cursor = (Cursor.start roster).after roster p :=
      State.cursor_after (.start roster) p
    rw [cursor]
    exact (Cursor.Homed.start roster).after p
  have kept : (State.target roster (some code)).1 = s.voice := active
  have stays : s.cursor.parts roster (.language (some code)) = false :=
    Bool.eq_false_iff.2 fun parts => (Cursor.parts_language.1 parts).2 kept
  -- the change leaves nothing but a note of its language
  have noted : s' = { s with language := s'.language } := by
    have turned : s' = s.turned roster (some code) := rfl
    rw [turned, State.turned_of_stays stays]
  have language : s'.language = code := by
    have cursor : s'.cursor = s.cursor.next roster (.language (some code)) :=
      State.cursor_next buffered.due _
    exact (congrArg Cursor.language cursor).trans (Cursor.language_next _ _)
  have congruent : State.Congruent roster s s' := by
    rw [noted]
    exact (State.Congruent.refl s).language s.language s'.language
  have unnoticed : s'.callsToEnd roster q = s.callsToEnd roster q := by
    refine congruent.callsToEnd_of_firstChange buffered fun later first => ?_
    have spoken : (State.target roster (some s'.cursor.language)).1 = s.voice := by
      have same : s'.cursor.language = code := language
      rw [same, kept]
    refine Cursor.parts_language_of_homed homed congruent.voice spoken fun default asks => ?_
    by_contra away
    subst asks
    exact heeded ⟨⟨default, away⟩, first⟩
  rw [deliver, deliver, State.callsToEnd_append, State.callsToEnd_append, State.callsToEnd_cons,
    State.calls_of_stays stays, List.nil_append]
  exact congrArg _ unnoticed

/-- A change to a language without a voice goes unnoticed, though the voice of the default language
is not the default one, as the next change asks for yet another language. -/
theorem deliver_idle_change_duet :
    let roster := duet (some true)
    let p : Speech := [.text "a".toList]
    let q : Speech := [.language (some "zh"), .text "b".toList]
    (roster.voiceFor "de").getD roster.default = ((State.start roster).after roster p).voice ∧
      ¬ (DefaultUnheeded roster p ∧ q.firstChange? = some (some roster.defaultLanguage)) ∧
      deliver roster (p ++ .language (some "de") :: q) = deliver roster (p ++ q) := by
  intro roster p q
  have active : (roster.voiceFor "de").getD roster.default =
      ((State.start roster).after roster p).voice := by decide
  have heeded : ¬ (DefaultUnheeded roster p ∧
      q.firstChange? = some (some roster.defaultLanguage)) := by
    rintro ⟨-, first⟩
    exact absurd first (by decide)
  exact ⟨active, heeded, deliver_idle_change roster p q "de" active heeded⟩

/-- It is noticed where the code of the default language, unheeded up to it, is what the next change
asks for: the voice of that code speaks on. -/
theorem deliver_noticed_change :
    let roster := duet (some true)
    let q : Speech := [.language (some "en"), .text "a".toList]
    (roster.voiceFor "de").getD roster.default = ((State.start roster).after roster []).voice ∧
      deliver roster ([] ++ .language (some "de") :: q) = [⟨true, .speak "a".toList⟩] ∧
      deliver roster ([] ++ q) = [⟨false, .speak "a".toList⟩] := by
  decide +kernel

end Delivery

end Polyvoice
