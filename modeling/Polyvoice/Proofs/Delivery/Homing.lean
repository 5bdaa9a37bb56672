import Polyvoice.Proofs.Delivery.Places

/-!
# Language changes and cues that wait

What a cursor knows of voice and language. The active voice is the one for the language in force,
but where a speech has named no language yet (`Cursor.Homed`). Only language changes ask for another
voice; cues that wait for the next text ask for none (`Waiting`).

A number in a language of its own is a detour: the language is left in front of it, and comes back
behind it (`Bearing.throughNumber`).
-/

namespace Polyvoice.Delivery

open Speech

variable {H : Type} {roster : Roster H}

/-! ## Languages that come back -/

namespace Cursor

variable {c c' : Cursor H}

/-- The active voice is the one for the language in force, but for a speech that has named no
language yet. -/
def Homed (roster : Roster H) (c : Cursor H) : Prop :=
  (State.target roster (some c.language)).1 = c.voice ∨
    c.language = roster.defaultLanguage ∧ c.voice = roster.default

theorem Homed.start (roster : Roster H) : (Cursor.start roster).Homed roster :=
  Or.inr ⟨rfl, rfl⟩

theorem Homed.congr (homed : c.Homed roster) (voice : c'.voice = c.voice)
    (language : c'.language = c.language) : c'.Homed roster := by
  unfold Homed
  rw [voice, language]
  exact homed

variable [DecidableEq H]

theorem language_next (c : Cursor H) (code : Option String) :
    (c.next roster (.language code)).language = code.getD roster.defaultLanguage := by
  simp only [Cursor.next, turned]
  split
  · rename_i same
    rw [same]
    rfl
  · split
    · cases code <;> rfl
    · cases code <;> rfl

/-- A change to another language asks for its voice. -/
theorem voice_next {code : Option String} (other : code ≠ some c.language) :
    (c.next roster (.language code)).voice = (State.target roster code).1 := by
  simp only [Cursor.next, turned, if_neg other]
  split
  · rename_i stays
    exact stays.symm
  · rfl

/-- Which voice a language change leads to depends on voice and language only. -/
theorem voice_turned_congr (voice : c'.voice = c.voice) (language : c'.language = c.language)
    (code : Option String) :
    (c'.turned roster code).voice = (c.turned roster code).voice := by
  simp only [turned, language, voice]
  split
  · exact voice
  · split <;> rfl

theorem Homed.language (homed : c.Homed roster) (code : Option String) :
    (c.next roster (.language code)).Homed roster := by
  by_cases same : code = some c.language
  · simpa only [Cursor.next, turned, if_pos same] using homed
  · have voice : (c.next roster (.language code)).voice = (State.target roster code).1 :=
      voice_next same
    have language : (c.next roster (.language code)).language =
        code.getD roster.defaultLanguage := language_next c code
    cases code with
    | none => exact Or.inr ⟨language, voice⟩
    | some code =>
      left
      rw [language, voice]
      rfl

/-- Only a language change asks for another voice or another language. -/
theorem next_of_still (c : Cursor H) {cue : Cue} (still : ∀ code, cue ≠ .language code) :
    (c.next roster cue).voice = c.voice ∧ (c.next roster cue).language = c.language := by
  cases cue with
  | language code => exact absurd rfl (still code)
  | _ => exact ⟨rfl, rfl⟩

theorem Homed.next (homed : c.Homed roster) (cue : Cue) : (c.next roster cue).Homed roster := by
  rcases cue.language_or_still with ⟨code, rfl⟩ | still
  · exact homed.language code
  · obtain ⟨voice, language⟩ : (c.next roster cue).voice = c.voice ∧
        (c.next roster cue).language = c.language := c.next_of_still still
    exact homed.congr voice language

theorem Homed.after (homed : c.Homed roster) (speech : Speech) :
    (c.after roster speech).Homed roster := by
  induction speech generalizing c with
  | nil => exact homed
  | cons cue rest ih => exact ih (homed.next cue)

theorem spelling_next_language (c : Cursor H) (code : Option String) :
    (c.next roster (.language code)).spelling = c.spelling :=
  c.spelling_next_eq (.language code)

/-- Whether texts are spelled depends on nothing but that. -/
theorem spelling_next (same : c'.spelling = c.spelling) (cue : Cue) :
    (c'.next roster cue).spelling = (c.next roster cue).spelling := by
  rw [spelling_next_eq, spelling_next_eq, same]

theorem spelling_after (same : c'.spelling = c.spelling) (speech : Speech) :
    (c'.after roster speech).spelling = (c.after roster speech).spelling := by
  induction speech generalizing c c' with
  | nil => exact same
  | cons cue rest ih => exact ih (spelling_next same cue)

/-- Whether another voice speaks a language. -/
def isAway (roster : Roster H) (language : String) (c : Cursor H) : Bool :=
  (c.turned roster (some language)).voice ≠ c.voice

/-- Whether the language in force, once it was left for another one, comes back with another
voice. -/
def strays (roster : Roster H) (language : String) (c : Cursor H) : Bool :=
  language ≠ c.language && (State.target roster (some c.language)).1 ≠ c.voice

/-- Both depend on voice and language only. -/
theorem isAway_congr (voice : c'.voice = c.voice) (language : c'.language = c.language)
    (other : String) : c'.isAway roster other = c.isAway roster other := by
  rw [isAway, isAway, voice_turned_congr voice language, voice]

theorem strays_congr (voice : c'.voice = c.voice) (language : c'.language = c.language)
    (other : String) : c'.strays roster other = c.strays roster other := by
  rw [strays, strays, voice, language]

/-- Only a speech that has named no language yet can stray, and it is the code of the default
language that leads away. -/
theorem Homed.of_strays (homed : c.Homed roster) {language : String}
    (strays : c.strays roster language = true) :
    language ≠ c.language ∧ c.language = roster.defaultLanguage ∧ c.voice = roster.default ∧
      (State.target roster (some c.language)).1 ≠ c.voice := by
  obtain ⟨other, leads⟩ : language ≠ c.language ∧
      (State.target roster (some c.language)).1 ≠ c.voice := by
    simpa [Cursor.strays] using strays
  rcases homed with here | ⟨first, default⟩
  · exact absurd here leads
  · exact ⟨other, first, default, leads⟩

end Cursor

/-! ## Bearings behind a cue -/

namespace Bearing

variable [DecidableEq H] {b : Bearing H}

/-- A language change that keeps the voice keeps its settings. -/
theorem next_of_stays {code : Option String}
    (stays : (b.toCursor.next roster (.language code)).voice = b.voice) :
    b.next roster (.language code) =
      { b with toCursor := b.toCursor.next roster (.language code) } := by
  simp only [next, if_pos stays]

/-- A voice that takes over has no settings. -/
theorem next_of_leaves {code : Option String}
    (leaves : (b.toCursor.next roster (.language code)).voice ≠ b.voice) :
    b.next roster (.language code) = fresh roster (b.toCursor.next roster (.language code)) := by
  simp only [next, if_neg leaves]

/-- A text leaves all settings but the pitch as they are. -/
theorem settings_next_text (b : Bearing H) (t : Text) :
    (b.next roster (.text t)).volume = b.volume ∧ (b.next roster (.text t)).rate = b.rate := by
  by_cases markup : roster.engine b.voice = .markup
  · have here : (roster.voice b.voice).engine = .markup := markup
    simp only [next, here, and_self]
  · rw [next_of_other markup (.text t) (by simp)]
    exact ⟨rfl, rfl⟩

/-- A text asks for no other voice and no other language. -/
theorem still_next_text (b : Bearing H) (t : Text) :
    (b.next roster (.text t)).voice = b.voice ∧
      (b.next roster (.text t)).language = b.language := by
  rw [toCursor_next]
  exact b.toCursor.next_of_still nofun

end Bearing

/-! ## Cues that wait for a text -/

/-- Cues that wait for the next text. -/
def Waiting (held : Speech) : Prop :=
  ∀ cue ∈ held, (∀ t, cue ≠ .text t) ∧ ∀ code, cue ≠ .language code

namespace Waiting

variable [DecidableEq H] {held : Speech}

theorem nil : Waiting [] := by
  intro cue member
  cases member

theorem snoc (waiting : Waiting held) {cue : Cue} (silent : ∀ t, cue ≠ .text t)
    (still : ∀ code, cue ≠ .language code) : Waiting (held ++ [cue]) := by
  intro other member
  rcases List.mem_append.1 member with before | last
  · exact waiting other before
  · rw [List.mem_singleton.1 last]
    exact ⟨silent, still⟩

/-- Such cues ask for no other voice and no other language. -/
theorem cursor_after (waiting : Waiting held) (roster : Roster H) (c : Cursor H) :
    (c.after roster held).voice = c.voice ∧ (c.after roster held).language = c.language := by
  induction held generalizing c with
  | nil => exact ⟨rfl, rfl⟩
  | cons cue rest ih =>
    obtain ⟨voice, language⟩ : (c.next roster cue).voice = c.voice ∧
        (c.next roster cue).language = c.language :=
      c.next_of_still (waiting cue List.mem_cons_self).2
    obtain ⟨later, laterLanguage⟩ :=
      ih (fun other member => waiting other (List.mem_cons_of_mem cue member))
        (c.next roster cue)
    exact ⟨later.trans voice, laterLanguage.trans language⟩

theorem bearing_after (waiting : Waiting held) (roster : Roster H) (b : Bearing H) :
    (b.after roster held).voice = b.voice ∧ (b.after roster held).language = b.language := by
  rw [Bearing.toCursor_after]
  exact waiting.cursor_after roster b.toCursor

theorem places_append (waiting : Waiting held) (b : Bearing H) (speech : Speech) :
    b.places roster (held ++ speech) = (b.after roster held).places roster speech := by
  induction held generalizing b with
  | nil => rfl
  | cons cue rest ih =>
    have later := ih (fun other member => waiting other (List.mem_cons_of_mem cue member))
      (b.next roster cue)
    have wordless : cue.words = [] := by
      cases cue with
      | text t => exact absurd rfl ((waiting (.text t) List.mem_cons_self).1 t)
      | _ => rfl
    rw [List.cons_append, Bearing.places, later, wordless]
    rfl

theorem places_eq_nil (waiting : Waiting held) (b : Bearing H) : b.places roster held = [] := by
  have places : b.places roster (held ++ []) = (b.after roster held).places roster [] :=
    waiting.places_append b []
  rwa [List.append_nil] at places

end Waiting

/-! ## Through a number and back -/

namespace Bearing

variable [DecidableEq H] {b : Bearing H} {held : Speech} {language current : String}

/-- The bearing behind a number in a language, when the language in force has come back. The cues
in `held` come in front of the number. -/
def throughNumber (roster : Roster H) (language current : String) (held : Speech) (t : Text)
    (b : Bearing H) : Bearing H :=
  (((b.next roster (.language (some language))).after roster held).next roster (.text t)).next
    roster (.language (some current))

theorem language_throughNumber (t : Text) :
    (b.throughNumber roster language current held t).language = current := by
  rw [throughNumber, toCursor_next]
  exact Cursor.language_next _ _

/-- In front of the change that leads back, the voice of the number is active. -/
theorem in_number (roster : Roster H) (waiting : Waiting held) (b : Bearing H) (language : String)
    (t : Text) :
    let spoken := ((b.next roster (.language (some language))).after roster held).next roster
      (.text t)
    spoken.voice = (b.toCursor.turned roster (some language)).voice ∧
      spoken.language = language := by
  intro spoken
  let turned := b.toCursor.next roster (.language (some language))
  have cursor : spoken.toCursor = (turned.after roster held).next roster (.text t) := by
    simp only [spoken, toCursor_next, toCursor_after]
    rfl
  obtain ⟨voice, inForce⟩ : (turned.after roster held).voice = turned.voice ∧
      (turned.after roster held).language = turned.language := waiting.cursor_after roster turned
  rw [cursor]
  exact ⟨voice, inForce.trans (Cursor.language_next _ _)⟩

/-- Behind a number the voice is active that the language in force leads to. -/
theorem voice_throughNumber (waiting : Waiting held) (other : language ≠ current) (t : Text) :
    (b.throughNumber roster language current held t).voice =
      (State.target roster (some current)).1 := by
  obtain ⟨-, inForce⟩ := in_number roster waiting b language t
  rw [throughNumber, toCursor_next, Cursor.voice_next]
  rw [inForce]
  exact fun same => other (Option.some.inj same).symm

/-- A number in the language in force is no detour. -/
theorem voice_throughNumber_self (waiting : Waiting held) (inForce : b.language = current)
    (t : Text) : (b.throughNumber roster current current held t).voice = b.voice := by
  obtain ⟨voice, language⟩ := in_number roster waiting b current t
  have here : (b.toCursor.turned roster (some current)).voice = b.voice := by
    rw [Cursor.turned, if_pos (congrArg some inForce.symm)]
  rw [throughNumber, toCursor_next, Cursor.next, Cursor.turned, language, if_pos rfl, voice, here]

/-- Spelling goes on through a number, and cues in front of it may turn it on or off. -/
theorem spelling_throughNumber {c : Cursor H} (same : b.spelling = c.spelling) (t : Text) :
    (b.throughNumber roster language current held t).spelling =
      (c.after roster held).spelling := by
  have spelled : (b.toCursor.next roster (.language (some language))).spelling = c.spelling :=
    (Cursor.spelling_next_language _ _).trans same
  rw [throughNumber, toCursor_next, Cursor.spelling_next_language, toCursor_next, toCursor_after,
    toCursor_next]
  exact Cursor.spelling_after spelled held

end Bearing

end Polyvoice.Delivery
