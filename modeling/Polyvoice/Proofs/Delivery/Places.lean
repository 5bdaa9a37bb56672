import Polyvoice.Proofs.Delivery.Utterances
import Polyvoice.Proofs.Speech.Markers

/-!
# Places of characters

Where each character of the texts of a speech is said: by which voice and, if it is a markup voice,
in which manner (`Bearing.places`). What the voices say of the texts, they say at these places
(`Bearing.placed`).

Two deliveries of the same texts are compared by their places. What they hold for a cursor depends
on voice, language and spelling only, which two cursors that are alike (`Cursor.Alike`) keep in
common.
-/

namespace Polyvoice.Delivery

variable {H : Type} {roster : Roster H}

/-- Where a character of a text is said. -/
structure Place (H : Type) where
  voice : H
  /-- The manner in which a markup voice says it. -/
  manner : Option Markup.Manner
  character : Char
deriving DecidableEq

namespace Bearing

/-- The place of a character that is said next. -/
def place (roster : Roster H) (b : Bearing H) (c : Char) : Place H where
  voice := b.voice
  manner := if roster.engine b.voice = .markup then some b.manner else none
  character := c

/-- The places of the characters of all texts of a speech. -/
def places [DecidableEq H] (roster : Roster H) (b : Bearing H) : Speech → List (Place H)
  | [] => []
  | cue :: rest => cue.words.map (b.place roster) ++ (b.next roster cue).places roster rest

theorem places_append [DecidableEq H] (b : Bearing H) (p q : Speech) :
    b.places roster (p ++ q) = b.places roster p ++ (b.after roster p).places roster q := by
  induction p generalizing b with
  | nil => rfl
  | cons cue rest ih =>
    rw [List.cons_append, places, places, ih, List.append_assoc]
    rfl

/-- A text is said where its places say: by a chunk voice as such voices get it, by other voices
character by character. -/
theorem utterances_text (b : Bearing H) (t : Text) :
    b.utterances roster (.text t) =
      (if roster.engine b.voice = .chunk then Cursor.spoken b.spelling t else t).map fun c =>
        ⟨(b.place roster c).manner, .character c⟩ := by
  by_cases markup : roster.engine b.voice = .markup
  · have other : roster.engine b.voice ≠ .chunk := by rw [markup]; exact nofun
    simp [utterances, Cursor.atoms, place, markup, Utterance.inManner]
  · by_cases chunk : roster.engine b.voice = .chunk <;>
      simp [utterances, Cursor.atoms, place, markup, chunk, Utterance.plain]

end Bearing

/-! ## What is said at places -/

/-- What is said at a place. -/
def Place.utterance (place : Place H) : H × Utterance :=
  (place.voice, ⟨place.manner, .character place.character⟩)

/-- What is said of a text whose characters have some places. A chunk voice is sent the text without
the blanks around it, in lower case if it is spelled or a single character, and without escape
characters; another voice says each character at its place. -/
inductive SaidAt (roster : Roster H) (spelled : Bool) :
    List (Place H) → List (H × Utterance) → Prop where
  | whole {h : H} {places : List (Place H)} : roster.engine h = .chunk →
    (∀ place ∈ places, place.voice = h) →
    SaidAt roster spelled places
      (utteredBy h
        ((Cursor.spoken spelled (places.map Place.character)).map fun c => ⟨none, .character c⟩))
  | each {places : List (Place H)} : (∀ place ∈ places, roster.engine place.voice ≠ .chunk) →
    SaidAt roster spelled places (places.map Place.utterance)

/-- What a speech has the voices say, cue by cue: the characters of a text at their places. Of the
other cues only pronunciations have characters said. -/
inductive Placed (roster : Roster H) :
    Bool → Speech → List (Place H) → List (H × Utterance) → Prop where
  | nil {spelled : Bool} : Placed roster spelled [] [] []
  | text {spelled : Bool} {t : Text} {rest : Speech} {here later : List (Place H)}
    {said more : List (H × Utterance)} : here.map Place.character = t →
    SaidAt roster spelled here said → Placed roster spelled rest later more →
    Placed roster spelled (.text t :: rest) (here ++ later) (said ++ more)
  | other {spelled : Bool} {cue : Cue} {rest : Speech} {later : List (Place H)}
    {said more : List (H × Utterance)} : (∀ t, cue ≠ .text t) →
    (∀ entry ∈ said, ∀ c, entry.2.atom = .character c →
      ∃ ipa fallback, cue = .phonetic ipa fallback) →
    Placed roster (cue.spelling?.getD spelled) rest later more →
    Placed roster spelled (cue :: rest) later (said ++ more)

namespace Bearing

theorem map_character_place (b : Bearing H) (t : Text) :
    (t.map (b.place roster)).map Place.character = t := by
  rw [List.map_map]
  exact List.map_id t

/-- What is said of a text is said at the places of its characters. -/
theorem saidAt (b : Bearing H) (t : Text) :
    SaidAt roster b.spelling (t.map (b.place roster))
      (utteredBy b.voice (b.utterances roster (.text t))) := by
  have here : ∀ place ∈ t.map (b.place roster), place.voice = b.voice := by
    intro place member
    obtain ⟨c, -, rfl⟩ := List.mem_map.1 member
    rfl
  rw [utterances_text]
  by_cases chunk : roster.engine b.voice = .chunk
  · have plain (c : Char) : (b.place roster c).manner = none := by simp [place, chunk]
    have said : SaidAt roster b.spelling (t.map (b.place roster)) _ := .whole chunk here
    rw [map_character_place] at said
    simpa only [if_pos chunk, plain] using said
  · have away : ∀ place ∈ t.map (b.place roster), roster.engine place.voice ≠ .chunk :=
      fun place member => here place member ▸ chunk
    have said : SaidAt roster b.spelling (t.map (b.place roster)) _ := .each away
    rw [List.map_map] at said
    rw [if_neg chunk, utteredBy, List.map_map]
    exact said

/-- Only texts and pronunciations have characters said. -/
theorem said_of_character_mem {b : Bearing H} {cue : Cue} {entry : H × Utterance} {c : Char}
    (member : entry ∈ utteredBy b.voice (b.utterances roster cue))
    (is : entry.2.atom = .character c) :
    (∃ t, cue = .text t) ∨ ∃ ipa fallback, cue = .phonetic ipa fallback := by
  obtain ⟨utterance, uttered, rfl⟩ := List.mem_map.1 member
  obtain ⟨atom, asked, rfl⟩ := List.mem_map.1 uttered
  have same : atom = .character c := by
    rw [← is]
    split
    · cases atom <;> rfl
    · rfl
  exact Cursor.character_of_mem_atoms (same ▸ asked)

/-- **What is said of the texts of a speech is said at their places.** -/
theorem placed [DecidableEq H] (b : Bearing H) (speech : Speech) :
    Placed roster b.spelling speech (b.places roster speech) (b.trace roster speech) := by
  induction speech generalizing b with
  | nil => exact .nil
  | cons cue rest ih =>
    have later := ih (b.next roster cue)
    have spelled : (b.next roster cue).spelling = cue.spelling?.getD b.spelling := by
      rw [toCursor_next]
      exact Cursor.spelling_next_eq _ cue
    rw [spelled] at later
    rcases cue.text_or_silent with ⟨t, rfl⟩ | silent
    · exact .text (map_character_place b t) (b.saidAt t) later
    · have wordless : cue.words = [] := by
        cases cue with
        | text t => exact absurd rfl (silent t)
        | _ => rfl
      rw [places, wordless]
      refine .other silent (fun entry member c is => ?_) later
      exact (said_of_character_mem member is).resolve_left fun ⟨t, text⟩ => silent t text

end Bearing

/-! ## Cursors that are alike -/

namespace Cursor

/-- Cursors that differ at most in whether a chunk voice has yet to be told to spell. -/
structure Alike (c c' : Cursor H) : Prop where
  voice : c'.voice = c.voice
  language : c'.language = c.language
  spelling : c'.spelling = c.spelling

namespace Alike

variable {c c' : Cursor H}

theorem refl (c : Cursor H) : Alike c c :=
  ⟨rfl, rfl, rfl⟩

/-- The same cue leaves them alike. -/
theorem next [DecidableEq H] (alike : Alike c c') (cue : Cue) :
    Alike (c.next roster cue) (c'.next roster cue) := by
  obtain ⟨voice, language, spelling⟩ := alike
  cases cue with
  | language code =>
    simp only [Cursor.next, turned, language, voice]
    split
    · exact ⟨voice, language, spelling⟩
    · split
      · exact ⟨rfl, rfl, spelling⟩
      · exact ⟨rfl, rfl, spelling⟩
  | spelling on => exact ⟨voice, language, rfl⟩
  | _ => exact ⟨voice, language, spelling⟩

end Alike

end Cursor

namespace Bearing

/-- At a voice of another protocol, only a language change can change more than the cursor. -/
theorem next_of_other [DecidableEq H] {b : Bearing H} (other : roster.engine b.voice ≠ .markup)
    (cue : Cue) (still : ∀ code, cue ≠ .language code) :
    b.next roster cue = { b with toCursor := b.toCursor.next roster cue } := by
  have engine : (roster.voice b.voice).engine ≠ .markup := other
  cases cue with
  | language code => exact absurd rfl (still code)
  | _ =>
    cases found : (roster.voice b.voice).engine with
    | markup => exact absurd found engine
    | chunk => simp only [next, found]
    | plain => simp only [next, found]

end Bearing

end Polyvoice.Delivery
