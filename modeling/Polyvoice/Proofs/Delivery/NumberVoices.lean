import Polyvoice.Proofs.Delivery.Detours

/-!
# What numbers in a language of their own change

A speech is compiled with numbers spoken in a language of their own, and delivered as it is. What
stands outside numbers is said by the same voices in both cases, and spelled in both or in none.
There are two exceptions. A voice has lost its volume and its rate where another one spoke a number,
until they are asked for again. And as the language in force comes back by its code, a speech that
has named no language yet may go astray at a number, if the code of the default language leads to
another voice than the default one (`Spared`, `spared_numbers`).
-/

namespace Polyvoice.Delivery

open Speech
open Numeral (Piece Speaker pieces)

variable {H : Type} {roster : Roster H}

/-! ## Fates of characters -/

/-- What becomes of a character. -/
inductive Fate where
  /-- It belongs to a number. -/
  | number
  /-- It stands outside numbers, on a course. -/
  | outside (course : Course)
deriving DecidableEq

/-- The fates of the characters of a text, where `number` says what a number does to a course. -/
def pieceFates (number : Course → Course) (course : Course) : List Piece → List Fate
  | [] => []
  | .plain t :: rest => t.map (fun _ => .outside course) ++ pieceFates number course rest
  | .run t :: rest => t.map (fun _ => .number) ++ pieceFates number (number course) rest

/-- The course behind a text. -/
def Course.afterPieces (number : Course → Course) (course : Course) : List Piece → Course
  | [] => course
  | .plain _ :: rest => course.afterPieces number rest
  | .run _ :: rest => (number course).afterPieces number rest

/-- The fates of the characters of a speech whose numbers are spoken in a language. -/
def fates [DecidableEq H] (roster : Roster H) (language : String) (course : Course)
    (c : Cursor H) : Speech → List Fate
  | [] => []
  | .text t :: rest =>
    let number := Course.behindNumber roster language c
    pieceFates number course (pieces t) ++
      fates roster language (course.afterPieces number (pieces t)) (c.next roster (.text t)) rest
  | cue :: rest => fates roster language (course.behind roster c cue) (c.next roster cue) rest

/-- How a character is said if numbers are spoken apart, compared to where it is said otherwise. -/
def Spared (roster : Roster H) (entry : Fate × Place H) (after : Place H) : Prop :=
  match entry.1 with
  | .number => after.character = entry.2.character
  | .outside course => course.Spares roster entry.2 after

theorem length_pieceFates (number : Course → Course) (course : Course) (ps : List Piece) :
    (pieceFates number course ps).length = (ps.flatMap Piece.text).length := by
  induction ps generalizing course with
  | nil => rfl
  | cons piece ps ih =>
    cases piece with
    | plain t =>
      rw [pieceFates, List.length_append, List.length_map, ih, List.flatMap_cons,
        List.length_append]
      rfl
    | run t =>
      rw [pieceFates, List.length_append, List.length_map, ih, List.flatMap_cons,
        List.length_append]
      rfl

/-- Cues that wait for a text have no characters. -/
theorem fates_append [DecidableEq H] {held : Speech} (waiting : Waiting held) (language : String)
    (course : Course) (c : Cursor H) (speech : Speech) :
    fates roster language course c (held ++ speech) =
      fates roster language (course.after held) (c.after roster held) speech := by
  induction held generalizing course c with
  | nil => cases course <;> rfl
  | cons cue rest ih =>
    obtain ⟨silent, still⟩ := waiting cue List.mem_cons_self
    have later := ih (fun other member => waiting other (List.mem_cons_of_mem cue member))
      (course.behind roster c cue) (c.next roster cue)
    have first : fates roster language course c (cue :: (rest ++ speech)) =
        fates roster language (course.behind roster c cue) (c.next roster cue)
          (rest ++ speech) := by
      cases cue with
      | text t => exact absurd rfl (silent t)
      | _ => rfl
    have onward : (course.behind roster c cue).after rest = course.after (cue :: rest) := by
      cases course with
      | kept lost => rfl
      | astray =>
        cases cue with
        | language code => exact absurd rfl (still code)
        | _ => rfl
    rw [List.cons_append, first, later, onward]
    rfl

/-! ## Anchored numbers -/

section Anchored

variable {speaker : Speaker} {current : String}

/-- The cues for pieces of a text, anchored, where the cues in `held` wait for the text. -/
def anchoredPieces (speaker : Speaker) (current : String) (held : Speech) : List Piece → Speech
  | [] => held
  | .plain t :: rest => held ++ .text t :: anchoredPieces speaker current [] rest
  | .run t :: rest =>
    .language (some speaker.language) :: held ++ .text (speaker.spoken t) ::
      .language (some current) :: anchoredPieces speaker current [] rest

theorem anchorAfter_cues {ps : List Piece} {held : Speech} (some : ps ≠ [] ∨ held = [])
    (rest : Speech) :
    anchorAfter held (ps.flatMap (speaker.cues current) ++ rest) =
      anchoredPieces speaker current held ps ++ anchorAfter [] rest := by
  induction ps generalizing held with
  | nil =>
    obtain rfl : held = [] := some.resolve_left fun nonempty => nonempty rfl
    rfl
  | cons piece ps ih =>
    have later : anchorAfter [] (ps.flatMap (speaker.cues current) ++ rest) =
        anchoredPieces speaker current [] ps ++ anchorAfter [] rest := ih (Or.inr rfl)
    cases piece with
    | plain t => simp [Speaker.cues, anchorAfter, anchoredPieces, later]
    | run t => simp [Speaker.cues, anchorAfter, anchoredPieces, later]

variable {course : Course} {b b' : Bearing H} {held : Speech}

/-- The characters of a number stay in their order. -/
theorem spared_number (b b' : Bearing H) (t : Text) :
    List.Forall₂ (Spared roster) ((t.map fun _ => Fate.number).zip (t.map (b.place roster)))
      (t.map (b'.place roster)) := by
  induction t with
  | nil => exact .nil
  | cons c t ih => exact .cons rfl ih

theorem spared_outside (relates : course.Relates roster b b') (t : Text) :
    List.Forall₂ (Spared roster)
      ((t.map fun _ => Fate.outside course).zip (t.map (b.place roster)))
      (t.map (b'.place roster)) := by
  induction t with
  | nil => exact .nil
  | cons c t ih => exact .cons (relates.spares c) ih

theorem forall₂_zip_append {fates moreFates : List Fate} {places more after later : List (Place H)}
    (lengths : fates.length = places.length)
    (first : List.Forall₂ (Spared roster) (fates.zip places) after)
    (second : List.Forall₂ (Spared roster) (moreFates.zip more) later) :
    List.Forall₂ (Spared roster) ((fates ++ moreFates).zip (places ++ more)) (after ++ later) := by
  rw [List.zip_append lengths]
  exact List.rel_append first second

variable [DecidableEq H]

theorem places_plain (waiting : Waiting held) (b : Bearing H) (t : Text) (ps : List Piece) :
    b.places roster (anchoredPieces speaker current held (.plain t :: ps)) =
      t.map ((b.after roster held).place roster) ++
        ((b.after roster held).next roster (.text t)).places roster
          (anchoredPieces speaker current [] ps) :=
  waiting.places_append b (.text t :: anchoredPieces speaker current [] ps)

theorem after_plain (b : Bearing H) (t : Text) (ps : List Piece) :
    b.after roster (anchoredPieces speaker current held (.plain t :: ps)) =
      ((b.after roster held).next roster (.text t)).after roster
        (anchoredPieces speaker current [] ps) :=
  Bearing.after_append b held (.text t :: anchoredPieces speaker current [] ps)

theorem places_run (waiting : Waiting held) (b : Bearing H) {t : Text}
    (written : speaker.spoken t = t) (ps : List Piece) :
    b.places roster (anchoredPieces speaker current held (.run t :: ps)) =
      t.map (((b.next roster (.language (some speaker.language))).after roster held).place
          roster) ++
        (b.throughNumber roster speaker.language current held t).places roster
          (anchoredPieces speaker current [] ps) := by
  rw [anchoredPieces, written]
  exact waiting.places_append (b.next roster (.language (some speaker.language)))
    (.text t :: .language (some current) :: anchoredPieces speaker current [] ps)

theorem after_run (b : Bearing H) {t : Text} (written : speaker.spoken t = t) (ps : List Piece) :
    b.after roster (anchoredPieces speaker current held (.run t :: ps)) =
      (b.throughNumber roster speaker.language current held t).after roster
        (anchoredPieces speaker current [] ps) := by
  rw [anchoredPieces, written]
  exact Bearing.after_append (b.next roster (.language (some speaker.language))) held
    (.text t :: .language (some current) :: anchoredPieces speaker current [] ps)

/-- The pieces of a text are said where the text is said, but for what becomes of them. -/
theorem spared_anchoredPieces {ps : List Piece} (value : speaker.reading = .asValue)
    (short : ∀ piece ∈ ps, piece.isShort = true) (waiting : Waiting held)
    (relates : course.Relates roster b b') (here : b.language = current)
    (there : b'.language = current) (homed : b.Homed roster) {number : Course → Course}
    (turns : Course.behindNumber roster speaker.language b.toCursor = number) :
    let apart := anchoredPieces speaker current held ps
    List.Forall₂ (Spared roster)
        ((pieceFates number (course.after held) ps).zip
          ((ps.flatMap Piece.text).map ((b.after roster held).place roster)))
        (b'.places roster apart) ∧
      ((course.after held).afterPieces number ps).Relates roster (b.after roster held)
        (b'.after roster apart) ∧
      (b'.after roster apart).language = current := by
  induction ps generalizing held course b b' with
  | nil =>
    intro apart
    have none : b'.places roster apart = [] := waiting.places_eq_nil b'
    rw [none]
    exact ⟨.nil, relates.after_waiting waiting, (waiting.bearing_after roster b').2.trans there⟩
  | cons piece ps ih =>
    intro apart
    have shortRest : ∀ other ∈ ps, other.isShort = true :=
      fun other member => short other (List.mem_cons_of_mem piece member)
    obtain ⟨voice, language⟩ := waiting.bearing_after roster b
    have laterHomed : (b.after roster held).Homed roster := homed.congr voice language
    have laterTurns : Course.behindNumber roster speaker.language
        (b.after roster held).toCursor = number :=
      (Course.behindNumber_congr voice language speaker.language).trans turns
    have laterHere : (b.after roster held).language = current := language.trans here
    -- nothing waits for the pieces that follow
    have fresh (course : Course) : course.after [] = course := by cases course <;> rfl
    have front : ((piece :: ps).flatMap Piece.text).map ((b.after roster held).place roster) =
        piece.text.map ((b.after roster held).place roster) ++
          (ps.flatMap Piece.text).map ((b.after roster held).place roster) := by
      rw [List.flatMap_cons, List.map_append]
    cases piece with
    | plain t =>
      have heldRelates := relates.after_waiting waiting
      have laterThere : ((b'.after roster held).next roster (.text t)).language = current := by
        rw [(Bearing.still_next_text _ t).2, (waiting.bearing_after roster b').2, there]
      obtain ⟨spared, related, kept⟩ := ih shortRest .nil (heldRelates.text_right t) laterHere
        laterThere laterHomed laterTurns
      rw [fresh] at spared related
      have lengths : (t.map fun _ => Fate.outside (course.after held)).length =
          (t.map ((b.after roster held).place roster)).length := by
        rw [List.length_map, List.length_map]
      simp only [apart, places_plain waiting, after_plain, front]
      exact ⟨forall₂_zip_append lengths (spared_outside heldRelates t) spared, related, kept⟩
    | run t =>
      have written : speaker.spoken t = t :=
        spoken_of_short value (of_decide_eq_true (short (.run t) List.mem_cons_self))
      have laterRelates : (number (course.after held)).Relates roster (b.after roster held)
          (b'.throughNumber roster speaker.language current held t) := by
        subst here
        rw [← turns]
        exact relates.throughNumber there homed speaker.language waiting t
      obtain ⟨spared, related, kept⟩ := ih shortRest .nil laterRelates laterHere
        (Bearing.language_throughNumber t) laterHomed laterTurns
      rw [fresh] at spared related
      have lengths : (t.map fun _ => Fate.number).length =
          (t.map ((b.after roster held).place roster)).length := by
        rw [List.length_map, List.length_map]
      simp only [apart, places_run waiting b' written, after_run b' written, front]
      exact ⟨forall₂_zip_append lengths (spared_number _ _ t) spared, related, kept⟩

end Anchored

/-! ## Compiling with numbers in a language of their own -/

section Compiling

variable [DecidableEq H] {course : Course} {b b' : Bearing H} {held : Speech}

theorem pieces_ne_nil (t : Text) : pieces t ≠ [] := by
  intro none
  have joined := flatMap_text_pieces t
  rw [none] at joined
  obtain rfl : [] = t := joined
  cases none

/-- The fates in a speech that begins with a text, where cues wait for it. -/
theorem fates_text (roster : Roster H) (waiting : Waiting held) (language : String)
    (course : Course) (b : Bearing H) (t : Text) (rest : Speech) :
    let number := Course.behindNumber roster language b.toCursor
    fates roster language course b.toCursor (held ++ .text t :: rest) =
      pieceFates number (course.after held) (pieces t) ++
        fates roster language ((course.after held).afterPieces number (pieces t))
          ((b.after roster held).next roster (.text t)).toCursor rest := by
  intro number
  obtain ⟨voice, inForce⟩ := waiting.cursor_after roster b.toCursor
  have heldNumber : Course.behindNumber roster language (b.toCursor.after roster held) = number :=
    Course.behindNumber_congr voice inForce language
  rw [Bearing.toCursor_next, Bearing.toCursor_after, ← heldNumber]
  exact fates_append waiting language course b.toCursor (.text t :: rest)

/-- A cue that is neither a text nor a language change joins those that wait. -/
theorem anchorAfter_waits {cue : Cue} (silent : ∀ t, cue ≠ .text t)
    (still : ∀ code, cue ≠ .language code) (held speech : Speech) :
    anchorAfter held (cue :: speech) = anchorAfter (held ++ [cue]) speech := by
  cases cue with
  | text t => exact absurd rfl (silent t)
  | language code => exact absurd rfl (still code)
  | _ => rfl

theorem bracketFrom_of_other {cue : Cue} (silent : ∀ t, cue ≠ .text t)
    (still : ∀ code, cue ≠ .language code) (speaker : Speaker) (active current : String)
    (speech : Speech) : speaker.bracketFrom active current (cue :: speech) =
      cue :: speaker.bracketFrom active current speech := by
  cases cue with
  | text t => exact absurd rfl (silent t)
  | language code => exact absurd rfl (still code)
  | _ => rfl

/-- **Numbers spoken apart spare the rest of a speech.** Halfway through it, where the cues in
`held` wait for a text, what follows is said where it would be said otherwise, but for what becomes
of it. -/
theorem spared_bracketFrom {speaker : Speaker} (value : speaker.reading = .asValue)
    {speech : Speech} (short : speech.ShortRuns) (waiting : Waiting held)
    (relates : course.Relates roster b b') (there : b'.language = b.language)
    (homed : b.Homed roster) :
    let plain := anchorAfter held speech
    let apart := anchorAfter held
      (speaker.bracketFrom roster.defaultLanguage b.language speech)
    (fates roster speaker.language course b.toCursor plain).length =
        (b.places roster plain).length ∧
      List.Forall₂ (Spared roster)
        ((fates roster speaker.language course b.toCursor plain).zip (b.places roster plain))
        (b'.places roster apart) := by
  induction speech generalizing held course b b' with
  | nil =>
    intro plain apart
    have before : b.places roster plain = [] := waiting.places_eq_nil b
    have after : b'.places roster apart = [] := waiting.places_eq_nil b'
    have none : fates roster speaker.language course b.toCursor plain = [] := by
      have fateless : fates roster speaker.language course b.toCursor (held ++ []) = [] :=
        fates_append waiting speaker.language course b.toCursor []
      rwa [List.append_nil] at fateless
    rw [before, after, none]
    exact ⟨rfl, .nil⟩
  | cons cue rest ih =>
    intro plain apart
    have shortRest : ShortRuns rest :=
      fun other member => short other (List.mem_cons_of_mem cue member)
    rcases cue.text_or_silent with ⟨t, rfl⟩ | silent
    · -- the text is said in pieces, and then the rest of the speech
      let behind := (b.after roster held).next roster (.text t)
      let bracketed := speaker.bracketFrom roster.defaultLanguage b.language rest
      have shortHere : ∀ piece ∈ pieces t, piece.isShort = true :=
        short (.text t) List.mem_cons_self
      obtain ⟨spared, related, language⟩ :=
        spared_anchoredPieces value shortHere waiting relates rfl there homed rfl
      have voice : behind.voice = b.voice :=
        (Bearing.still_next_text _ t).1.trans (waiting.bearing_after roster b).1
      have inForce : behind.language = b.language :=
        (Bearing.still_next_text _ t).2.trans (waiting.bearing_after roster b).2
      obtain ⟨lengths, later⟩ := ih shortRest .nil (related.text_left t)
        (language.trans inForce.symm) (homed.congr voice inForce)
      rw [inForce] at later
      have whole : (pieces t).flatMap Piece.text = t := flatMap_text_pieces t
      rw [whole] at spared
      have front : (pieceFates (Course.behindNumber roster speaker.language b.toCursor)
          (course.after held) (pieces t)).length =
            (t.map ((b.after roster held).place roster)).length := by
        rw [length_pieceFates, whole, List.length_map]
      have anchored : plain = held ++ .text t :: anchorAfter [] rest := rfl
      have places : b.places roster (held ++ .text t :: anchorAfter [] rest) =
          t.map ((b.after roster held).place roster) ++
            behind.places roster (anchorAfter [] rest) :=
        waiting.places_append b (.text t :: anchorAfter [] rest)
      have parts : apart = anchoredPieces speaker b.language held (pieces t) ++
          anchorAfter [] bracketed :=
        anchorAfter_cues (Or.inl (pieces_ne_nil t)) bracketed
      rw [anchored, places, fates_text roster waiting, parts, Bearing.places_append]
      refine ⟨?_, forall₂_zip_append front spared later⟩
      rw [List.length_append, List.length_append, front, lengths]
    · rcases cue.language_or_still with ⟨code, rfl⟩ | still
      · have language (d : Bearing H) :
            (d.next roster (.language code)).language = code.getD roster.defaultLanguage := by
          rw [Bearing.toCursor_next]
          exact Cursor.language_next _ _
        have laterHomed : (b.next roster (.language code)).Homed roster := by
          rw [Bearing.toCursor_next]
          exact homed.language code
        have later := ih shortRest waiting (relates.language there code)
          ((language b').trans (language b).symm) laterHomed
        rw [language b, Bearing.toCursor_next] at later
        exact later
      · simp only [plain, apart, bracketFrom_of_other silent still,
          anchorAfter_waits silent still]
        exact ih shortRest (waiting.snoc silent still) relates there homed

theorem normalize_off (speech : Speech) : speech.normalize .off = speech := by
  induction speech with
  | nil => rfl
  | cons cue rest ih =>
    cases cue with
    | text t => exact congrArg (Cue.text t :: ·) ih
    | _ => exact congrArg (_ :: ·) ih

/-- **Numbers in a language of their own spare the rest of a speech.** All calls can be read, with
numbers spoken apart and without, and say what their bearings say, spaces left aside; and what they
say of the texts is said at the places of their characters, but that a chunk voice gets its texts
trimmed and may get them in lower case. A character outside numbers is said by the same voice in
both cases, spelled or not, and in the same volume and rate, unless these were asked for before
another voice spoke a number, and are gone. The voice is another one only if the speech went astray
at a number. -/
theorem spared_numbers (roster : Roster H) (spelling : DigitSpelling) (point : Text)
    (numbers : Option String) {speech : Speech} (short : speech.ShortRuns) :
    let settings := { Settings.default with numberLanguage := numbers, pointText := point }
    let plain := anchor speech
    let apart := speech.prepared settings spelling roster.defaultLanguage
    let start := Bearing.start roster
    let becomes := fates roster (numbers.getD roster.defaultLanguage) (.kept .nothing)
      start.toCursor plain
    Uttered roster (deliver roster plain) (start.trace roster plain) ∧
      Uttered roster (compileCalls settings roster spelling speech) (start.trace roster apart) ∧
      becomes.length = (start.places roster plain).length ∧
      List.Forall₂ (Spared roster) (becomes.zip (start.places roster plain))
        (start.places roster apart) ∧
      Placed roster false plain (start.places roster plain) (start.trace roster plain) ∧
      Placed roster false apart (start.places roster apart) (start.trace roster apart) := by
  intro settings plain apart start becomes
  let speaker := settings.numberSpeaker spelling roster.defaultLanguage
  have prepared : apart = anchor (speaker.bracket roster.defaultLanguage speech) := by
    have passes : apart = anchor ((speaker.bracket roster.defaultLanguage speech).normalize .off) :=
      rfl
    rw [passes, normalize_off]
  have value : speaker.reading = .asValue := rfl
  obtain ⟨lengths, spared⟩ := spared_bracketFrom value short .nil (.start start) rfl
    (.start roster)
  refine ⟨uttered_deliver roster plain, uttered_deliver roster apart, lengths, ?_,
    start.placed plain, start.placed apart⟩
  rw [prepared]
  exact spared

end Compiling

/-- A markup voice for English and a plain voice for Chinese, where the code of English is known to
the roster or not. -/
def duet (english : Option Bool) : Roster Bool where
  voice chinese :=
    if chinese then
      { name := "mei", engine := .plain, language := "zh", pitch := 50, rate := 50, volume := 50 }
    else
      { name := "anna", engine := .markup, language := "en", pitch := 50, rate := 50, volume := 50 }
  default := false
  defaultLanguage := "en"
  voiceFor code := if code = "en" then english else if code = "zh" then some true else none

/-- A volume is lost behind a number that another voice speaks, and nothing else. -/
theorem spared_numbers_duet :
    let roster := duet none
    let speech : Speech := [.volume (.absolute 75), .text "a 5 b".toList]
    let settings :=
      { Settings.default with numberLanguage := some "zh", pointText := ['.'] }
    let plain := anchor speech
    let apart := speech.prepared settings (fun _ _ => none) "en"
    let start := Bearing.start roster
    let becomes := fates roster "zh" (.kept .nothing) start.toCursor plain
    speech.ShortRuns ∧
      becomes = [.outside (.kept .nothing), .outside (.kept .nothing), .number,
        .outside (.kept .both), .outside (.kept .both)] ∧
      List.Forall₂ (Spared roster) (becomes.zip (start.places roster plain))
        (start.places roster apart) := by
  intro roster speech settings plain apart start becomes
  have short : speech.ShortRuns := by decide +kernel
  have spared := spared_numbers roster (fun _ _ => none) ['.'] (some "zh") short
  exact ⟨short, by decide +kernel, spared.2.2.2.1⟩

/-- Speech around a number is disturbed: behind a number that another voice speaks, the volume is
gone, and if the code of the default language leads to another voice than the default one, that
voice goes on. -/
theorem disturbed_numbers :
    let numbers (language : String) : Settings :=
      { Settings.default with numberLanguage := some language }
    let loud : Speech := [.volume (.absolute 75), .text "a 5 b".toList]
    let calm : Speech := [.text "a 5 b".toList]
    deliver (duet none) (anchor loud) =
        [⟨false, .speak "<volume level=\"75\">a 5 b</volume>".toList⟩] ∧
      compileCalls (numbers "zh") (duet none) (fun _ _ => none) loud =
        [⟨false, .speak "<volume level=\"75\">a </volume>".toList⟩,
          ⟨true, .speak "5".toList⟩,
          ⟨false, .speak "<pitch absmiddle=\"0\"> b</pitch>".toList⟩] ∧
      deliver (duet (some true)) (anchor calm) = [⟨false, .speak "a 5 b".toList⟩] ∧
      compileCalls (numbers "de") (duet (some true)) (fun _ _ => none) calm =
        [⟨false, .speak "a 5".toList⟩, ⟨true, .speak " b".toList⟩] := by
  decide +kernel

end Polyvoice.Delivery
