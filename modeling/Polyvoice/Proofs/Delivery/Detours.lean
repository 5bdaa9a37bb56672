import Polyvoice.Proofs.Delivery.Homing

/-!
# Deliveries with detours

Two deliveries of one speech, one of which leaves the language in force for numbers. In between
numbers, the same voice is active in both as a rule. It may have lost settings, as a voice that
takes over has none (`Lost`). Only where the code of the default language leads to another voice
than the default one, a number can have the delivery go on with that voice; it is astray until a
language change asks for a third one (`Course`).

The relation between both deliveries (`Course.Relates`) is kept by every cue, and by a number
(`Course.Relates.throughNumber`).
-/

namespace Polyvoice.Delivery

open Speech

variable {H : Type} {roster : Roster H}

/-! ## Courses -/

/-- Settings of a markup voice that are gone, as another voice spoke a number since. -/
structure Lost where
  volume : Bool
  rate : Bool
deriving DecidableEq

namespace Lost

def nothing : Lost where
  volume := false
  rate := false

def both : Lost where
  volume := true
  rate := true

/-- A setting that is asked for is not lost any more. -/
def behind (lost : Lost) : Cue → Lost
  | .volume _ => { lost with volume := false }
  | .rate _ => { lost with rate := false }
  | _ => lost

/-- What is lost behind cues without a text. -/
def after (lost : Lost) (cues : Speech) : Lost :=
  cues.foldl behind lost

/-- A manner, less the settings that are lost and the pitch. -/
def bare (lost : Lost) (manner : Markup.Manner) : Markup.Manner :=
  { manner with
    pitch := 0
    volume := if lost.volume then none else manner.volume
    rate := if lost.rate then none else manner.rate }

end Lost

/-- A place, less the settings that are lost and the pitch. -/
def Place.bare (lost : Lost) (place : Place H) : Place H :=
  { place with manner := place.manner.map lost.bare }

/-- The voice that the code of the default language leads to. -/
def codedVoice (roster : Roster H) : H :=
  (roster.voiceFor roster.defaultLanguage).getD roster.default

/-- How a delivery with detours stands to the one without. -/
inductive Course where
  /-- The same voice is active, and some of its settings are lost. -/
  | kept (lost : Lost)
  /-- The voice is active that the code of the default language leads to. -/
  | astray
deriving DecidableEq

namespace Course

/-- Where a character is said on a course, compared to where it is said otherwise: as long as the
voice is the same, nothing is different but lost settings and the pitch. -/
def Spares (roster : Roster H) (before after : Place H) : Course → Prop
  | kept lost => after.bare .nothing = before.bare lost
  | astray => after.voice = codedVoice roster ∧ after.character = before.character

/-- The course behind cues that wait for a text. -/
def after : Course → Speech → Course
  | kept lost, held => kept (lost.after held)
  | astray, _ => astray

variable [DecidableEq H]

/-- The course behind a cue that is no text, where `c` is the cursor of the delivery without
detours. A delivery that is astray is back with a language change that asks for another voice. -/
def behind (roster : Roster H) (c : Cursor H) : Course → Cue → Course
  | kept lost, cue => kept (lost.behind cue)
  | astray, .language code =>
    if code ≠ some c.language ∧ (State.target roster code).1 ≠ codedVoice roster then kept .both
    else astray
  | astray, _ => astray

/-- The course behind a number. -/
def behindNumber (roster : Roster H) (language : String) (c : Cursor H) : Course → Course
  | kept lost =>
    if c.strays roster language then astray
    else if c.isAway roster language then kept .both
    else kept lost
  | astray => astray

/-- What becomes of a course at a number depends on voice and language only. -/
theorem behindNumber_congr {c c' : Cursor H} (voice : c'.voice = c.voice)
    (language : c'.language = c.language) (other : String) :
    behindNumber roster other c' = behindNumber roster other c := by
  funext course
  cases course with
  | kept lost =>
    rw [behindNumber, behindNumber, Cursor.strays_congr voice language,
      Cursor.isAway_congr voice language]
  | astray => rfl

end Course

/-! ## Two deliveries side by side -/

/-- How a delivery with numbers spoken apart compares to one without, in between numbers. -/
structure Matches (roster : Roster H) (lost : Lost) (b b' : Bearing H) : Prop where
  voice : b'.voice = b.voice
  spelling : b'.spelling = b.spelling
  volume : roster.engine b.voice = .markup →
    b'.volume = if lost.volume then none else b.volume
  rate : roster.engine b.voice = .markup → b'.rate = if lost.rate then none else b.rate

namespace Matches

variable {lost : Lost} {b b' : Bearing H}

theorem refl (b : Bearing H) : Matches roster .nothing b b where
  voice := rfl
  spelling := rfl
  volume _ := rfl
  rate _ := rfl

/-- A voice that has just taken over has lost all there is to lose. -/
theorem of_fresh {c : Cursor H} (voice : c.voice = b.voice) (spelling : c.spelling = b.spelling) :
    Matches roster .both b (.fresh roster c) where
  voice := voice
  spelling := spelling
  volume _ := rfl
  rate _ := rfl

/-- A character is said in the same place, but for what is lost. -/
theorem spares (same : Matches roster lost b b') (c : Char) :
    (Course.kept lost).Spares roster (b.place roster c) (b'.place roster c) := by
  obtain ⟨voice, spelling, volume, rate⟩ := same
  by_cases markup : roster.engine b.voice = .markup
  · have volume := volume markup
    have rate := rate markup
    simp [Course.Spares, Place.bare, Lost.bare, Lost.nothing, Bearing.place, Bearing.manner, voice,
      spelling, volume, rate, markup]
  · simp [Course.Spares, Place.bare, Bearing.place, voice, markup]

variable [DecidableEq H]

/-- A text changes nothing that matters here. -/
theorem text (b : Bearing H) (t : Text) : Matches roster .nothing b (b.next roster (.text t)) := by
  obtain ⟨volume, rate⟩ : (b.next roster (.text t)).volume = b.volume ∧
      (b.next roster (.text t)).rate = b.rate := Bearing.settings_next_text b t
  constructor
  case voice => exact (Bearing.still_next_text b t).1
  case spelling => rw [Bearing.toCursor_next]; rfl
  case volume => exact fun _ => volume
  case rate => exact fun _ => rate

/-- The delivery with numbers spoken apart may go on with a text. -/
theorem text_right (same : Matches roster lost b b') (t : Text) :
    Matches roster lost b (b'.next roster (.text t)) := by
  obtain ⟨voice, spelling, volume, rate⟩ : Matches roster .nothing b' (b'.next roster (.text t)) :=
    text b' t
  have there (markup : roster.engine b.voice = .markup) : roster.engine b'.voice = .markup := by
    rw [same.voice]
    exact markup
  exact
    { voice := voice.trans same.voice
      spelling := spelling.trans same.spelling
      volume := fun markup => (volume (there markup)).trans (same.volume markup)
      rate := fun markup => (rate (there markup)).trans (same.rate markup) }

/-- And so may the other one. -/
theorem text_left (same : Matches roster lost b b') (t : Text) :
    Matches roster lost (b.next roster (.text t)) b' := by
  obtain ⟨voice, spelling, volume, rate⟩ : Matches roster .nothing b (b.next roster (.text t)) :=
    text b t
  have here (markup : roster.engine (b.next roster (.text t)).voice = .markup) :
      roster.engine b.voice = .markup := by
    rw [← voice]
    exact markup
  refine
    { voice := same.voice.trans voice.symm
      spelling := same.spelling.trans spelling.symm
      volume := fun markup => ?_
      rate := fun markup => ?_ }
  · rw [same.volume (here markup), volume (here markup)]
    rfl
  · rw [same.rate (here markup), rate (here markup)]
    rfl

/-- A cue that waits for a text keeps the deliveries side by side. -/
theorem next (same : Matches roster lost b b') {cue : Cue} (silent : ∀ t, cue ≠ .text t)
    (still : ∀ code, cue ≠ .language code) :
    Matches roster (lost.behind cue) (b.next roster cue) (b'.next roster cue) := by
  have spelling : (b'.toCursor.next roster cue).spelling = (b.toCursor.next roster cue).spelling :=
    Cursor.spelling_next same.spelling cue
  have here : (b.toCursor.next roster cue).voice = b.voice :=
    (b.toCursor.next_of_still still).1
  have there : (b'.toCursor.next roster cue).voice = b'.voice :=
    (b'.toCursor.next_of_still still).1
  have voice : (b'.toCursor.next roster cue).voice = (b.toCursor.next roster cue).voice := by
    rw [here, there, same.voice]
  by_cases markup : roster.engine b.voice = .markup
  · have engine : (roster.voice b.voice).engine = .markup := markup
    have engine' : (roster.voice b'.voice).engine = .markup := by rw [same.voice]; exact markup
    have volume := same.volume markup
    have rate := same.rate markup
    cases cue with
    | text t => exact absurd rfl (silent t)
    | language code => exact absurd rfl (still code)
    | volume setting =>
      simp only [Bearing.next, engine, engine']
      refine ⟨voice, spelling, fun _ => ?_, fun _ => rate⟩
      rw [same.voice]
      rfl
    | rate setting =>
      simp only [Bearing.next, engine, engine']
      refine ⟨voice, spelling, fun _ => volume, fun _ => ?_⟩
      rw [same.voice]
      rfl
    | _ =>
      simp only [Bearing.next, engine, engine']
      exact ⟨voice, spelling, fun _ => volume, fun _ => rate⟩
  · have other : roster.engine b'.voice ≠ .markup := by rw [same.voice]; exact markup
    rw [Bearing.next_of_other markup cue still, Bearing.next_of_other other cue still]
    refine ⟨voice, spelling, fun is => ?_, fun is => ?_⟩
    · exact absurd (here ▸ is) markup
    · exact absurd (here ▸ is) markup

/-- A language change keeps them side by side if the same language is in force in both. -/
theorem language (same : Matches roster lost b b') (language : b'.language = b.language)
    (code : Option String) :
    Matches roster lost (b.next roster (.language code)) (b'.next roster (.language code)) := by
  have alike : Cursor.Alike b.toCursor b'.toCursor := ⟨same.voice, language, same.spelling⟩
  obtain ⟨voice, -, spelling⟩ : Cursor.Alike (b.toCursor.next roster (.language code))
      (b'.toCursor.next roster (.language code)) := alike.next (.language code)
  by_cases stays : (b.toCursor.next roster (.language code)).voice = b.voice
  · have stays' : (b'.toCursor.next roster (.language code)).voice = b'.voice := by
      rw [voice, stays, same.voice]
    rw [Bearing.next_of_stays stays, Bearing.next_of_stays stays']
    refine ⟨voice, spelling, fun markup => ?_, fun markup => ?_⟩
    · exact same.volume (stays ▸ markup)
    · exact same.rate (stays ▸ markup)
  · have leaves : (b'.toCursor.next roster (.language code)).voice ≠ b'.voice := by
      rw [voice, same.voice]
      exact stays
    rw [Bearing.next_of_leaves stays, Bearing.next_of_leaves leaves]
    refine ⟨voice, spelling, fun _ => ?_, fun _ => ?_⟩
    · exact (ite_self none).symm
    · exact (ite_self none).symm

/-- Cues that wait for a text keep them side by side. -/
theorem after_waiting (same : Matches roster lost b b') {held : Speech} (waiting : Waiting held) :
    Matches roster (lost.after held) (b.after roster held) (b'.after roster held) := by
  induction held generalizing lost b b' with
  | nil => exact same
  | cons cue rest ih =>
    obtain ⟨silent, still⟩ := waiting cue List.mem_cons_self
    exact ih (same.next silent still) fun other member =>
      waiting other (List.mem_cons_of_mem cue member)

/-- A language change that keeps the voice may come in. -/
theorem language_right (same : Matches roster lost b b') {code : Option String}
    (stays : (b'.toCursor.next roster (.language code)).voice = b'.voice) :
    Matches roster lost b (b'.next roster (.language code)) := by
  have spelling : (b'.toCursor.next roster (.language code)).spelling = b'.spelling :=
    Cursor.spelling_next_language _ _
  rw [Bearing.next_of_stays stays]
  exact
    { voice := stays.trans same.voice
      spelling := spelling.trans same.spelling
      volume := same.volume
      rate := same.rate }

/-- **A number is a detour.** Behind it, the voice is back, and its settings are lost if another
voice spoke the number. -/
theorem throughNumber (same : Matches roster lost b b') (inForce : b'.language = b.language)
    {language : String} (keeps : b.strays roster language = false) {held : Speech}
    (waiting : Waiting held) (t : Text) :
    Matches roster (if b.isAway roster language then .both else lost.after held)
      (b.after roster held) (b'.throughNumber roster language b.language held t) := by
  let turned := b'.toCursor.next roster (.language (some language))
  let spoken := ((b'.next roster (.language (some language))).after roster held).next roster
    (.text t)
  have alike : Cursor.Alike b.toCursor b'.toCursor := ⟨same.voice, inForce, same.spelling⟩
  have turnedVoice : turned.voice = (b.toCursor.turned roster (some language)).voice :=
    (alike.next (.language (some language))).voice
  obtain ⟨spokenVoice, spokenLanguage⟩ : spoken.voice = turned.voice ∧
      spoken.language = language := Bearing.in_number roster waiting b' language t
  have ownVoice : (b.after roster held).voice = b.voice := (waiting.bearing_after roster b).1
  have back (other : language ≠ b.language) :
      (State.target roster (some b.language)).1 = b.voice := by
    simpa [Cursor.strays, other] using keeps
  cases away : b.isAway roster language with
  | false =>
    have stays : turned.voice = b'.voice := by
      have here : (b.toCursor.turned roster (some language)).voice = b.voice := by
        simpa [Cursor.isAway] using away
      rw [turnedVoice, here, same.voice]
    -- behind the number, the language in force asks for the voice that is active
    have backHome : (spoken.toCursor.next roster (.language (some b.language))).voice =
        spoken.voice := by
      by_cases current : some b.language = some spoken.language
      · simp only [Cursor.next, Cursor.turned, if_pos current]
      · have other : language ≠ b.language := by
          rintro rfl
          exact current (congrArg some spokenLanguage.symm)
        rw [Cursor.voice_next current, back other, spokenVoice, stays, same.voice]
    exact (((same.language_right stays).after_waiting waiting).text_right t).language_right
      backHome
  | true =>
    have leaves : (b.toCursor.turned roster (some language)).voice ≠ b.voice := by
      simpa [Cursor.isAway] using away
    have other : language ≠ b.language := by
      rintro rfl
      exact leaves (by simp [Cursor.turned])
    have backHome : (spoken.toCursor.next roster (.language (some b.language))).voice =
        b.voice := by
      have voice : (b'.throughNumber roster language b.language held t).voice =
          (State.target roster (some b.language)).1 := Bearing.voice_throughNumber waiting other t
      rw [Bearing.throughNumber, Bearing.toCursor_next, back other] at voice
      exact voice
    have turns : (spoken.toCursor.next roster (.language (some b.language))).voice ≠
        spoken.voice := by
      rw [backHome, spokenVoice, turnedVoice]
      exact leaves.symm
    have spelling : (spoken.toCursor.next roster (.language (some b.language))).spelling =
        (b.after roster held).spelling := by
      have through : (b'.throughNumber roster language b.language held t).spelling =
          (b.toCursor.after roster held).spelling := Bearing.spelling_throughNumber same.spelling t
      rw [Bearing.throughNumber, Bearing.toCursor_next] at through
      rw [Bearing.toCursor_after]
      exact through
    rw [Bearing.throughNumber, Bearing.next_of_leaves turns]
    exact of_fresh (backHome.trans ownVoice.symm) spelling

end Matches

/-- How a delivery that is astray stands to the other one. -/
structure Astray (roster : Roster H) (b b' : Bearing H) : Prop where
  voice : b'.voice = codedVoice roster
  /-- The language in force leads to the voice that is active. -/
  leads : (State.target roster (some b.language)).1 = codedVoice roster
  spelling : b'.spelling = b.spelling
  other : codedVoice roster ≠ roster.default

namespace Astray

variable {b b' : Bearing H}

theorem spares (astray : Astray roster b b') (c : Char) :
    Course.astray.Spares roster (b.place roster c) (b'.place roster c) :=
  ⟨astray.voice, rfl⟩

variable [DecidableEq H]

theorem text_left (astray : Astray roster b b') (t : Text) :
    Astray roster (b.next roster (.text t)) b' := by
  constructor
  case voice => exact astray.voice
  case leads =>
    rw [(Bearing.still_next_text b t).2]
    exact astray.leads
  case spelling =>
    rw [Bearing.toCursor_next]
    exact astray.spelling
  case other => exact astray.other

theorem text_right (astray : Astray roster b b') (t : Text) :
    Astray roster b (b'.next roster (.text t)) := by
  constructor
  case voice => exact (Bearing.still_next_text b' t).1.trans astray.voice
  case leads => exact astray.leads
  case spelling =>
    rw [Bearing.toCursor_next]
    exact astray.spelling
  case other => exact astray.other

theorem after_waiting (astray : Astray roster b b') {held : Speech} (waiting : Waiting held) :
    Astray roster (b.after roster held) (b'.after roster held) := by
  constructor
  case voice => exact (waiting.bearing_after roster b').1.trans astray.voice
  case leads =>
    rw [(waiting.bearing_after roster b).2]
    exact astray.leads
  case spelling =>
    rw [Bearing.toCursor_after, Bearing.toCursor_after]
    exact Cursor.spelling_after astray.spelling held
  case other => exact astray.other

/-- A change to another language that asks for another voice brings the delivery back. -/
theorem language_back (astray : Astray roster b b') (inForce : b'.language = b.language)
    {code : Option String} (other : code ≠ some b.language)
    (leads : (State.target roster code).1 ≠ codedVoice roster) :
    Matches roster .both (b.next roster (.language code)) (b'.next roster (.language code)) := by
  have here : (b.toCursor.next roster (.language code)).voice = (State.target roster code).1 :=
    Cursor.voice_next other
  have there : (b'.toCursor.next roster (.language code)).voice =
      (State.target roster code).1 := by
    refine Cursor.voice_next ?_
    rw [inForce]
    exact other
  have leaves : (b'.toCursor.next roster (.language code)).voice ≠ b'.voice := by
    rw [there, astray.voice]
    exact leads
  rw [Bearing.next_of_leaves leaves]
  refine Matches.of_fresh ?_ ?_
  · rw [Bearing.toCursor_next, here, there]
  · rw [Bearing.toCursor_next]
    exact Cursor.spelling_next astray.spelling (.language code)

/-- Any other language change lets the same voice go on. -/
theorem language (astray : Astray roster b b') (inForce : b'.language = b.language)
    {code : Option String}
    (stays : code ≠ some b.language → ¬(State.target roster code).1 ≠ codedVoice roster) :
    Astray roster (b.next roster (.language code)) (b'.next roster (.language code)) := by
  obtain ⟨voice, leads, spelling, other⟩ := astray
  have spelled : (b'.toCursor.next roster (.language code)).spelling =
      (b.toCursor.next roster (.language code)).spelling :=
    Cursor.spelling_next spelling (.language code)
  by_cases same : code = some b.language
  · -- the language is in force already, and nothing happens
    have here : b.toCursor.next roster (.language code) = b.toCursor := if_pos same
    have there : b'.toCursor.next roster (.language code) = b'.toCursor := by
      refine if_pos ?_
      rw [inForce]
      exact same
    constructor
    case voice => rw [Bearing.toCursor_next, there]; exact voice
    case leads => rw [Bearing.toCursor_next, here]; exact leads
    case spelling => rw [Bearing.toCursor_next, Bearing.toCursor_next]; exact spelled
    case other => exact other
  · have asks : (State.target roster code).1 = codedVoice roster := not_not.1 (stays same)
    have there : (b'.toCursor.next roster (.language code)).voice =
        (State.target roster code).1 := by
      refine Cursor.voice_next ?_
      rw [inForce]
      exact same
    have language : (b.toCursor.next roster (.language code)).language =
        code.getD roster.defaultLanguage := Cursor.language_next _ _
    constructor
    case voice => rw [Bearing.toCursor_next, there, asks]
    case leads =>
      rw [Bearing.toCursor_next, language]
      cases code with
      | none => exact absurd asks.symm other
      | some code => exact asks
    case spelling => rw [Bearing.toCursor_next, Bearing.toCursor_next]; exact spelled
    case other => exact other

/-- A number is spoken, and the same voice goes on. -/
theorem throughNumber (astray : Astray roster b b') (inForce : b'.language = b.language)
    (language : String) {held : Speech} (waiting : Waiting held) (t : Text) :
    Astray roster (b.after roster held) (b'.throughNumber roster language b.language held t) := by
  constructor
  case voice =>
    by_cases current : language = b.language
    · subst current
      exact (Bearing.voice_throughNumber_self waiting inForce t).trans astray.voice
    · exact (Bearing.voice_throughNumber waiting current t).trans astray.leads
  case leads =>
    rw [(waiting.bearing_after roster b).2]
    exact astray.leads
  case spelling =>
    rw [Bearing.toCursor_after]
    exact Bearing.spelling_throughNumber astray.spelling t
  case other => exact astray.other

end Astray

/-- How two deliveries compare on a course. -/
def Course.Relates (roster : Roster H) (b b' : Bearing H) : Course → Prop
  | .kept lost => Matches roster lost b b'
  | .astray => Astray roster b b'

namespace Course.Relates

variable {course : Course} {b b' : Bearing H}

theorem start (b : Bearing H) : (Course.kept .nothing).Relates roster b b :=
  Matches.refl b

theorem spares (relates : course.Relates roster b b') (c : Char) :
    course.Spares roster (b.place roster c) (b'.place roster c) := by
  cases course with
  | kept lost => exact Matches.spares relates c
  | astray => exact Astray.spares relates c

variable [DecidableEq H]

theorem text_left (relates : course.Relates roster b b') (t : Text) :
    course.Relates roster (b.next roster (.text t)) b' := by
  cases course with
  | kept lost => exact Matches.text_left relates t
  | astray => exact Astray.text_left relates t

theorem text_right (relates : course.Relates roster b b') (t : Text) :
    course.Relates roster b (b'.next roster (.text t)) := by
  cases course with
  | kept lost => exact Matches.text_right relates t
  | astray => exact Astray.text_right relates t

theorem after_waiting (relates : course.Relates roster b b') {held : Speech}
    (waiting : Waiting held) :
    (course.after held).Relates roster (b.after roster held) (b'.after roster held) := by
  cases course with
  | kept lost => exact Matches.after_waiting relates waiting
  | astray => exact Astray.after_waiting relates waiting

/-- A language change that asks for another voice brings a delivery back that was astray. -/
theorem language (relates : course.Relates roster b b') (inForce : b'.language = b.language)
    (code : Option String) :
    (course.behind roster b.toCursor (.language code)).Relates roster
      (b.next roster (.language code)) (b'.next roster (.language code)) := by
  cases course with
  | kept lost => exact Matches.language relates inForce code
  | astray =>
    simp only [Course.behind]
    split
    · rename_i asks
      exact Astray.language_back relates inForce asks.1 asks.2
    · rename_i stays
      exact Astray.language relates inForce fun other leads => stays ⟨other, leads⟩

/-- **A number keeps two deliveries in relation**, whichever voice speaks it. -/
theorem throughNumber (relates : course.Relates roster b b') (inForce : b'.language = b.language)
    (homed : b.Homed roster) (language : String) {held : Speech} (waiting : Waiting held)
    (t : Text) :
    ((course.after held).behindNumber roster language b.toCursor).Relates roster
      (b.after roster held) (b'.throughNumber roster language b.language held t) := by
  cases course with
  | astray => exact Astray.throughNumber relates inForce language waiting t
  | kept lost =>
    simp only [Course.after, Course.behindNumber]
    cases strays : b.strays roster language with
    | true =>
      obtain ⟨other, first, default, leads⟩ := homed.of_strays strays
      have coded : (State.target roster (some b.language)).1 = codedVoice roster := by
        rw [first]
        rfl
      constructor
      case voice => exact (Bearing.voice_throughNumber waiting other t).trans coded
      case leads =>
        rw [(waiting.bearing_after roster b).2]
        exact coded
      case spelling =>
        rw [Bearing.toCursor_after]
        exact Bearing.spelling_throughNumber (Matches.spelling relates) t
      case other =>
        rw [← coded, ← default]
        exact leads
    | false =>
      have detour := Matches.throughNumber relates inForce strays waiting t
      rw [if_neg Bool.false_ne_true]
      split
      · rename_i away
        rwa [if_pos away] at detour
      · rename_i near
        rwa [if_neg near] at detour

end Course.Relates

end Polyvoice.Delivery
