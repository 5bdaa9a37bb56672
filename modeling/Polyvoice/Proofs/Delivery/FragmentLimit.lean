import Polyvoice.Proofs.Delivery.Places
import Polyvoice.Proofs.Speech.Pieces

/-!
# What a limit on fragments changes

A speech is compiled with a limit on fragments and without one. The cuts that the limit puts in take
no text to another voice, and they change neither volume nor rate nor spelling. They do change the
pitch: elements are closed at a cut, and where they are opened anew, the voice has its own pitch.
So a character behind such a cut has the pitch of the last pitch cue only if that cue stands behind
the cut as well (`cutMarks`, `places_limited`).

The two deliveries are compared cue by cue. As long as no cut was put in since the last pitch cue,
their bearings agree; from such a cut on, one of them has the voice's own pitch (`Follows`).
-/

namespace Polyvoice.Delivery

open Speech

variable {H : Type} {roster : Roster H}

/-! ## Characters behind a cut -/

/-- Marks for the characters of texts that are cut apart: those of the first text have the mark
`behind`, the others are behind a cut. -/
def fragmentMarks (behind : Bool) : List Text → List Bool
  | [] => []
  | t :: rest => List.replicate t.length behind ++ fragmentMarks true rest

/-- For each character of a speech whose texts come in pieces, whether the texts were cut between
the last pitch cue and the character. -/
def cutMarks (pieces : Text → List Text) (behind : Bool) : Speech → List Bool
  | [] => []
  | .text t :: rest =>
    fragmentMarks behind (pieces t) ++ cutMarks pieces (behind || 1 < (pieces t).length) rest
  | .pitch _ :: rest => cutMarks pieces false rest
  | _ :: rest => cutMarks pieces behind rest

theorem length_fragmentMarks (behind : Bool) (ts : List Text) :
    (fragmentMarks behind ts).length = ts.flatten.length := by
  induction ts generalizing behind with
  | nil => rfl
  | cons t rest ih =>
    rw [fragmentMarks, List.length_append, List.length_replicate, ih, List.flatten_cons,
      List.length_append]

/-- Language changes matter to no mark. -/
theorem cutMarks_filter (pieces : Text → List Text) (behind : Bool) (speech : Speech) :
    cutMarks pieces behind (speech.filter fun cue => !cue.isLanguage) =
      cutMarks pieces behind speech := by
  induction speech generalizing behind with
  | nil => rfl
  | cons cue rest ih =>
    cases cue with
    | text t => exact congrArg (fragmentMarks behind (pieces t) ++ ·) (ih _)
    | pitch setting => exact ih false
    | _ => exact ih behind

theorem cutMarks_anchor (pieces : Text → List Text) (behind : Bool) (speech : Speech) :
    cutMarks pieces behind (anchor speech) = cutMarks pieces behind speech := by
  have kept : (anchor speech).filter (fun cue => !cue.isLanguage) =
      speech.filter fun cue => !cue.isLanguage :=
    filter_anchorAfter (fun cue => !cue.isLanguage) (fun _ => rfl) [] speech
  rw [← cutMarks_filter, kept, cutMarks_filter]

namespace Place

/-- The place of a character behind a cut: a markup voice says it with its own pitch. -/
def behindCut (roster : Roster H) (place : Place H) : Place H :=
  { place with
    manner := place.manner.map fun manner => { manner with pitch := ownPitch roster place.voice } }

/-- The place of a character with a mark. -/
def marked (roster : Roster H) (behind : Bool) (place : Place H) : Place H :=
  if behind then place.behindCut roster else place

end Place

/-! ## One delivery behind the other -/

/-- How a delivery whose texts are cut compares to one whose texts are not. -/
structure Trails (roster : Roster H) (behind : Bool) (b b' : Bearing H) : Prop where
  alike : Cursor.Alike b.toCursor b'.toCursor
  volume : b'.volume = b.volume
  rate : b'.rate = b.rate
  pitch : roster.engine b.voice = .markup →
    b'.pitch = if behind then ownPitch roster b.voice else b.pitch

/-- How it compares when no text is in progress. -/
structure Follows (roster : Roster H) (behind : Bool) (b b' : Bearing H) : Prop
    extends Trails roster behind b b' where
  opened : roster.engine b.voice = .markup → b'.opened = b.opened

variable {behind : Bool} {b b' : Bearing H}

theorem Follows.refl (b : Bearing H) : Follows roster false b b where
  alike := .refl b.toCursor
  volume := rfl
  rate := rfl
  pitch _ := rfl
  opened _ := rfl

namespace Trails

/-- A character is said where its mark says. -/
theorem place (trails : Trails roster behind b b') (c : Char) :
    b'.place roster c = (b.place roster c).marked roster behind := by
  obtain ⟨⟨voice, -, spelling⟩, volume, rate, pitch⟩ := trails
  by_cases markup : roster.engine b.voice = .markup
  · have effective := pitch markup
    cases behind <;>
      simp [Bearing.place, Place.marked, Place.behindCut, Bearing.manner, voice, spelling, volume,
        rate, markup, effective]
  · cases behind <;>
      simp [Bearing.place, Place.marked, Place.behindCut, voice, markup]

theorem zipWith_marked (trails : Trails roster behind b b') (t : Text) :
    t.map (b'.place roster) =
      List.zipWith (Place.marked roster) (List.replicate t.length behind)
        (t.map (b.place roster)) := by
  induction t with
  | nil => rfl
  | cons c t ih =>
    rw [List.map_cons, trails.place, ih]
    rfl

variable [DecidableEq H]

/-- Behind a text, elements are open in both deliveries. -/
theorem text (trails : Trails roster behind b b') (t u : Text) :
    Follows roster behind (b.next roster (.text t)) (b'.next roster (.text u)) := by
  have voice := trails.alike.voice
  have cursors : Cursor.Alike (b.toCursor.next roster (.text t))
      (b'.toCursor.next roster (.text u)) :=
    ⟨voice, trails.alike.language, trails.alike.spelling⟩
  by_cases markup : roster.engine b.voice = .markup
  · have here : (roster.voice b.voice).engine = .markup := markup
    have there : (roster.voice b'.voice).engine = .markup := by rw [voice]; exact markup
    simp only [Bearing.next, here, there]
    exact ⟨⟨cursors, trails.volume, trails.rate, trails.pitch⟩, fun _ => rfl⟩
  · have other : roster.engine b'.voice ≠ .markup := by rw [voice]; exact markup
    rw [Bearing.next_of_other markup (.text t) (by simp),
      Bearing.next_of_other other (.text u) (by simp)]
    exact ⟨⟨cursors, trails.volume, trails.rate, fun is => absurd is markup⟩,
      fun is => absurd is markup⟩

/-- A cut in the middle of a text lets the voice have its own pitch. -/
theorem cut (trails : Trails roster behind b b') (t : Text) :
    Trails roster true b ((b'.next roster (.text t)).next roster .cut) := by
  have voice := trails.alike.voice
  have cursors : Cursor.Alike b.toCursor
      ((b'.toCursor.next roster (.text t)).next roster .cut) :=
    ⟨voice, trails.alike.language, trails.alike.spelling⟩
  by_cases markup : roster.engine b.voice = .markup
  · have there : (roster.voice b'.voice).engine = .markup := by rw [voice]; exact markup
    have still : (roster.voice (b'.toCursor.next roster (.text t)).voice).engine = .markup := there
    simp only [Bearing.next, there, still, Bearing.renewed, if_pos]
    refine ⟨cursors, trails.volume, trails.rate, fun _ => ?_⟩
    exact congrArg (ownPitch roster) voice
  · have other : roster.engine b'.voice ≠ .markup := by rw [voice]; exact markup
    have first := Bearing.next_of_other other (.text t) (by simp)
    have silent : roster.engine (b'.next roster (.text t)).voice ≠ .markup := by
      rw [first]
      exact other
    rw [Bearing.next_of_other silent .cut (by simp), first]
    exact ⟨cursors, trails.volume, trails.rate, fun is => absurd is markup⟩

/-- The pieces of a text are said where the text is said, but for the pitch behind cuts. -/
theorem places_separated (trails : Trails roster behind b b') {ts : List Text}
    (nonempty : ts ≠ []) :
    b'.places roster (separated .cut ts) =
      List.zipWith (Place.marked roster) (fragmentMarks behind ts)
        (ts.flatten.map (b.place roster)) := by
  induction ts generalizing behind b' with
  | nil => exact absurd rfl nonempty
  | cons t rest ih =>
    have lengths : (List.replicate t.length behind).length = (t.map (b.place roster)).length := by
      rw [List.length_replicate, List.length_map]
    rw [fragmentMarks, List.flatten_cons, List.map_append, List.zipWith_append lengths,
      ← trails.zipWith_marked]
    cases rest with
    | nil => rfl
    | cons u rest =>
      have later := ih (trails.cut t) (List.cons_ne_nil u rest)
      rw [separated_cons, Bearing.places, Bearing.places, later]
      rfl

theorem after_separated (trails : Trails roster behind b b') {ts : List Text} (nonempty : ts ≠ [])
    (t : Text) : Follows roster (behind || 1 < ts.length) (b.next roster (.text t))
      (b'.after roster (separated .cut ts)) := by
  induction ts generalizing behind b' with
  | nil => exact absurd rfl nonempty
  | cons u rest ih =>
    cases rest with
    | nil =>
      have single : (behind || decide (1 < [u].length)) = behind := by simp
      rw [single]
      exact trails.text t u
    | cons v rest =>
      have later := ih (trails.cut u) (List.cons_ne_nil v rest)
      have several : (behind || decide (1 < (u :: v :: rest).length)) = true := by simp
      rw [Bool.true_or] at later
      rw [several]
      exact later

end Trails

namespace Follows

/-- What becomes of a mark behind a cue that is no text. -/
def markBehind (behind : Bool) : Cue → Bool
  | .pitch _ => false
  | _ => behind

/-- Elements that are opened anew are opened in both deliveries. -/
theorem renewed (follows : Follows roster behind b b')
    (markup : roster.engine b.voice = .markup) :
    (b'.renewed roster).pitch =
      if behind then ownPitch roster b.voice else (b.renewed roster).pitch := by
  have voice := follows.alike.voice
  have pitch := follows.pitch markup
  have opened := follows.opened markup
  unfold Bearing.renewed
  rw [opened, voice, pitch]
  cases behind <;> cases b.opened <;> rfl

variable [DecidableEq H]

/-- A language change, too, keeps one delivery behind the other. -/
theorem language (follows : Follows roster behind b b') (code : Option String) :
    Follows roster behind (b.next roster (.language code)) (b'.next roster (.language code)) := by
  have voice := follows.alike.voice
  have cursors : Cursor.Alike (b.toCursor.next roster (.language code))
      (b'.toCursor.next roster (.language code)) := follows.alike.next (.language code)
  have same : (b'.toCursor.next roster (.language code)).voice =
      (b.toCursor.next roster (.language code)).voice := cursors.voice
  simp only [Bearing.next, same, voice]
  split
  · rename_i stays
    refine ⟨⟨cursors, follows.volume, follows.rate, fun markup => ?_⟩, fun markup => ?_⟩
    · rw [stays] at markup
      simpa only [stays] using follows.pitch markup
    · rw [stays] at markup
      exact follows.opened markup
  · refine ⟨⟨cursors, rfl, rfl, fun _ => ?_⟩, fun _ => rfl⟩
    simp [Bearing.fresh, same]

/-- Any cue but a text keeps one delivery behind the other. -/
theorem next (follows : Follows roster behind b b') {cue : Cue} (other : ∀ t, cue ≠ .text t) :
    Follows roster (markBehind behind cue) (b.next roster cue) (b'.next roster cue) := by
  have voice := follows.alike.voice
  have volume := follows.volume
  have rate := follows.rate
  have cursors : Cursor.Alike (b.toCursor.next roster cue) (b'.toCursor.next roster cue) :=
    follows.alike.next cue
  by_cases markup : roster.engine b.voice = .markup
  · have here : (roster.voice b.voice).engine = .markup := markup
    have there : (roster.voice b'.voice).engine = .markup := by rw [voice]; exact markup
    have kept := follows.pitch markup
    have renewed := follows.renewed markup
    cases cue with
    | text t => exact absurd rfl (other t)
    | language code => exact follows.language code
    | pitch setting =>
      simp only [Bearing.next, here, there]
      refine ⟨⟨cursors, volume, rate, fun _ => ?_⟩, fun _ => rfl⟩
      rw [voice]
      rfl
    | volume setting =>
      simp only [Bearing.next, here, there]
      refine ⟨⟨cursors, ?_, rate, fun _ => renewed⟩, fun _ => rfl⟩
      rw [voice]
    | rate setting =>
      simp only [Bearing.next, here, there]
      refine ⟨⟨cursors, volume, ?_, fun _ => renewed⟩, fun _ => rfl⟩
      rw [voice]
    | cut | silence ms | spelling on =>
      -- elements that are open are opened anew
      simp only [Bearing.next, here, there]
      exact ⟨⟨cursors, volume, rate, fun _ => renewed⟩, fun _ => rfl⟩
    | phonetic ipa fallback =>
      simp only [Bearing.next, here, there]
      exact ⟨⟨cursors, volume, rate, fun _ => kept⟩, fun _ => rfl⟩
    | bookmark id | unknown kind =>
      simp only [Bearing.next]
      exact ⟨⟨cursors, volume, rate, fun _ => kept⟩, follows.opened⟩
  · rcases cue.language_or_still with ⟨code, rfl⟩ | still
    · exact follows.language code
    · have away : roster.engine b'.voice ≠ .markup := by rw [voice]; exact markup
      have stays : (b.toCursor.next roster cue).voice = b.voice := by
        cases cue with
        | language code => exact absurd rfl (still code)
        | _ => rfl
      rw [Bearing.next_of_other markup cue still, Bearing.next_of_other away cue still]
      refine ⟨⟨cursors, volume, rate, fun is => ?_⟩, fun is => ?_⟩
      · exact absurd (stays ▸ is) markup
      · exact absurd (stays ▸ is) markup

/-- **Cuts change places by the pitch only.** The pieces of a speech are said where the speech is
said, but for the pitch of the characters that are marked. -/
theorem places (follows : Follows roster behind b b') {f : Text → Text}
    {pieces : Text → List Text} (nonempty : ∀ t, pieces t ≠ [])
    (joined : ∀ t, (pieces t).flatten = f t) (speech : Speech) :
    (cutMarks pieces behind speech).length = (b.places roster (speech.mapText f)).length ∧
      b'.places roster (speech.inPieces pieces) =
        List.zipWith (Place.marked roster) (cutMarks pieces behind speech)
          (b.places roster (speech.mapText f)) := by
  induction speech generalizing behind b b' with
  | nil => exact ⟨rfl, rfl⟩
  | cons cue rest ih =>
    rcases cue.text_or_silent with ⟨t, rfl⟩ | other
    · obtain ⟨lengths, same⟩ := ih (follows.after_separated (nonempty t) (f t))
      have here := follows.places_separated (nonempty t)
      have marks : (fragmentMarks behind (pieces t)).length =
          ((f t).map (b.place roster)).length := by
        rw [length_fragmentMarks, joined, List.length_map]
      have whole : b.places roster (mapText f (.text t :: rest)) =
          (f t).map (b.place roster) ++
            (b.next roster (.text (f t))).places roster (mapText f rest) := rfl
      have parted : inPieces pieces (.text t :: rest) =
          separated .cut (pieces t) ++ inPieces pieces rest := rfl
      rw [whole, parted, cutMarks]
      constructor
      · rw [List.length_append, List.length_append, marks, lengths]
      · rw [Bearing.places_append, here, same, joined, List.zipWith_append marks]
    · obtain ⟨lengths, same⟩ := ih (follows.next other)
      have marks : cutMarks pieces behind (cue :: rest) =
          cutMarks pieces (markBehind behind cue) rest := by
        cases cue with
        | text t => exact absurd rfl (other t)
        | _ => rfl
      have whole : b.places roster (mapText f (cue :: rest)) =
          (b.next roster cue).places roster (mapText f rest) := by
        cases cue with
        | text t => exact absurd rfl (other t)
        | _ => rfl
      have parted : b'.places roster (inPieces pieces (cue :: rest)) =
          (b'.next roster cue).places roster (inPieces pieces rest) := by
        cases cue with
        | text t => exact absurd rfl (other t)
        | _ => rfl
      rw [marks, whole, parted]
      exact ⟨lengths, same⟩

end Follows

/-! ## Compiling with a limit and without -/

/-- A speech as it is when its long texts are cut. -/
def uncut (settings : Settings) (spelling : DigitSpelling) (language : String)
    (speech : Speech) : Speech :=
  spaced settings
    ((settings.numberSpeaker spelling language).bracket language (grouped settings speech))

/-- The fragments of a text, each in its normal form. -/
def normalFragments (form : NormalForm) (limit : Nat) (t : Text) : List Text :=
  (fragments limit t).map form.apply

theorem normalFragments_ne_nil (form : NormalForm) (limit : Nat) (t : Text) :
    normalFragments form limit t ≠ [] := by
  intro none
  exact fragmentsFrom_ne_nil limit 0 t (List.map_eq_nil_iff.1 none)

theorem prepared_unlimited (settings : Settings) (spelling : DigitSpelling) (language : String)
    (speech : Speech) :
    speech.prepared { settings with fragmentLimit := none } spelling language =
      mapText settings.normalForm.apply (anchor (uncut settings spelling language speech)) :=
  anchor_mapText settings.normalForm.apply (uncut settings spelling language speech)

theorem prepared_limited (settings : Settings) (spelling : DigitSpelling) (language : String)
    (speech : Speech) (limit : UInt64) :
    speech.prepared { settings with fragmentLimit := some limit } spelling language =
      inPieces (normalFragments settings.normalForm limit.toNat)
        (anchor (uncut settings spelling language speech)) := by
  calc speech.prepared { settings with fragmentLimit := some limit } spelling language
      = anchor (mapText settings.normalForm.apply
          (inPieces (fragments limit.toNat) (uncut settings spelling language speech))) := rfl
    _ = anchor (inPieces (normalFragments settings.normalForm limit.toNat)
          (uncut settings spelling language speech)) := by rw [mapText_inPieces]; rfl
    _ = _ := anchor_inPieces (normalFragments_ne_nil _ _) _

/-- **A limit on fragments changes no place but by the pitch.** All calls of both compilations can
be read, and say what their bearings say, spaces left aside; and what they say of the texts is said
at the places of their characters, but that a chunk voice gets its texts trimmed and may get them in
lower case. Each character of the texts is said by the same voice, in the same volume and rate, and
spelled or not; its pitch is the same as well unless a text was cut between the last pitch cue and
the character, where a markup voice has its own pitch. -/
theorem places_limited [DecidableEq H] (settings : Settings) (roster : Roster H)
    (spelling : DigitSpelling) (speech : Speech) (limit : UInt64) :
    let unlimited := { settings with fragmentLimit := none }
    let limited := { settings with fragmentLimit := some limit }
    let whole := speech.prepared unlimited spelling roster.defaultLanguage
    let parted := speech.prepared limited spelling roster.defaultLanguage
    let marks := cutMarks (normalFragments settings.normalForm limit.toNat) false
      (uncut settings spelling roster.defaultLanguage speech)
    let start := Bearing.start roster
    Uttered roster (compileCalls unlimited roster spelling speech) (start.trace roster whole) ∧
      Uttered roster (compileCalls limited roster spelling speech) (start.trace roster parted) ∧
      marks.length = (start.places roster whole).length ∧
      start.places roster parted =
        List.zipWith (Place.marked roster) marks (start.places roster whole) ∧
      Placed roster false whole (start.places roster whole) (start.trace roster whole) ∧
      Placed roster false parted (start.places roster parted) (start.trace roster parted) := by
  intro unlimited limited whole parted marks start
  have joined : ∀ t, (normalFragments settings.normalForm limit.toNat t).flatten =
      settings.normalForm.apply t := apply_flatten_fragments settings.normalForm limit.toNat
  obtain ⟨lengths, same⟩ := (Follows.refl start).places (normalFragments_ne_nil _ _) joined
    (anchor (uncut settings spelling roster.defaultLanguage speech))
  rw [cutMarks_anchor, ← prepared_unlimited] at lengths same
  rw [← prepared_limited] at same
  exact ⟨uttered_deliver roster whole, uttered_deliver roster parted, lengths, same,
    start.placed whole, start.placed parted⟩

/-- Behind a cut the pitch that was asked for is gone. -/
theorem places_limited_soloist :
    let speech : Speech := [.pitch (.absolute 60), .text "y z".toList]
    let unlimited := Settings.default
    let limited := { Settings.default with fragmentLimit := some 1 }
    let manner (pitch : Int) : Markup.Manner :=
      { pitch := pitch, volume := none, rate := none, spelled := false }
    let said (pitch : Int) (c : Char) : Unit × Utterance :=
      ((), { manner := some (manner pitch), atom := .character c })
    compileCalls unlimited soloist (fun _ _ => none) speech =
        [⟨(), .speak "<pitch absmiddle=\"5\">y z</pitch>".toList⟩] ∧
      compileCalls limited soloist (fun _ _ => none) speech =
        [⟨(), .speak "<pitch absmiddle=\"5\">y </pitch>".toList⟩,
          ⟨(), .speak "<pitch absmiddle=\"0\">z</pitch>".toList⟩] ∧
      (uttered? soloist (compileCalls unlimited soloist (fun _ _ => none) speech)).map clearly =
        some [said 5 'y', said 5 'z'] ∧
      (uttered? soloist (compileCalls limited soloist (fun _ _ => none) speech)).map clearly =
        some [said 5 'y', said 0 'z'] := by
  decide +kernel

end Polyvoice.Delivery
