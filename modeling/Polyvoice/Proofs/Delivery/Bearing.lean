import Polyvoice.Proofs.Delivery.MarkupPayloads
import Polyvoice.Proofs.Markup.Manners

/-!
# Bearings

A cursor does not know in which manner a markup voice says a text. A bearing does: it is a cursor
with the pitch, volume and rate that the elements around the next text ask for. A pitch is asked
for once. Where elements are opened anew, behind a cut or with another setting, the voice has its
own pitch again (`Bearing.renewed`); volume and rate stay until another voice takes over.

A bearing moves over a speech by itself, without buffers and staged elements, and the machine is
in agreement with it all the time (`State.Agrees`).
-/

namespace Polyvoice.Delivery

variable {H : Type} {roster : Roster H}

/-- The pitch of a markup voice where no element asks for another one. -/
def ownPitch (roster : Roster H) (h : H) : Int :=
  Scale.wholeOffset (roster.voice h).pitch

/-- Where a delivery stands, and in which manner a markup voice says the next text. -/
structure Bearing (H : Type) extends Cursor H where
  pitch : Int
  volume : Option Int
  rate : Option Int
  /-- Whether a text was said in this manner, so that the elements around the next one are open. -/
  opened : Bool
deriving DecidableEq

namespace Bearing

/-- The manner of the next text. -/
def manner (b : Bearing H) : Markup.Manner where
  pitch := b.pitch
  volume := b.volume
  rate := b.rate
  spelled := b.spelling

/-- A voice that takes over has its own pitch, and no other setting. -/
def fresh (roster : Roster H) (c : Cursor H) : Bearing H where
  toCursor := c
  pitch := ownPitch roster c.voice
  volume := none
  rate := none
  opened := false

def start (roster : Roster H) : Bearing H :=
  fresh roster (.start roster)

/-- Elements that are open are opened anew for the next text, in the voice's own pitch. -/
def renewed (roster : Roster H) (b : Bearing H) : Bearing H :=
  { b with
    pitch := if b.opened then ownPitch roster b.voice else b.pitch
    opened := false }

/-- The value of the element for a setting, which has none if it keeps the base value. -/
def asked (base : UInt8) (setting : Prosody) : Option Int :=
  if setting.keepsBase base then none else some (setting.level base)

/-- The bearing behind a cue. -/
def next [DecidableEq H] (roster : Roster H) (b : Bearing H) (cue : Cue) : Bearing H :=
  let c := b.toCursor.next roster cue
  let voice := roster.voice b.voice
  match voice.engine, cue with
  | _, .language _ => if c.voice = b.voice then { b with toCursor := c } else fresh roster c
  | .markup, .text _ => { b with toCursor := c, opened := true }
  | .markup, .phonetic _ _ => { b with toCursor := c, opened := true }
  | .markup, .cut => { b.renewed roster with toCursor := c }
  | .markup, .silence _ => { b.renewed roster with toCursor := c }
  | .markup, .spelling _ => { b.renewed roster with toCursor := c }
  | .markup, .volume setting =>
    { b.renewed roster with toCursor := c, volume := asked voice.volume setting }
  | .markup, .rate setting =>
    { b.renewed roster with toCursor := c, rate := asked voice.rate setting }
  | .markup, .pitch setting =>
    { b with
      toCursor := c
      pitch := setting.offset voice.pitch
      opened := false }
  | _, _ => { b with toCursor := c }

/-- The bearing behind a speech. -/
def after [DecidableEq H] (roster : Roster H) (b : Bearing H) (speech : Speech) : Bearing H :=
  speech.foldl (next roster) b

theorem after_append [DecidableEq H] (b : Bearing H) (p q : Speech) :
    b.after roster (p ++ q) = (b.after roster p).after roster q :=
  List.foldl_append

/-- A bearing moves as its cursor. -/
@[simp] theorem toCursor_next [DecidableEq H] (b : Bearing H) (cue : Cue) :
    (b.next roster cue).toCursor = b.toCursor.next roster cue := by
  unfold next
  dsimp only
  split
  · split
    · rfl
    · rfl
  all_goals rfl

@[simp] theorem toCursor_after [DecidableEq H] (b : Bearing H) (speech : Speech) :
    (b.after roster speech).toCursor = b.toCursor.after roster speech := by
  induction speech generalizing b with
  | nil => rfl
  | cons cue rest ih =>
    have later := ih (b.next roster cue)
    rwa [toCursor_next] at later

end Bearing

namespace State

variable {s : State H} {b : Bearing H} {cue : Cue}

/-- How the state of a markup voice agrees with a bearing. -/
structure Agrees (roster : Roster H) (s : State H) (b : Bearing H) : Prop where
  cursor : s.cursor = b.toCursor
  /-- The elements have to be opened unless they are open. -/
  dirty : roster.engine s.voice = .markup → s.staging.dirty = !b.opened
  /-- The staged elements are for the next text for which elements are opened. -/
  staged : roster.engine s.voice = .markup →
    Markup.Manner.inside (ownPitch roster s.voice) s.staging.staged = (b.renewed roster).manner
  /-- The elements that the buffer leaves open are for the next text as long as they stay so. -/
  around : roster.engine s.voice = .markup → b.opened = true →
    Markup.Manner.inside (ownPitch roster s.voice) (Markup.entriesBehind [] s.markup) = b.manner

namespace Agrees

theorem voice_eq (agrees : Agrees roster s b) : s.voice = b.voice :=
  congrArg Cursor.voice agrees.cursor

/-- Only at a markup voice there is anything to agree on but the cursor. -/
theorem of_other (cursor : s.cursor = b.toCursor) (other : roster.engine s.voice ≠ .markup) :
    Agrees roster s b where
  cursor := cursor
  dirty markup := absurd markup other
  staged markup := absurd markup other
  around markup := absurd markup other

/-- Where elements have to be opened, those are staged that the bearing asks for. -/
theorem of_dirty (cursor : s.cursor = b.toCursor) (dirty : s.staging.dirty = true)
    (opened : b.opened = false)
    (staged : Markup.Manner.inside (ownPitch roster s.voice) s.staging.staged = b.manner) :
    Agrees roster s b where
  cursor := cursor
  dirty _ := by rw [dirty, opened]; rfl
  staged _ := by
    have same : (b.renewed roster).manner = b.manner := by
      simp [Bearing.renewed, Bearing.manner, opened]
    rw [staged, same]
  around _ inside := by
    rw [opened] at inside
    cases inside

theorem start (roster : Roster H) : Agrees roster (State.start roster) (.start roster) :=
  .of_dirty rfl rfl rfl rfl

/-! ## Voices that take over -/

theorem takenOver (h : H) :
    Agrees roster (s.takenOver roster h) (.fresh roster (s.takenOver roster h).cursor) := by
  by_cases markup : roster.engine h = .markup
  · have dirty : (s.takenOver roster h).staging.dirty = true := by
      cases spelling : s.spelling <;> simp [State.takenOver, markup, spelling] <;> rfl
    refine .of_dirty rfl dirty rfl ?_
    rw [takenOver_voice]
    cases spelling : s.spelling <;> simp [State.takenOver, markup, spelling] <;> rfl
  · refine .of_other rfl ?_
    rw [takenOver_voice]
    exact markup

/-! ## Cues at a markup voice -/

/-- A flush closes the elements, which are opened anew. -/
theorem flushed (agrees : Agrees roster s b) (markup : roster.engine s.voice = .markup) :
    Agrees roster (s.flushed roster) (b.renewed roster) := by
  have staging : (s.flushed roster).staging = s.staging.closed := if_pos markup
  refine .of_dirty agrees.cursor ?_ rfl ?_
  · rw [staging]
    rfl
  · rw [staging]
    exact agrees.staged markup

/-- A text or a pronunciation is said in the manner of the bearing, and the pitch is used up. -/
theorem said [DecidableEq H] (agrees : Agrees roster s b) (nested : s.Nested)
    (markup : roster.engine s.voice = .markup)
    (tags : s.tagsFor roster cue = s.staging.emission)
    (staging : s.stagingFor roster cue = (s.openElements roster).staging)
    (spelling : (s.continued roster cue).spelling = b.spelling)
    {c : Cursor H} (cursor : (s.continued roster cue).cursor = c) :
    Agrees roster (s.continued roster cue) { b with toCursor := c, opened := true } := by
  have spelled : c.spelling = b.spelling := cursor ▸ spelling
  have own : c.voice = s.voice := cursor ▸ rfl
  have untagged (t : Markup.Tag) : .tag t ∉ s.cursor.pieces roster cue :=
    Cursor.tag_notMem_pieces t
  have buffer : Markup.entriesBehind [] (s.continued roster cue).markup =
      Markup.entriesBehind [] (s.markup ++ s.staging.emission.map .tag) := by
    rw [← tags]
    exact (Markup.entriesBehind_append _ _ _).trans
      (Markup.entriesBehind_of_untagged untagged _)
  have stagedBefore := agrees.staged markup
  have dirtyBefore := agrees.dirty markup
  cases opened : b.opened with
  | false =>
    -- the staged elements are opened, and the voice's own pitch is staged
    have dirty : s.staging.dirty = true := by rw [dirtyBefore, opened]; rfl
    have opens : (s.openElements roster).staging =
        s.staging.emitted.plan .pitch (basePitch roster s.voice) := by
      unfold openElements
      rw [if_pos dirty]
    have emitted : s.staging.emitted.staged = s.staging.staged := by
      unfold Markup.Staging.emitted
      rw [if_pos dirty]
    constructor
    case cursor => exact cursor
    case dirty =>
      intro _
      rw [State.continued, staging, opens, Markup.Staging.emitted, if_pos dirty]
      rfl
    case staged =>
      intro _
      rw [State.continued, staging, opens, Markup.Staging.plan, Markup.inside_assign, emitted,
        stagedBefore]
      simp [Markup.Manner.put, Bearing.renewed, Bearing.manner, basePitch, ownPitch, spelled, own]
    case around =>
      intro _ _
      rw [buffer, Markup.Staging.entriesBehind_emission nested.unclosed dirty,
        Markup.inside_reverse nested.proper.distinct]
      refine stagedBefore.trans ?_
      simp [Bearing.renewed, Bearing.manner, opened, spelled]
  | true =>
    -- nothing has changed since the last text, and nothing is written
    have clean : s.staging.dirty = false := by rw [dirtyBefore, opened]; rfl
    have unchanged : (s.openElements roster).staging = s.staging := by
      unfold openElements
      rw [if_neg (by simp [clean])]
    have silent : s.staging.emission = [] := by
      unfold Markup.Staging.emission
      rw [if_neg (by simp [clean])]
    constructor
    case cursor => exact cursor
    case dirty =>
      intro _
      rw [State.continued, staging, unchanged, clean]
      rfl
    case staged =>
      intro _
      rw [State.continued, staging, unchanged, stagedBefore]
      simp [Bearing.renewed, Bearing.manner, opened, spelled, own, agrees.voice_eq]
    case around =>
      intro _ _
      rw [buffer, silent, List.map_nil, List.append_nil]
      refine (agrees.around markup opened).trans ?_
      simp [Bearing.manner, spelled]

/-- A cue that changes a setting has the elements opened anew. -/
theorem changed [DecidableEq H] (agrees : Agrees roster s b)
    (markup : roster.engine s.voice = .markup) {b' : Bearing H}
    (cursor : (s.continued roster cue).cursor = b'.toCursor)
    (dirty : (s.stagingFor roster cue).dirty = true) (opened : b'.opened = false)
    {element : Markup.Element} {attributes : Option Markup.Attributes}
    (staged : Markup.Manner.inside (ownPitch roster s.voice) (s.stagingFor roster cue).staged =
      (Markup.Manner.inside (ownPitch roster s.voice) s.staging.staged).put
        (ownPitch roster s.voice) element attributes)
    (manner : b'.manner =
      (b.renewed roster).manner.put (ownPitch roster s.voice) element attributes) :
    Agrees roster (s.continued roster cue) b' := by
  refine .of_dirty cursor dirty opened ?_
  have before := agrees.staged markup
  calc Markup.Manner.inside (ownPitch roster s.voice) (s.stagingFor roster cue).staged
      = (Markup.Manner.inside (ownPitch roster s.voice) s.staging.staged).put
          (ownPitch roster s.voice) element attributes := staged
    _ = b'.manner := by rw [before, manner]

/-- Any other cue leaves all as it is. -/
theorem kept [DecidableEq H] (agrees : Agrees roster s b)
    (markup : roster.engine s.voice = .markup)
    (tags : s.tagsFor roster cue = []) (staging : s.stagingFor roster cue = s.staging)
    (spelling : (s.continued roster cue).spelling = b.spelling)
    {c : Cursor H} (cursor : (s.continued roster cue).cursor = c) :
    Agrees roster (s.continued roster cue) { b with toCursor := c } := by
  have spelled : c.spelling = b.spelling := cursor ▸ spelling
  have own : c.voice = b.voice := cursor ▸ agrees.voice_eq
  have untagged (t : Markup.Tag) : .tag t ∉ s.cursor.pieces roster cue :=
    Cursor.tag_notMem_pieces t
  have buffer : Markup.entriesBehind [] (s.continued roster cue).markup =
      Markup.entriesBehind [] s.markup := by
    simp only [State.continued, tags, List.map_nil, List.append_nil]
    exact (Markup.entriesBehind_append _ _ _).trans
      (Markup.entriesBehind_of_untagged untagged _)
  constructor
  case cursor => exact cursor
  case dirty =>
    intro _
    rw [State.continued, staging]
    exact agrees.dirty markup
  case staged =>
    intro _
    rw [State.continued, staging]
    refine (agrees.staged markup).trans ?_
    simp [Bearing.renewed, Bearing.manner, spelled, own]
  case around =>
    intro _ opened
    rw [buffer]
    refine (agrees.around markup opened).trans ?_
    simp [Bearing.manner, spelled]

theorem inside_stageSetting (element : Markup.Element) (key : String) (setting : Prosody)
    (base : UInt8) (own : Int) :
    Markup.Manner.inside own (s.stageSetting element key setting base).staging.staged =
      (Markup.Manner.inside own s.staging.staged).put own element
        ((Bearing.asked base setting).map fun n => [(key, n)]) := by
  unfold stageSetting Bearing.asked
  split
  · exact Markup.inside_filter own
  · exact Markup.inside_assign own

theorem dirty_stageSetting (element : Markup.Element) (key : String) (setting : Prosody)
    (base : UInt8) : (s.stageSetting element key setting base).staging.dirty = true := by
  unfold stageSetting
  split <;> rfl

/-- A cue that parts nothing, at a markup voice. -/
theorem continued [DecidableEq H] (agrees : Agrees roster s b) (nested : s.Nested)
    (markup : roster.engine s.voice = .markup) (inner : s.cursor.parts roster cue = false)
    (cursor : (s.continued roster cue).cursor = b.toCursor.next roster cue) :
    Agrees roster (s.continued roster cue) (b.next roster cue) := by
  have engine : (roster.voice s.voice).engine = .markup := markup
  have here : (roster.voice b.voice).engine = .markup := agrees.voice_eq ▸ engine
  have spelling : s.spelling = b.spelling := congrArg Cursor.spelling agrees.cursor
  cases cue with
  | cut => cases inner
  | silence ms => cases inner
  | text t =>
    simp only [Bearing.next, here]
    refine agrees.said nested markup ?_ ?_ ?_ cursor
    · simp [tagsFor, markup]
    · simp [stagingFor, engine]
    · exact spelling
  | phonetic ipa fallback =>
    simp only [Bearing.next, here]
    refine agrees.said nested markup ?_ ?_ ?_ cursor
    · simp [tagsFor, markup]
    · simp [stagingFor, engine]
    · exact spelling
  | language code =>
    have stays : (b.toCursor.next roster (.language code)).voice = b.voice := by
      rw [← cursor]
      exact agrees.voice_eq
    simp only [Bearing.next, if_pos stays]
    refine agrees.kept markup ?_ ?_ ?_ cursor
    · simp [tagsFor, markup]
    · simp [stagingFor, engine]
    · rw [State.continued, Cursor.next_of_stays inner]
      exact spelling
  | bookmark id =>
    simp only [Bearing.next]
    refine agrees.kept markup ?_ ?_ ?_ cursor
    · simp [tagsFor, markup]
    · simp [stagingFor, engine]
    · exact spelling
  | unknown kind =>
    simp only [Bearing.next]
    refine agrees.kept markup ?_ ?_ ?_ cursor
    · simp [tagsFor, markup]
    · simp [stagingFor, engine]
    · exact spelling
  | spelling on =>
    have staging : s.stagingFor roster (.spelling on) = (s.stageSpelling on).staging := by
      simp [stagingFor, engine]
    simp only [Bearing.next, here]
    cases on with
    | true =>
      have put : Markup.Manner.inside (ownPitch roster s.voice)
          (s.stageSpelling true).staging.staged =
          (Markup.Manner.inside (ownPitch roster s.voice) s.staging.staged).put
            (ownPitch roster s.voice) .spell (some []) := Markup.inside_assign _
      exact agrees.changed markup cursor (staging ▸ rfl) rfl (staging ▸ put) rfl
    | false =>
      have put : Markup.Manner.inside (ownPitch roster s.voice)
          (s.stageSpelling false).staging.staged =
          (Markup.Manner.inside (ownPitch roster s.voice) s.staging.staged).put
            (ownPitch roster s.voice) .spell none := Markup.inside_filter _
      exact agrees.changed markup cursor (staging ▸ rfl) rfl (staging ▸ put) rfl
  | pitch setting =>
    have staging : s.stagingFor roster (.pitch setting) = s.staging.stage .pitch
        [("absmiddle", setting.offset (roster.voice s.voice).pitch)] := by
      simp [stagingFor, engine]
    have put : Markup.Manner.inside (ownPitch roster s.voice)
        (s.stagingFor roster (.pitch setting)).staged =
        (Markup.Manner.inside (ownPitch roster s.voice) s.staging.staged).put
          (ownPitch roster s.voice) .pitch
          (some [("absmiddle", setting.offset (roster.voice s.voice).pitch)]) := by
      rw [staging]
      exact Markup.inside_assign _
    simp only [Bearing.next, here]
    refine agrees.changed markup cursor (staging ▸ rfl) rfl put ?_
    rw [agrees.voice_eq]
    rfl
  | volume setting =>
    have staging : s.stagingFor roster (.volume setting) =
        (s.stageSetting .volume "level" setting (roster.voice s.voice).volume).staging := by
      simp [stagingFor, engine]
    simp only [Bearing.next, here]
    refine agrees.changed markup cursor ?_ rfl (staging ▸ inside_stageSetting ..) ?_
    · rw [staging]
      exact dirty_stageSetting ..
    · rw [agrees.voice_eq]
      generalize Bearing.asked (roster.voice b.voice).volume setting = value
      cases value <;> rfl
  | rate setting =>
    have staging : s.stagingFor roster (.rate setting) =
        (s.stageSetting .rate "absspeed" setting (roster.voice s.voice).rate).staging := by
      simp [stagingFor, engine]
    simp only [Bearing.next, here]
    refine agrees.changed markup cursor ?_ rfl (staging ▸ inside_stageSetting ..) ?_
    · rw [staging]
      exact dirty_stageSetting ..
    · rw [agrees.voice_eq]
      generalize Bearing.asked (roster.voice b.voice).rate setting = value
      cases value <;> rfl

/-- Every cue keeps the machine in agreement with the bearing. -/
theorem next [DecidableEq H] (agrees : Agrees roster s b) (buffered : s.Buffered roster)
    (nested : s.Nested) (cue : Cue) : Agrees roster (s.next roster cue) (b.next roster cue) := by
  have cursor : (s.next roster cue).cursor = b.toCursor.next roster cue := by
    rw [cursor_next buffered.due, agrees.cursor]
  cases parts : s.cursor.parts roster cue with
  | false =>
    rw [next_of_inner buffered.due parts] at cursor ⊢
    by_cases markup : roster.engine s.voice = .markup
    · exact agrees.continued nested markup parts cursor
    · exact .of_other (cursor.trans (Bearing.toCursor_next b cue).symm) markup
  | true =>
    -- a flush has the elements of a markup voice opened anew, and is nothing to another voice
    have flush (flushes : s.next roster cue = s.flushed roster)
        (renews : (roster.voice b.voice).engine = .markup →
          b.next roster cue = b.renewed roster) :
        Agrees roster (s.next roster cue) (b.next roster cue) := by
      by_cases markup : roster.engine s.voice = .markup
      · rw [flushes, renews (agrees.voice_eq ▸ markup)]
        exact agrees.flushed markup
      · refine .of_other (cursor.trans (Bearing.toCursor_next b cue).symm) ?_
        rw [flushes]
        exact markup
    cases cue with
    | language code =>
      have away := (Cursor.parts_language.1 parts).2
      have here : (s.next roster (.language code)).voice = (target roster code).1 := by
        rw [State.next, turned_of_parts parts, takenOver_voice]
      have other : (b.toCursor.next roster (.language code)).voice ≠ b.voice := by
        rw [← cursor, ← agrees.voice_eq]
        intro same
        exact away (here.symm.trans same)
      simp only [Bearing.next, if_neg other]
      rw [← cursor, State.next, turned_of_parts parts]
      exact takenOver _
    | bookmark id =>
      have plain : (roster.voice s.voice).engine = .plain := of_decide_eq_true parts
      refine flush (by simp [State.next, plain]) fun markup => ?_
      rw [← agrees.voice_eq, plain] at markup
      cases markup
    | cut =>
      refine flush rfl fun markup => ?_
      simp only [Bearing.next, markup]
      rfl
    | silence ms =>
      refine flush rfl fun markup => ?_
      simp only [Bearing.next, markup]
      rfl
    | _ => cases parts

end Agrees

end State

end Polyvoice.Delivery
