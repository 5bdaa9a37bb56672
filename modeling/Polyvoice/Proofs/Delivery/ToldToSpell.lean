import Mathlib.Data.List.Induction
import Polyvoice.Proofs.Delivery.ChunkPayloads

/-!
# What chunk voices are told of spelling

Whether texts are spelled is one mark for all voices, but a chunk voice knows of it only what it was
told: by a `tn` directive where the mark is changed while the voice is active, and by another one in
front of the first text behind a takeover. This module follows the directives that a voice receives
(`directivesTo_callsDuring`) and says what the last of them is where a text is delivered.

While texts are spelled the voice has been told so. While they are not, it has been told to spell
all the same if spelling was last turned off behind its back, with another voice active
(`told_at_text`).
-/

namespace Polyvoice

namespace Chunk

/-- The directives of a payload, as a chunk voice reads them. -/
def directivesIn (payload : Text) : List (Text × Text) :=
  ((scan? payload).getD []).filterMap Token.directive?

/-- What the last of some directives says of spelling, if one of them says anything. -/
def lastSpelling (directives : List (Text × Text)) : Option Text :=
  ((directives.filter (·.1 = "tn".toList)).getLast?).map Prod.snd

theorem lastSpelling_append (directives more : List (Text × Text)) :
    lastSpelling (directives ++ more) = (lastSpelling more).or (lastSpelling directives) := by
  unfold lastSpelling
  rw [List.filter_append, List.getLast?_append]
  cases (more.filter (·.1 = "tn".toList)).getLast? <;> rfl

/-- Of the directives, only one kind is about spelling. -/
theorem lastSpelling_of_ne {d : Directive} (other : ∀ on, d ≠ .spelling on) :
    lastSpelling ([directive d].filterMap directive?) = none := by
  have key : d.key.toList ≠ "tn".toList := by
    cases d with
    | spelling on => exact absurd rfl (other on)
    | _ => simp only [Directive.key]; decide
  have dropped : [(d.key.toList, d.value.toList)].filter (·.1 = "tn".toList) = [] :=
    List.filter_cons_of_neg (by simpa using key)
  exact congrArg (fun found => (List.getLast? found).map Prod.snd) dropped

theorem directivesIn_frame {chunks : List Chunk} (free : EscapeFree chunks) :
    directivesIn (frame chunks) = chunks.filterMap directive? := by
  rw [directivesIn, frame_eq_layout free, scan?_layout free, Option.getD_some,
    filterMap_layoutTokens]

/-- A payload with a text in it that is not empty is not empty. -/
theorem frame_ne_nil {chunks : List Chunk} {t : Text} (free : EscapeFree chunks)
    (member : .text t ∈ chunks) (spoken : t ≠ []) : frame chunks ≠ [] := by
  intro silent
  rw [frame_eq_layout free] at silent
  rcases eq_of_layout_eq_nil silent with none | blank
  · rw [none] at member
    cases member
  · rw [blank] at member
    have same := List.mem_singleton.1 member
    exact spoken (Chunk.text.inj same)

end Chunk

namespace Delivery

variable {H : Type} [DecidableEq H] {roster : Roster H} {h : H}

/-! ## What a voice receives -/

/-- The payload of a call, if it is one for the given voice. -/
def payloadFor? (h : H) (call : Call H) : Option Text :=
  match call.op with
  | .speak payload => if call.voice = h then some payload else none
  | _ => none

/-- The payloads for a voice. -/
def payloadsTo (h : H) (calls : List (Call H)) : List Text :=
  calls.filterMap (payloadFor? h)

theorem payloadsTo_append (h : H) (calls more : List (Call H)) :
    payloadsTo h (calls ++ more) = payloadsTo h calls ++ payloadsTo h more :=
  List.filterMap_append

/-- The directives that a chunk voice receives. -/
def directivesTo (h : H) (calls : List (Call H)) : List (Text × Text) :=
  (payloadsTo h calls).flatMap Chunk.directivesIn

theorem directivesTo_append (h : H) (calls more : List (Call H)) :
    directivesTo h (calls ++ more) = directivesTo h calls ++ directivesTo h more := by
  rw [directivesTo, payloadsTo_append, List.flatMap_append]
  rfl

/-! ## What a speech calls for -/

namespace Cursor

/-- The directives that a cue calls for, if it calls the given voice for them. -/
def directivesOf (roster : Roster H) (h : H) (c : Cursor H) (cue : Cue) : List (Text × Text) :=
  if c.voice = h then (c.chunks roster cue).filterMap Chunk.directive? else []

/-- The directives that a speech calls a voice for. -/
def directivesFor (roster : Roster H) (h : H) (c : Cursor H) : Speech → List (Text × Text)
  | [] => []
  | cue :: rest =>
    c.directivesOf roster h cue ++ (c.next roster cue).directivesFor roster h rest

theorem directivesFor_append (roster : Roster H) (h : H) (c : Cursor H) (p q : Speech) :
    c.directivesFor roster h (p ++ q) =
      c.directivesFor roster h p ++ (c.after roster p).directivesFor roster h q := by
  induction p generalizing c with
  | nil => rfl
  | cons cue rest ih =>
    rw [List.cons_append, directivesFor, directivesFor, ih, List.append_assoc]
    rfl

/-- A cue that parts the payload of a chunk voice calls for no chunk. -/
theorem chunks_of_parts {c : Cursor H} {cue : Cue} (chunk : roster.engine c.voice = .chunk)
    (parts : c.parts roster cue = true) : c.chunks roster cue = [] := by
  have engine : (roster.voice c.voice).engine = .chunk := chunk
  cases cue with
  | language code => simp [chunks, engine]
  | cut => simp [chunks, engine]
  | silence ms => simp [chunks, engine]
  | bookmark id => simp [Cursor.parts, chunk] at parts
  | _ => cases parts

end Cursor

namespace State

variable {s : State H}

/-- The directives that are buffered for a voice. -/
def directivesHeld (h : H) (s : State H) : List (Text × Text) :=
  if s.voice = h then s.chunks.filterMap Chunk.directive? else []

theorem payloadsTo_flushCalls_of_ne (other : s.voice ≠ h) :
    payloadsTo h (s.flushCalls roster) = [] := by
  unfold flushCalls payloadsTo
  split
  · simp [payloadFor?, other]
  · rfl

theorem payloadsTo_signals (cue : Cue) :
    payloadsTo h ((s.cursor.signals roster cue).map (⟨s.voice, ·⟩)) = [] := by
  refine List.filterMap_eq_nil_iff.2 fun call member => ?_
  obtain ⟨op, signal, rfl⟩ := List.mem_map.1 member
  cases op with
  | speak payload => exact absurd signal (Cursor.speak_notMem_signals payload)
  | silence ms => rfl
  | bookmark id => rfl

/-- A flush hands over what is buffered. -/
theorem directivesTo_flushCalls (buffered : s.Buffered roster) (chunk : roster.engine h = .chunk) :
    directivesTo h (s.flushCalls roster) = s.directivesHeld h := by
  by_cases here : s.voice = h
  · subst here
    have free := buffered.escapeFree chunk
    have payload : s.payload roster = Chunk.frame s.chunks := by rw [State.payload, chunk]
    rw [directivesHeld, if_pos rfl, directivesTo]
    unfold flushCalls payloadsTo
    rw [payload]
    split
    · simp [payloadFor?, Chunk.directivesIn_frame free]
    · rename_i unsent
      -- nothing is sent only where there is nothing but an empty text
      have silent : s.chunks = [] ∨ s.chunks = [.text []] := by
        cases pending : s.pending with
        | false => exact Or.inl (buffered.idle_chunks pending)
        | true =>
          have empty : Chunk.frame s.chunks = [] :=
            Decidable.byContradiction fun present => unsent ⟨pending, present⟩
          rw [Chunk.frame_eq_layout free] at empty
          exact Chunk.eq_of_layout_eq_nil empty
      rcases silent with none | blank
      · rw [none]
        rfl
      · rw [blank]
        rfl
  · rw [directivesHeld, if_neg here, directivesTo, payloadsTo_flushCalls_of_ne here]
    rfl

/-- One cue: what a chunk voice has received and what is buffered for it grow by what the cue calls
for. -/
theorem directivesTo_calls (buffered : s.Buffered roster) (chunk : roster.engine h = .chunk)
    (cue : Cue) :
    directivesTo h (s.calls roster cue) ++ (s.next roster cue).directivesHeld h =
      s.directivesHeld h ++ s.cursor.directivesOf roster h cue := by
  have signals : directivesTo h ((s.cursor.signals roster cue).map (⟨s.voice, ·⟩)) = [] := by
    rw [directivesTo, payloadsTo_signals]
    rfl
  rw [calls_eq, directivesTo_append, signals, List.append_nil]
  cases parts : s.cursor.parts roster cue with
  | true =>
    have emptied : (s.next roster cue).directivesHeld h = [] := by
      rw [directivesHeld, chunks_next buffered.due, if_pos parts]
      split <;> rfl
    have nothing : s.cursor.directivesOf roster h cue = [] := by
      unfold Cursor.directivesOf
      split
      · rename_i here
        have engine : roster.engine s.cursor.voice = .chunk := by rw [here, chunk]
        rw [Cursor.chunks_of_parts engine parts]
        rfl
      · rfl
    rw [if_pos rfl, directivesTo_flushCalls buffered chunk, emptied, nothing]
  | false =>
    have voice : (s.next roster cue).voice = s.voice := by
      have moved := congrArg Cursor.voice (cursor_next buffered.due cue)
      rwa [Cursor.voice_next_of_inner parts] at moved
    have grown : (s.next roster cue).chunks = s.chunks ++ s.cursor.chunks roster cue := by
      rw [chunks_next buffered.due, if_neg (by simp [parts])]
    rw [if_neg (by simp), directivesHeld, voice, grown, directivesHeld, Cursor.directivesOf]
    change [] ++ _ = _ ++ if s.voice = h then _ else _
    split
    · rw [List.filterMap_append]
      rfl
    · rfl

/-- A speech: what a chunk voice has received, and what is buffered for it, is what the speech
called it for. -/
theorem directivesTo_callsDuring (buffered : s.Buffered roster)
    (chunk : roster.engine h = .chunk) (speech : Speech) :
    directivesTo h (s.callsDuring roster speech) ++ (s.after roster speech).directivesHeld h =
      s.directivesHeld h ++ s.cursor.directivesFor roster h speech := by
  induction speech generalizing s with
  | nil => exact (List.append_nil _).symm
  | cons cue rest ih =>
    have later := ih (buffered.next cue)
    rw [cursor_next buffered.due] at later
    calc directivesTo h (s.callsDuring roster (cue :: rest)) ++
          (s.after roster (cue :: rest)).directivesHeld h
        = directivesTo h (s.calls roster cue) ++
            (directivesTo h ((s.next roster cue).callsDuring roster rest) ++
              ((s.next roster cue).after roster rest).directivesHeld h) := by
          rw [callsDuring, directivesTo_append, List.append_assoc]
          rfl
      _ = s.directivesHeld h ++ s.cursor.directivesOf roster h cue ++
            (s.cursor.next roster cue).directivesFor roster h rest := by
          rw [later, ← List.append_assoc, directivesTo_calls buffered chunk]
      _ = s.directivesHeld h ++ s.cursor.directivesFor roster h (cue :: rest) := by
          rw [List.append_assoc]
          rfl

end State

/-- In a whole delivery, a chunk voice receives what the speech called it for. -/
theorem directivesTo_deliver (chunk : roster.engine h = .chunk) (speech : Speech) :
    directivesTo h (deliver roster speech) =
      (Cursor.start roster).directivesFor roster h speech := by
  have buffered := State.Buffered.start roster
  have received := State.directivesTo_callsDuring buffered chunk speech
  have nothing : (State.start roster).directivesHeld h = [] := by
    unfold State.directivesHeld
    split <;> rfl
  rw [nothing, List.nil_append] at received
  rw [deliver, State.callsToEnd, directivesTo_append,
    State.directivesTo_flushCalls (buffered.after speech) chunk, received]
  rfl

/-! ## What the last directive says -/

/-- What a directive says that turns spelling on. -/
def spellWord : Text := "spell".toList

/-- What a directive says that turns spelling off. -/
def normalWord : Text := "normal".toList

namespace Cursor

variable {c : Cursor H} {cue : Cue}

/-- What a voice was last told of spelling in a speech. -/
def told? (roster : Roster H) (h : H) (speech : Speech) : Option Text :=
  Chunk.lastSpelling ((start roster).directivesFor roster h speech)

/-- What a cue tells a voice of spelling. -/
def tells? (roster : Roster H) (h : H) (c : Cursor H) (cue : Cue) : Option Text :=
  Chunk.lastSpelling (c.directivesOf roster h cue)

/-- The last cue decides, if it tells anything. -/
theorem told?_append (speech : Speech) (cue : Cue) :
    told? roster h (speech ++ [cue]) =
      (((start roster).after roster speech).tells? roster h cue).or (told? roster h speech) := by
  rw [told?, directivesFor_append, Chunk.lastSpelling_append, directivesFor, directivesFor,
    List.append_nil]
  rfl

theorem tells?_of_ne (other : c.voice ≠ h) : c.tells? roster h cue = none := by
  rw [tells?, directivesOf, if_neg other]
  rfl

/-- A cue that turns spelling on or off tells so to the active voice. -/
theorem tells?_spelling (chunk : roster.engine c.voice = .chunk) (on : Bool) :
    c.tells? roster c.voice (.spelling on) = some (if on then spellWord else normalWord) := by
  have engine : (roster.voice c.voice).engine = .chunk := chunk
  rw [tells?, directivesOf, if_pos rfl]
  simp only [chunks, engine]
  cases on <;> rfl

/-- A text tells the voice to spell if that is due, unless the text is blank. -/
theorem tells?_text (chunk : roster.engine c.voice = .chunk) (t : Text) :
    c.tells? roster c.voice (.text t) =
      if c.spellDue = true ∧ (Text.trim t).isEmpty = false then some spellWord else none := by
  have engine : (roster.voice c.voice).engine = .chunk := chunk
  rw [tells?, directivesOf, if_pos rfl]
  simp only [chunks, engine]
  cases blank : (Text.trim t).isEmpty with
  | true => simp [Chunk.lastSpelling]
  | false =>
    cases due : c.spellDue with
    | true => simp; rfl
    | false => simp; rfl

/-- Other cues tell nothing of spelling. -/
theorem tells?_other (chunk : roster.engine c.voice = .chunk) (steady : ∀ on, cue ≠ .spelling on)
    (silent : ∀ t, cue ≠ .text t) : c.tells? roster c.voice cue = none := by
  have engine : (roster.voice c.voice).engine = .chunk := chunk
  rw [tells?, directivesOf, if_pos rfl]
  cases cue with
  | spelling on => exact absurd rfl (steady on)
  | text t => exact absurd rfl (silent t)
  | bookmark id =>
    simp only [chunks, engine]
    exact Chunk.lastSpelling_of_ne (by simp)
  | rate setting =>
    simp only [chunks, engine]
    exact Chunk.lastSpelling_of_ne (by simp)
  | pitch setting =>
    simp only [chunks, engine]
    exact Chunk.lastSpelling_of_ne (by simp)
  | volume setting =>
    simp only [chunks, engine]
    exact Chunk.lastSpelling_of_ne (by simp)
  | _ => simp only [chunks, engine]; rfl

/-! ## Voices that know, and voices that do not -/

/-- What the active voice knows of spelling, where a speech has been read. -/
structure Informed (roster : Roster H) (speech : Speech) : Prop where
  /-- A voice has only to be told to spell while texts are spelled. -/
  due : ((start roster).after roster speech).spellDue = true →
    ((start roster).after roster speech).spelling = true
  /-- While texts are spelled, a chunk voice has yet to be told so, or it was told. -/
  told : ((start roster).after roster speech).spelling = true →
    roster.engine ((start roster).after roster speech).voice = .chunk →
      ((start roster).after roster speech).spellDue = true ∨
        told? roster ((start roster).after roster speech).voice speech = some spellWord

theorem after_snoc (c : Cursor H) (speech : Speech) (cue : Cue) :
    c.after roster (speech ++ [cue]) = (c.after roster speech).next roster cue :=
  after_append roster c speech [cue]

namespace Informed

theorem nil (roster : Roster H) : Informed roster [] where
  due due := nomatch due
  told spelling := nomatch spelling

/-- Every cue keeps the active voice informed. -/
theorem snoc {speech : Speech} (informed : Informed roster speech) (cue : Cue) :
    Informed roster (speech ++ [cue]) := by
  obtain ⟨due, told⟩ := informed
  constructor
  case due =>
    rw [after_snoc]
    generalize (start roster).after roster speech = c at due
    intro dueNow
    cases cue with
    | text t => exact due (Bool.and_eq_true_iff.1 dueNow).1
    | spelling on => cases dueNow
    | language code =>
      cases parts : c.parts roster (.language code) with
      | false =>
        rw [next_of_stays parts] at dueNow ⊢
        exact due dueNow
      | true =>
        obtain ⟨other, away⟩ := parts_language.1 parts
        simp only [next, turned, if_neg other, if_neg away] at dueNow ⊢
        exact (Bool.and_eq_true_iff.1 dueNow).1
    | _ => exact due dueNow
  case told =>
    rw [told?_append, after_snoc]
    generalize (start roster).after roster speech = c at told
    intro spelling chunk
    -- a cue that leaves the cursor's marks and voice alone and tells nothing changes nothing
    have kept (same : c.next roster cue = c) (tells : c.tells? roster c.voice cue = none) :
        (c.next roster cue).spellDue = true ∨
          (c.tells? roster (c.next roster cue).voice cue).or
            (told? roster (c.next roster cue).voice speech) = some spellWord := by
      rw [same] at spelling chunk ⊢
      rw [tells]
      exact told spelling chunk
    cases cue with
    | text t =>
      have tells := tells?_text (c := c) chunk t
      rcases told spelling chunk with due | before
      · cases blank : (Text.trim t).isEmpty with
        | true =>
          left
          exact Bool.and_eq_true_iff.2 ⟨due, blank⟩
        | false =>
          right
          change (c.tells? roster c.voice (.text t)).or _ = _
          rw [tells, if_pos ⟨due, blank⟩]
          rfl
      · right
        change (c.tells? roster c.voice (.text t)).or (told? roster c.voice speech) = _
        rw [tells, before]
        split <;> rfl
    | spelling on =>
      right
      have turnedOn : on = true := spelling
      have tells := tells?_spelling (c := c) chunk on
      change (c.tells? roster c.voice (.spelling on)).or _ = _
      rw [tells, turnedOn]
      rfl
    | language code =>
      cases parts : c.parts roster (.language code) with
      | false =>
        rw [next_of_stays parts] at spelling chunk ⊢
        have tells : c.tells? roster c.voice (.language code) = none :=
          tells?_other chunk (by simp) (by simp)
        change c.spellDue = true ∨ (c.tells? roster c.voice (.language code)).or _ = _
        rw [tells]
        exact told spelling chunk
      | true =>
        left
        obtain ⟨other, away⟩ := parts_language.1 parts
        simp only [next, turned, if_neg other, if_neg away] at spelling chunk ⊢
        exact Bool.and_eq_true_iff.2 ⟨spelling, decide_eq_true chunk⟩
    | _ => exact kept rfl (tells?_other (c := c) chunk (by simp) (by simp))

end Informed

theorem informed (roster : Roster H) (speech : Speech) : Informed roster speech := by
  induction speech using List.reverseRecOn with
  | nil => exact .nil roster
  | append_singleton speech cue ih => exact ih.snoc cue

/-- While texts are not spelled, only a cue that turns spelling on or off tells a voice anything. -/
theorem tells?_unspelled {speech : Speech} {cue : Cue} (chunk : roster.engine h = .chunk)
    (unspelled : ((start roster).after roster speech).spelling = false)
    (steady : ∀ on, cue ≠ .spelling on) :
    ((start roster).after roster speech).tells? roster h cue = none := by
  have due := (informed roster speech).due
  generalize (start roster).after roster speech = c at unspelled due
  by_cases here : c.voice = h
  · subst here
    cases cue with
    | text t =>
      rw [tells?_text chunk, if_neg]
      rintro ⟨dueNow, -⟩
      rw [due dueNow] at unspelled
      cases unspelled
    | _ => exact tells?_other chunk steady (by simp)
  · exact tells?_of_ne here

/-- What a cue tells is one of two words. -/
theorem tells?_mem (chunk : roster.engine h = .chunk) (c : Cursor H) (cue : Cue) :
    c.tells? roster h cue = some spellWord ∨ c.tells? roster h cue = some normalWord ∨
      c.tells? roster h cue = none := by
  by_cases here : c.voice = h
  · subst here
    cases cue with
    | spelling on =>
      rw [tells?_spelling chunk]
      cases on with
      | true => exact Or.inl rfl
      | false => exact Or.inr (Or.inl rfl)
    | text t =>
      rw [tells?_text chunk]
      split
      · exact Or.inl rfl
      · exact Or.inr (Or.inr rfl)
    | _ => exact Or.inr (Or.inr (tells?_other chunk (by simp) (by simp)))
  · exact Or.inr (Or.inr (tells?_of_ne here))

/-- So is what a voice was told last. -/
theorem told?_mem (chunk : roster.engine h = .chunk) (speech : Speech) :
    told? roster h speech = some spellWord ∨ told? roster h speech = some normalWord ∨
      told? roster h speech = none := by
  induction speech using List.reverseRecOn with
  | nil => exact Or.inr (Or.inr rfl)
  | append_singleton speech cue ih =>
    rw [told?_append]
    rcases tells?_mem chunk ((start roster).after roster speech) cue with spell | normal | nothing
    · rw [spell]
      exact Or.inl rfl
    · rw [normal]
      exact Or.inr (Or.inl rfl)
    · rw [nothing]
      exact ih

/-- Spelling was last turned off while another voice was active, and the given voice had been told
to spell by then. -/
def TurnedOffUnheard (roster : Roster H) (h : H) (speech : Speech) : Prop :=
  ∃ before since, speech = before ++ .spelling false :: since ∧
    (∀ on, .spelling on ∉ since) ∧
    ((start roster).after roster before).voice ≠ h ∧ told? roster h before = some spellWord

theorem turnedOffUnheard_snoc {speech : Speech} {cue : Cue} (steady : ∀ on, cue ≠ .spelling on) :
    TurnedOffUnheard roster h (speech ++ [cue]) ↔ TurnedOffUnheard roster h speech := by
  constructor
  · rintro ⟨before, since, split, none, away, told⟩
    rcases List.eq_nil_or_concat since with rfl | ⟨earlier, last, rfl⟩
    · obtain ⟨-, same⟩ := List.append_inj' split rfl
      exact absurd (List.cons.inj same).1 (steady false)
    · have same : speech ++ [cue] = (before ++ .spelling false :: earlier) ++ [last] := by
        rw [split]
        simp
      obtain ⟨rfl, -⟩ := List.append_inj' same rfl
      refine ⟨before, earlier, rfl, fun on member => ?_, away, told⟩
      exact none on (by simp [member])
  · rintro ⟨before, since, rfl, none, away, told⟩
    refine ⟨before, since ++ [cue], by simp, fun on member => ?_, away, told⟩
    rcases List.mem_append.1 member with early | last
    · exact none on early
    · exact steady on (List.mem_singleton.1 last).symm

theorem turnedOffUnheard_spelling {speech : Speech} :
    TurnedOffUnheard roster h (speech ++ [.spelling false]) ↔
      ((start roster).after roster speech).voice ≠ h ∧ told? roster h speech = some spellWord := by
  constructor
  · rintro ⟨before, since, split, none, away, told⟩
    rcases List.eq_nil_or_concat since with rfl | ⟨earlier, last, rfl⟩
    · obtain ⟨rfl, -⟩ := List.append_inj' split rfl
      exact ⟨away, told⟩
    · have same : speech ++ [.spelling false] =
          (before ++ .spelling false :: earlier) ++ [last] := by
        rw [split]
        simp
      obtain ⟨-, final⟩ := List.append_inj' same rfl
      refine absurd ?_ (none false)
      rw [(List.cons.inj final).1, List.concat_eq_append]
      exact List.mem_append_right earlier List.mem_cons_self
  · rintro ⟨away, told⟩
    exact ⟨speech, [], rfl, fun _ member => (nomatch member), away, told⟩

/-- While texts are not spelled, a chunk voice has last been told to spell just where spelling was
turned off unheard by it. -/
theorem told?_eq_spellWord_iff (chunk : roster.engine h = .chunk) {speech : Speech}
    (unspelled : ((start roster).after roster speech).spelling = false) :
    told? roster h speech = some spellWord ↔ TurnedOffUnheard roster h speech := by
  induction speech using List.reverseRecOn with
  | nil =>
    constructor
    · intro told
      cases told
    · rintro ⟨before, since, split, -⟩
      cases before <;> cases split
  | append_singleton speech cue ih =>
    by_cases marks : ∃ on, cue = .spelling on
    · obtain ⟨on, rfl⟩ := marks
      have off : on = false := by
        rw [after_snoc] at unspelled
        exact unspelled
      subst off
      rw [turnedOffUnheard_spelling, told?_append]
      by_cases here : ((start roster).after roster speech).voice = h
      · -- the active voice is told that spelling is off
        subst here
        rw [tells?_spelling chunk]
        constructor
        · intro told
          cases told
        · rintro ⟨away, -⟩
          exact absurd rfl away
      · rw [tells?_of_ne here]
        exact ⟨fun told => ⟨here, told⟩, And.right⟩
    · have steady : ∀ on, cue ≠ .spelling on := fun on same => marks ⟨on, same⟩
      have before : ((start roster).after roster speech).spelling = false := by
        rw [after_snoc] at unspelled
        generalize (start roster).after roster speech = c at unspelled
        cases cue with
        | spelling on => exact absurd rfl (steady on)
        | language code =>
          cases parts : c.parts roster (.language code) with
          | false =>
            rw [next_of_stays parts] at unspelled
            exact unspelled
          | true =>
            obtain ⟨other, away⟩ := parts_language.1 parts
            simpa only [next, turned, if_neg other, if_neg away] using unspelled
        | _ => exact unspelled
      rw [turnedOffUnheard_snoc steady, told?_append, tells?_unspelled chunk before steady]
      exact ih before

end Cursor

/-! ## Where a text is delivered -/

namespace State

variable {s : State H}

/-- The chunks of the payload in front of a text that comes next. -/
def front (s : State H) : List Chunk :=
  s.chunks ++ if s.spellDue then [.directive (.spelling true)] else []

theorem payloadsTo_flushCalls (buffered : s.Buffered roster)
    (chunk : roster.engine s.voice = .chunk) {t : Text} (member : .text t ∈ s.chunks)
    (spoken : t ≠ []) : payloadsTo s.voice (s.flushCalls roster) = [Chunk.frame s.chunks] := by
  have payload : s.payload roster = Chunk.frame s.chunks := by rw [State.payload, chunk]
  have present := Chunk.frame_ne_nil (buffered.escapeFree chunk) member spoken
  have pending : s.pending = true := by
    cases idle : s.pending with
    | true => rfl
    | false =>
      rw [buffered.idle_chunks idle] at member
      cases member
  unfold flushCalls payloadsTo
  rw [payload, if_pos ⟨pending, present⟩]
  simp [payloadFor?]

/-- What is buffered for a chunk voice begins its next payload. -/
theorem exists_payloadsTo_callsToEnd (buffered : s.Buffered roster)
    (chunk : roster.engine s.voice = .chunk) {t : Text} (member : .text t ∈ s.chunks)
    (spoken : t ≠ []) (speech : Speech) :
    ∃ behind later,
      payloadsTo s.voice (s.callsToEnd roster speech) = Chunk.frame (s.chunks ++ behind) :: later ∧
        Chunk.EscapeFree (s.chunks ++ behind) := by
  induction speech generalizing s with
  | nil =>
    refine ⟨[], [], ?_, ?_⟩
    · rw [List.append_nil]
      exact payloadsTo_flushCalls buffered chunk member spoken
    · rw [List.append_nil]
      exact buffered.escapeFree chunk
  | cons cue rest ih =>
    rw [callsToEnd_cons, payloadsTo_append, calls_eq, payloadsTo_append, payloadsTo_signals,
      List.append_nil]
    cases parts : s.cursor.parts roster cue with
    | true =>
      refine ⟨[], payloadsTo s.voice ((s.next roster cue).callsToEnd roster rest), ?_, ?_⟩
      · rw [if_pos rfl, payloadsTo_flushCalls buffered chunk member spoken, List.append_nil]
        rfl
      · rw [List.append_nil]
        exact buffered.escapeFree chunk
    | false =>
      have voice : (s.next roster cue).voice = s.voice := by
        have moved := congrArg Cursor.voice (cursor_next buffered.due cue)
        rwa [Cursor.voice_next_of_inner parts] at moved
      have grown : (s.next roster cue).chunks = s.chunks ++ s.cursor.chunks roster cue := by
        rw [chunks_next buffered.due, if_neg (by simp [parts])]
      have still : .text t ∈ (s.next roster cue).chunks := by
        rw [grown]
        exact List.mem_append_left _ member
      obtain ⟨behind, later, sent, free⟩ :=
        ih (buffered.next cue) (by rw [voice, chunk]) still
      rw [voice, grown, List.append_assoc] at sent
      rw [grown, List.append_assoc] at free
      exact ⟨s.cursor.chunks roster cue ++ behind, later, sent, free⟩

theorem chunks_next_text (buffered : s.Buffered roster) (chunk : roster.engine s.voice = .chunk)
    {t : Text} (spoken : Cursor.spoken s.spelling t ≠ []) :
    (s.next roster (.text t)).chunks = s.front ++ [.text (Cursor.spoken s.spelling t)] := by
  have present : (Text.trim t).isEmpty = false :=
    Bool.eq_false_iff.2 fun blank => spoken (Cursor.spoken_of_blank blank)
  have engine : (roster.voice s.cursor.voice).engine = .chunk := chunk
  rw [chunks_next buffered.due, if_neg (by simp [Cursor.parts])]
  simp only [Cursor.chunks, engine, front, present]
  change s.chunks ++ (if false = true then _ else if s.spellDue = true then _ else _) = _
  cases due : s.spellDue with
  | true => simp [cursor]
  | false => simp [cursor]

end State

section AtText

variable (roster) (p : Speech)

/-- A text joins what is buffered, and begins or goes on with the next payload. -/
theorem payloadsTo_deliver_text (q : Speech) (t : Text)
    (chunk : roster.engine ((State.start roster).after roster p).voice = .chunk)
    (spoken : Cursor.spoken ((State.start roster).after roster p).spelling t ≠ []) :
    let s := (State.start roster).after roster p
    ∃ payload behind later,
      payloadsTo s.voice (deliver roster (p ++ .text t :: q)) =
          payloadsTo s.voice ((State.start roster).callsDuring roster p) ++ payload :: later ∧
        Frames payload (s.front ++ .text (Cursor.spoken s.spelling t) :: behind) := by
  intro s
  have buffered : s.Buffered roster := (State.Buffered.start roster).after p
  have chunks := State.chunks_next_text buffered chunk spoken
  have voice : (s.next roster (.text t)).voice = s.voice :=
    congrArg Cursor.voice (State.cursor_next buffered.due (.text t))
  have member : .text (Cursor.spoken s.spelling t) ∈ (s.next roster (.text t)).chunks := by
    rw [chunks]
    exact List.mem_append_right _ List.mem_cons_self
  have engine : roster.engine (s.next roster (.text t)).voice = .chunk := by rw [voice, chunk]
  obtain ⟨behind, later, sent, free⟩ :=
    State.exists_payloadsTo_callsToEnd (buffered.next (.text t)) engine member spoken q
  rw [chunks, List.append_assoc, List.singleton_append] at sent free
  refine ⟨_, behind, later, ?_, frames_frame free⟩
  have parts : deliver roster (p ++ .text t :: q) =
      (State.start roster).callsDuring roster p ++
        (s.next roster (.text t)).callsToEnd roster q := by
    rw [deliver, State.callsToEnd, State.callsDuring_append, State.after_append,
      List.append_assoc]
    exact congrArg ((State.start roster).callsDuring roster p ++ ·)
      (State.callsToEnd_cons roster s (.text t) q)
  rw [parts, payloadsTo_append, ← voice, sent]

/-- What the active voice was told so far, and in the payload in progress. -/
theorem lastSpelling_front
    (chunk : roster.engine ((State.start roster).after roster p).voice = .chunk) :
    let s := (State.start roster).after roster p
    Chunk.lastSpelling (directivesTo s.voice ((State.start roster).callsDuring roster p) ++
        s.front.filterMap Chunk.directive?) =
      (if s.spellDue then some spellWord else none).or (Cursor.told? roster s.voice p) := by
  intro s
  have received := State.directivesTo_callsDuring (.start roster) chunk p
  have nothing : (State.start roster).directivesHeld s.voice = [] := by
    unfold State.directivesHeld
    split <;> rfl
  have held : s.directivesHeld s.voice = s.chunks.filterMap Chunk.directive? := if_pos rfl
  rw [nothing, List.nil_append, held] at received
  calc Chunk.lastSpelling (directivesTo s.voice ((State.start roster).callsDuring roster p) ++
          s.front.filterMap Chunk.directive?)
      = Chunk.lastSpelling ((directivesTo s.voice ((State.start roster).callsDuring roster p) ++
          s.chunks.filterMap Chunk.directive?) ++
            (if s.spellDue then [.directive (.spelling true)] else []).filterMap
              Chunk.directive?) := by
        rw [List.append_assoc, ← List.filterMap_append]
        rfl
    _ = (if s.spellDue then some spellWord else none).or (Cursor.told? roster s.voice p) := by
        rw [received, Chunk.lastSpelling_append]
        cases s.spellDue <;> rfl

/-- A machine stands where its cursor stands. -/
theorem cursor_after_start :
    ((State.start roster).after roster p).cursor = (Cursor.start roster).after roster p :=
  State.cursor_after (.start roster) p

/-- While texts are spelled, a chunk voice was told so, or is told with the next text. -/
theorem told_of_spelled
    (chunk : roster.engine ((State.start roster).after roster p).voice = .chunk)
    (spelled : ((State.start roster).after roster p).spelling = true) :
    let s := (State.start roster).after roster p
    (if s.spellDue then some spellWord else none).or (Cursor.told? roster s.voice p) =
      some spellWord := by
  intro s
  have informed := (Cursor.informed roster p).told
  rw [← cursor_after_start] at informed
  rcases informed spelled chunk with due | before
  · have dueHere : s.spellDue = true := due
    rw [if_pos dueHere]
    rfl
  · have beforeHere : Cursor.told? roster s.voice p = some spellWord := before
    rw [beforeHere]
    cases s.spellDue <;> rfl

/-- A voice has still to be told to spell only while texts are spelled. -/
theorem spelling_of_due (due : ((State.start roster).after roster p).spellDue = true) :
    ((State.start roster).after roster p).spelling = true := by
  have informed := (Cursor.informed roster p).due
  rw [← cursor_after_start] at informed
  exact informed due

/-- While texts are not spelled, no voice has still to be told to spell. -/
theorem spellDue_of_unspelled
    (unspelled : ((State.start roster).after roster p).spelling = false) :
    ((State.start roster).after roster p).spellDue = false := by
  refine Bool.eq_false_iff.2 fun due => ?_
  have spelled := spelling_of_due roster p due
  rw [unspelled] at spelled
  cases spelled

/-- While texts are not spelled, a chunk voice was last told to spell just where spelling was
turned off while another voice was active. -/
theorem told?_of_unspelled
    (chunk : roster.engine ((State.start roster).after roster p).voice = .chunk)
    (unspelled : ((State.start roster).after roster p).spelling = false) :
    let s := (State.start roster).after roster p
    Cursor.told? roster s.voice p = some spellWord ↔
      ∃ before since, p = before ++ .spelling false :: since ∧
        (∀ on, .spelling on ∉ since) ∧
        ((State.start roster).after roster before).voice ≠ s.voice ∧
        Chunk.lastSpelling (directivesTo s.voice (deliver roster before)) = some spellWord := by
  intro s
  have unspelledThere : ((Cursor.start roster).after roster p).spelling = false := by
    rw [← cursor_after_start]
    exact unspelled
  refine (Cursor.told?_eq_spellWord_iff chunk unspelledThere).trans ?_
  unfold Cursor.TurnedOffUnheard
  have voices (before : Speech) : ((Cursor.start roster).after roster before).voice =
      ((State.start roster).after roster before).voice := by
    rw [← cursor_after_start roster before]
    rfl
  have heard (before : Speech) :
      Chunk.lastSpelling (directivesTo s.voice (deliver roster before)) =
        Cursor.told? roster s.voice before := by
    rw [directivesTo_deliver chunk]
    rfl
  simp only [voices, heard]
  exact Iff.rfl

end AtText

/-- **What a voice was told where a text is delivered.** A text for a chunk voice, `front` of its
payload ahead of it, finds the voice told to spell while texts are spelled. While they are not, it
finds the voice told to spell just where spelling was last turned off while another voice was
active, and otherwise told that texts are not spelled, or told nothing. -/
theorem told_at_text (roster : Roster H) (p q : Speech) (t : Text)
    (chunk : roster.engine ((State.start roster).after roster p).voice = .chunk)
    (spoken : Cursor.spoken ((State.start roster).after roster p).spelling t ≠ []) :
    let s := (State.start roster).after roster p
    let earlier := (State.start roster).callsDuring roster p
    let told := Chunk.lastSpelling
      (directivesTo s.voice earlier ++ s.front.filterMap Chunk.directive?)
    (∃ payload behind later,
      payloadsTo s.voice (deliver roster (p ++ .text t :: q)) =
          payloadsTo s.voice earlier ++ payload :: later ∧
        Frames payload (s.front ++ .text (Cursor.spoken s.spelling t) :: behind)) ∧
      (s.spelling = true → told = some spellWord) ∧
      (s.spelling = false →
        (told = some spellWord ∨ told = some normalWord ∨ told = none) ∧
          (told = some spellWord ↔
            ∃ before since, p = before ++ .spelling false :: since ∧
              (∀ on, .spelling on ∉ since) ∧
              ((State.start roster).after roster before).voice ≠ s.voice ∧
              Chunk.lastSpelling (directivesTo s.voice (deliver roster before)) =
                some spellWord)) := by
  intro s earlier told
  have toldSoFar : told =
      (if s.spellDue then some spellWord else none).or (Cursor.told? roster s.voice p) :=
    lastSpelling_front roster p chunk
  refine ⟨payloadsTo_deliver_text roster p q t chunk spoken, fun spelled => ?_,
    fun unspelled => ?_⟩
  · rw [toldSoFar]
    exact told_of_spelled roster p chunk spelled
  · have due : s.spellDue = false := spellDue_of_unspelled roster p unspelled
    rw [toldSoFar, due]
    exact ⟨Cursor.told?_mem chunk p, told?_of_unspelled roster p chunk unspelled⟩

/-- An English voice of the chunk protocol, the default, and a German one that spells by itself. -/
def speller : Roster Bool where
  voice german :=
    { name := if german then "de" else "en"
      engine := if german then .plain else .chunk
      language := if german then "de" else "en"
      pitch := 50
      rate := 50
      volume := 50 }
  default := false
  defaultLanguage := "en"
  voiceFor code := if code = "en" then some false else if code = "de" then some true else none

/-- Spelling is turned on for the English voice, and off while the German one is active. -/
def interrupted : Speech :=
  [.spelling true, .text "ab".toList, .language (some "de"), .spelling false,
    .language (some "en")]

/-- The English voice is told to spell, and spells on when it comes back. -/
theorem told_at_text_interrupted :
    let s := (State.start speller).after speller interrupted
    let earlier := (State.start speller).callsDuring speller interrupted
    let told := Chunk.lastSpelling
      (directivesTo s.voice earlier ++ s.front.filterMap Chunk.directive?)
    s.spelling = false ∧ told = some spellWord := by
  have off : ((State.start speller).after speller interrupted).spelling = false := by decide
  refine ⟨off, ?_⟩
  have spoken :=
    told_at_text speller interrupted [] "cd".toList (by decide) (by decide +kernel)
  refine (spoken.2.2 off).2.2 ⟨[.spelling true, .text "ab".toList, .language (some "de")],
    [.language (some "en")], rfl, by simp, by decide, ?_⟩
  decide +kernel

/-- A text that is not to be spelled goes to a voice that was last told to spell. -/
theorem spelled_unspelled :
    ((State.start speller).after speller interrupted).spelling = false ∧
      deliver speller (interrupted ++ [.text "cd".toList]) =
        [⟨false, .speak "\x1b\\tn=spell\\  ab".toList⟩, ⟨false, .speak "cd".toList⟩] ∧
      Chunk.lastSpelling
        (directivesTo false (deliver speller (interrupted ++ [.text "cd".toList]))) =
          some spellWord := by
  decide +kernel

end Delivery

end Polyvoice
