import Mathlib.Data.List.Induction
import Polyvoice.Proofs.Delivery.Enclosing
import Polyvoice.Proofs.Delivery.Homing
import Polyvoice.Proofs.Markup.OpenTags

/-!
# The settings around a character are those in force

What stands around a character that a markup voice says is a matter of the cues in front of it
(`InForce`). Whether it is spelled is a matter of the last cue that turned spelling on or off.
Volume and rate are a matter of the last cues for them since the voice took over
(`State.sinceTakeover?`). And a voice that took over has a pitch at all times. This holds of every
character of every payload, for the elements, names and integers that a reader takes from the tags
around it (`enclosures_deliver`).
-/

namespace Polyvoice

/-! ## What cues told last -/

namespace Cue

/-- The volume that a cue asks for. -/
def volume? : Cue → Option Prosody
  | .volume setting => some setting
  | _ => none

/-- The rate that a cue asks for. -/
def rate? : Cue → Option Prosody
  | .rate setting => some setting
  | _ => none

/-- The characters that a cue has a markup voice say, each with the phones of the pronunciation that
it is part of. Where the phonetic letters cannot be read, the words stand for themselves. -/
def characters : Cue → List (Char × Option Text)
  | .text t => t.map (·, none)
  | .phonetic ipa fallback => fallback.map (·, (Phones.ofIpa ipa).toOption)
  | _ => []

theorem said_of_mem_characters {cue : Cue} {entry : Char × Option Text}
    (member : entry ∈ cue.characters) :
    (∃ t, cue = .text t) ∨ ∃ ipa fallback, cue = .phonetic ipa fallback := by
  cases cue with
  | text t => exact Or.inl ⟨t, rfl⟩
  | phonetic ipa fallback => exact Or.inr ⟨ipa, fallback, rfl⟩
  | _ => cases member

end Cue

/-- What is told by the last of the cues that tell anything. -/
def Speech.last? {α : Type} (tells : Cue → Option α) (speech : Speech) : Option α :=
  speech.reverse.findSome? tells

theorem Speech.last?_snoc {α : Type} (tells : Cue → Option α) (speech : Speech) (cue : Cue) :
    last? tells (speech ++ [cue]) = (tells cue).or (last? tells speech) := by
  rw [last?, List.reverse_append, List.reverse_singleton, List.singleton_append,
    List.findSome?_cons]
  cases tells cue <;> rfl

/-- What is made of it, cue by cue. -/
theorem Speech.bind_last?_snoc {α β : Type} (tells : Cue → Option α) (speech : Speech) (cue : Cue)
    (f : α → Option β) :
    (last? tells (speech ++ [cue])).bind f = (tells cue).elim ((last? tells speech).bind f) f := by
  rw [last?_snoc]
  cases tells cue <;> rfl

/-! ## A pitch is staged -/

namespace Markup.Staging

/-- A pitch is staged, and open unless elements have to be opened anew. -/
structure Pitched (staging : Staging) : Prop where
  staged : .pitch ∈ staging.staged.map Prod.fst
  opened : staging.dirty = false → .pitch ∈ staging.opened

namespace Pitched

variable {staging : Staging}

theorem plan (pitched : staging.Pitched) (element : Element) (attributes : Attributes) :
    (staging.plan element attributes).Pitched where
  staged := by
    change .pitch ∈ (assign element attributes staging.staged).map Prod.fst
    rw [map_fst_assign]
    split
    · exact pitched.staged
    · exact List.mem_append_left _ pitched.staged
  opened := pitched.opened

theorem stage (pitched : staging.Pitched) (element : Element) (attributes : Attributes) :
    (staging.stage element attributes).Pitched where
  staged := (pitched.plan element attributes).staged
  opened := nofun

theorem drop (pitched : staging.Pitched) {element : Element} (other : element ≠ .pitch) :
    (staging.drop element).Pitched where
  staged := by
    obtain ⟨entry, member, pitch⟩ := List.mem_map.1 pitched.staged
    have kept : decide (entry.1 ≠ element) = true := by
      rw [pitch]
      exact decide_eq_true other.symm
    exact List.mem_map.2 ⟨entry, List.mem_filter.2 ⟨member, kept⟩, pitch⟩
  opened := nofun

theorem emitted (pitched : staging.Pitched) : staging.emitted.Pitched := by
  unfold Staging.emitted
  split
  · exact ⟨pitched.staged, fun _ => pitched.staged⟩
  · exact pitched

theorem closed (pitched : staging.Pitched) : staging.closed.Pitched :=
  ⟨pitched.staged, nofun⟩

end Pitched

end Markup.Staging

namespace Delivery

open Markup (Entries bodies entriesBehind pronunciationBody)

variable {H : Type} {roster : Roster H}

namespace State

variable {s : State H} {cue : Cue}

/-- A markup voice that takes over has its own pitch. -/
theorem pitched_takenOver {h : H} (markup : roster.engine h = .markup) :
    (s.takenOver roster h).staging.Pitched := by
  have fresh : (Markup.Staging.fresh.plan .pitch (basePitch roster h)).Pitched :=
    ⟨List.mem_singleton.2 rfl, nofun⟩
  simp only [takenOver, markup]
  split
  · exact fresh.plan _ _
  · exact fresh

/-- No cue takes the pitch away. -/
theorem pitched_stagingFor (pitched : s.staging.Pitched) : (s.stagingFor roster cue).Pitched := by
  have opens : (s.openElements roster).staging.Pitched := by
    unfold openElements
    split
    · exact pitched.emitted.plan _ _
    · exact pitched
  have setting (element : Markup.Element) (other : element ≠ .pitch) (key : String)
      (setting : Prosody) (base : UInt8) :
      (s.stageSetting element key setting base).staging.Pitched := by
    unfold stageSetting
    split
    · exact pitched.drop other
    · exact pitched.stage _ _
  unfold stagingFor
  dsimp only
  split
  · exact opens
  · exact opens
  · rename_i on _
    cases on with
    | true => exact pitched.stage _ _
    | false => exact pitched.drop nofun
  · exact pitched.stage _ _
  · exact setting .volume nofun _ _ _
  · exact setting .rate nofun _ _ _
  · exact pitched

end State

variable [DecidableEq H]

/-! ## Since a voice became active -/

namespace State

/-- The cues behind the last one that made another voice active, if there is one. -/
def sinceTakeover? (roster : Roster H) (s : State H) : Speech → Option Speech
  | [] => none
  | cue :: rest =>
    ((s.next roster cue).sinceTakeover? roster rest).or
      (if (s.next roster cue).voice = s.voice then none else some rest)

theorem sinceTakeover?_snoc (s : State H) (before : Speech) (cue : Cue) :
    s.sinceTakeover? roster (before ++ [cue]) =
      if ((s.after roster before).next roster cue).voice = (s.after roster before).voice then
        (s.sinceTakeover? roster before).map (· ++ [cue])
      else some [] := by
  induction before generalizing s with
  | nil => rfl
  | cons first rest ih =>
    have later := ih (s.next roster first)
    have reached : s.after roster (first :: rest) = (s.next roster first).after roster rest := rfl
    rw [List.cons_append, sinceTakeover?, later, sinceTakeover?, reached]
    split
    · cases (s.next roster first).sinceTakeover? roster rest with
      | some since => rfl
      | none =>
        rw [Option.none_or, Option.map_none, Option.none_or]
        split
        · rfl
        · rfl
    · rfl

end State

/-- The cues since the voice that is active behind them became active. -/
def tenure (roster : Roster H) (before : Speech) : Speech :=
  ((State.start roster).sinceTakeover? roster before).getD before

/-! ## Behind some cues -/

/-- The state behind some cues. -/
def State.behind (roster : Roster H) (before : Speech) : State H :=
  (State.start roster).after roster before

/-- The bearing behind some cues. -/
def Bearing.behind (roster : Roster H) (before : Speech) : Bearing H :=
  (Bearing.start roster).after roster before

theorem Bearing.behind_snoc (before : Speech) (cue : Cue) :
    Bearing.behind roster (before ++ [cue]) = (Bearing.behind roster before).next roster cue :=
  Bearing.after_append _ before [cue]

namespace State

theorem behind_snoc (before : Speech) (cue : Cue) :
    behind roster (before ++ [cue]) = (behind roster before).next roster cue :=
  after_append roster _ before [cue]

theorem buffered_behind (roster : Roster H) (before : Speech) :
    (behind roster before).Buffered roster :=
  (Buffered.start roster).after before

theorem nested_behind (roster : Roster H) (before : Speech) : (behind roster before).Nested :=
  (Nested.start roster).after (.start roster) before

theorem agrees_behind (roster : Roster H) (before : Speech) :
    Agrees roster (behind roster before) (Bearing.behind roster before) := by
  induction before using List.reverseRecOn with
  | nil => exact .start roster
  | append_singleton before cue ih =>
    rw [behind_snoc, Bearing.behind_snoc]
    exact ih.next (buffered_behind roster before) (nested_behind roster before) cue

end State

theorem tenure_snoc (before : Speech) (cue : Cue) :
    tenure roster (before ++ [cue]) =
      if (State.behind roster (before ++ [cue])).voice = (State.behind roster before).voice then
        tenure roster before ++ [cue]
      else [] := by
  rw [State.behind_snoc, State.behind, tenure, State.sinceTakeover?_snoc]
  split
  · unfold tenure
    cases (State.start roster).sinceTakeover? roster before <;> rfl
  · rfl

/-! ### Volume and rate -/

namespace Bearing

variable {b : Bearing H} {cue : Cue}

/-- A cue that keeps a markup voice active changes the settings that it is a cue for. -/
theorem settings_next (markup : roster.engine b.voice = .markup)
    (same : (b.next roster cue).voice = b.voice) :
    (b.next roster cue).volume = cue.volume?.elim b.volume (asked (roster.voice b.voice).volume) ∧
      (b.next roster cue).rate = cue.rate?.elim b.rate (asked (roster.voice b.voice).rate) := by
  have engine : (roster.voice b.voice).engine = .markup := markup
  cases cue with
  | language code =>
    rw [toCursor_next] at same
    rw [next_of_stays same]
    exact ⟨rfl, rfl⟩
  | _ =>
    simp only [next, engine]
    exact ⟨rfl, rfl⟩

/-- A cue that makes another voice active leaves no settings. -/
theorem settings_next_of_leaves (leaves : (b.next roster cue).voice ≠ b.voice) :
    (b.next roster cue).volume = none ∧ (b.next roster cue).rate = none := by
  rw [toCursor_next] at leaves
  rcases cue.language_or_still with ⟨code, rfl⟩ | still
  · rw [next_of_leaves leaves]
    exact ⟨rfl, rfl⟩
  · exact absurd (b.toCursor.next_of_still still).1 leaves

end Bearing

/-- The value of a setting of the active voice, as it was last asked for since the voice became
active. There is none if nothing or the base value was asked for. -/
def settingInForce (roster : Roster H) (before : Speech) (asks : Cue → Option Prosody)
    (base : Voice → UInt8) : Option Int :=
  ((tenure roster before).last? asks).bind
    (Bearing.asked (base (roster.voice (State.behind roster before).voice)))

theorem settingInForce_snoc (before : Speech) (cue : Cue) (asks : Cue → Option Prosody)
    (base : Voice → UInt8) :
    settingInForce roster (before ++ [cue]) asks base =
      if (State.behind roster (before ++ [cue])).voice = (State.behind roster before).voice then
        (asks cue).elim (settingInForce roster before asks base)
          (Bearing.asked (base (roster.voice (State.behind roster before).voice)))
      else none := by
  rw [settingInForce, tenure_snoc]
  split
  · rename_i same
    rw [Speech.bind_last?_snoc, same]
    rfl
  · rfl

/-- A bearing at a markup voice has the settings in force. -/
theorem Bearing.settings_behind (before : Speech)
    (markup : roster.engine (behind roster before).voice = .markup) :
    (behind roster before).volume = settingInForce roster before Cue.volume? Voice.volume ∧
      (behind roster before).rate = settingInForce roster before Cue.rate? Voice.rate := by
  induction before using List.reverseRecOn with
  | nil => exact ⟨rfl, rfl⟩
  | append_singleton before cue ih =>
    have here : (State.behind roster before).voice = (behind roster before).voice :=
      (State.agrees_behind roster before).voice_eq
    have there : (State.behind roster (before ++ [cue])).voice =
        (behind roster (before ++ [cue])).voice :=
      (State.agrees_behind roster (before ++ [cue])).voice_eq
    rw [settingInForce_snoc, settingInForce_snoc, here, there]
    by_cases same : (behind roster (before ++ [cue])).voice = (behind roster before).voice
    · have markupBefore : roster.engine (behind roster before).voice = .markup := same ▸ markup
      obtain ⟨volume, rate⟩ := ih markupBefore
      rw [if_pos same, if_pos same, ← volume, ← rate]
      rw [behind_snoc] at same ⊢
      exact settings_next markupBefore same
    · rw [if_neg same, if_neg same]
      rw [behind_snoc] at same ⊢
      exact settings_next_of_leaves same

/-! ### Spelling and pitch -/

theorem Cursor.spelling_after_start (before : Speech) :
    ((Cursor.start roster).after roster before).spelling =
      (before.last? Cue.spelling?).getD false := by
  induction before using List.reverseRecOn with
  | nil => rfl
  | append_singleton before cue ih =>
    rw [Cursor.after_append, Speech.last?_snoc]
    refine (spelling_next_eq _ cue).trans ?_
    rw [ih]
    cases cue.spelling? <;> rfl

/-- A markup voice that took over has a pitch. -/
theorem State.pitched_behind (before : Speech)
    (took : ((State.start roster).sinceTakeover? roster before).isSome)
    (markup : roster.engine (behind roster before).voice = .markup) :
    (behind roster before).staging.Pitched := by
  induction before using List.reverseRecOn with
  | nil => cases took
  | append_singleton before cue ih =>
    have buffered := buffered_behind roster before
    have since : (State.start roster).sinceTakeover? roster (before ++ [cue]) =
        if ((behind roster before).next roster cue).voice = (behind roster before).voice then
          ((State.start roster).sinceTakeover? roster before).map (· ++ [cue])
        else some [] := sinceTakeover?_snoc _ before cue
    rw [behind_snoc] at markup ⊢
    -- a cue that keeps the voice keeps its pitch
    have kept (same : ((behind roster before).next roster cue).voice =
        (behind roster before).voice) : (behind roster before).staging.Pitched := by
      rw [since, if_pos same, Option.isSome_map] at took
      exact ih took (same ▸ markup)
    cases parts : (behind roster before).cursor.parts roster cue with
    | false =>
      have next := next_of_inner buffered.due parts
      have pitched := kept (by rw [next]; rfl)
      rw [next]
      exact pitched_stagingFor pitched
    | true =>
      rcases next_of_parts parts with flush | ⟨language, h, takes⟩
      · have pitched := kept (by rw [flush]; rfl)
        rw [flush] at markup ⊢
        have staging : ((behind roster before).flushed roster).staging =
            (behind roster before).staging.closed := if_pos markup
        rw [staging]
        exact pitched.closed
      · rw [takes] at markup ⊢
        rw [takenOver_voice] at markup
        exact pitched_takenOver markup

/-! ## Around a character -/

/-- The elements around a character are the settings in force behind the cues before it. -/
structure InForce (roster : Roster H) (before : Speech) (entries : Entries) : Prop where
  /-- No element stands inside one of its own kind. -/
  distinct : (entries.map Prod.fst).Nodup
  /-- The character is spelled if spelling was last turned on, whichever voice was active then. -/
  spell : entries.lookup .spell =
    if (before.last? Cue.spelling?).getD false then some [] else none
  volume : entries.lookup .volume =
    (settingInForce roster before Cue.volume? Voice.volume).map fun n => [("level", n)]
  rate : entries.lookup .rate =
    (settingInForce roster before Cue.rate? Voice.rate).map fun n => [("absspeed", n)]
  /-- A voice that took over has a pitch. -/
  pitch : ((State.start roster).sinceTakeover? roster before).isSome →
    ∃ n, entries.lookup .pitch = some [("absmiddle", n)]

/-- A character that a markup voice is asked to say. -/
structure Content (H : Type) where
  voice : H
  /-- The cues in front of the one that asks for it. -/
  before : Speech
  character : Char
  /-- The phones of the pronunciation that it is part of, if it is part of one. -/
  phones : Option Text

/-- The characters that a cue asks a markup voice to say, behind some cues. -/
def contentsOf (roster : Roster H) (before : Speech) (cue : Cue) : List (Content H) :=
  let h := (State.behind roster before).voice
  if roster.engine h = .markup then
    cue.characters.map fun (d, phones) =>
      { voice := h, before := before, character := d, phones := phones }
  else []

/-- The characters that a speech asks markup voices to say, behind some cues. -/
def contents (roster : Roster H) (before : Speech) : Speech → List (Content H)
  | [] => []
  | cue :: rest => contentsOf roster before cue ++ contents roster (before ++ [cue]) rest

/-- A character that is read is the one that was asked for, and around it stand the tags of the
settings in force, outside that of its pronunciation. They are the settings also as a reader takes
them from the tags: by the names of elements and attributes, and with the integers that are written
between the quotes. -/
def Wraps (roster : Roster H) (read : H × Char × List Text) (content : Content H) : Prop :=
  ∃ entries, InForce roster content.before entries ∧
    read = (content.voice, content.character,
      (content.phones.map pronunciationBody).toList ++ bodies entries) ∧
    (bodies entries).mapM Markup.opening? = some entries

omit [DecidableEq H] in
/-- What a cue has a markup voice say is in its pieces. -/
theorem Cursor.enclosed_pieces {c : Cursor H} {cue : Cue} (markup : roster.engine c.voice = .markup)
    (around : List Text) :
    Markup.enclosed around ((c.pieces roster cue).flatMap Markup.Piece.tokens) =
      cue.characters.map fun (d, phones) =>
        (d, (phones.map pronunciationBody).toList ++ around) := by
  have plain (t : Text) : Markup.enclosed around ([.text t].flatMap Markup.Piece.tokens) =
      (t.map fun d => (d, (none : Option Text))).map fun (d, phones) =>
        (d, (phones.map pronunciationBody).toList ++ around) := by
    rw [List.flatMap_singleton, Markup.Piece.tokens, Markup.enclosed_characters, List.map_map]
    rfl
  cases cue with
  | text t =>
    simp only [pieces, markup]
    exact plain t
  | phonetic ipa fallback =>
    simp only [pieces, markup, Cue.characters]
    cases Phones.ofIpa ipa with
    | ok phones =>
      dsimp only
      rw [List.flatMap_singleton, Markup.enclosed_pronunciation, List.map_map]
      rfl
    | error fault =>
      cases fallback with
      | nil => rfl
      | cons d rest => exact plain (d :: rest)
  | bookmark id =>
    simp only [pieces, markup]
    rfl
  | _ =>
    simp only [pieces, markup]
    rfl

namespace State

variable {before : Speech} {cue : Cue}

/-- Behind a cue that a markup voice says, the elements are open that the bearing asks for. -/
theorem manner_said (markup : roster.engine (behind roster before).voice = .markup)
    (said : (∃ t, cue = .text t) ∨ ∃ ipa fallback, cue = .phonetic ipa fallback) :
    let s := (behind roster before).next roster cue
    s = (behind roster before).continued roster cue ∧
      s.staging.dirty = false ∧
      Markup.Manner.inside (ownPitch roster s.voice) (entriesBehind [] s.markup) =
        (Bearing.behind roster before).manner := by
  intro s
  have buffered := buffered_behind roster before
  have agrees := agrees_behind roster before
  have agreesNext : Agrees roster s ((Bearing.behind roster before).next roster cue) :=
    agrees.next buffered (nested_behind roster before) cue
  have inner : (behind roster before).cursor.parts roster cue = false := by
    rcases said with ⟨t, rfl⟩ | ⟨ipa, fallback, rfl⟩ <;> rfl
  have next : s = (behind roster before).continued roster cue :=
    next_of_inner buffered.due inner
  have markupNext : roster.engine s.voice = .markup := by
    rw [next]
    exact markup
  obtain ⟨opened, manner⟩ := Bearing.next_of_said (agrees.voice_eq ▸ markup) said
  refine ⟨next, ?_, (agreesNext.around markupNext opened).trans manner⟩
  rw [agreesNext.dirty markupNext, opened]
  rfl

/-- They are the settings in force. -/
theorem inForce_said (markup : roster.engine (behind roster before).voice = .markup)
    (said : (∃ t, cue = .text t) ∨ ∃ ipa fallback, cue = .phonetic ipa fallback) :
    InForce roster before (entriesBehind [] ((behind roster before).next roster cue).markup) := by
  let s := (behind roster before).next roster cue
  let b := Bearing.behind roster before
  let entries := entriesBehind [] s.markup
  obtain ⟨next, clean, manner⟩ : s = (behind roster before).continued roster cue ∧ _ ∧ _ :=
    manner_said markup said
  have nested : s.Nested :=
    (nested_behind roster before).next (buffered_behind roster before) cue
  have accepts : ∀ entry ∈ entries, entry.1.Accepts entry.2 :=
    Markup.accepts_entriesBehind nested.fits fun _ member => nomatch member
  have elements : entries.map Prod.fst = s.staging.opened.reverse :=
    Markup.map_fst_entriesBehind nested.unclosed
  obtain ⟨volume, rate⟩ :=
    Bearing.settings_behind before ((agrees_behind roster before).voice_eq ▸ markup)
  constructor
  case distinct =>
    rw [elements]
    exact Markup.nodup_unclosed? nested.unclosed List.nodup_nil
  case spell =>
    have spelled : (entries.lookup .spell).isSome = b.spelling :=
      congrArg Markup.Manner.spelled manner
    have spelling : b.spelling = (before.last? Cue.spelling?).getD false := by
      have cursor : b.toCursor = (Cursor.start roster).after roster before :=
        Bearing.toCursor_after _ before
      rw [cursor]
      exact Cursor.spelling_after_start before
    rw [Markup.lookup_spell accepts, spelled, spelling]
  case volume =>
    have value : Markup.value? .volume entries = b.volume := congrArg Markup.Manner.volume manner
    rw [Markup.lookup_eq_value? accepts rfl, value]
    exact congrArg _ volume
  case rate =>
    have value : Markup.value? .rate entries = b.rate := congrArg Markup.Manner.rate manner
    rw [Markup.lookup_eq_value? accepts rfl, value]
    exact congrArg _ rate
  case pitch =>
    intro took
    have pitched : s.staging.Pitched := by
      rw [next]
      exact pitched_stagingFor (pitched_behind before took markup)
    refine Markup.exists_lookup accepts rfl ?_
    rw [elements]
    exact List.mem_reverse.2 (pitched.opened clean)

/-- What a cue has a markup voice say is buffered, inside the elements that are open behind it. -/
theorem unread_continued {s : State H} (markup : roster.engine s.voice = .markup)
    (nested : (s.continued roster cue).Nested) :
    (s.continued roster cue).unread = s.unread ++ cue.characters.map fun (d, phones) =>
      (s.voice, d, (phones.map pronunciationBody).toList ++
        bodies (entriesBehind [] (s.continued roster cue).markup)) := by
  let front := s.markup ++ (s.tagsFor roster cue).map .tag
  have written : (s.continued roster cue).markup = front ++ s.cursor.pieces roster cue := rfl
  have fits : ∀ piece ∈ front, piece.Fits := fun piece member =>
    nested.fits piece (List.mem_append_left _ member)
  have untagged (t : Markup.Tag) : .tag t ∉ s.cursor.pieces roster cue :=
    Cursor.tag_notMem_pieces t
  have around : Markup.tagsBehind [] (front.flatMap Markup.Piece.tokens) =
      bodies (entriesBehind [] (s.continued roster cue).markup) := by
    rw [written, Markup.entriesBehind_append, Markup.entriesBehind_of_untagged untagged]
    exact Markup.tagsBehind_pieces fits []
  have buffer : Markup.enclosed [] (front.flatMap Markup.Piece.tokens) =
      Markup.enclosed [] (s.markup.flatMap Markup.Piece.tokens) := by
    rw [List.flatMap_append, Markup.enclosed_append, Markup.enclosed_map_tag, List.append_nil]
  have voice : (s.continued roster cue).voice = s.voice := rfl
  rw [unread, written, List.flatMap_append, Markup.enclosed_append, around, buffer,
    Cursor.enclosed_pieces markup, voice, List.map_append, List.map_map]
  rfl

/-- Behind a cue that parts nothing, what it has a markup voice say is buffered, inside the settings
in force. -/
theorem unread_next (inner : (behind roster before).cursor.parts roster cue = false) :
    ∃ here, ((behind roster before).next roster cue).unread =
        (behind roster before).unread ++ here ∧
      List.Forall₂ (Wraps roster) here (contentsOf roster before cue) := by
  have buffered := buffered_behind roster before
  have nested := (nested_behind roster before).next buffered cue
  have next := next_of_inner buffered.due inner
  by_cases markup : roster.engine (behind roster before).voice = .markup
  · have asked : contentsOf roster before cue = cue.characters.map _ := if_pos markup
    have inForce (said : (∃ t, cue = .text t) ∨ ∃ ipa fallback, cue = .phonetic ipa fallback) :=
      inForce_said markup said
    rw [next] at nested inForce ⊢
    refine ⟨_, unread_continued markup nested, ?_⟩
    rw [asked, List.forall₂_map_left_iff, List.forall₂_map_right_iff, List.forall₂_same]
    have none : ∀ entry ∈ ([] : Entries), entry.1.Accepts entry.2 := by simp
    have told := Markup.mapM_opening?_bodies fun entry member =>
      Markup.Tag.Fits.legible (Markup.accepts_entriesBehind nested.fits none entry member)
    exact fun entry member => ⟨_, inForce (Cue.said_of_mem_characters member), rfl, told⟩
  · -- the buffer of another voice holds no markup
    have empty {s : State H} (buffered : s.Buffered roster)
        (other : roster.engine s.voice ≠ .markup) : s.unread = [] := by
      rw [unread, buffered.markup_nil other]
      rfl
    have other : roster.engine ((behind roster before).next roster cue).voice ≠ .markup := by
      rw [next]
      exact markup
    have nothing : contentsOf roster before cue = [] := if_neg markup
    refine ⟨[], ?_, ?_⟩
    · rw [empty (buffered.next cue) other, empty buffered markup]
      rfl
    · rw [nothing]
      exact .nil

/-- A cue that parts the payload leaves nothing to be read, and asks for nothing. -/
theorem unread_next_of_parts (parts : (behind roster before).cursor.parts roster cue = true) :
    ((behind roster before).next roster cue).unread = [] ∧ contentsOf roster before cue = [] := by
  have markup := markup_next_of_parts parts
  have silent : cue.characters = [] := by
    cases cue with
    | text t => cases parts
    | phonetic ipa fallback => cases parts
    | _ => rfl
  rw [unread, markup, contentsOf, silent]
  exact ⟨rfl, ite_self _⟩

/-- Halfway through a speech, what will be read is what is buffered and what the rest of the speech
asks for. -/
theorem enclosures_callsToEnd (before speech : Speech) :
    ∃ read, enclosures? roster ((behind roster before).callsToEnd roster speech) =
        some ((behind roster before).unread ++ read) ∧
      List.Forall₂ (Wraps roster) read (contents roster before speech) := by
  induction speech generalizing before with
  | nil =>
    refine ⟨[], ?_, .nil⟩
    rw [List.append_nil]
    exact enclosures?_flushCalls (buffered_behind roster before) (nested_behind roster before)
  | cons cue rest ih =>
    obtain ⟨read, reads, wraps⟩ := ih (before ++ [cue])
    rw [behind_snoc] at reads
    rw [callsToEnd_cons, calls_eq, contents]
    cases parts : (behind roster before).cursor.parts roster cue with
    | true =>
      -- what was buffered is sent, and the cue has nothing to be read
      obtain ⟨emptied, nothing⟩ := unread_next_of_parts parts
      rw [emptied, List.nil_append] at reads
      have sent := enclosures?_append
        (enclosures?_flushCalls (buffered_behind roster before) (nested_behind roster before))
        (enclosures?_signals (behind roster before) cue)
      rw [List.append_nil] at sent
      rw [if_pos rfl, nothing]
      exact ⟨read, enclosures?_append sent reads, wraps⟩
    | false =>
      -- nothing is sent, and what the cue asks for joins what is buffered
      obtain ⟨here, joined, wrapsHere⟩ := unread_next parts
      rw [joined, List.append_assoc] at reads
      rw [Cursor.signals_of_inner parts]
      exact ⟨here ++ read, reads, List.rel_append wrapsHere wraps⟩

end State

/-- **Around each character are the settings in force.** All payloads for markup voices can be read,
and the characters that are read are those of the texts and pronunciations, each of them inside the
elements of the settings in force and no others. -/
theorem enclosures_deliver (roster : Roster H) (speech : Speech) :
    ∃ read, enclosures? roster (deliver roster speech) = some read ∧
      List.Forall₂ (Wraps roster) read (contents roster [] speech) :=
  State.enclosures_callsToEnd [] speech

/-- A volume lasts through a cut, until the voice's own one is asked for. -/
example :
    let speech : Speech := [.volume (.absolute 75), .text "a".toList, .cut, .spelling true,
      .text "b".toList, .volume (.absolute 50), .text "c".toList]
    let own := "pitch absmiddle=\"0\"".toList
    let loud := "volume level=\"75\"".toList
    let spelled := "spell".toList
    enclosures? soloist (deliver soloist speech) =
      some [((), 'a', [loud]), ((), 'b', [spelled, own, loud]), ((), 'c', [spelled, own])] := by
  decide +kernel

end Delivery

end Polyvoice
