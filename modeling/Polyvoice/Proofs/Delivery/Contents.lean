import Polyvoice.Proofs.Delivery.FragmentLimit
import Polyvoice.Proofs.Delivery.MarkupPayloads
import Polyvoice.Proofs.Markup.Manners
import Polyvoice.Proofs.Speech.EmptyTexts

/-!
# What markup payloads hold

The content of a markup payload is what is left without the tags of elements: characters, bookmarks
and pronunciations (`Markup.content?`). The pieces that a speech asks for come in groups, one for
each payload in progress (`Cursor.pieceGroups`), and the payloads of the markup voices have the
contents of these groups, in their order; where nothing can be heard of a group it may be left out
(`conveys_deliver`).

A payload without content goes out where all that was asked for were empty texts. No pass makes one
but two: a fragment is empty behind the last blank of a text that is full by then, and a number is
empty if its digits have names without characters (`contents_compileCalls`).
-/

namespace Polyvoice

namespace Markup

/-! ## The content of a payload -/

/-- Whether a token is a tag of an element. -/
def Token.isElementTag : Token → Bool
  | .character _ => false
  | .tag body =>
    [Element.pitch, .volume, .rate, .spell].any fun element =>
      elementName body == element.name.toList || body == '/' :: element.name.toList

/-- What is left of a payload without the tags of elements, as a reader finds it. -/
def content? (payload : Text) : Option (List Token) :=
  (scan? payload).map (List.filter (!·.isElementTag))

/-- Whether a piece is a tag. -/
def Piece.isTag : Piece → Bool
  | .tag _ => true
  | _ => false

/-- Pieces without the tags among them. -/
def untagged (pieces : List Piece) : List Piece :=
  pieces.filter (!·.isTag)

/-- What is to be heard of pieces. -/
def tokensOf (pieces : List Piece) : List Token :=
  pieces.flatMap Piece.tokens

theorem isElementTag_body {t : Tag} (fits : t.Fits) : (Token.tag t.body).isElementTag = true := by
  cases t with
  | opening element attributes =>
    have name := elementName_body element attributes
    cases element <;> simp [Token.isElementTag, name]
  | closing element => cases element <;> decide

theorem filter_characters (t : Text) :
    (t.map Token.character).filter (!·.isElementTag) = t.map .character :=
  List.filter_eq_self.2 fun token member => by
    obtain ⟨c, -, rfl⟩ := List.mem_map.1 member
    rfl

/-- Of a piece, its tokens are content, unless it is a tag. -/
theorem filter_tokens {piece : Piece} (fits : piece.Fits) :
    piece.tokens.filter (!·.isElementTag) = if piece.isTag then [] else piece.tokens := by
  cases piece with
  | tag t => simp [Piece.tokens, Piece.isTag, isElementTag_body fits]
  | text t => exact filter_characters t
  | bookmark id => rfl
  | pronunciation phones words =>
    rw [Piece.tokens, List.filter_cons, List.filter_append, filter_characters]
    rfl

/-- What is written has the content of its pieces. -/
theorem content?_render {pieces : List Piece} (fits : ∀ piece ∈ pieces, piece.Fits) :
    content? (render pieces) = some (tokensOf (untagged pieces)) := by
  rw [content?, scan?_render fits, Option.map_some, List.filter_flatMap]
  refine congrArg some ?_
  induction pieces with
  | nil => rfl
  | cons piece rest ih =>
    have here := filter_tokens (fits piece List.mem_cons_self)
    have later := ih fun other member => fits other (List.mem_cons_of_mem piece member)
    rw [List.flatMap_cons, later, here]
    cases piece <;> rfl

theorem untagged_append (pieces more : List Piece) :
    untagged (pieces ++ more) = untagged pieces ++ untagged more :=
  List.filter_append pieces more

theorem untagged_of_tags {pieces : List Piece} (tags : ∀ piece ∈ pieces, ∃ t, piece = .tag t) :
    untagged pieces = [] :=
  List.filter_eq_nil_iff.2 fun piece member => by
    obtain ⟨t, rfl⟩ := tags piece member
    exact Bool.false_ne_true

theorem untagged_map_tag (tags : List Tag) : untagged (tags.map .tag) = [] :=
  untagged_of_tags fun _ member => by
    obtain ⟨t, -, rfl⟩ := List.mem_map.1 member
    exact ⟨t, rfl⟩

theorem untagged_of_free {pieces : List Piece} (free : ∀ t, .tag t ∉ pieces) :
    untagged pieces = pieces :=
  List.filter_eq_self.2 fun piece member => by
    cases piece with
    | tag t => exact absurd member (free t)
    | _ => rfl

end Markup

namespace Delivery

open Markup (Piece content? tokensOf untagged)
open Speech (fragments)

variable {H : Type}

/-! ## What a speech asks of markup voices -/

/-- Pieces that are asked of a voice for one payload. -/
abbrev Group (H : Type) := H × List Piece

/-- The pieces that a speech asks for, with their voices: one group for each payload in progress.
The first group begins with what was gathered before. -/
def Cursor.pieceGroups [DecidableEq H] (roster : Roster H) (c : Cursor H) (gathered : List Piece) :
    Speech → List (Group H)
  | [] => [(c.voice, gathered)]
  | cue :: rest =>
    if c.parts roster cue then
      (c.voice, gathered) :: (c.next roster cue).pieceGroups roster [] rest
    else (c.next roster cue).pieceGroups roster (gathered ++ c.pieces roster cue) rest

/-- The groups of pieces that a speech asks for. -/
def pieceGroups [DecidableEq H] (roster : Roster H) (speech : Speech) : List (Group H) :=
  (Cursor.start roster).pieceGroups roster [] speech

/-- Whether something can be heard of a group. -/
def Group.isHeard (group : Group H) : Bool :=
  !(tokensOf group.2).isEmpty

/-- Whether there is a piece in a group. -/
def Group.isAsked (group : Group H) : Bool :=
  !group.2.isEmpty

/-- Whether a call is a payload for a markup voice. -/
def isMarkupPayload (roster : Roster H) (call : Call H) : Bool :=
  match roster.engine call.voice, call.op with
  | .markup, .speak _ => true
  | _, _ => false

/-- A call whose payload has the content of a group. -/
def Sends (group : Group H) (call : Call H) : Prop :=
  call.voice = group.1 ∧
    ∃ payload, call.op = .speak payload ∧ content? payload = some (tokensOf group.2)

/-- How calls send groups of pieces: one payload for each of some groups, in their order, with the
content of the group. Each group of which something can be heard is among them, and no group
without pieces is. -/
def Conveys (roster : Roster H) (groups : List (Group H)) (calls : List (Call H)) : Prop :=
  ∃ sent, (groups.filter Group.isHeard).Sublist sent ∧
    sent.Sublist (groups.filter Group.isAsked) ∧
    List.Forall₂ Sends sent (calls.filter (isMarkupPayload roster))

theorem exists_of_forall₂ {α β : Type} {relates : α → β → Prop} {xs : List α} {ys : List β}
    (pairs : List.Forall₂ relates xs ys) {y : β} (member : y ∈ ys) : ∃ x ∈ xs, relates x y := by
  induction pairs with
  | nil => cases member
  | @cons x y' xs ys first _ ih =>
    rcases List.mem_cons.1 member with rfl | later
    · exact ⟨x, List.mem_cons_self, first⟩
    · obtain ⟨x', listed, related⟩ := ih later
      exact ⟨x', List.mem_cons_of_mem x listed, related⟩

namespace Conveys

variable {roster : Roster H} {groups more : List (Group H)} {calls later : List (Call H)}

theorem append (first : Conveys roster groups calls) (second : Conveys roster more later) :
    Conveys roster (groups ++ more) (calls ++ later) := by
  obtain ⟨sent, heard, asked, sends⟩ := first
  obtain ⟨sent', heard', asked', sends'⟩ := second
  refine ⟨sent ++ sent', ?_, ?_, ?_⟩
  · rw [List.filter_append]
    exact heard.append heard'
  · rw [List.filter_append]
    exact asked.append asked'
  · rw [List.filter_append]
    exact List.rel_append sends sends'

/-- Each payload for a markup voice has the content of a group with pieces. -/
theorem exists_group (conveys : Conveys roster groups calls) {call : Call H} {payload : Text}
    (made : call ∈ calls) (markup : roster.engine call.voice = .markup)
    (speaks : call.op = .speak payload) :
    ∃ group ∈ groups, group.1 = call.voice ∧ group.2 ≠ [] ∧
      content? payload = some (tokensOf group.2) := by
  obtain ⟨sent, -, asked, sends⟩ := conveys
  have listed : call ∈ calls.filter (isMarkupPayload roster) :=
    List.mem_filter.2 ⟨made, by rw [isMarkupPayload, markup, speaks]⟩
  obtain ⟨group, member, voice, payload', speaks', content⟩ := exists_of_forall₂ sends listed
  obtain ⟨inGroups, some⟩ := List.mem_filter.1 (asked.subset member)
  obtain rfl : payload' = payload := Op.speak.inj (speaks'.symm.trans speaks)
  exact ⟨group, inGroups, voice.symm, by simpa [Group.isAsked] using some, content⟩

end Conveys

/-! ## Payloads and groups -/

namespace State

variable {roster : Roster H} {s : State H}

/-- For a markup voice, something is pending if a piece was asked for. -/
def Filled (roster : Roster H) (s : State H) : Prop :=
  roster.engine s.voice = .markup → s.pending = true → untagged s.markup ≠ []

/-- What is asked of the active voice, by what is buffered. -/
def group (s : State H) : Group H :=
  (s.voice, untagged s.markup)

/-- A cue that parts nothing adds its pieces to what is asked for. -/
theorem untagged_continued [DecidableEq H] (s : State H) (cue : Cue) :
    untagged (s.continued roster cue).markup =
      untagged s.markup ++ s.cursor.pieces roster cue := by
  rw [continued, Markup.untagged_append, Markup.untagged_append, Markup.untagged_map_tag,
    Markup.untagged_of_free Cursor.tag_notMem_pieces, List.append_nil]

theorem Filled.next [DecidableEq H] (filled : s.Filled roster) (buffered : s.Buffered roster)
    (cue : Cue) : (s.next roster cue).Filled roster := by
  intro markup pending
  cases parts : s.cursor.parts roster cue with
  | true =>
    rcases next_of_parts parts with flush | ⟨language, h, takes⟩
    · rw [flush] at pending
      cases pending
    · rw [takes, takenOver_pending] at pending
      cases pending
  | false =>
    rw [next_of_inner buffered.due parts] at markup pending ⊢
    have silent : s.cursor.chunks roster cue = [] := Cursor.chunks_of_markup markup
    rw [untagged_continued]
    simp only [continued, silent, List.isEmpty_nil, Bool.not_true, Bool.or_false,
      Bool.or_eq_true, Bool.not_eq_true', List.isEmpty_eq_false_iff] at pending
    rcases pending with before | added
    · exact List.append_ne_nil_of_left_ne_nil (filled markup before) _
    · exact List.append_ne_nil_of_right_ne_nil _ added

/-- Of other voices, nothing is asked in pieces. -/
theorem conveys_flushCalls_of_other (buffered : s.Buffered roster)
    (other : roster.engine s.voice ≠ .markup) :
    Conveys roster [s.group] (s.flushCalls roster) := by
  have none : s.group.2 = [] := congrArg untagged (buffered.markup_nil other)
  have unsent : (s.flushCalls roster).filter (isMarkupPayload roster) = [] := by
    refine List.filter_eq_nil_iff.2 fun call member => ?_
    have voice : call.voice = s.voice := by rw [(eq_of_mem_flushCalls member).2]
    unfold isMarkupPayload
    rw [voice]
    split
    · rename_i engine _
      exact absurd engine other
    · exact Bool.false_ne_true
  refine ⟨[], ?_, List.nil_sublist _, ?_⟩
  · simp [Group.isHeard, none, tokensOf]
  · rw [unsent]
    exact .nil

/-- A flush conveys what is buffered. -/
theorem conveys_flushCalls (buffered : s.Buffered roster) (nested : s.Nested)
    (filled : s.Filled roster) : Conveys roster [s.group] (s.flushCalls roster) := by
  by_cases markup : roster.engine s.voice = .markup
  swap
  · exact conveys_flushCalls_of_other buffered markup
  have payload : s.payload roster =
      Markup.render (s.markup ++ s.staging.closings.map .tag) := by
    rw [State.payload, markup]
  have content : content? (s.payload roster) = some (tokensOf s.group.2) := by
    rw [payload, Markup.content?_render nested.fits_payload, Markup.untagged_append,
      Markup.untagged_map_tag, List.append_nil]
    rfl
  unfold flushCalls
  split
  · rename_i sends
    have some : s.group.2 ≠ [] := filled markup sends.1
    have asked : Group.isAsked s.group = true := by simp [Group.isAsked, some]
    refine ⟨[s.group], List.filter_sublist, ?_, ?_⟩
    · rw [List.filter_cons_of_pos asked]
      exact List.Sublist.refl _
    · rw [List.filter_cons_of_pos (by simp [isMarkupPayload, markup])]
      exact .cons ⟨rfl, _, rfl, content⟩ .nil
  · rename_i keeps
    have unheard : tokensOf s.group.2 = [] := by
      cases pending : s.pending with
      | false =>
        have idle : s.group.2 = [] := Markup.untagged_of_tags (buffered.idle_markup pending)
        rw [idle]
        rfl
      | true =>
        have empty : s.payload roster = [] :=
          Decidable.byContradiction fun some => keeps ⟨pending, some⟩
        rw [empty] at content
        exact (Option.some.inj content).symm
    refine ⟨[], ?_, List.nil_sublist _, .nil⟩
    simp [Group.isHeard, unheard]

/-- What a cue signals beside payloads conveys nothing. -/
theorem conveys_signals (roster : Roster H) (s : State H) (cue : Cue) :
    Conveys roster [] ((s.cursor.signals roster cue).map (⟨s.voice, ·⟩)) := by
  have unsent : ((s.cursor.signals roster cue).map (Call.mk s.voice)).filter
      (isMarkupPayload roster) = [] := by
    refine List.filter_eq_nil_iff.2 fun call member => ?_
    obtain ⟨op, signal, rfl⟩ := List.mem_map.1 member
    cases op with
    | speak payload => exact absurd signal (Cursor.speak_notMem_signals payload)
    | silence ms => simp [isMarkupPayload]
    | bookmark id => simp [isMarkupPayload]
  exact ⟨[], .slnil, .slnil, unsent ▸ .nil⟩

/-- From a state on, the calls convey what is buffered and what is asked for. -/
theorem conveys_callsToEnd [DecidableEq H] (buffered : s.Buffered roster) (nested : s.Nested)
    (filled : s.Filled roster) (speech : Speech) :
    Conveys roster (s.cursor.pieceGroups roster (untagged s.markup) speech)
      (s.callsToEnd roster speech) := by
  induction speech generalizing s with
  | nil => exact conveys_flushCalls buffered nested filled
  | cons cue rest ih =>
    have later := ih (buffered.next cue) (nested.next buffered cue) (filled.next buffered cue)
    rw [cursor_next buffered.due] at later
    rw [callsToEnd_cons, calls_eq, Cursor.pieceGroups]
    cases parts : s.cursor.parts roster cue with
    | true =>
      rw [markup_next_of_parts parts] at later
      have here := (conveys_flushCalls buffered nested filled).append
        (conveys_signals roster s cue)
      exact here.append later
    | false =>
      rw [next_of_inner buffered.due parts, untagged_continued] at later
      rw [Cursor.signals_of_inner parts]
      rw [next_of_inner buffered.due parts]
      exact later

end State

/-- The calls that deliver a speech convey what it asks of the markup voices. -/
theorem conveys_deliver [DecidableEq H] (roster : Roster H) (speech : Speech) :
    Conveys roster (pieceGroups roster speech) (deliver roster speech) :=
  State.conveys_callsToEnd (.start roster) (.start roster) nofun speech

/-! ## Groups of empty texts -/

section

variable {roster : Roster H}

/-- Only from an empty text, an empty text is asked for: words to fall back on are not empty. -/
theorem Cursor.eq_of_empty_mem_pieces {c : Cursor H} {cue : Cue}
    (member : .text [] ∈ c.pieces roster cue) : cue = .text [] := by
  unfold pieces at member
  split at member
  · rw [Piece.text.inj (List.mem_singleton.1 member)]
  · cases List.mem_singleton.1 member
  · split at member
    · cases List.mem_singleton.1 member
    · split at member
      · cases member
      · rename_i worded
        rw [← Piece.text.inj (List.mem_singleton.1 member)] at worded
        exact absurd rfl worded
  · cases member

theorem Cursor.empty_mem_of_pieceGroups [DecidableEq H] {c : Cursor H} {gathered : List Piece}
    {speech : Speech} {group : Group H} (member : group ∈ c.pieceGroups roster gathered speech)
    (empty : .text [] ∈ group.2) : .text [] ∈ gathered ∨ .text [] ∈ speech := by
  induction speech generalizing c gathered with
  | nil =>
    rw [List.mem_singleton.1 member] at empty
    exact Or.inl empty
  | cons cue rest ih =>
    rw [pieceGroups] at member
    split at member
    · rcases List.mem_cons.1 member with rfl | later
      · exact Or.inl empty
      · exact (ih later).elim (fun none => nomatch none) fun behind =>
          Or.inr (List.mem_cons_of_mem cue behind)
    · rcases ih member with before | behind
      · rcases List.mem_append.1 before with earlier | added
        · exact Or.inl earlier
        · exact Or.inr (eq_of_empty_mem_pieces added ▸ List.mem_cons_self)
      · exact Or.inr (List.mem_cons_of_mem cue behind)

/-- If nothing is to be heard of a piece, it is an empty text. -/
theorem eq_of_tokens_eq_nil {piece : Piece} (unheard : piece.tokens = []) : piece = .text [] := by
  cases piece with
  | text t => rw [List.map_eq_nil_iff.1 unheard]
  | _ => cases unheard

/-- A group of which nothing can be heard, though there are pieces in it, is made of empty texts of
the speech. -/
theorem empty_of_unheard [DecidableEq H] {speech : Speech} {group : Group H}
    (member : group ∈ pieceGroups roster speech) (asked : group.2 ≠ [])
    (unheard : tokensOf group.2 = []) :
    (∀ piece ∈ group.2, piece = .text []) ∧ .text [] ∈ speech := by
  have empty : ∀ piece ∈ group.2, piece = .text [] := fun piece listed =>
    eq_of_tokens_eq_nil (List.flatMap_eq_nil_iff.1 unheard piece listed)
  obtain ⟨piece, rest, first⟩ := List.exists_cons_of_ne_nil asked
  have listed : piece ∈ group.2 := first ▸ List.mem_cons_self
  refine ⟨empty, ?_⟩
  exact (Cursor.empty_mem_of_pieceGroups member (empty piece listed ▸ listed)).elim
    (fun none => nomatch none) id

end

/-! ## Where empty texts come from -/

section

variable {settings : Settings} {spelling : DigitSpelling} {language : String} {speech : Speech}

theorem empty_notMem_grouped (worded : .text [] ∉ speech) :
    .text [] ∉ Speech.grouped settings speech := by
  unfold Speech.grouped
  split
  · intro member
    obtain ⟨t, listed, none⟩ := Speech.text_mem_mapText.1 member
    have empty : t = [] := by_contra fun some => Speech.dropDigitCommas_ne_nil some none
    exact worded (empty ▸ listed)
  · exact worded

/-- Before it is cut, a speech has an empty text only from a number without words, and only where
texts are not joined for their gaps. -/
theorem exists_of_empty_mem_uncut (worded : .text [] ∉ speech)
    (member : .text [] ∈ uncut settings spelling language speech) :
    settings.gapSilence? = none ∧
      ∃ digit, spelling digit (settings.numberLanguage.getD language) = some [] := by
  unfold uncut Speech.spaced at member
  split at member
  · exact absurd member (Speech.empty_notMem_pauseAtGaps _ _)
  · rename_i gapless
    refine ⟨gapless, by_contra fun named => ?_⟩
    refine Numeral.empty_notMem_bracketFrom ?_ (empty_notMem_grouped worded) _ _ member
    exact not_exists.1 named

/-- How a prepared speech can have an empty text though the speech has none: from a text that is
full where its last blank is, or from a number without words. -/
theorem exists_of_empty_mem_prepared (worded : .text [] ∉ speech)
    (member : .text [] ∈ speech.prepared settings spelling language) :
    (∃ limit t, settings.fragmentLimit = some limit ∧ t ≠ [] ∧
        .text t ∈ uncut settings spelling language speech ∧ [] ∈ fragments limit.toNat t) ∨
      settings.gapSilence? = none ∧
        ∃ digit, spelling digit (settings.numberLanguage.getD language) = some [] := by
  have parts : speech.prepared settings spelling language =
      Speech.anchor ((Speech.limited settings (uncut settings spelling language speech)).normalize
        settings.normalForm) := rfl
  rw [parts, Speech.text_mem_anchor] at member
  obtain ⟨t, listed, normal⟩ := Speech.text_mem_mapText.1 member
  obtain rfl := (NormalForm.apply_eq_nil_iff _ t).1 normal
  unfold Speech.limited at listed
  split at listed
  · rename_i limit limited
    obtain ⟨whole, uncut, fragment⟩ := Speech.exists_of_text_mem_cutLong listed
    by_cases none : whole = []
    · exact Or.inr (exists_of_empty_mem_uncut worded (none ▸ uncut))
    · exact Or.inl ⟨limit, whole, limited, none, uncut, fragment⟩
  · exact Or.inr (exists_of_empty_mem_uncut worded listed)

end

/-- **What markup payloads hold, and when they hold nothing.** The calls that a speech is compiled
to convey what its prepared form asks of the markup voices. If no text of the speech is empty, then
a payload for a markup voice is free of content only if all that was asked for were empty texts,
which stand behind the last blank of a text that is full there, or in place of a number whose digits
have names without characters. -/
theorem contents_compileCalls [DecidableEq H] (settings : Settings) (roster : Roster H)
    (spelling : DigitSpelling) (speech : Speech) (worded : .text [] ∉ speech) :
    let groups := pieceGroups roster (speech.prepared settings spelling roster.defaultLanguage)
    Conveys roster groups (compileCalls settings roster spelling speech) ∧
      ∀ call ∈ compileCalls settings roster spelling speech, ∀ payload,
        roster.engine call.voice = .markup → call.op = .speak payload →
        content? payload = some [] →
        (∃ group ∈ groups, group.1 = call.voice ∧ group.2 ≠ [] ∧
            ∀ piece ∈ group.2, piece = .text []) ∧
          ((∃ limit t, settings.fragmentLimit = some limit ∧ t ≠ [] ∧
              .text t ∈ uncut settings spelling roster.defaultLanguage speech ∧
              [] ∈ fragments limit.toNat t) ∨
            settings.gapSilence? = none ∧ ∃ digit,
              spelling digit (settings.numberLanguage.getD roster.defaultLanguage) = some []) := by
  intro groups
  have conveys : Conveys roster groups (compileCalls settings roster spelling speech) :=
    conveys_deliver roster _
  refine ⟨conveys, fun call made payload markup speaks hollow => ?_⟩
  obtain ⟨group, member, voice, asked, content⟩ := conveys.exists_group made markup speaks
  have unheard : tokensOf group.2 = [] := Option.some.inj (content.symm.trans hollow)
  obtain ⟨empty, inSpeech⟩ := empty_of_unheard member asked unheard
  exact ⟨⟨group, member, voice, asked, empty⟩, exists_of_empty_mem_prepared worded inSpeech⟩

/-- A text that is full where it ends is sent, and then the empty fragment behind its last blank is,
inside the elements that are opened for it. -/
theorem contents_compileCalls_soloist :
    let settings := { Settings.default with fragmentLimit := some 1 }
    let speech : Speech := [.text "ab ".toList]
    let prepared := speech.prepared settings (fun _ _ => none) soloist.defaultLanguage
    let payload := "<pitch absmiddle=\"0\"></pitch>".toList
    .text [] ∉ speech ∧
      Conveys soloist (pieceGroups soloist prepared)
        (compileCalls settings soloist (fun _ _ => none) speech) ∧
      ⟨(), .speak payload⟩ ∈ compileCalls settings soloist (fun _ _ => none) speech ∧
      content? payload = some [] ∧
      ∃ group ∈ pieceGroups soloist prepared,
        group.2 ≠ [] ∧ ∀ piece ∈ group.2, piece = .text [] := by
  intro settings speech prepared payload
  have worded : .text [] ∉ speech := by decide
  have made : ⟨(), .speak payload⟩ ∈ compileCalls settings soloist (fun _ _ => none) speech := by
    decide +kernel
  have hollow : content? payload = some [] := by decide +kernel
  obtain ⟨conveys, causes⟩ :=
    contents_compileCalls settings soloist (fun _ _ => none) speech worded
  obtain ⟨⟨group, member, -, asked, empty⟩, -⟩ := causes _ made payload rfl rfl hollow
  exact ⟨worded, conveys, made, hollow, group, member, asked, empty⟩

/-- A payload that holds nothing goes out, though no text of the speech is empty. -/
theorem contentless_payload :
    .text [] ∉ ([.text "ab ".toList] : Speech) ∧
      compileCalls { Settings.default with fragmentLimit := some 1 } soloist (fun _ _ => none)
          [.text "ab ".toList] =
        [⟨(), .speak "ab ".toList⟩, ⟨(), .speak "<pitch absmiddle=\"0\"></pitch>".toList⟩] ∧
      content? "<pitch absmiddle=\"0\"></pitch>".toList = some [] := by
  decide +kernel

end Delivery

end Polyvoice
