import Mathlib.Data.List.DropRight
import Polyvoice.Proofs.Delivery.ChunkPayloads

/-!
# Escape characters in texts

A chunk voice gets no escape character of a text, but they are taken out last: the blanks at the two
ends are dropped before, and it is seen before whether the text is blank and whether it is a single
character. So a text is not always said as it would be if it had none. `EscapesUnheard` says when it
is, and speeches of such texts, and of no other ones, are delivered as if their texts had no escape
characters (`deliver_withoutEscapes_iff`).
-/

namespace Polyvoice

namespace Text

/-! ## Blanks at the ends -/

section

variable {α : Type} (p : α → Bool)

theorem dropWhile_rdropWhile (l : List α) :
    (l.rdropWhile p).dropWhile p = (l.dropWhile p).rdropWhile p := by
  induction l with
  | nil => rfl
  | cons a l ih =>
    have ends : (a :: l).rdropWhile p =
        if l.rdropWhile p = [] then [a].rdropWhile p else a :: l.rdropWhile p := by
      simp only [List.rdropWhile, List.reverse_cons, List.dropWhile_append, List.isEmpty_iff,
        List.reverse_eq_nil_iff]
      split <;> simp
    cases dropped : p a with
    | true =>
      have alone : [a].rdropWhile p = [] := by simp [List.rdropWhile, dropped]
      rw [ends, alone, List.dropWhile_cons_of_pos dropped, ← ih]
      split
      · rename_i none
        rw [none]
      · rw [List.dropWhile_cons_of_pos dropped]
    | false =>
      have alone : [a].rdropWhile p = [a] := by simp [List.rdropWhile, dropped]
      have kept : ¬p a = true := Bool.eq_false_iff.1 dropped
      rw [List.dropWhile_cons_of_neg kept, ends, alone]
      split
      · rw [List.dropWhile_cons_of_neg kept]
      · rw [List.dropWhile_cons_of_neg kept]

theorem dropWhile_filter_dropWhile (keep : α → Bool) (l : List α) :
    ((l.dropWhile p).filter keep).dropWhile p = (l.filter keep).dropWhile p := by
  induction l with
  | nil => rfl
  | cons a l ih =>
    cases dropped : p a with
    | true =>
      rw [List.dropWhile_cons_of_pos dropped, ih]
      cases kept : keep a with
      | true => rw [List.filter_cons_of_pos kept, List.dropWhile_cons_of_pos dropped]
      | false => rw [List.filter_cons_of_neg (Bool.eq_false_iff.1 kept)]
    | false => rw [List.dropWhile_cons_of_neg (Bool.eq_false_iff.1 dropped)]

theorem rdropWhile_filter_rdropWhile (keep : α → Bool) (l : List α) :
    ((l.rdropWhile p).filter keep).rdropWhile p = (l.filter keep).rdropWhile p := by
  have mirrored := dropWhile_filter_dropWhile p keep l.reverse
  simp only [List.rdropWhile, ← List.filter_reverse, List.reverse_reverse, mirrored]

end

/-- The blanks at the front go first, and then those at the end. -/
theorem trim_eq (t : Text) : trim t = (t.dropWhile isBlank).rdropWhile isBlank :=
  rfl

theorem trim_trim (t : Text) : trim (trim t) = trim t := by
  rw [trim_eq, trim_eq, dropWhile_rdropWhile, List.dropWhile_idempotent, List.rdropWhile_idempotent]

/-- Characters may be taken out before blanks are dropped at the ends, if blanks are dropped once
more. -/
theorem trim_filter_trim (keep : Char → Bool) (t : Text) :
    trim ((trim t).filter keep) = trim (t.filter keep) := by
  let front := t.dropWhile isBlank
  calc trim ((trim t).filter keep)
      = (((front.rdropWhile isBlank).filter keep).rdropWhile isBlank).dropWhile isBlank := by
        rw [dropWhile_rdropWhile]
        rfl
    _ = ((front.filter keep).dropWhile isBlank).rdropWhile isBlank := by
        rw [rdropWhile_filter_rdropWhile, dropWhile_rdropWhile]
    _ = trim (t.filter keep) := by
        rw [dropWhile_filter_dropWhile]
        rfl

theorem trim_sublist (t : Text) : (trim t).Sublist t :=
  (List.rdropWhile_prefix isBlank _).sublist.trans (List.dropWhile_sublist isBlank)

/-! ## Texts without escape characters -/

/-- A text without its escape characters. -/
def withoutEscapes (t : Text) : Text :=
  t.filter (· != escapeCharacter)

theorem withoutEscapes_eq_self_iff (t : Text) : withoutEscapes t = t ↔ escapeCharacter ∉ t := by
  rw [withoutEscapes, List.filter_eq_self]
  constructor
  · intro kept member
    simpa using kept escapeCharacter member
  · intro absent c member
    exact bne_iff_ne.2 fun escape => absent (escape ▸ member)

theorem escape_notMem_withoutEscapes (t : Text) : escapeCharacter ∉ withoutEscapes t := by
  intro member
  simpa using (List.mem_filter.1 member).2

/-- What is left of a text for a chunk voice, capitals aside. -/
def bare (t : Text) : Text :=
  withoutEscapes (trim t)

/-- A text without escape characters loses the same blanks at its ends as what is left of it. -/
theorem trim_withoutEscapes (t : Text) : trim (withoutEscapes t) = trim (bare t) :=
  (trim_filter_trim _ t).symm

theorem bare_withoutEscapes (t : Text) : bare (withoutEscapes t) = trim (bare t) := by
  rw [bare, trim_withoutEscapes]
  refine (withoutEscapes_eq_self_iff _).2 fun member => ?_
  exact escape_notMem_withoutEscapes _ ((trim_sublist _).subset member)

/-- When a chunk voice says a text as it would say it without escape characters. -/
structure EscapesUnheard (t : Text) : Prop where
  /-- Something is left of it, unless it is blank. -/
  worded : bare t = [] → trim t = []
  /-- What is left has no blanks at its ends. -/
  ends : trim (bare t) = bare t
  /-- If a single character is left, then it was alone before, or it is in lower case. -/
  single : (bare t).length = 1 →
    (trim t).length = 1 ∨ withoutEscapes (Unicode.lowercase (bare t)) = bare t
  /-- It is spelled as what is left. -/
  spelled : withoutEscapes (Unicode.lowercase (bare t)) =
    withoutEscapes (Unicode.lowercase (trim t))

end Text

namespace Delivery.Cursor

open Text

/-! ## How a text is said -/

theorem spoken_spelled (t : Text) :
    spoken true t = withoutEscapes (Unicode.lowercase (trim t)) :=
  rfl

theorem spoken_single {t : Text} (single : (trim t).length = 1) (spelling : Bool) :
    spoken spelling t = withoutEscapes (Unicode.lowercase (trim t)) := by
  simp only [spoken, single, BEq.rfl, Bool.or_true, if_true]
  rfl

theorem spoken_longer {t : Text} (longer : (trim t).length ≠ 1) : spoken false t = bare t := by
  simp only [spoken, beq_eq_false_iff_ne.2 longer, Bool.or_false]
  rfl

/-- Where a text is a single character, that one is an escape character or nothing is taken out. -/
theorem bare_of_single {t : Text} (single : (trim t).length = 1) :
    bare t = [] ∨ bare t = trim t := by
  obtain ⟨c, alone⟩ := List.length_eq_one_iff.1 single
  rw [bare, alone, withoutEscapes]
  cases kept : c != escapeCharacter with
  | true => exact Or.inr (List.filter_eq_self.2 (by simpa using kept))
  | false => exact Or.inl (List.filter_eq_nil_iff.2 (by simpa using kept))

/-- If what is left of a text is what is said of a single character in it, then it is that
character. -/
theorem bare_of_single_bare {t : Text} (single : (trim (bare t)).length = 1)
    (said : bare t = withoutEscapes (Unicode.lowercase (trim (bare t)))) :
    trim (bare t) = bare t := by
  obtain ⟨c, alone⟩ := List.length_eq_one_iff.1 single
  have sublist : (trim (bare t)).Sublist (bare t) := trim_sublist _
  by_cases dotted : c = 'İ'
  · -- the one capital that becomes two letters is none of them
    have member : c ∈ bare t := sublist.subset (alone ▸ List.mem_cons_self)
    rw [said, alone, dotted] at member
    exact absurd member (by decide)
  · have short : (bare t).length ≤ 1 := by
      rw [said, alone, ← Unicode.length_lowercase_singleton dotted]
      exact List.length_filter_le _ _
    exact sublist.eq_of_length_le (by omega)

end Delivery.Cursor

namespace Text

open Delivery.Cursor

namespace EscapesUnheard

variable {t : Text} (unheard : EscapesUnheard t)

include unheard

theorem trim_withoutEscapes : trim (withoutEscapes t) = bare t :=
  (Text.trim_withoutEscapes t).trans unheard.ends

/-- The text is blank where it would be without escape characters. -/
theorem blank_iff : trim (withoutEscapes t) = [] ↔ trim t = [] := by
  rw [unheard.trim_withoutEscapes]
  exact ⟨unheard.worded, fun blank => by rw [bare, blank]; rfl⟩

theorem spoken_unspelled : spoken false (withoutEscapes t) = spoken false t := by
  have same := unheard.trim_withoutEscapes
  by_cases alone : (trim t).length = 1
  · rcases bare_of_single alone with none | all
    · simp [unheard.worded none] at alone
    · have still : (trim (withoutEscapes t)).length = 1 := by rw [same, all, alone]
      rw [spoken_single still, spoken_single alone, same, all]
  · rw [spoken_longer alone]
    by_cases single : (bare t).length = 1
    · have low := (unheard.single single).resolve_left alone
      rw [spoken_single (by rw [same, single]), same, low]
    · rw [spoken_longer (by rwa [same]), bare_withoutEscapes, unheard.ends]

theorem spoken_withoutEscapes (spelling : Bool) :
    spoken spelling (withoutEscapes t) = spoken spelling t := by
  cases spelling with
  | true => rw [spoken_spelled, spoken_spelled, unheard.trim_withoutEscapes, unheard.spelled]
  | false => exact unheard.spoken_unspelled

end EscapesUnheard

/-- A text that is said as it would be without escape characters has no blanks at the ends of what
is left of it. -/
theorem trim_bare_of_spoken {t : Text}
    (said : spoken false (withoutEscapes t) = spoken false t) : trim (bare t) = bare t := by
  by_cases alone : (trim t).length = 1
  · rcases bare_of_single alone with none | all
    · rw [none]
      rfl
    · rw [all, trim_trim]
  · rw [spoken_longer alone] at said
    by_cases single : (trim (withoutEscapes t)).length = 1
    · rw [spoken_single single, Text.trim_withoutEscapes] at said
      exact bare_of_single_bare (Text.trim_withoutEscapes t ▸ single) said.symm
    · rw [spoken_longer single, bare_withoutEscapes] at said
      exact said

/-- Escape characters are unheard in a text that is said as it would be without them, spelled or
not, and that is blank where it would be. -/
theorem escapesUnheard_of_spoken {t : Text} (blank : trim (withoutEscapes t) = [] ↔ trim t = [])
    (said : ∀ spelling, spoken spelling (withoutEscapes t) = spoken spelling t) :
    EscapesUnheard t := by
  have ends := trim_bare_of_spoken (said false)
  have same : trim (withoutEscapes t) = bare t := (Text.trim_withoutEscapes t).trans ends
  constructor
  case worded => exact fun none => blank.1 (same.trans none)
  case ends => exact ends
  case single =>
    intro single
    refine or_iff_not_imp_left.2 fun alone => ?_
    have unspelled := said false
    rwa [spoken_longer alone, spoken_single (by rw [same, single]), same] at unspelled
  case spelled =>
    have spelled := said true
    rwa [spoken_spelled, spoken_spelled, same] at spelled

end Text

namespace Delivery

open Text

/-! ## How a speech is said -/

variable {H : Type}

namespace State

variable {roster : Roster H} {s : State H} {t t' : Text}

/-- Of a text, it only matters whether it is blank and how it is said. -/
theorem addSpoken_congr (blank : trim t' = [] ↔ trim t = [])
    (said : Cursor.spoken s.spelling t' = Cursor.spoken s.spelling t) :
    s.addSpoken t' = s.addSpoken t := by
  unfold addSpoken
  by_cases empty : trim t = []
  · simp only [empty, blank.2 empty, List.isEmpty_nil, if_true]
  · have worded : (trim t).isEmpty = false := by simpa using empty
    have worded' : (trim t').isEmpty = false := by simpa [blank] using empty
    simp only [worded, worded']
    exact congrArg (fun spoken : Text =>
      { s.addChunks ((if s.spellDue then [.directive (.spelling true)] else []) ++
          [.text spoken]) with spellDue := false }) said

variable [DecidableEq H]

theorem next_text_of_chunk (chunk : roster.engine s.voice = .chunk) (t : Text) :
    s.next roster (.text t) = s.addSpoken t := by
  have engine : (roster.voice s.voice).engine = .chunk := chunk
  simp only [next, engine]

/-- Where escape characters are unheard, a state goes on as if there were none. -/
theorem next_withoutEscapes (chunk : roster.engine s.voice = .chunk)
    (unheard : EscapesUnheard t) :
    s.next roster (.text (withoutEscapes t)) = s.next roster (.text t) := by
  rw [next_text_of_chunk chunk, next_text_of_chunk chunk]
  exact addSpoken_congr unheard.blank_iff (unheard.spoken_withoutEscapes s.spelling)

theorem callsToEnd_withoutEscapes (chunked : ∀ h, roster.engine h = .chunk) {speech : Speech}
    (unheard : ∀ t, .text t ∈ speech → EscapesUnheard t) :
    s.callsToEnd roster (speech.mapText withoutEscapes) = s.callsToEnd roster speech := by
  induction speech generalizing s with
  | nil => rfl
  | cons cue rest ih =>
    have later := fun t member => unheard t (List.mem_cons_of_mem cue member)
    have go (cue' : Cue) (silent : s.calls roster cue' = s.calls roster cue)
        (same : s.next roster cue' = s.next roster cue) :
        s.callsToEnd roster (cue' :: Speech.mapText withoutEscapes rest) =
          s.callsToEnd roster (cue :: rest) := by
      rw [callsToEnd_cons, callsToEnd_cons, silent, same, ih later]
    cases cue with
    | text t =>
      exact go (.text (withoutEscapes t)) rfl
        (next_withoutEscapes (chunked s.voice) (unheard t List.mem_cons_self))
    | _ => exact go _ rfl rfl

end State

/-! ## What a payload shows of a text -/

/-- What stands of a text behind the first chunk of a payload. -/
def saidBehind (spelling : Bool) (t : Text) : Text :=
  if trim t = [] then [] else Chunk.separator ++ Cursor.spoken spelling t

/-- From what stands there, one can tell whether the text is blank and how it is said. -/
theorem saidBehind_inj {spelling : Bool} {t t' : Text}
    (same : saidBehind spelling t' = saidBehind spelling t) :
    (trim t' = [] ↔ trim t = []) ∧ Cursor.spoken spelling t' = Cursor.spoken spelling t := by
  have silent {u : Text} (blank : trim u = []) : Cursor.spoken spelling u = [] :=
    Cursor.spoken_of_blank (List.isEmpty_iff.2 blank)
  unfold saidBehind at same
  by_cases empty : trim t = [] <;> by_cases empty' : trim t' = []
  · exact ⟨iff_of_true empty' empty, (silent empty').trans (silent empty).symm⟩
  · rw [if_neg empty', if_pos empty] at same
    cases same
  · rw [if_pos empty', if_neg empty] at same
    cases same
  · rw [if_neg empty', if_neg empty] at same
    exact ⟨iff_of_false empty' empty, List.append_cancel_left same⟩

/-- The chunks of a text for a voice that need not be told to spell. -/
def textChunks (spelling : Bool) (t : Text) : List Chunk :=
  if (trim t).isEmpty then [] else [.text (Cursor.spoken spelling t)]

theorem frame_behind (d : Directive) (spelling : Bool) (t : Text) :
    Chunk.frame (.directive d :: textChunks spelling t) = d.render ++ saidBehind spelling t := by
  have free : Chunk.EscapeFree (.directive d :: textChunks spelling t) := by
    intro u member
    unfold textChunks at member
    split at member
    · cases List.mem_singleton.1 member
    · have same : u = Cursor.spoken spelling t := by simpa using member
      exact same ▸ Cursor.escape_notMem_spoken spelling t
  rw [Chunk.frame_eq_layout free, Chunk.layout]
  refine congrArg (d.render ++ ·) ?_
  unfold textChunks saidBehind
  by_cases blank : trim t = []
  · rw [if_pos (List.isEmpty_iff.2 blank), if_pos blank]
    rfl
  · rw [if_neg (by simpa using blank), if_neg blank, List.flatMap_singleton]
    rfl

section

variable [DecidableEq H] {roster : Roster H} {t t' : Text}

/-- Two deliveries of a directive and a text agree only if they agree on the text. -/
theorem saidBehind_of_deliver (chunk : roster.engine roster.default = .chunk) {cue : Cue}
    {d : Directive} {spelling : Bool}
    (asks : ∀ u, groups roster [cue, .text u] =
      [(roster.default, .directive d :: textChunks spelling u)])
    (same : deliver roster [cue, .text t'] = deliver roster [cue, .text t]) :
    saidBehind spelling t' = saidBehind spelling t := by
  have payloads (u : Text) : (deliver roster [cue, .text u]).filterMap (chunkPayload? roster) =
      [(roster.default, d.render ++ saidBehind spelling u)] := by
    have framed : (deliver roster [cue, .text u]).filterMap (chunkPayload? roster) =
        (groups roster [cue, .text u]).filterMap (framed? roster) :=
      State.filterMap_callsToEnd (.start roster) [cue, .text u]
    have some : d.render ++ saidBehind spelling u ≠ [] := List.cons_ne_nil _ _
    simp [framed, asks, framed?, chunk, frame_behind, some]
  have shown := congrArg (List.filterMap (chunkPayload? roster)) same
  rw [payloads, payloads] at shown
  exact List.append_cancel_left (congrArg Prod.snd (List.singleton_inj.1 shown))

/-- A bookmark in front of a text, and spelling, show whether escape characters are heard in it. -/
theorem escapesUnheard_of_deliver (chunk : roster.engine roster.default = .chunk)
    (bookmarked : deliver roster [.bookmark 0, .text (withoutEscapes t)] =
      deliver roster [.bookmark 0, .text t])
    (spelled : deliver roster [.spelling true, .text (withoutEscapes t)] =
      deliver roster [.spelling true, .text t]) :
    EscapesUnheard t := by
  have engine : (roster.voice roster.default).engine = .chunk := chunk
  have asksBehindBookmark (u : Text) : groups roster [.bookmark 0, .text u] =
      [(roster.default, .directive (.mark 0) :: textChunks false u)] := by
    simp [groups, Cursor.groups, Cursor.parts, Cursor.chunks, Cursor.next, Cursor.start, chunk,
      engine, textChunks]
  have asksBehindSpelling (u : Text) : groups roster [.spelling true, .text u] =
      [(roster.default, .directive (.spelling true) :: textChunks true u)] := by
    simp [groups, Cursor.groups, Cursor.parts, Cursor.chunks, Cursor.next, Cursor.start, engine,
      textChunks]
  obtain ⟨blank, unspelledSame⟩ :=
    saidBehind_inj (saidBehind_of_deliver chunk asksBehindBookmark bookmarked)
  obtain ⟨-, spelledSame⟩ :=
    saidBehind_inj (saidBehind_of_deliver chunk asksBehindSpelling spelled)
  refine escapesUnheard_of_spoken blank fun spelling => ?_
  cases spelling with
  | true => exact spelledSame
  | false => exact unspelledSame

end

/-- **Escape characters in texts.** Where all voices are of the chunk protocol, speeches made of
certain texts are delivered as they would be without escape characters just if escape characters are
unheard in each of these texts. -/
theorem deliver_withoutEscapes_iff [DecidableEq H] (roster : Roster H)
    (chunked : ∀ h, roster.engine h = .chunk) (among : Text → Prop) :
    (∀ speech : Speech, (∀ t, .text t ∈ speech → among t) →
        deliver roster (speech.mapText withoutEscapes) = deliver roster speech) ↔
      ∀ t, among t → EscapesUnheard t := by
  constructor
  · intro same t member
    have only (cue : Cue) (other : ∀ t, cue ≠ .text t) (u : Text)
        (listed : .text u ∈ ([cue, .text t] : Speech)) : among u := by
      rcases List.mem_cons.1 listed with first | second
      · exact absurd first.symm (other u)
      · cases List.mem_singleton.1 second
        exact member
    exact escapesUnheard_of_deliver (chunked roster.default)
      (same [.bookmark 0, .text t] (only _ nofun))
      (same [.spelling true, .text t] (only _ nofun))
  · intro unheard speech texts
    exact State.callsToEnd_withoutEscapes chunked fun t member => unheard t (texts t member)

/-- One chunk voice for all languages. -/
def announcer : Roster Unit where
  voice _ :=
    { name := "anna", engine := .chunk, language := "en", pitch := 50, rate := 50, volume := 50 }
  default := ()
  defaultLanguage := "en"
  voiceFor _ := none

/-- An escape character between two letters is unheard, however the text is repeated. -/
theorem deliver_withoutEscapes_announcer :
    (∀ h, announcer.engine h = .chunk) ∧
      ∀ speech : Speech, (∀ t, .text t ∈ speech → t = "a\x1bB".toList) →
        deliver announcer (speech.mapText withoutEscapes) = deliver announcer speech := by
  have chunked : ∀ h, announcer.engine h = .chunk := fun _ => rfl
  have unheard : EscapesUnheard "a\x1bB".toList :=
    ⟨by decide, by decide, by decide, by decide⟩
  exact ⟨chunked, (deliver_withoutEscapes_iff announcer chunked (· = "a\x1bB".toList)).2
    fun _ same => same ▸ unheard⟩

/-- Capitals are said in lower case where they stand alone, but not next to an escape character; and
of a text of escape characters, two separators are left. -/
theorem escapes_heard :
    deliver announcer [.text "A\x1b".toList] = [⟨(), .speak "A".toList⟩] ∧
      deliver announcer (Speech.mapText withoutEscapes [.text "A\x1b".toList]) =
        [⟨(), .speak "a".toList⟩] ∧
      deliver announcer [.text "a".toList, .text "\x1b".toList, .text "b".toList] =
        [⟨(), .speak "a    b".toList⟩] ∧
      deliver announcer (Speech.mapText withoutEscapes
          [.text "a".toList, .text "\x1b".toList, .text "b".toList]) =
        [⟨(), .speak "a  b".toList⟩] := by
  decide +kernel

end Delivery

end Polyvoice
