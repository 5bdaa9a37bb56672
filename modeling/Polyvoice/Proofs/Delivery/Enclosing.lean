import Polyvoice.Proofs.Delivery.Utterances

/-!
# What stands around the characters of a payload

A reader of a markup payload notes with each character the tags that are open around it
(`Markup.enclosed`). They are the tags of the elements that the pieces in front of the character
left open (`Markup.tagsBehind_pieces`). Of the calls of a delivery, those are read that take a
payload to a markup voice (`Delivery.enclosures?`).
-/

namespace Polyvoice

namespace Markup

/-- The characters among some tokens, each with the tags that are open around it, innermost first,
where some tags are open from the start. -/
def enclosed (around : List Text) : List Token → List (Char × List Text)
  | [] => []
  | .character c :: rest => (c, around) :: enclosed around rest
  | .tag body :: rest => enclosed (behindTag body around) rest

theorem enclosed_append (around : List Text) (tokens more : List Token) :
    enclosed around (tokens ++ more) =
      enclosed around tokens ++ enclosed (tagsBehind around tokens) more := by
  induction tokens generalizing around with
  | nil => rfl
  | cons token rest ih =>
    cases token with
    | character c => exact congrArg ((c, around) :: ·) (ih around)
    | tag body => exact ih (behindTag body around)

theorem enclosed_characters (around : List Text) (t : Text) :
    enclosed around (t.map .character) = t.map (·, around) := by
  induction t with
  | nil => rfl
  | cons c t ih => exact congrArg ((c, around) :: ·) ih

theorem tagsBehind_characters (around : List Text) (t : Text) :
    tagsBehind around (t.map .character) = around := by
  induction t with
  | nil => rfl
  | cons c t ih => exact ih

/-- The words of a pronunciation stand inside its tag. -/
theorem enclosed_pronunciation (around : List Text) (phones words : Text) :
    enclosed around (Piece.pronunciation phones words).tokens =
      words.map (·, pronunciationBody phones :: around) := by
  have opened : enclosed around (Piece.pronunciation phones words).tokens =
      enclosed (behindTag (pronunciationBody phones) around)
        (words.map .character ++ [.tag "/pron".toList]) := rfl
  rw [opened, behindTag_pronunciation, enclosed_append, enclosed_characters]
  exact List.append_nil _

/-- Tags are no characters. -/
theorem enclosed_of_tags {pieces : List Piece} (tags : ∀ piece ∈ pieces, ∃ t, piece = .tag t)
    (around : List Text) : enclosed around (pieces.flatMap Piece.tokens) = [] := by
  induction pieces generalizing around with
  | nil => rfl
  | cons piece rest ih =>
    obtain ⟨t, rfl⟩ := tags piece List.mem_cons_self
    exact ih (fun other member => tags other (List.mem_cons_of_mem _ member)) _

theorem enclosed_map_tag (tags : List Tag) (around : List Text) :
    enclosed around ((tags.map Piece.tag).flatMap Piece.tokens) = [] := by
  refine enclosed_of_tags (fun piece member => ?_) around
  obtain ⟨t, -, rfl⟩ := List.mem_map.1 member
  exact ⟨t, rfl⟩

/-! ## Elements that pieces leave open -/

section Entries

variable {pieces : List Piece} {entries : Entries}

theorem tagsBehind_piece {piece : Piece} (fits : piece.Fits) (entries : Entries) :
    tagsBehind (bodies entries) piece.tokens = bodies (piece.behind entries) := by
  cases piece with
  | tag t => exact behindTag_body t entries
  | text t => exact tagsBehind_characters (bodies entries) t
  | bookmark id =>
    rw [Piece.tokens, tagsBehind, List.foldl_cons, Token.behind, behindTag_bookmark]
    rfl
  | pronunciation phones words =>
    have opened : tagsBehind (bodies entries) (Piece.pronunciation phones words).tokens =
        tagsBehind (behindTag (pronunciationBody phones) (bodies entries))
          (words.map .character ++ [.tag "/pron".toList]) := rfl
    rw [opened, behindTag_pronunciation, tagsBehind_append, tagsBehind_characters]
    exact behindTag_pronunciation_end (pronunciationBody phones) (bodies entries)

/-- The tags that are open behind pieces are those of the elements that the pieces leave open. -/
theorem tagsBehind_pieces (fits : ∀ piece ∈ pieces, piece.Fits) (entries : Entries) :
    tagsBehind (bodies entries) (pieces.flatMap Piece.tokens) =
      bodies (entriesBehind entries pieces) := by
  induction pieces generalizing entries with
  | nil => rfl
  | cons piece rest ih =>
    rw [List.flatMap_cons, tagsBehind_append, tagsBehind_piece (fits piece List.mem_cons_self),
      ih fun other member => fits other (List.mem_cons_of_mem piece member)]
    rfl

theorem accepts_entriesBehind (fits : ∀ piece ∈ pieces, piece.Fits)
    (accepts : ∀ entry ∈ entries, entry.1.Accepts entry.2) :
    ∀ entry ∈ entriesBehind entries pieces, entry.1.Accepts entry.2 := by
  induction pieces generalizing entries with
  | nil => exact accepts
  | cons piece rest ih =>
    exact ih (fun other member => fits other (List.mem_cons_of_mem piece member))
      (accepts_behind (fits piece List.mem_cons_self) accepts)

/-- An element with one attribute is open with the value that it asks for. -/
theorem lookup_eq_value? (accepts : ∀ entry ∈ entries, entry.1.Accepts entry.2)
    {element : Element} {key : String} (keys : element.keys = [key]) :
    entries.lookup element = (value? element entries).map fun n => [(key, n)] := by
  unfold value?
  cases found : entries.lookup element with
  | none => rfl
  | some attributes =>
    obtain ⟨before, after, whole, -⟩ := List.lookup_eq_some_iff.1 found
    have member : (element, attributes) ∈ entries := whole ▸ List.mem_append_cons_self
    have fits : attributes.map Prod.fst = [key] := (accepts _ member).trans keys
    obtain ⟨⟨_, n⟩, rfl, rfl⟩ := List.map_eq_singleton_iff.1 fits
    rfl

theorem exists_lookup (accepts : ∀ entry ∈ entries, entry.1.Accepts entry.2)
    {element : Element} {key : String} (keys : element.keys = [key])
    (member : element ∈ entries.map Prod.fst) : ∃ n, entries.lookup element = some [(key, n)] := by
  obtain ⟨entry, inside, rfl⟩ := List.mem_map.1 member
  have found : entries.lookup entry.1 ≠ none := fun missed =>
    bne_iff_ne.1 (List.lookup_eq_none_iff.1 missed entry inside) rfl
  rw [lookup_eq_value? accepts keys] at found ⊢
  cases value : value? entry.1 entries with
  | none => exact absurd (congrArg _ value) found
  | some n => exact ⟨n, rfl⟩

/-- An element without attributes is open or not. -/
theorem lookup_spell (accepts : ∀ entry ∈ entries, entry.1.Accepts entry.2) :
    entries.lookup .spell = if (entries.lookup .spell).isSome then some [] else none := by
  cases found : entries.lookup .spell with
  | none => rfl
  | some attributes =>
    obtain ⟨before, after, whole, -⟩ := List.lookup_eq_some_iff.1 found
    have member : (.spell, attributes) ∈ entries := whole ▸ List.mem_append_cons_self
    have bare : attributes = [] := List.map_eq_nil_iff.1 (accepts _ member)
    rw [bare]
    rfl

end Entries

end Markup

/-! ## Reading calls -/

namespace Delivery

variable {H : Type} {roster : Roster H}

/-- The characters that a markup voice reads in a call, each with the tags around it. -/
def enclosure? (roster : Roster H) (call : Call H) : Option (List (H × Char × List Text)) :=
  match roster.engine call.voice, call.op with
  | .markup, .speak payload =>
    (Markup.scan? payload).map fun tokens => (Markup.enclosed [] tokens).map (call.voice, ·)
  | _, _ => some []

/-- The characters that markup voices read in calls, one call after the other. -/
def enclosures? (roster : Roster H) (calls : List (Call H)) :
    Option (List (H × Char × List Text)) :=
  (calls.mapM (enclosure? roster)).map List.flatten

theorem enclosure?_of_other {call : Call H} (other : roster.engine call.voice ≠ .markup) :
    enclosure? roster call = some [] := by
  unfold enclosure?
  split
  · rename_i markup _
    exact absurd markup other
  · rfl

theorem enclosure?_of_signal {call : Call H} (silent : ∀ payload, call.op ≠ .speak payload) :
    enclosure? roster call = some [] := by
  unfold enclosure?
  split
  · rename_i speaks
    exact absurd speaks (silent _)
  · rfl

theorem enclosure?_speak_nil (h : H) : enclosure? roster ⟨h, .speak []⟩ = some [] := by
  unfold enclosure?
  split
  · rename_i speaks
    cases speaks
    rfl
  · rfl

theorem enclosures?_append {calls more : List (Call H)} {read later : List (H × Char × List Text)}
    (first : enclosures? roster calls = some read) (second : enclosures? roster more = some later) :
    enclosures? roster (calls ++ more) = some (read ++ later) := by
  obtain ⟨front, frontReads, rfl⟩ := Option.map_eq_some_iff.1 first
  obtain ⟨back, backReads, rfl⟩ := Option.map_eq_some_iff.1 second
  simp [enclosures?, List.mapM_append, frontReads, backReads]

theorem enclosures?_singleton {call : Call H} {read : List (H × Char × List Text)}
    (reads : enclosure? roster call = some read) : enclosures? roster [call] = some read := by
  simp [enclosures?, reads]

namespace State

variable {s : State H}

/-- What is buffered for a markup voice and has yet to be read. -/
def unread (s : State H) : List (H × Char × List Text) :=
  (Markup.enclosed [] (s.markup.flatMap Markup.Piece.tokens)).map (s.voice, ·)

theorem unread_of_tags (tags : ∀ piece ∈ s.markup, ∃ t, piece = .tag t) : s.unread = [] := by
  rw [unread, Markup.enclosed_of_tags tags]
  rfl

/-- What a flush sends is read as what is buffered. -/
theorem enclosures?_flushCalls (buffered : s.Buffered roster) (nested : s.Nested) :
    enclosures? roster (s.flushCalls roster) = some s.unread := by
  have reads : enclosure? roster ⟨s.voice, .speak (s.payload roster)⟩ = some s.unread := by
    by_cases markup : roster.engine s.voice = .markup
    · have payload : s.payload roster =
          Markup.render (s.markup ++ s.staging.closings.map .tag) := by
        rw [State.payload, markup]
      simp only [enclosure?, markup]
      rw [payload, Markup.scan?_render nested.fits_payload, Option.map_some, List.flatMap_append,
        Markup.enclosed_append, Markup.enclosed_map_tag, List.append_nil, unread]
    · have nothing : s.unread = [] := by
        rw [unread, buffered.markup_nil markup]
        rfl
      rw [enclosure?_of_other markup, nothing]
  unfold flushCalls
  split
  · exact enclosures?_singleton reads
  · rename_i unsent
    have nothing : s.unread = [] := by
      cases pending : s.pending with
      | false => exact unread_of_tags (buffered.idle_markup pending)
      | true =>
        -- a payload is held back only where it is empty
        have empty : s.payload roster = [] :=
          Decidable.byContradiction fun present => unsent ⟨pending, present⟩
        rw [empty, enclosure?_speak_nil] at reads
        exact (Option.some.inj reads).symm
    rw [nothing]
    rfl

/-- What is sent beside payloads is not read. -/
theorem enclosures?_signals (s : State H) (cue : Cue) :
    enclosures? roster ((s.cursor.signals roster cue).map (⟨s.voice, ·⟩)) = some [] := by
  cases cue with
  | silence ms => exact enclosures?_singleton (enclosure?_of_signal (by simp))
  | bookmark id =>
    rw [Cursor.signals]
    split
    · exact enclosures?_singleton (enclosure?_of_signal (by simp))
    · rfl
  | _ => rfl

end State

end Delivery

end Polyvoice
