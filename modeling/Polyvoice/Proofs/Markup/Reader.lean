import Polyvoice.Proofs.Decimal.Digits
import Polyvoice.Proofs.Markup.Grammar

/-!
# Reading markup payloads

What a markup voice finds in a payload: characters, of which two come as entities, and tags
(`Markup.scan?`). Inside a tag, a greater-than sign between quotes does not end it. Pieces are read
back as what they were written from (`Markup.scan?_render`), whatever characters their texts hold.
-/

namespace Polyvoice.Markup

/-- What is read in a payload: a character, or a tag with all that stands between its angle
brackets. -/
inductive Token where
  | character (c : Char)
  | tag (body : Text)
deriving DecidableEq, Repr

/-- Where a reader stands: between tags, in an entity, in a tag, or in a quoted part of a tag, of
which a part was read. -/
inductive Place where
  | text
  | entity (read : Text)
  | tag (read : Text)
  | quoted (read : Text)
deriving DecidableEq, Repr

/-- The character that an entity stands for. -/
def entity? (name : Text) : Option Char :=
  if name = ['a', 'm', 'p'] then some '&'
  else if name = ['l', 't'] then some '<'
  else none

/-- Reads on from a place. What is not complete, and an entity that stands for no character, cannot
be read. -/
def scanFrom : Place → Text → Option (List Token)
  | .text, [] => some []
  | .text, c :: rest =>
    if c = '<' then scanFrom (.tag []) rest
    else if c = '&' then scanFrom (.entity []) rest
    else (scanFrom .text rest).map (.character c :: ·)
  | .entity read, c :: rest =>
    if c = ';' then
      match entity? read with
      | some found => (scanFrom .text rest).map (.character found :: ·)
      | none => none
    else scanFrom (.entity (read ++ [c])) rest
  | .tag read, c :: rest =>
    if c = '>' then (scanFrom .text rest).map (.tag read :: ·)
    else if c = '"' then scanFrom (.quoted (read ++ [c])) rest
    else scanFrom (.tag (read ++ [c])) rest
  | .quoted read, c :: rest =>
    if c = '"' then scanFrom (.tag (read ++ [c])) rest
    else scanFrom (.quoted (read ++ [c])) rest
  | .entity _, [] => none
  | .tag _, [] => none
  | .quoted _, [] => none

/-- Reads a payload. -/
def scan? (payload : Text) : Option (List Token) :=
  scanFrom .text payload

/-! ## Texts -/

theorem scan?_escapeChar_append (c : Char) (rest : Text) :
    scan? (escapeChar c ++ rest) = (scan? rest).map (.character c :: ·) := by
  unfold escapeChar
  split
  · rfl
  · rfl
  · rename_i amp less
    exact (if_neg less).trans (if_neg amp)

/-- An escaped text is read as the text. -/
theorem scan?_escape_append (t rest : Text) :
    scan? (escape t ++ rest) = (scan? rest).map (t.map .character ++ ·) := by
  induction t with
  | nil => cases read : scan? rest <;> simp [escape, read]
  | cons c t ih =>
    calc scan? (escape (c :: t) ++ rest)
        = scan? (escapeChar c ++ (escape t ++ rest)) := by simp [escape]
      _ = (scan? (escape t ++ rest)).map (.character c :: ·) := scan?_escapeChar_append c _
      _ = (scan? rest).map ((c :: t).map .character ++ ·) := by rw [ih, Option.map_map]; rfl

/-! ## Tags -/

/-- A quote or a greater-than sign means something inside a tag. -/
def TagFree (u : Text) : Prop :=
  '>' ∉ u ∧ '"' ∉ u

instance (u : Text) : Decidable (TagFree u) :=
  inferInstanceAs (Decidable (_ ∧ _))

/-- Other characters of a tag are read as they are. -/
theorem scanFrom_tag {u : Text} (free : TagFree u) (read rest : Text) :
    scanFrom (.tag read) (u ++ rest) = scanFrom (.tag (read ++ u)) rest := by
  induction u generalizing read with
  | nil => rw [List.nil_append, List.append_nil]
  | cons c u ih =>
    have noEnd : c ≠ '>' := fun same => free.1 (same ▸ List.mem_cons_self)
    have noQuote : c ≠ '"' := fun same => free.2 (same ▸ List.mem_cons_self)
    have later : TagFree u :=
      ⟨fun member => free.1 (List.mem_cons_of_mem c member),
        fun member => free.2 (List.mem_cons_of_mem c member)⟩
    rw [List.cons_append, scanFrom, if_neg noEnd, if_neg noQuote, ih later, List.append_assoc,
      List.singleton_append]

/-- What stands between quotes is read up to the second quote. -/
theorem scanFrom_quoted {u : Text} (free : '"' ∉ u) (read rest : Text) :
    scanFrom (.quoted read) (u ++ '"' :: rest) = scanFrom (.tag (read ++ (u ++ ['"']))) rest := by
  induction u generalizing read with
  | nil => rw [List.nil_append, scanFrom, if_pos rfl, List.nil_append]
  | cons c u ih =>
    have noQuote : c ≠ '"' := fun same => free (same ▸ List.mem_cons_self)
    rw [List.cons_append, scanFrom, if_neg noQuote,
      ih fun member => free (List.mem_cons_of_mem c member), List.append_assoc,
      List.singleton_append, List.cons_append]

theorem scanFrom_tag_end (read rest : Text) :
    scanFrom (.tag read) ('>' :: rest) = (scan? rest).map (.tag read :: ·) :=
  rfl

theorem quote_notMem_integer (n : Int) : '"' ∉ integer n :=
  Decimal.notMem_integer (by decide) (by decide)

theorem scanFrom_writeAttribute {key : String} (free : TagFree key.toList) (n : Int)
    (read rest : Text) :
    scanFrom (.tag read) (writeAttribute key n ++ rest) =
      scanFrom (.tag (read ++ writeAttribute key n)) rest := by
  have lead : TagFree (' ' :: (key.toList ++ ['='])) := by
    constructor
    · simp [free.1]
    · simp [free.2]
  calc scanFrom (.tag read) (writeAttribute key n ++ rest)
      = scanFrom (.tag read)
          (' ' :: (key.toList ++ ['=']) ++ '"' :: (integer n ++ '"' :: rest)) := by
        simp [writeAttribute]
    _ = scanFrom (.quoted (read ++ ' ' :: (key.toList ++ ['=']) ++ ['"']))
          (integer n ++ '"' :: rest) := by
        rw [scanFrom_tag lead]; rfl
    _ = scanFrom (.tag (read ++ writeAttribute key n)) rest := by
        rw [scanFrom_quoted (quote_notMem_integer n)]; simp [writeAttribute]

theorem scanFrom_attributes {attributes : Attributes}
    (free : ∀ a ∈ attributes, TagFree a.1.toList) (read rest : Text) :
    scanFrom (.tag read) (attributes.flatMap (fun a => writeAttribute a.1 a.2) ++ rest) =
      scanFrom (.tag (read ++ attributes.flatMap fun a => writeAttribute a.1 a.2)) rest := by
  induction attributes generalizing read with
  | nil => simp
  | cons a attributes ih =>
    have later := ih fun b member => free b (List.mem_cons_of_mem a member)
    rw [List.flatMap_cons, List.append_assoc,
      scanFrom_writeAttribute (free a List.mem_cons_self), later, List.append_assoc]

theorem Element.tagFree_name (element : Element) : TagFree element.name.toList := by
  cases element <;> decide

theorem Element.Accepts.tagFree {element : Element} {attributes : Attributes}
    (accepts : element.Accepts attributes) : ∀ a ∈ attributes, TagFree a.1.toList := by
  intro a member
  have key : a.1 ∈ element.keys := accepts ▸ List.mem_map_of_mem member
  have words : ∀ key ∈ element.keys, TagFree key.toList := by cases element <;> decide
  exact words a.1 key

/-- What stands between the angle brackets of a tag. -/
def Tag.body : Tag → Text
  | opening element attributes =>
    element.name.toList ++ attributes.flatMap fun a => writeAttribute a.1 a.2
  | closing element => '/' :: element.name.toList

/-- The names of a tag's attributes mean nothing inside a tag. -/
def Tag.Readable : Tag → Prop
  | opening _ attributes => ∀ a ∈ attributes, TagFree a.1.toList
  | closing _ => True

theorem Tag.Fits.readable {t : Tag} (fits : t.Fits) : t.Readable := by
  cases t with
  | opening element attributes => exact Element.Accepts.tagFree fits
  | closing element => trivial

/-- A tag is read as what stands between its angle brackets. -/
theorem scan?_tag_append {t : Tag} (readable : t.Readable) (rest : Text) :
    scan? (t.render ++ rest) = (scan? rest).map (.tag t.body :: ·) := by
  cases t with
  | opening element attributes =>
    calc scan? ((Tag.opening element attributes).render ++ rest)
        = scanFrom (.tag []) (element.name.toList ++
            (attributes.flatMap (fun a => writeAttribute a.1 a.2) ++ '>' :: rest)) := by
          simp [Tag.render, scan?, scanFrom]
      _ = (scan? rest).map (.tag (Tag.opening element attributes).body :: ·) := by
        rw [scanFrom_tag element.tagFree_name, List.nil_append, scanFrom_attributes readable,
          scanFrom_tag_end, Tag.body]
  | closing element =>
    have free : TagFree ('/' :: element.name.toList) := by cases element <;> decide
    calc scan? ((Tag.closing element).render ++ rest)
        = scanFrom (.tag []) ('/' :: element.name.toList ++ '>' :: rest) := by
          simp [Tag.render, scan?, scanFrom]
      _ = (scan? rest).map (.tag (Tag.closing element).body :: ·) := by
        rw [scanFrom_tag free, scanFrom_tag_end, List.nil_append, Tag.body]

/-- A tag without quotes is read as it is. -/
theorem scan?_plain_tag {u : Text} (free : TagFree u) (rest : Text) :
    scan? ('<' :: (u ++ '>' :: rest)) = (scan? rest).map (.tag u :: ·) := by
  calc scan? ('<' :: (u ++ '>' :: rest)) = scanFrom (.tag []) (u ++ '>' :: rest) := rfl
    _ = (scan? rest).map (.tag u :: ·) := by
      rw [scanFrom_tag free, List.nil_append, scanFrom_tag_end]

/-- A tag with one quoted part is read from its first character to its last. -/
theorem scan?_quoted_tag {before inside after : Text} (first : TagFree before)
    (quote : '"' ∉ inside) (last : TagFree after) (rest : Text) :
    scan? ('<' :: (before ++ '"' :: (inside ++ '"' :: (after ++ '>' :: rest)))) =
      (scan? rest).map (.tag (before ++ '"' :: (inside ++ '"' :: after)) :: ·) := by
  calc scan? ('<' :: (before ++ '"' :: (inside ++ '"' :: (after ++ '>' :: rest))))
      = scanFrom (.tag []) (before ++ '"' :: (inside ++ '"' :: (after ++ '>' :: rest))) := rfl
    _ = scanFrom (.quoted (before ++ ['"'])) (inside ++ '"' :: (after ++ '>' :: rest)) := by
      rw [scanFrom_tag first]; rfl
    _ = scanFrom (.tag (before ++ '"' :: (inside ++ '"' :: after))) ('>' :: rest) := by
      rw [scanFrom_quoted quote, scanFrom_tag last]; simp
    _ = (scan? rest).map (.tag (before ++ '"' :: (inside ++ '"' :: after)) :: ·) :=
      scanFrom_tag_end _ _

/-! ## Pieces -/

/-- What is read of a piece. -/
def Piece.tokens : Piece → List Token
  | tag t => [.tag t.body]
  | text t => t.map .character
  | bookmark id =>
    [.tag ("Bookmark Mark=".toList ++ '"' :: ((toString id.toNat).toList ++ '"' :: [' ', '/']))]
  | pronunciation phones words =>
    .tag ("pron sym=".toList ++ '"' :: (escapeAttribute phones ++ '"' :: [])) ::
      (words.map .character ++ [.tag "/pron".toList])

theorem render_bookmark_append (id : UInt32) (rest : Text) :
    (Piece.bookmark id).render ++ rest =
      '<' :: ("Bookmark Mark=".toList ++
        '"' :: ((toString id.toNat).toList ++ '"' :: ([' ', '/'] ++ '>' :: rest))) := by
  have start : "<Bookmark Mark=\"".toList = '<' :: ("Bookmark Mark=".toList ++ ['"']) := by decide
  have stop : "\" />".toList = '"' :: ([' ', '/'] ++ ['>']) := by decide
  unfold Piece.render
  rw [start, stop]
  simp only [List.append_assoc, List.cons_append, List.nil_append]

theorem render_pronunciation_append (phones words rest : Text) :
    (Piece.pronunciation phones words).render ++ rest =
      '<' :: ("pron sym=".toList ++ '"' :: (escapeAttribute phones ++
        '"' :: ([] ++ '>' :: (escape words ++ '<' :: ("/pron".toList ++ '>' :: rest))))) := by
  have start : "<pron sym=\"".toList = '<' :: ("pron sym=".toList ++ ['"']) := by decide
  have middle : "\">".toList = ['"', '>'] := by decide
  have stop : "</pron>".toList = '<' :: ("/pron".toList ++ ['>']) := by decide
  unfold Piece.render
  rw [start, middle, stop]
  simp only [List.append_assoc, List.cons_append, List.nil_append]

/-- A piece is read as what it is. -/
theorem scan?_piece_append {piece : Piece} (readable : ∀ t, piece = .tag t → t.Readable)
    (rest : Text) : scan? (piece.render ++ rest) = (scan? rest).map (piece.tokens ++ ·) := by
  cases piece with
  | tag t => exact scan?_tag_append (readable t rfl) rest
  | text t => exact scan?_escape_append t rest
  | bookmark id =>
    rw [render_bookmark_append]
    exact scan?_quoted_tag (by decide) (quote_notMem_integer id.toNat) (by decide) rest
  | pronunciation phones words =>
    have plain : TagFree "/pron".toList := by decide
    rw [render_pronunciation_append,
      scan?_quoted_tag (by decide) (quote_notMem_escapeAttribute phones) (by decide),
      scan?_escape_append, scan?_plain_tag plain, Option.map_map, Option.map_map]
    refine congrArg (Option.map · (scan? rest)) (funext fun read => ?_)
    simp [Piece.tokens]

/-- Pieces are read as what they are. -/
theorem scan?_render_of_readable {pieces : List Piece}
    (readable : ∀ t, .tag t ∈ pieces → t.Readable) :
    scan? (render pieces) = some (pieces.flatMap Piece.tokens) := by
  induction pieces with
  | nil => rfl
  | cons piece rest ih =>
    have written : render (piece :: rest) = piece.render ++ render rest := List.flatMap_cons
    have here : ∀ t, piece = .tag t → t.Readable := fun t is =>
      readable t (List.mem_cons.2 (Or.inl is.symm))
    rw [written, scan?_piece_append here,
      ih fun t member => readable t (List.mem_cons_of_mem piece member), Option.map_some,
      List.flatMap_cons]

/-- So are pieces whose tags fit. -/
theorem scan?_render {pieces : List Piece} (fits : ∀ piece ∈ pieces, piece.Fits) :
    scan? (render pieces) = some (pieces.flatMap Piece.tokens) :=
  scan?_render_of_readable fun t member => Tag.Fits.readable (fits (.tag t) member)

end Polyvoice.Markup
