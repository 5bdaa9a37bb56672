import Polyvoice.Proofs.Markup.Manners

/-!
# What open tags tell

A tag that opens an element begins with the name of the element. Each attribute follows behind a
space, with its name and an integer between quotes. A reader of tags finds the element and the
attributes that a tag was written from (`opening?_body`).

A reader of a text keeps the tags that are open, and refuses a tag that closes another element than
the innermost one (`Token.behind?`). Behind pieces that are nested it finds those elements unclosed
that they leave so, by their names (`openNames?_render`) and with the attributes that they were
opened with (`openEntries?_render`).
-/

namespace Polyvoice.Markup

/-! ## Tags that open elements -/

/-- Where a reader of attributes stands: between two of them, in the name of one, behind a name, or
in a value of which a part was read. -/
inductive AttributePlace where
  | apart
  | name (read : Text)
  | sign (name : Text)
  | value (name read : Text)
deriving DecidableEq, Repr

/-- Reads on from a place. An attribute that is not complete, or whose value is no integer, cannot be
read. -/
def attributesFrom : AttributePlace → Text → Option Attributes
  | .apart, [] => some []
  | .apart, c :: rest => if c = ' ' then attributesFrom (.name []) rest else none
  | .name read, c :: rest =>
    if c = '=' then attributesFrom (.sign read) rest
    else attributesFrom (.name (read ++ [c])) rest
  | .sign name, c :: rest => if c = '"' then attributesFrom (.value name []) rest else none
  | .value name read, c :: rest =>
    if c = '"' then
      match Decimal.readInteger? read with
      | some n => (attributesFrom .apart rest).map ((String.ofList name, n) :: ·)
      | none => none
    else attributesFrom (.value name (read ++ [c])) rest
  | .name _, [] => none
  | .sign _, [] => none
  | .value _ _, [] => none

/-- The element that has a name. -/
def element? (name : Text) : Option Element :=
  if name = "pitch".toList then some .pitch
  else if name = "volume".toList then some .volume
  else if name = "rate".toList then some .rate
  else if name = "spell".toList then some .spell
  else none

/-- The element that a tag opens and the attributes that it gives to it, from what stands between
the angle brackets. -/
def opening? (body : Text) : Option (Element × Attributes) :=
  match element? (elementName body), attributesFrom .apart (body.dropWhile (· != ' ')) with
  | some element, some attributes => some (element, attributes)
  | _, _ => none

/-- Where the names of a tag's attributes end can be told: they have none of the characters that
stand around them. -/
def Tag.Legible : Tag → Prop
  | opening _ attributes => ∀ a ∈ attributes, TagFree a.1.toList ∧ '=' ∉ a.1.toList
  | closing _ => True

theorem Tag.Legible.readable {t : Tag} (legible : t.Legible) : t.Readable := by
  cases t with
  | opening element attributes => exact fun a member => (legible a member).1
  | closing element => trivial

/-- The attributes of elements have plain names. -/
theorem Tag.Fits.legible {t : Tag} (fits : t.Fits) : t.Legible := by
  cases t with
  | opening element attributes =>
    intro a member
    have key : a.1 ∈ element.keys := fits ▸ List.mem_map_of_mem member
    have words : ∀ key ∈ element.keys, '=' ∉ key.toList := by cases element <;> decide
    exact ⟨Element.Accepts.tagFree fits a member, words a.1 key⟩
  | closing element => trivial

theorem attributesFrom_name {u : Text} (sign : '=' ∉ u) (read rest : Text) :
    attributesFrom (.name read) (u ++ '=' :: rest) = attributesFrom (.sign (read ++ u)) rest := by
  induction u generalizing read with
  | nil => rw [List.nil_append, attributesFrom, if_pos rfl, List.append_nil]
  | cons c u ih =>
    have noSign : c ≠ '=' := fun same => sign (same ▸ List.mem_cons_self)
    rw [List.cons_append, attributesFrom, if_neg noSign,
      ih fun member => sign (List.mem_cons_of_mem c member), List.append_assoc,
      List.singleton_append]

theorem attributesFrom_value {u : Text} {n : Int} (quote : '"' ∉ u) (name read rest : Text)
    (number : Decimal.readInteger? (read ++ u) = some n) :
    attributesFrom (.value name read) (u ++ '"' :: rest) =
      (attributesFrom .apart rest).map ((String.ofList name, n) :: ·) := by
  induction u generalizing read with
  | nil =>
    rw [List.append_nil] at number
    rw [List.nil_append, attributesFrom, if_pos rfl, number]
  | cons c u ih =>
    have noQuote : c ≠ '"' := fun same => quote (same ▸ List.mem_cons_self)
    rw [List.append_cons] at number
    rw [List.cons_append, attributesFrom, if_neg noQuote,
      ih (fun member => quote (List.mem_cons_of_mem c member)) _ number]

/-- An attribute is read as what it was written from. -/
theorem attributesFrom_writeAttribute {key : String} (sign : '=' ∉ key.toList) (n : Int)
    (rest : Text) :
    attributesFrom .apart (writeAttribute key n ++ rest) =
      (attributesFrom .apart rest).map ((key, n) :: ·) := by
  calc attributesFrom .apart (writeAttribute key n ++ rest)
      = attributesFrom (.name []) (key.toList ++ '=' :: '"' :: (integer n ++ '"' :: rest)) := by
        simp [writeAttribute, attributesFrom]
    _ = attributesFrom (.value key.toList []) (integer n ++ '"' :: rest) := by
        rw [attributesFrom_name sign]
        rfl
    _ = (attributesFrom .apart rest).map ((key, n) :: ·) := by
        rw [attributesFrom_value (quote_notMem_integer n) _ _ _ (Decimal.readInteger?_toString n),
          String.ofList_toList]

theorem attributesFrom_attributes {attributes : Attributes}
    (signs : ∀ a ∈ attributes, '=' ∉ a.1.toList) :
    attributesFrom .apart (attributes.flatMap fun a => writeAttribute a.1 a.2) =
      some attributes := by
  induction attributes with
  | nil => rfl
  | cons a attributes ih =>
    rw [List.flatMap_cons, attributesFrom_writeAttribute (signs a List.mem_cons_self),
      ih fun b member => signs b (List.mem_cons_of_mem a member), Option.map_some]

theorem element?_name (element : Element) : element? element.name.toList = some element := by
  cases element <;> decide

/-- Behind the name of its element, a tag has its attributes. -/
theorem dropWhile_body (element : Element) (attributes : Attributes) :
    (Tag.opening element attributes).body.dropWhile (· != ' ') =
      attributes.flatMap fun a => writeAttribute a.1 a.2 := by
  cases attributes with
  | nil => cases element <;> decide
  | cons a attributes => exact dropWhile_ne_append (space_notMem_name element) _

/-- A tag that opens an element is read as what it was written from. -/
theorem opening?_body {element : Element} {attributes : Attributes}
    (legible : (Tag.opening element attributes).Legible) :
    opening? (Tag.opening element attributes).body = some (element, attributes) := by
  have values := attributesFrom_attributes fun a member => (legible a member).2
  rw [opening?, elementName_body, element?_name, dropWhile_body, values]

/-- Open tags are read as the elements that they opened. -/
theorem mapM_opening?_bodies {entries : Entries}
    (legible : ∀ entry ∈ entries, (Tag.opening entry.1 entry.2).Legible) :
    (bodies entries).mapM opening? = some entries := by
  induction entries with
  | nil => rfl
  | cons entry entries ih =>
    have later := ih fun other member => legible other (List.mem_cons_of_mem entry member)
    rw [bodies] at later
    rw [bodies, List.map_cons, List.mapM_cons, opening?_body (legible entry List.mem_cons_self),
      later]
    rfl

/-! ## Tags that close elements -/

/-- The tags that are open behind a token, innermost first, if the token is allowed: a tag that
begins with a slash has to name the innermost element. -/
def Token.behind? (around : List Text) : Token → Option (List Text)
  | character _ => some around
  | tag body =>
    if body.head? = some '/' ∧ around.head?.map elementName ≠ some body.tail then none
    else some (behindTag body around)

/-- A tag that closes nothing is allowed everywhere. -/
theorem Token.behind?_of_head {body : Text} (unclosing : body.head? ≠ some '/')
    (around : List Text) : (tag body).behind? around = some (behindTag body around) :=
  if_neg fun closes => unclosing closes.1

/-- A reader allows a tag that the stack allows, and has the same elements open behind it. -/
theorem behind?_body {t : Tag} {entries : Entries} {stack : List Element}
    (allowed : t.onStack? (entries.map Prod.fst) = some stack) :
    (Token.tag t.body).behind? (bodies entries) = some (bodies (t.behind entries)) := by
  rw [← behindTag_body]
  cases t with
  | opening element attributes =>
    have first : (Tag.opening element attributes).body.head? ≠ some '/' := by
      cases element <;> simp [Tag.body, Element.name]
    exact Token.behind?_of_head first _
  | closing element =>
    cases entries with
    | nil => cases allowed
    | cons entry outer =>
      -- the stack allows the tag only if it names the innermost element
      have same : entry.1 = element := Decidable.byContradiction fun other => by
        cases (if_neg other).symm.trans allowed
      subst same
      have named : (bodies (entry :: outer)).head?.map elementName =
          some (Tag.closing entry.1).body.tail :=
        congrArg some (elementName_body entry.1 entry.2)
      exact if_neg fun stray => stray.2 named

/-- Characters close nothing. -/
theorem foldlM_characters (around : List Text) (t : Text) :
    (t.map Token.character).foldlM Token.behind? around = some around := by
  induction t with
  | nil => rfl
  | cons c t ih => exact ih

/-- A pronunciation closes what it opens. -/
theorem foldlM_pronunciation (around : List Text) (phones words : Text) :
    (Piece.pronunciation phones words).tokens.foldlM Token.behind? around = some around := by
  let opening := Token.tag (pronunciationBody phones)
  let closing := Token.tag "/pron".toList
  have opens : opening.behind? around = some (pronunciationBody phones :: around) := by
    have first : (pronunciationBody phones).head? ≠ some '/' := by
      rw [head?_pronunciationBody]
      decide
    rw [Token.behind?_of_head first, behindTag_pronunciation]
  have closes : closing.behind? (pronunciationBody phones :: around) = some around := by
    have named : (pronunciationBody phones :: around).head?.map elementName =
        some "/pron".toList.tail := by
      rw [List.head?_cons, Option.map_some, elementName_pronunciationBody]
      decide
    rw [Token.behind?, if_neg fun stray => stray.2 named, behindTag_pronunciation_end]
  have read : (Piece.pronunciation phones words).tokens =
      opening :: (words.map .character ++ [closing]) := rfl
  rw [read, List.foldlM_cons, opens, Option.bind_eq_bind, Option.bind_some, List.foldlM_append,
    foldlM_characters, Option.bind_eq_bind, Option.bind_some, List.foldlM_cons, closes]
  rfl

/-- A piece that may stand inside some elements leaves open what the writer thinks it does. -/
theorem foldlM_tokens {piece : Piece} {entries : Entries} {stack : List Element}
    (allowed : piece.onStack? (entries.map Prod.fst) = some stack) :
    piece.tokens.foldlM Token.behind? (bodies entries) = some (bodies (piece.behind entries)) := by
  cases piece with
  | tag t =>
    rw [Piece.tokens, List.foldlM_cons, behind?_body allowed]
    rfl
  | text t => exact foldlM_characters (bodies entries) t
  | bookmark id =>
    rw [Piece.tokens, List.foldlM_cons, Token.behind?_of_head (by simp), behindTag_bookmark]
    rfl
  | pronunciation phones words => exact foldlM_pronunciation (bodies entries) phones words

/-- Pieces leave open what the writer thinks they do. -/
theorem foldlM_flatMap_tokens {pieces : List Piece} {entries : Entries} {stack : List Element}
    (unclosed : unclosed? (entries.map Prod.fst) pieces = some stack) :
    (pieces.flatMap Piece.tokens).foldlM Token.behind? (bodies entries) =
      some (bodies (entriesBehind entries pieces)) := by
  induction pieces generalizing entries with
  | nil => rfl
  | cons piece rest ih =>
    obtain ⟨next, allowed, later⟩ := Option.bind_eq_some_iff.1 unclosed
    have alone : unclosed? (entries.map Prod.fst) [piece] = some next := by
      rw [unclosed?, allowed]
      rfl
    have elements : (piece.behind entries).map Prod.fst = next := map_fst_entriesBehind alone
    rw [← elements] at later
    rw [List.flatMap_cons, List.foldlM_append, foldlM_tokens allowed]
    exact ih later

/-- A reader of a text has those tags open behind it that its pieces leave open. -/
theorem foldlM_render {pieces : List Piece} (readable : ∀ t, .tag t ∈ pieces → t.Readable)
    {stack : List Element} (unclosed : unclosed? [] pieces = some stack) :
    ((scan? (render pieces)).bind fun tokens => tokens.foldlM Token.behind? []) =
      some (bodies (entriesBehind [] pieces)) := by
  have outermost : unclosed? (([] : Entries).map Prod.fst) pieces = some stack := unclosed
  rw [scan?_render_of_readable readable, Option.bind_some]
  exact foldlM_flatMap_tokens outermost

/-! ## What a text leaves open -/

/-- The names of the elements that a text leaves unclosed, innermost first, as a reader finds them.
A text that closes another element than the innermost one cannot be read. -/
def openNames? (t : Text) : Option (List Text) :=
  ((scan? t).bind fun tokens => tokens.foldlM Token.behind? []).map (List.map elementName)

/-- A reader of a text finds those elements unclosed that its pieces leave so. -/
theorem openNames?_render {pieces : List Piece} (fits : ∀ piece ∈ pieces, piece.Fits)
    {stack : List Element} (unclosed : unclosed? [] pieces = some stack) :
    openNames? (render pieces) = some (stack.map fun element => element.name.toList) := by
  have readable : ∀ t, .tag t ∈ pieces → t.Readable := fun t member =>
    Tag.Fits.readable (fits (.tag t) member)
  have elements : (entriesBehind [] pieces).map Prod.fst = stack := map_fst_entriesBehind unclosed
  have names : (bodies (entriesBehind [] pieces)).map elementName =
      stack.map fun element => element.name.toList := by
    rw [← elements, bodies, List.map_map, List.map_map]
    exact List.map_congr_left fun entry _ => elementName_body entry.1 entry.2
  rw [openNames?, foldlM_render readable unclosed, Option.map_some, names]

/-- What is open behind some pieces was open before or was opened by one of them. -/
theorem opening_mem_of_mem_entriesBehind {pieces : List Piece} {entries : Entries}
    {entry : Element × Attributes} (member : entry ∈ entriesBehind entries pieces) :
    entry ∈ entries ∨ .tag (.opening entry.1 entry.2) ∈ pieces := by
  induction pieces generalizing entries with
  | nil => exact Or.inl member
  | cons piece rest ih =>
    rcases ih member with before | later
    · cases piece with
      | tag t =>
        cases t with
        | opening element attributes =>
          rcases List.mem_cons.1 before with rfl | outer
          · exact Or.inr List.mem_cons_self
          · exact Or.inl outer
        | closing element => exact Or.inl (List.mem_of_mem_tail before)
      | _ => exact Or.inl before
    · exact Or.inr (List.mem_cons_of_mem piece later)

/-- The elements that a text leaves unclosed, innermost first, with their attributes, as a reader
finds them. -/
def openEntries? (t : Text) : Option Entries :=
  ((scan? t).bind fun tokens => tokens.foldlM Token.behind? []).bind (List.mapM opening?)

/-- A reader of a text finds those elements unclosed that its pieces leave so, with the attributes
that they were opened with. -/
theorem openEntries?_render {pieces : List Piece} (legible : ∀ t, .tag t ∈ pieces → t.Legible)
    {stack : List Element} (unclosed : unclosed? [] pieces = some stack) :
    openEntries? (render pieces) = some (entriesBehind [] pieces) := by
  have readable : ∀ t, .tag t ∈ pieces → t.Readable := fun t member =>
    (legible t member).readable
  rw [openEntries?, foldlM_render readable unclosed, Option.bind_some]
  refine mapM_opening?_bodies fun entry member => ?_
  rcases opening_mem_of_mem_entriesBehind member with before | written
  · cases before
  · exact legible _ written

-- An outer element cannot be closed before an inner one.
example :
    openEntries? "<rate absspeed=\"60\"><spell>".toList =
        some [(.spell, []), (.rate, [("absspeed", 60)])] ∧
      openEntries? "<rate absspeed=\"60\"><spell></rate>".toList = none := by
  decide +kernel

end Polyvoice.Markup
