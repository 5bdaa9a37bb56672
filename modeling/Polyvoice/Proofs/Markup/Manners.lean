import Polyvoice.Proofs.Markup.Reader

/-!
# Manners

In which manner a markup voice says a text: the pitch, volume and rate that the innermost elements
around the text ask for, and whether it is spelled. A reader finds this by keeping the tags that
are still open (`behindTag`, `readManner`). A writer knows it from the elements that it has opened,
with their attributes (`Manner.inside`), and both agree on what was written
(`readManner_bodies`).
-/

namespace Polyvoice.Markup

/-- How a text is said: what the elements around it ask for. -/
structure Manner where
  /-- The offset from the middle, which is the voice's own one if no element asks for another. -/
  pitch : Int
  volume : Option Int
  rate : Option Int
  spelled : Bool
deriving DecidableEq, Repr

/-! ## As it is read -/

/-- The name of an element, from what stands between the angle brackets of its tag. -/
def elementName (body : Text) : Text :=
  body.takeWhile (· != ' ')

/-- The integer between the first two quotes of a tag. -/
def quotedInteger? (body : Text) : Option Int :=
  Decimal.readInteger? (((body.dropWhile (· != '"')).drop 1).takeWhile (· != '"'))

/-- The tags that are open behind a tag, innermost first. A tag that begins with a slash closes the
innermost one, and a tag that ends with a slash stands for itself. -/
def behindTag (body : Text) (around : List Text) : List Text :=
  if body.head? = some '/' then around.tail
  else if body.getLast? = some '/' then around
  else body :: around

/-- The tags that are open behind a token. -/
def Token.behind (around : List Text) : Token → List Text
  | character _ => around
  | tag body => behindTag body around

/-- The tags that are open behind some tokens. -/
def tagsBehind (around : List Text) (tokens : List Token) : List Text :=
  tokens.foldl Token.behind around

theorem tagsBehind_append (around : List Text) (tokens more : List Token) :
    tagsBehind around (tokens ++ more) = tagsBehind (tagsBehind around tokens) more :=
  List.foldl_append

/-- The innermost open tag of an element. -/
def innermost? (element : Element) (around : List Text) : Option Text :=
  around.find? (elementName · == element.name.toList)

/-- The manner of what is said inside some tags by a voice with the given pitch. -/
def readManner (base : Int) (around : List Text) : Manner where
  pitch := ((innermost? .pitch around).bind quotedInteger?).getD base
  volume := (innermost? .volume around).bind quotedInteger?
  rate := (innermost? .rate around).bind quotedInteger?
  spelled := (innermost? .spell around).isSome

/-! ## As it is written -/

/-- The open elements with their attributes, innermost first. -/
abbrev Entries := List (Element × Attributes)

/-- What an element that is open asks for. -/
def value? (element : Element) (entries : Entries) : Option Int :=
  (entries.lookup element).bind fun attributes => attributes.head?.map Prod.snd

/-- The manner inside some elements. -/
def Manner.inside (base : Int) (entries : Entries) : Manner where
  pitch := (value? .pitch entries).getD base
  volume := value? .volume entries
  rate := value? .rate entries
  spelled := (entries.lookup .spell).isSome

/-- The open elements behind a tag. -/
def Tag.behind (entries : Entries) : Tag → Entries
  | opening element attributes => (element, attributes) :: entries
  | closing _ => entries.tail

/-- The open elements behind a piece. -/
def Piece.behind (entries : Entries) : Piece → Entries
  | tag t => t.behind entries
  | _ => entries

/-- The open elements behind some pieces. -/
def entriesBehind (entries : Entries) (pieces : List Piece) : Entries :=
  pieces.foldl Piece.behind entries

theorem entriesBehind_append (entries : Entries) (pieces more : List Piece) :
    entriesBehind entries (pieces ++ more) =
      entriesBehind (entriesBehind entries pieces) more :=
  List.foldl_append

/-- Pieces that are no tags leave the elements as they are. -/
theorem entriesBehind_of_untagged {pieces : List Piece} (untagged : ∀ t, .tag t ∉ pieces)
    (entries : Entries) : entriesBehind entries pieces = entries := by
  induction pieces with
  | nil => rfl
  | cons piece rest ih =>
    have later := ih fun t member => untagged t (List.mem_cons_of_mem piece member)
    cases piece with
    | tag t => exact absurd List.mem_cons_self (untagged t)
    | _ => exact later

/-- The open elements are those on the stack of the tags. -/
theorem map_fst_entriesBehind {pieces : List Piece} {entries : Entries} {stack : List Element}
    (unclosed : unclosed? (entries.map Prod.fst) pieces = some stack) :
    (entriesBehind entries pieces).map Prod.fst = stack := by
  induction pieces generalizing entries with
  | nil => exact Option.some.inj unclosed
  | cons piece rest ih =>
    obtain ⟨next, here, later⟩ := Option.bind_eq_some_iff.1 unclosed
    suffices same : next = (piece.behind entries).map Prod.fst from ih (same ▸ later)
    cases piece with
    | tag t =>
      cases t with
      | opening element attributes =>
        by_cases member : element ∈ entries.map Prod.fst
        · cases (if_pos member).symm.trans here
        · exact Option.some.inj (here.symm.trans (if_neg member))
      | closing element =>
        cases entries with
        | nil => cases here
        | cons entry entries =>
          by_cases same : entry.1 = element
          · exact Option.some.inj (here.symm.trans (if_pos same))
          · cases (if_neg same).symm.trans here
    | _ => exact (Option.some.inj here).symm

theorem entriesBehind_closings (elements : List Element) (entries : Entries) :
    entriesBehind entries ((elements.map Tag.closing).map .tag) =
      entries.drop elements.length := by
  induction elements generalizing entries with
  | nil => rfl
  | cons element elements ih =>
    calc entriesBehind entries (((element :: elements).map Tag.closing).map .tag)
        = entriesBehind entries.tail ((elements.map Tag.closing).map .tag) := rfl
      _ = entries.drop (element :: elements).length := by
        rw [ih, List.length_cons, ← List.drop_one, List.drop_drop, Nat.add_comm]

theorem entriesBehind_openings (staging : Staging) (entries : Entries) :
    entriesBehind entries (staging.openings.map .tag) = staging.staged.reverse ++ entries := by
  unfold Staging.openings
  generalize staging.staged = staged
  induction staged generalizing entries with
  | nil => rfl
  | cons entry staged ih =>
    calc entriesBehind entries (((entry :: staged).map fun e => Tag.opening e.1 e.2).map .tag)
        = entriesBehind (entry :: entries)
            ((staged.map fun e => Tag.opening e.1 e.2).map .tag) := rfl
      _ = (entry :: staged).reverse ++ entries := by
        rw [ih, List.reverse_cons, List.append_assoc, List.singleton_append]

/-- The elements around the next text, once those are open that were staged. -/
theorem Staging.entriesBehind_emission {staging : Staging} {pieces : List Piece}
    (unclosed : unclosed? [] pieces = some staging.opened.reverse) (dirty : staging.dirty = true) :
    entriesBehind [] (pieces ++ staging.emission.map .tag) = staging.staged.reverse := by
  have elements : (entriesBehind [] pieces).map Prod.fst = staging.opened.reverse :=
    map_fst_entriesBehind unclosed
  have depth : staging.opened.reverse.length = (entriesBehind [] pieces).length := by
    rw [← elements, List.length_map]
  rw [emission, if_pos dirty, List.map_append, entriesBehind_append, entriesBehind_append,
    closings, entriesBehind_closings, depth, List.drop_length, entriesBehind_openings,
    List.append_nil]

/-! ## What is written is what is read -/

/-- What stands between the angle brackets of the tags that opened some elements. -/
def bodies (entries : Entries) : List Text :=
  entries.map fun entry => (Tag.opening entry.1 entry.2).body

/-- The values of an element's attributes. -/
theorem Element.Accepts.value {element : Element} {attributes : Attributes}
    (accepts : element.Accepts attributes) :
    (element = .spell ∧ attributes = []) ∨ ∃ key n, attributes = [(key, n)] := by
  cases element with
  | spell => exact Or.inl ⟨rfl, List.map_eq_nil_iff.1 accepts⟩
  | _ =>
    obtain ⟨⟨key, n⟩, rfl, -⟩ := List.map_eq_singleton_iff.1 accepts
    exact Or.inr ⟨key, n, rfl⟩

/-- A reader and a writer agree on what is open behind a tag: a tag that opens an element neither
begins nor ends with a slash. -/
theorem behindTag_body (t : Tag) (entries : Entries) :
    behindTag t.body (bodies entries) = bodies (t.behind entries) := by
  cases t with
  | opening element attributes =>
    have first : (Tag.opening element attributes).body.head? ≠ some '/' := by
      cases element <;> simp [Tag.body, Element.name]
    have last : (Tag.opening element attributes).body.getLast? ≠ some '/' := by
      rcases List.eq_nil_or_concat attributes with rfl | ⟨front, a, rfl⟩
      · cases element <;> decide
      · have written : (Tag.opening element (front.concat a)).body =
            element.name.toList ++ front.flatMap (fun a => writeAttribute a.1 a.2) ++
              ' ' :: (a.1.toList ++ '=' :: '"' :: integer a.2) ++ ['"'] := by
          simp [Tag.body, writeAttribute]
        rw [written, List.getLast?_concat]
        decide
    rw [behindTag, if_neg first, if_neg last]
    rfl
  | closing element => exact (if_pos rfl).trans List.map_tail.symm

theorem space_notMem_name (element : Element) : ' ' ∉ element.name.toList := by
  cases element <;> decide

theorem quote_notMem_name (element : Element) : '"' ∉ element.name.toList := by
  cases element <;> decide

/-- A part before a character that does not occur in it is cut off there. -/
theorem takeWhile_ne_append {c : Char} {t : Text} (absent : c ∉ t) (rest : Text) :
    (t ++ c :: rest).takeWhile (· != c) = t := by
  have apart : ∀ d ∈ t, (d != c) = true := fun d member =>
    bne_iff_ne.2 fun same => absent (same ▸ member)
  rw [List.takeWhile_append_of_pos apart, List.takeWhile_cons_of_neg (by simp), List.append_nil]

theorem dropWhile_ne_append {c : Char} {t : Text} (absent : c ∉ t) (rest : Text) :
    (t ++ c :: rest).dropWhile (· != c) = c :: rest := by
  have apart : ∀ d ∈ t, (d != c) = true := fun d member =>
    bne_iff_ne.2 fun same => absent (same ▸ member)
  rw [List.dropWhile_append_of_pos apart, List.dropWhile_cons_of_neg (by simp)]

theorem elementName_body (element : Element) (attributes : Attributes) :
    elementName (Tag.opening element attributes).body = element.name.toList := by
  cases attributes with
  | nil => cases element <;> decide
  | cons a attributes => exact takeWhile_ne_append (space_notMem_name element) _

theorem quotedInteger?_body {element : Element} {attributes : Attributes}
    (accepts : element.Accepts attributes) :
    quotedInteger? (Tag.opening element attributes).body = attributes.head?.map Prod.snd := by
  rcases accepts.value with ⟨rfl, rfl⟩ | ⟨key, n, rfl⟩
  · decide
  · have lead : '"' ∉ element.name.toList ++ ' ' :: (key.toList ++ ['=']) := by
      have word : TagFree key.toList :=
        accepts.tagFree (key, n) (List.mem_singleton.2 rfl)
      simp [quote_notMem_name element, word.2]
    have written : (Tag.opening element [(key, n)]).body =
        element.name.toList ++ ' ' :: (key.toList ++ ['=']) ++
          '"' :: (integer n ++ '"' :: []) := by
      simp [Tag.body, writeAttribute]
    rw [quotedInteger?, written, dropWhile_ne_append lead, List.drop_one, List.tail_cons,
      takeWhile_ne_append (quote_notMem_integer n)]
    exact Decimal.readInteger?_toString n

section Bodies

variable {entries : Entries} (accepts : ∀ entry ∈ entries, entry.1.Accepts entry.2)

include accepts

theorem innermost?_bodies (element : Element) :
    innermost? element (bodies entries) =
      (entries.lookup element).map fun attributes => (Tag.opening element attributes).body := by
  induction entries with
  | nil => rfl
  | cons entry entries ih =>
    have later := ih fun other member => accepts other (List.mem_cons_of_mem entry member)
    have name := elementName_body entry.1 entry.2
    by_cases same : entry.1 = element
    · subst same
      rw [bodies, innermost?, List.map_cons, List.find?_cons_of_pos (by simp [name]),
        List.lookup_cons_self]
      rfl
    · have apart : (entry.1.name.toList == element.name.toList) = false := by
        revert same
        cases entry.1 <;> cases element <;> decide
      have other : (element == entry.1) = false := beq_eq_false_iff_ne.2 fun h => same h.symm
      rw [bodies, innermost?, List.map_cons, List.find?_cons_of_neg (by simp [name, apart])]
      rw [List.lookup_cons, other]
      exact later

/-- A reader finds the value that an element was opened with. -/
theorem quotedInteger?_innermost? (element : Element) :
    (innermost? element (bodies entries)).bind quotedInteger? = value? element entries := by
  rw [innermost?_bodies accepts, value?]
  cases found : entries.lookup element with
  | none => rfl
  | some attributes =>
    obtain ⟨before, after, whole, -⟩ := List.lookup_eq_some_iff.1 found
    have member : (element, attributes) ∈ entries := whole ▸ List.mem_append_cons_self
    exact quotedInteger?_body (accepts _ member)

/-- The manner that is read is the manner inside the elements that were written. -/
theorem readManner_bodies (base : Int) :
    readManner base (bodies entries) = Manner.inside base entries := by
  simp only [readManner, Manner.inside, quotedInteger?_innermost? accepts]
  rw [innermost?_bodies accepts, Option.isSome_map]

end Bodies

/-! ## Tags of bookmarks and pronunciations -/

theorem behindTag_bookmark (digits : Text) (around : List Text) :
    behindTag ("Bookmark Mark=".toList ++ '"' :: (digits ++ '"' :: [' ', '/'])) around =
      around := by
  have last : ("Bookmark Mark=".toList ++ '"' :: (digits ++ '"' :: [' ', '/'])).getLast? =
      some '/' := by
    have written : "Bookmark Mark=".toList ++ '"' :: (digits ++ '"' :: [' ', '/']) =
        "Bookmark Mark=".toList ++ '"' :: (digits ++ ['"', ' ']) ++ ['/'] := by simp
    rw [written, List.getLast?_concat]
  rw [behindTag, if_neg (by simp), if_pos last]

/-- What a pronunciation is opened with. -/
def pronunciationBody (phones : Text) : Text :=
  "pron sym=".toList ++ '"' :: (escapeAttribute phones ++ '"' :: [])

theorem behindTag_pronunciation_end (body : Text) (around : List Text) :
    behindTag "/pron".toList (body :: around) = around :=
  if_pos rfl

theorem head?_pronunciationBody (phones : Text) :
    (pronunciationBody phones).head? = some 'p' := by
  have lead : "pron sym=".toList = 'p' :: "ron sym=".toList := by decide
  unfold pronunciationBody
  rw [lead]
  exact List.head?_cons

theorem elementName_pronunciationBody (phones : Text) :
    elementName (pronunciationBody phones) = "pron".toList := by
  have lead : pronunciationBody phones = "pron".toList ++
      ' ' :: ("sym=".toList ++ '"' :: (escapeAttribute phones ++ '"' :: [])) := rfl
  rw [elementName, lead]
  exact takeWhile_ne_append (by decide) _

theorem behindTag_pronunciation (phones : Text) (around : List Text) :
    behindTag (pronunciationBody phones) around = pronunciationBody phones :: around := by
  have last : (pronunciationBody phones).getLast? = some '"' := by
    have written : pronunciationBody phones =
        "pron sym=".toList ++ '"' :: escapeAttribute phones ++ ['"'] := by
      unfold pronunciationBody
      rw [List.append_assoc, List.cons_append]
    rw [written, List.getLast?_concat]
  rw [behindTag, head?_pronunciationBody, last, if_neg (by decide), if_neg (by decide)]

/-- A pronunciation asks for no manner. -/
theorem readManner_pronunciation (base : Int) (phones : Text) (around : List Text) :
    readManner base (pronunciationBody phones :: around) = readManner base around := by
  have missed (element : Element) :
      innermost? element (pronunciationBody phones :: around) = innermost? element around := by
    refine List.find?_cons_of_neg ?_
    rw [elementName_pronunciationBody]
    cases element <;> decide
  simp only [readManner, missed]

/-! ## Changes to what is staged -/

section Lookup

variable {element other : Element} {attributes : Attributes} {entries : Entries}

theorem lookup_assign_self :
    (Staging.assign element attributes entries).lookup element = some attributes := by
  induction entries with
  | nil => exact List.lookup_cons_self
  | cons entry entries ih =>
    rw [Staging.assign]
    split
    · exact List.lookup_cons_self
    · rename_i apart
      rw [List.lookup_cons, beq_eq_false_iff_ne.2 (Ne.symm apart)]
      exact ih

theorem lookup_assign_of_ne (apart : other ≠ element) :
    (Staging.assign element attributes entries).lookup other = entries.lookup other := by
  have missed : (other == element) = false := beq_eq_false_iff_ne.2 apart
  induction entries with
  | nil => rw [Staging.assign, List.lookup_cons, missed]
  | cons entry entries ih =>
    rw [Staging.assign]
    split
    · rename_i same
      rw [List.lookup_cons, List.lookup_cons, same, missed]
    · rw [List.lookup_cons, List.lookup_cons, ih]

theorem lookup_filter_self :
    (entries.filter (·.1 ≠ element)).lookup element = none := by
  refine List.lookup_eq_none_iff.2 fun entry member => ?_
  have apart := of_decide_eq_true (List.mem_filter.1 member).2
  exact bne_iff_ne.2 (Ne.symm apart)

theorem lookup_filter_of_ne (apart : other ≠ element) :
    (entries.filter (·.1 ≠ element)).lookup other = entries.lookup other := by
  induction entries with
  | nil => rfl
  | cons entry entries ih =>
    by_cases same : entry.1 = element
    · have missed : (other == entry.1) = false := beq_eq_false_iff_ne.2 (same ▸ apart)
      rw [List.filter_cons_of_neg (by simp [same]), ih, List.lookup_cons, missed]
    · rw [List.filter_cons_of_pos (by simp [same]), List.lookup_cons, List.lookup_cons, ih]

/-- The order of different elements does not matter. -/
theorem lookup_reverse (distinct : (entries.map Prod.fst).Nodup) :
    entries.reverse.lookup element = entries.lookup element := by
  induction entries with
  | nil => rfl
  | cons entry entries ih =>
    obtain ⟨fresh, later⟩ := List.nodup_cons.1 distinct
    rw [List.reverse_cons, List.lookup_append, ih later, List.lookup_cons, List.lookup_cons]
    cases same : element == entry.1 with
    | false => simp
    | true =>
      have absent : entries.lookup element = none := by
        refine List.lookup_eq_none_iff.2 fun other member => bne_iff_ne.2 fun again => ?_
        rw [← beq_iff_eq.1 same, again] at fresh
        exact fresh (List.mem_map_of_mem member)
      rw [absent]
      rfl

/-- A manner with other attributes for one element, or without the element. -/
def Manner.put (base : Int) (manner : Manner) (element : Element)
    (attributes : Option Attributes) : Manner :=
  let value := attributes.bind fun attributes => attributes.head?.map Prod.snd
  match element with
  | .pitch => { manner with pitch := value.getD base }
  | .volume => { manner with volume := value }
  | .rate => { manner with rate := value }
  | .spell => { manner with spelled := attributes.isSome }

theorem inside_eq_put {changed : Entries} {found : Option Attributes}
    (here : changed.lookup element = found)
    (elsewhere : ∀ other, other ≠ element → changed.lookup other = entries.lookup other)
    (base : Int) :
    Manner.inside base changed = (Manner.inside base entries).put base element found := by
  cases element with
  | pitch =>
    simp [Manner.inside, Manner.put, value?, here, elsewhere .volume nofun,
      elsewhere .rate nofun, elsewhere .spell nofun]
  | volume =>
    simp [Manner.inside, Manner.put, value?, here, elsewhere .pitch nofun,
      elsewhere .rate nofun, elsewhere .spell nofun]
  | rate =>
    simp [Manner.inside, Manner.put, value?, here, elsewhere .pitch nofun,
      elsewhere .volume nofun, elsewhere .spell nofun]
  | spell =>
    simp [Manner.inside, Manner.put, value?, here, elsewhere .pitch nofun,
      elsewhere .volume nofun, elsewhere .rate nofun]

theorem inside_assign (base : Int) :
    Manner.inside base (Staging.assign element attributes entries) =
      (Manner.inside base entries).put base element (some attributes) :=
  inside_eq_put lookup_assign_self (fun _ apart => lookup_assign_of_ne apart) base

theorem inside_filter (base : Int) :
    Manner.inside base (entries.filter (·.1 ≠ element)) =
      (Manner.inside base entries).put base element none :=
  inside_eq_put lookup_filter_self (fun _ apart => lookup_filter_of_ne apart) base

theorem inside_reverse (distinct : (entries.map Prod.fst).Nodup) (base : Int) :
    Manner.inside base entries.reverse = Manner.inside base entries := by
  simp only [Manner.inside, value?, lookup_reverse distinct]

end Lookup

end Polyvoice.Markup
