import Polyvoice.Proofs.Markup.Nesting

/-!
# The grammar of markup

Which texts are fragments of markup: character data in which `<` and `&` are escaped, bookmarks,
pronunciations, and elements with their attributes around fragments, where no element stands inside
one of its own kind. The grammar speaks of texts only. Pieces that close all they open, and whose
tags have the attributes of their elements, are written as a fragment
(`Markup.fragment_render`).
-/

namespace Polyvoice.Markup

/-- Character data: `<` does not occur, and `&` only begins the two entities. -/
inductive CharacterData : Text → Prop where
  | empty : CharacterData []
  | plain {c : Char} {rest : Text} : c ≠ '<' → c ≠ '&' → CharacterData rest →
    CharacterData (c :: rest)
  | ampersand {rest : Text} : CharacterData rest → CharacterData ("&amp;".toList ++ rest)
  | lessThan {rest : Text} : CharacterData rest → CharacterData ("&lt;".toList ++ rest)

/-- What stands in the opening tag of an element behind its name: one attribute with an integer, and
nothing for spelling. -/
inductive AttributeText : Element → Text → Prop where
  | pitch (n : Int) : AttributeText .pitch (" absmiddle=\"".toList ++ integer n ++ "\"".toList)
  | volume (n : Int) : AttributeText .volume (" level=\"".toList ++ integer n ++ "\"".toList)
  | rate (n : Int) : AttributeText .rate (" absspeed=\"".toList ++ integer n ++ "\"".toList)
  | spell : AttributeText .spell []

/-- A fragment of markup inside some elements. -/
inductive Fragment : List Element → Text → Prop where
  | empty {inside : List Element} : Fragment inside []
  | data {inside : List Element} {data rest : Text} : CharacterData data → Fragment inside rest →
    Fragment inside (data ++ rest)
  | bookmark {inside : List Element} {rest : Text} (mark : Int) : Fragment inside rest →
    Fragment inside ("<Bookmark Mark=\"".toList ++ integer mark ++ "\" />".toList ++ rest)
  | pronunciation {inside : List Element} {symbols words rest : Text} : '"' ∉ symbols →
    '<' ∉ symbols → CharacterData words → Fragment inside rest →
    Fragment inside ("<pron sym=\"".toList ++ symbols ++ "\">".toList ++ words ++
      "</pron>".toList ++ rest)
  | element {inside : List Element} {element : Element} {attributes body rest : Text} :
    element ∉ inside → AttributeText element attributes → Fragment (element :: inside) body →
    Fragment inside rest →
    Fragment inside ("<".toList ++ element.name.toList ++ attributes ++ ">".toList ++ body ++
      "</".toList ++ element.name.toList ++ ">".toList ++ rest)

/-! ## Escaped texts -/

theorem characterData_escape (t : Text) : CharacterData (escape t) := by
  induction t with
  | nil => exact .empty
  | cons c t ih =>
    rw [escape, List.flatMap_cons]
    unfold escapeChar
    split
    · exact .ampersand ih
    · exact .lessThan ih
    · rename_i amp less
      exact .plain less amp ih

theorem notMem_escapeAttributeChar (c : Char) :
    '"' ∉ escapeAttributeChar c ∧ '<' ∉ escapeAttributeChar c := by
  unfold escapeAttributeChar
  split
  · exact ⟨by decide, by decide⟩
  · rename_i quote
    unfold escapeChar
    split
    · exact ⟨by decide, by decide⟩
    · exact ⟨by decide, by decide⟩
    · rename_i amp less
      exact ⟨fun member => quote (List.mem_singleton.1 member).symm,
        fun member => less (List.mem_singleton.1 member).symm⟩

theorem quote_notMem_escapeAttribute (t : Text) : '"' ∉ escapeAttribute t := by
  intro member
  obtain ⟨c, -, inside⟩ := List.mem_flatMap.1 member
  exact (notMem_escapeAttributeChar c).1 inside

theorem lessThan_notMem_escapeAttribute (t : Text) : '<' ∉ escapeAttribute t := by
  intro member
  obtain ⟨c, -, inside⟩ := List.mem_flatMap.1 member
  exact (notMem_escapeAttributeChar c).2 inside

/-! ## Attributes of elements -/

/-- The names of the attributes of an element. -/
def Element.keys : Element → List String
  | pitch => ["absmiddle"]
  | volume => ["level"]
  | rate => ["absspeed"]
  | spell => []

/-- The attributes are those that the element has. -/
def Element.Accepts (element : Element) (attributes : Attributes) : Prop :=
  attributes.map Prod.fst = element.keys

/-- The attributes of a tag are those of its element. -/
def Tag.Fits : Tag → Prop
  | opening element attributes => element.Accepts attributes
  | closing _ => True

/-- The tag of a piece fits. -/
def Piece.Fits : Piece → Prop
  | tag t => t.Fits
  | _ => True

theorem writeAttribute_eq (key : String) (n : Int) :
    writeAttribute key n = " ".toList ++ key.toList ++ "=\"".toList ++ integer n ++ "\"".toList := by
  simp [writeAttribute]

/-- An element with its own attributes has them written as the grammar says. -/
theorem attributeText_of_accepts {element : Element} {attributes : Attributes}
    (accepts : element.Accepts attributes) :
    AttributeText element (attributes.flatMap fun a => writeAttribute a.1 a.2) := by
  have single : ∀ {key : String}, attributes.map Prod.fst = [key] →
      ∃ n, attributes.flatMap (fun a => writeAttribute a.1 a.2) = writeAttribute key n := by
    intro key keys
    obtain ⟨⟨_, n⟩, rfl, rfl⟩ := List.map_eq_singleton_iff.1 keys
    exact ⟨n, List.flatMap_singleton _ _⟩
  cases element with
  | pitch =>
    obtain ⟨n, written⟩ := single accepts
    rw [written, writeAttribute_eq]
    exact .pitch n
  | volume =>
    obtain ⟨n, written⟩ := single accepts
    rw [written, writeAttribute_eq]
    exact .volume n
  | rate =>
    obtain ⟨n, written⟩ := single accepts
    rw [written, writeAttribute_eq]
    exact .rate n
  | spell =>
    rw [List.map_eq_nil_iff.1 accepts]
    exact .spell

/-! ## Pieces that close what they open -/

/-- What may follow where some elements are open: content and a closing tag for each of them,
innermost first, and content behind the last. -/
inductive Completion : List Element → Text → Prop where
  | outside {t : Text} : Fragment [] t → Completion [] t
  | inside {element : Element} {outer : List Element} {body rest : Text} :
    Fragment (element :: outer) body → Completion outer rest →
    Completion (element :: outer) (body ++ (Tag.closing element).render ++ rest)

/-- A completion may begin with more content. -/
theorem Completion.extend {stack : List Element} {t u : Text} (completion : Completion stack u)
    (more : ∀ {rest : Text}, Fragment stack rest → Fragment stack (t ++ rest)) :
    Completion stack (t ++ u) := by
  cases completion with
  | outside fragment => exact .outside (more fragment)
  | inside body later =>
    rw [← List.append_assoc, ← List.append_assoc]
    exact .inside (more body) later

/-- An opening tag and what completes its element are content of the element around. -/
theorem Completion.opened {element : Element} {attributes : Attributes} {outer : List Element}
    {t : Text} (fresh : element ∉ outer) (accepts : element.Accepts attributes)
    (completion : Completion (element :: outer) t) :
    Completion outer ((Tag.opening element attributes).render ++ t) := by
  cases completion with
  | @inside _ _ body rest fragment later =>
    have element_append : ∀ {after : Text}, Fragment outer after →
        Fragment outer ((Tag.opening element attributes).render ++
          (body ++ (Tag.closing element).render) ++ after) := by
      intro after content
      have whole := Fragment.element fresh (attributeText_of_accepts accepts) fragment content
      simpa [Tag.render] using whole
    have extended := later.extend element_append
    simpa using extended

theorem fragment_piece_append {piece : Piece} (plain : ∀ t, piece ≠ .tag t)
    {inside : List Element} {rest : Text} (content : Fragment inside rest) :
    Fragment inside (piece.render ++ rest) := by
  cases piece with
  | tag t => exact absurd rfl (plain t)
  | text t => exact .data (characterData_escape t) content
  | bookmark id => exact .bookmark (id.toNat : Int) content
  | pronunciation phones words =>
    exact .pronunciation (quote_notMem_escapeAttribute phones)
      (lessThan_notMem_escapeAttribute phones) (characterData_escape words) content

/-- Pieces that close what is open and what they open are a completion. -/
theorem completion_render {pieces : List Piece} {stack : List Element}
    (closes : unclosed? stack pieces = some []) (fits : ∀ piece ∈ pieces, piece.Fits) :
    Completion stack (render pieces) := by
  -- the stack says which closing tags the rest of the pieces has to bring
  induction pieces generalizing stack with
  | nil =>
    cases closes
    exact .outside .empty
  | cons piece rest ih =>
    have later : ∀ next, piece.onStack? stack = some next → Completion next (render rest) := by
      intro next here
      rw [unclosed?, here, Option.bind_some] at closes
      exact ih closes fun other member => fits other (List.mem_cons_of_mem _ member)
    have written : render (piece :: rest) = piece.render ++ render rest := List.flatMap_cons
    rw [written]
    cases piece with
    | tag t =>
      cases t with
      | opening element attributes =>
        by_cases member : element ∈ stack
        · have refused : (Piece.tag (.opening element attributes)).onStack? stack = none :=
            if_pos member
          rw [unclosed?, refused] at closes
          cases closes
        · exact (later _ (if_neg member)).opened member (fits _ List.mem_cons_self)
      | closing element =>
        cases stack with
        | nil => cases closes
        | cons innermost outer =>
          by_cases same : innermost = element
          · subst same
            have nothing : Fragment (innermost :: outer) [] := .empty
            exact .inside nothing (later _ (if_pos rfl))
          · have refused : (Piece.tag (.closing element)).onStack? (innermost :: outer) = none :=
              if_neg same
            rw [unclosed?, refused] at closes
            cases closes
    | text t => exact (later stack rfl).extend (fragment_piece_append fun _ h => by cases h)
    | bookmark id => exact (later stack rfl).extend (fragment_piece_append fun _ h => by cases h)
    | pronunciation phones words =>
      exact (later stack rfl).extend (fragment_piece_append fun _ h => by cases h)

/-- Pieces that close all that they open are written as a fragment. -/
theorem fragment_render {pieces : List Piece} (closes : unclosed? [] pieces = some [])
    (fits : ∀ piece ∈ pieces, piece.Fits) : Fragment [] (render pieces) := by
  cases completion_render closes fits with
  | outside fragment => exact fragment

end Polyvoice.Markup
