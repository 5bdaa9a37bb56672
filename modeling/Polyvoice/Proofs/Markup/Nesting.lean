import Polyvoice.Markup.Fragment
import Polyvoice.Markup.Staging

/-!
# Nesting of elements

Tags open and close elements like brackets of several kinds. `unclosed?` keeps the stack of the
elements that are open behind some pieces, innermost first; it fails where a tag closes another
element than the innermost one, and where an element is opened inside one of its own kind.

The staging writes tags that fit its list of open elements: what it closes is what is open
(`Staging.unclosed?_closings`), and behind an emission the staged elements are open, in their order
(`Staging.unclosed?_emission`).
-/

namespace Polyvoice.Markup

/-- The open elements behind a tag, if the tag is allowed. -/
def Tag.onStack? (stack : List Element) : Tag → Option (List Element)
  | opening element _ => if element ∈ stack then none else some (element :: stack)
  | closing element =>
    match stack with
    | [] => none
    | innermost :: outer => if innermost = element then some outer else none

/-- The open elements behind a piece. -/
def Piece.onStack? (stack : List Element) : Piece → Option (List Element)
  | tag t => t.onStack? stack
  | _ => some stack

/-- The open elements behind some pieces. -/
def unclosed? (stack : List Element) : List Piece → Option (List Element)
  | [] => some stack
  | piece :: rest => (piece.onStack? stack).bind (unclosed? · rest)

theorem unclosed?_append (stack : List Element) (pieces more : List Piece) :
    unclosed? stack (pieces ++ more) = (unclosed? stack pieces).bind (unclosed? · more) := by
  induction pieces generalizing stack with
  | nil => rfl
  | cons piece rest ih =>
    rw [List.cons_append, unclosed?, unclosed?]
    cases piece.onStack? stack with
    | none => rfl
    | some next => exact ih next

/-- Pieces that are no tags leave the elements as they are. -/
theorem unclosed?_of_untagged {pieces : List Piece} (untagged : ∀ t, .tag t ∉ pieces)
    (stack : List Element) : unclosed? stack pieces = some stack := by
  induction pieces with
  | nil => rfl
  | cons piece rest ih =>
    have later := ih fun t member => untagged t (List.mem_cons_of_mem piece member)
    have here : piece.onStack? stack = some stack := by
      cases piece with
      | tag t => exact absurd List.mem_cons_self (untagged t)
      | text t => rfl
      | bookmark id => rfl
      | pronunciation phones words => rfl
    rw [unclosed?, here, Option.bind_some, later]

/-- Tags that close the innermost elements, innermost first, leave the outer ones. -/
theorem unclosed?_closing (inner outer : List Element) :
    unclosed? (inner ++ outer) ((inner.map Tag.closing).map Piece.tag) = some outer := by
  induction inner with
  | nil => rfl
  | cons element inner ih =>
    have here : (Piece.tag (.closing element)).onStack? (element :: (inner ++ outer)) =
        some (inner ++ outer) := if_pos rfl
    rw [List.map_cons, List.map_cons, List.cons_append, unclosed?, here, Option.bind_some, ih]

/-- Tags that open different elements, none of which is open, put them on the stack. -/
theorem unclosed?_opening {entries : List (Element × Attributes)} {stack : List Element}
    (distinct : (entries.map Prod.fst).Nodup)
    (apart : ∀ element ∈ entries.map Prod.fst, element ∉ stack) :
    unclosed? stack ((entries.map fun entry => Tag.opening entry.1 entry.2).map Piece.tag) =
      some ((entries.map Prod.fst).reverse ++ stack) := by
  induction entries generalizing stack with
  | nil => rfl
  | cons entry entries ih =>
    obtain ⟨fresh, later⟩ := List.nodup_cons.1 distinct
    have here : (Piece.tag (.opening entry.1 entry.2)).onStack? stack = some (entry.1 :: stack) :=
      if_neg (apart entry.1 List.mem_cons_self)
    have apartNow : ∀ element ∈ entries.map Prod.fst, element ∉ entry.1 :: stack := by
      intro element member onStack
      rcases List.mem_cons.1 onStack with same | below
      · exact fresh (same ▸ member)
      · exact apart element (List.mem_cons_of_mem _ member) below
    rw [List.map_cons, List.map_cons, unclosed?, here, Option.bind_some, ih later apartNow]
    simp

theorem Piece.nodup_onStack? {piece : Piece} {stack behind : List Element}
    (found : piece.onStack? stack = some behind) (distinct : stack.Nodup) : behind.Nodup := by
  cases piece with
  | tag t =>
    cases t with
    | opening element attributes =>
      by_cases member : element ∈ stack
      · cases (if_pos member).symm.trans found
      · obtain rfl := Option.some.inj ((if_neg member).symm.trans found)
        exact List.nodup_cons.2 ⟨member, distinct⟩
    | closing element =>
      cases stack with
      | nil => cases found
      | cons innermost outer =>
        by_cases same : innermost = element
        · obtain rfl := Option.some.inj ((if_pos same).symm.trans found)
          exact (List.nodup_cons.1 distinct).2
        · cases (if_neg same).symm.trans found
  | _ =>
    obtain rfl := Option.some.inj found
    exact distinct

/-- No element is left open twice. -/
theorem nodup_unclosed? {stack behind : List Element}
    {pieces : List Piece} (unclosed : unclosed? stack pieces = some behind)
    (distinct : stack.Nodup) : behind.Nodup := by
  induction pieces generalizing stack with
  | nil => exact Option.some.inj unclosed ▸ distinct
  | cons piece rest ih =>
    obtain ⟨next, here, later⟩ := Option.bind_eq_some_iff.1 unclosed
    exact ih later (Piece.nodup_onStack? here distinct)

namespace Staging

/-- No element is staged twice. -/
def Distinct (staging : Staging) : Prop :=
  (staging.staged.map Prod.fst).Nodup

/-- To give an element its attributes keeps the order of the elements; a new one is the last. -/
theorem map_fst_assign (element : Element) (attributes : Attributes)
    (staged : List (Element × Attributes)) :
    (assign element attributes staged).map Prod.fst =
      if element ∈ staged.map Prod.fst then staged.map Prod.fst
      else staged.map Prod.fst ++ [element] := by
  induction staged with
  | nil => rfl
  | cons entry rest ih =>
    by_cases same : entry.1 = element
    · rw [assign, if_pos same]
      simp [same]
    · rw [assign, if_neg same, List.map_cons, List.map_cons, ih]
      by_cases member : element ∈ rest.map Prod.fst
      · rw [if_pos member, if_pos (List.mem_cons_of_mem _ member)]
      · have absent : element ∉ entry.1 :: rest.map Prod.fst := by
          intro inside
          rcases List.mem_cons.1 inside with here | there
          · exact same here.symm
          · exact member there
        rw [if_neg member, if_neg absent, List.cons_append]

theorem distinct_fresh : Distinct fresh :=
  List.nodup_nil

theorem Distinct.plan {staging : Staging} (distinct : staging.Distinct) (element : Element)
    (attributes : Attributes) : (staging.plan element attributes).Distinct := by
  change ((assign element attributes staging.staged).map Prod.fst).Nodup
  rw [map_fst_assign]
  split
  · exact distinct
  · rename_i absent
    have alone : [element].Nodup := List.nodup_cons.2 ⟨List.not_mem_nil, List.nodup_nil⟩
    refine List.nodup_append.2 ⟨distinct, alone, ?_⟩
    intro other member last single same
    rw [List.mem_singleton.1 single] at same
    exact absent (same ▸ member)

theorem Distinct.drop {staging : Staging} (distinct : staging.Distinct) (element : Element) :
    (staging.drop element).Distinct :=
  List.Nodup.sublist (List.filter_sublist.map Prod.fst) distinct

theorem unclosed?_closings (staging : Staging) :
    unclosed? staging.opened.reverse (staging.closings.map .tag) = some [] := by
  have closed := unclosed?_closing staging.opened.reverse []
  rwa [List.append_nil] at closed

/-- Behind an emission, the elements are open that the staging says are open. -/
theorem unclosed?_emission {staging : Staging} (distinct : staging.Distinct) :
    unclosed? staging.opened.reverse (staging.emission.map .tag) =
      some staging.emitted.opened.reverse := by
  unfold emission emitted
  split
  · have opened := unclosed?_opening distinct fun element _ => List.not_mem_nil (a := element)
    rw [List.append_nil] at opened
    rw [List.map_append, unclosed?_append, unclosed?_closings, Option.bind_some, openings, opened]
  · rfl

end Staging

end Polyvoice.Markup
