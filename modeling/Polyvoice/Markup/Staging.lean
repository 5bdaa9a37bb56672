import Polyvoice.Markup.Element

/-!
# Staged elements

Cues come one after the other, while elements are nested. The staging keeps the elements that
should wrap the coming text, and the elements that are open. When a value has changed, the next
text closes what is open, innermost first, and opens the staged elements in the order in which they
were first staged.
-/

namespace Polyvoice.Markup

/-- The elements that should be open, and those that are. -/
structure Staging where
  /-- The elements that should wrap the next text, outermost first. -/
  staged : List (Element × Attributes)
  /-- The elements that are open, outermost first. -/
  opened : List Element
  /-- Whether the open elements may differ from the staged ones. -/
  dirty : Bool
deriving DecidableEq, Repr

namespace Staging

/-- Nothing is staged or open; the first text looks at what has been staged by then. -/
def fresh : Staging where
  staged := []
  opened := []
  dirty := true

/-- Gives an element its attributes in its old place, or a place at the end. -/
def assign (element : Element) (attributes : Attributes) :
    List (Element × Attributes) → List (Element × Attributes)
  | [] => [(element, attributes)]
  | entry :: rest =>
    if entry.1 = element then (element, attributes) :: rest
    else entry :: assign element attributes rest

/-- Stages an element for the next time that elements are opened, without asking for it. -/
def plan (staging : Staging) (element : Element) (attributes : Attributes) : Staging :=
  { staging with staged := assign element attributes staging.staged }

/-- Stages an element. -/
def stage (staging : Staging) (element : Element) (attributes : Attributes) : Staging :=
  { staging.plan element attributes with dirty := true }

/-- Drops an element. -/
def drop (staging : Staging) (element : Element) : Staging :=
  { staging with staged := staging.staged.filter (·.1 ≠ element), dirty := true }

/-- The tags that close what is open, innermost first. -/
def closings (staging : Staging) : List Tag :=
  staging.opened.reverse.map .closing

/-- The tags that open what is staged. -/
def openings (staging : Staging) : List Tag :=
  staging.staged.map fun entry => .opening entry.1 entry.2

/-- The tags before the next text: none if nothing changed. -/
def emission (staging : Staging) : List Tag :=
  if staging.dirty then staging.closings ++ staging.openings else []

/-- The staging once these tags are written. -/
def emitted (staging : Staging) : Staging :=
  if staging.dirty then
    { staging with opened := staging.staged.map Prod.fst, dirty := false }
  else staging

/-- The staging once all open elements are closed: the next text opens the staged ones again. -/
def closed (staging : Staging) : Staging :=
  { staging with opened := [], dirty := true }

end Staging

end Polyvoice.Markup
