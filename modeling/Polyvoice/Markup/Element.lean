import Polyvoice.Text

/-!
# Elements of the markup protocol

The markup protocol wraps text in elements for pitch, volume, rate and spelling, whose attributes
are whole numbers. A tag opens or closes an element.
-/

namespace Polyvoice.Markup

/-- The elements that wrap text. -/
inductive Element where
  | pitch
  | volume
  | rate
  | spell
deriving DecidableEq, Repr

/-- The name of an element. -/
def Element.name : Element → String
  | pitch => "pitch"
  | volume => "volume"
  | rate => "rate"
  | spell => "spell"

/-- Attributes by name, in the order in which they are written. -/
abbrev Attributes := List (String × Int)

/-- A tag. -/
inductive Tag where
  | opening (element : Element) (attributes : Attributes)
  | closing (element : Element)
deriving DecidableEq, Repr

/-- A whole number in decimal digits. -/
def integer (n : Int) : Text :=
  (toString n).toList

/-- One attribute, with the space before it. -/
def writeAttribute (key : String) (value : Int) : Text :=
  ' ' :: (key.toList ++ '=' :: '"' :: (integer value ++ ['"']))

/-- A tag as it is written. -/
def Tag.render : Tag → Text
  | opening element attributes =>
    '<' :: (element.name.toList ++ attributes.flatMap (fun a => writeAttribute a.1 a.2) ++ ['>'])
  | closing element => '<' :: '/' :: (element.name.toList ++ ['>'])

end Polyvoice.Markup
