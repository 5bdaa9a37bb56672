import Polyvoice.Markup.Element

/-!
# Fragments of markup

What goes to a markup voice is a list of pieces: tags, escaped text, bookmarks and pronunciations.
-/

namespace Polyvoice.Markup

/-- A character of text; the two that would start something else are escaped. -/
def escapeChar : Char → Text
  | '&' => ['&', 'a', 'm', 'p', ';']
  | '<' => ['&', 'l', 't', ';']
  | c => [c]

/-- Text between tags. -/
def escape (t : Text) : Text :=
  t.flatMap escapeChar

/-- Texts may be escaped one after the other. -/
theorem escape_append (t u : Text) : escape (t ++ u) = escape t ++ escape u :=
  List.flatMap_append

/-- A character of an attribute value, which a quote would end. -/
def escapeAttributeChar : Char → Text
  | '"' => ['&', 'q', 'u', 'o', 't', ';']
  | c => escapeChar c

/-- Text inside an attribute value. -/
def escapeAttribute (t : Text) : Text :=
  t.flatMap escapeAttributeChar

/-- A piece of markup. -/
inductive Piece where
  | tag (t : Tag)
  | text (t : Text)
  | bookmark (id : UInt32)
  /-- Phones, with the words that they pronounce. -/
  | pronunciation (phones words : Text)
deriving DecidableEq, Repr

/-- A piece as it is written. -/
def Piece.render : Piece → Text
  | tag t => t.render
  | text t => escape t
  | bookmark id => "<Bookmark Mark=\"".toList ++ (toString id.toNat).toList ++ "\" />".toList
  | pronunciation phones words =>
    "<pron sym=\"".toList ++ escapeAttribute phones ++ "\">".toList ++ escape words ++
      "</pron>".toList

/-- Pieces as they are written, one after the other. -/
def render (pieces : List Piece) : Text :=
  pieces.flatMap Piece.render

/-- Pieces may be written in two parts. -/
theorem render_append (pieces more : List Piece) :
    render (pieces ++ more) = render pieces ++ render more :=
  List.flatMap_append

end Polyvoice.Markup
