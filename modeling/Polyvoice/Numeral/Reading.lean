import Polyvoice.Fault

/-!
# Reading a numeric run aloud

A run is read as a value or digit by digit. Read as a value it stays as written, unless points part
it into more than two segments (a version number, say): then segments of one digit are named by
the table of digit names, and the points are replaced. Read digit by digit, every digit is named,
blanks part the characters of a segment, and the points are replaced.
-/

namespace Polyvoice.Numeral

/-- The ways to read a run. -/
inductive Reading where
  | asValue
  | digitByDigit
deriving DecidableEq, Repr

namespace Reading

/-- Reads the name of a reading. -/
def ofName (name : String) : Except Fault Reading :=
  if name = "value" then .ok asValue
  else if name = "number" then .ok digitByDigit
  else .error (.unknownReading name)

end Reading

/-- A text with each digit that has a name replaced by it. -/
def nameDigits (name : Char → Option Text) (t : Text) : Text :=
  t.flatMap fun c => if c.isDigit then (name c).getD [c] else [c]

/-- Digits may be named in one part of a text after the other. -/
theorem nameDigits_append (name : Char → Option Text) (t u : Text) :
    nameDigits name (t ++ u) = nameDigits name t ++ nameDigits name u :=
  List.flatMap_append

/-- Takes the blanks away that stand on both sides of a point, from left to right. -/
def closePoints : Text → Text
  | ' ' :: '.' :: ' ' :: rest => '.' :: closePoints rest
  | c :: rest => c :: closePoints rest
  | [] => []

/-- The segments of a run between its points. -/
def segments (t : Text) : List Text :=
  t.splitOn '.'

/-- A run as it is spoken, where `name` names digits and `point` stands for a point. -/
def Reading.spoken (reading : Reading) (name : Char → Option Text) (point : Text)
    (run : Text) : Text :=
  match reading with
  | .asValue =>
    if (segments run).length ≤ 2 then run
    else point.intercalate ((segments run).map fun segment =>
      if segment.length = 1 then nameDigits name segment else segment)
  | .digitByDigit =>
    point.intercalate ((segments (closePoints (run.intersperse ' '))).map (nameDigits name))

end Polyvoice.Numeral
