import Polyvoice.Cue

/-!
# Commas between digits

A comma between two digits groups the digits of a number and is not spoken.
-/

namespace Polyvoice.Speech

/-- A text without the commas that stand between two digits. -/
def dropDigitCommas : Text → Text
  | left :: ',' :: right :: rest =>
    if left.isDigit && right.isDigit then left :: dropDigitCommas (right :: rest)
    else left :: dropDigitCommas (',' :: right :: rest)
  | c :: rest => c :: dropDigitCommas rest
  | [] => []

end Polyvoice.Speech
