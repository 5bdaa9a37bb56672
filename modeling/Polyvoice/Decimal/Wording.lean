import Polyvoice.Decimal.Shortest

/-!
# Floats in words of the log

A float is worded by its shortest decimal. Positional notation always shows a decimal place, and
numbers that would need many zeros are worded with a power of ten.
-/

namespace Polyvoice.Decimal

/-- The power of ten of the first digit from which on a number is worded with a power of ten. -/
def scientificFrom : Int := 16

/-- The least power of ten of the first digit for which a number is worded positionally. -/
def positionalFrom : Int := -4

/-- Digits with a point behind the first `point` of them, filled up with zeros on either side. -/
def positional (digits : List Char) (point : Int) : List Char :=
  if point ≤ 0 then
    '0' :: '.' :: (List.replicate (-point).toNat '0' ++ digits)
  else
    let whole := digits.take point.toNat
    let fraction := digits.drop point.toNat
    whole ++ List.replicate (point.toNat - whole.length) '0' ++
      '.' :: (if fraction.isEmpty then ['0'] else fraction)

/-- Digits with a point behind the first one, if more follow, and a power of ten. -/
def scientific (digits : List Char) (power : Int) : List Char :=
  let mantissa := match digits with
    | [] => []
    | [digit] => [digit]
    | digit :: more => digit :: '.' :: more
  mantissa ++ 'e' :: (toString power).toList

/-- The wording of a decimal. -/
def wording (d : Decimal) : List Char :=
  let digits := Nat.toDigits 10 d.digits
  let point := digits.length + d.exponent
  if d.digits ≠ 0 ∧ (point - 1 < positionalFrom ∨ scientificFrom ≤ point - 1) then
    scientific digits (point - 1)
  else positional digits point

/-- The wording of a float. -/
def floatWording (x : Float) : String :=
  match Binary64.ofFloat x with
  | .nan => "NaN"
  | .infinite negative => if negative then "-inf" else "inf"
  | .finite negative m q =>
    let size := if m = 0 then ⟨0, 0⟩ else shortest m q
    String.ofList ((if negative then ['-'] else []) ++ wording size)

end Polyvoice.Decimal
