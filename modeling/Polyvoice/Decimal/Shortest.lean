import Polyvoice.Binary64

/-!
# Shortest decimals

The shortest decimal that reads back as a given float, and of several such decimals the one nearest
to it. The floats that a decimal reads back as are told apart by an interval: a decimal reads back
as a value if it lies nearer to that value than to the two neighbours, and an end of the interval
belongs to it exactly if the mantissa is even. All comparisons are of naturals.
-/

namespace Polyvoice

/-- The number `digits * 10 ^ exponent`. -/
structure Decimal where
  digits : Nat
  exponent : Int
deriving DecidableEq, Repr

namespace Decimal

/-- Moves trailing zeros of the digits into the exponent. -/
def dropZeros (digits : Nat) (exponent : Int) : Decimal :=
  if h : digits ≠ 0 ∧ digits % 10 = 0 then dropZeros (digits / 10) (exponent + 1)
  else ⟨digits, exponent⟩
termination_by digits
decreasing_by omega

/-- Compares `d` with `n * 2 ^ q`. -/
def compareBinary (d : Decimal) (n : Nat) (q : Int) : Ordering :=
  compare (d.digits * Nat.pow 10 d.exponent.toNat * Binary64.denominator q)
    (Binary64.numerator n q * Nat.pow 10 (-d.exponent).toNat)

/-- Whether the value below `m * 2 ^ q` is half as far away as the value above: so it is at every
power of two but the least normal one. -/
def narrowBelow (m : Nat) (q : Int) : Bool :=
  m == 0x10000000000000 && q != -1074

/-- Whether `d` reads back as `m * 2 ^ q`. -/
def readsBack (d : Decimal) (m : Nat) (q : Int) : Bool :=
  let closed := m % 2 == 0
  let below := if narrowBelow m q then 4 * m - 1 else 4 * m - 2
  let above := 4 * m + 2
  let fromBelow := d.compareBinary below (q - 2)
  let toAbove := d.compareBinary above (q - 2)
  (fromBelow == .gt || (closed && fromBelow == .eq)) &&
    (toAbove == .lt || (closed && toAbove == .eq))

/-- The least `k` with `m * 2 ^ q < 10 ^ k`, for a positive float: no float is so small that 400
decimal places show none of its digits. -/
def scale (m : Nat) (q : Int) : Int :=
  (Nat.toDigits 10 (Binary64.numerator m q * Nat.pow 10 400 / Binary64.denominator q)).length - 400

/-- The whole number of units `10 ^ e` in `m * 2 ^ q`. -/
def unitsIn (m : Nat) (q : Int) (e : Int) : Nat :=
  Binary64.numerator m q * Nat.pow 10 (-e).toNat / (Binary64.denominator q * Nat.pow 10 e.toNat)

/-- Of the two neighbours of `m * 2 ^ q` among the multiples of `10 ^ e`, the one that reads back;
if both do, the nearer one; if both are equally near, the greater one. -/
def onGrid? (m : Nat) (q : Int) (e : Int) : Option Decimal :=
  let low : Decimal := ⟨unitsIn m q e, e⟩
  let high : Decimal := ⟨unitsIn m q e + 1, e⟩
  let middle : Decimal := ⟨low.digits + high.digits, e⟩
  match low.readsBack m q, high.readsBack m q with
  | true, true => if middle.compareBinary (2 * m) q == .gt then some low else some high
  | true, false => some low
  | false, true => some high
  | false, false => none

/-- All digits of `m * 2 ^ q`. -/
def exact (m : Nat) (q : Int) : Decimal :=
  ⟨Binary64.numerator m q * Nat.pow 5 (-q).toNat, -((-q).toNat : Int)⟩

/-- The shortest decimal that reads back as the positive float `m * 2 ^ q`: the first of the grids
with one digit, two digits, … that holds one. Seventeen digits are always enough. -/
def shortest (m : Nat) (q : Int) : Decimal :=
  let found := (List.range 17).findSome? fun n => onGrid? m q (scale m q - (n + 1 : Nat))
  let chosen := found.getD (exact m q)
  dropZeros chosen.digits chosen.exponent

end Decimal

end Polyvoice
