/-!
# Exact values of 64-bit floats

A finite float is a sign, a mantissa and a power of two. Read that way, it can be rounded to an
integer by exact arithmetic on `Nat` and `Int`, in each of the three ways that speech settings use:
down, toward zero, and to the nearest integer with halves away from zero.
-/

namespace Polyvoice

/-- What the bits of a float stand for: `finite negative m q` is `m * 2 ^ q` with a sign. -/
inductive Binary64 where
  | nan
  | infinite (negative : Bool)
  | finite (negative : Bool) (mantissa : Nat) (exponent : Int)
deriving DecidableEq, Repr

namespace Binary64

/-- Reads sign, exponent and fraction from the bits. -/
def ofBits (bits : Nat) : Binary64 :=
  let negative := bits / 0x8000000000000000 == 1
  let exponent : Nat := bits / 0x10000000000000 % 0x800
  let fraction := bits % 0x10000000000000
  if exponent = 2047 then
    if fraction = 0 then .infinite negative else .nan
  else if exponent = 0 then .finite negative fraction (-1074)
  else .finite negative (0x10000000000000 + fraction) ((exponent : Int) - 1075)

/-- The exact value of a float. -/
def ofFloat (x : Float) : Binary64 :=
  ofBits x.toBits.toNat

/-- The numerator of `m * 2 ^ q` over `denominator q`. -/
def numerator (m : Nat) (q : Int) : Nat :=
  m * Nat.pow 2 q.toNat

/-- The power of two that a negative exponent puts under the fraction bar. -/
def denominator (q : Int) : Nat :=
  Nat.pow 2 (-q).toNat

end Binary64

/-- The ways to round a number to an integer. -/
inductive Rounding where
  /-- The greatest integer that is not above. -/
  | down
  /-- The integer part. -/
  | towardZero
  /-- The nearest integer; of two that are equally near, the one farther from zero. -/
  | nearest
deriving DecidableEq, Repr

namespace Rounding

open Binary64

/-- Rounds the size of a number with the given sign. -/
def size : Rounding → (negative : Bool) → (m : Nat) → (q : Int) → Nat
  | .down, true, m, q => (numerator m q + (denominator q - 1)) / denominator q
  | .down, false, m, q => numerator m q / denominator q
  | .towardZero, _, m, q => numerator m q / denominator q
  | .nearest, _, m, q => (2 * numerator m q + denominator q) / (2 * denominator q)

/-- The least integer of 64 bits. -/
def leastWord : Int := -0x8000000000000000

/-- The greatest integer of 64 bits. -/
def greatestWord : Int := 0x7FFFFFFFFFFFFFFF

/-- Rounds a float to an integer of 64 bits. What lies beyond goes to the nearer end of the range,
and what is no number goes to zero. -/
def toWord (rounding : Rounding) (x : Float) : Int :=
  match Binary64.ofFloat x with
  | .nan => 0
  | .infinite negative => if negative then leastWord else greatestWord
  | .finite negative m q =>
    let n : Int := rounding.size negative m q
    max leastWord (min greatestWord (if negative then -n else n))

/-- The integer from 0 to 100 that a float rounds to once it is brought into that range; what is no
number has none. -/
def percent? (x : Float) : Option Nat :=
  match Binary64.ofFloat x with
  | .nan => none
  | _ => some (min 100 (nearest.toWord x).toNat)

/-- Every rounding result is an integer of 64 bits. -/
theorem toWord_mem (rounding : Rounding) (x : Float) :
    leastWord ≤ rounding.toWord x ∧ rounding.toWord x ≤ greatestWord := by
  have order : leastWord ≤ greatestWord := by decide
  unfold toWord
  split
  · exact ⟨by decide, by decide⟩
  · split
    · exact ⟨Int.le_refl _, order⟩
    · exact ⟨order, Int.le_refl _⟩
  · exact ⟨Int.le_max_left _ _, Int.max_le.2 ⟨order, Int.min_le_left _ _⟩⟩

end Rounding

end Polyvoice
