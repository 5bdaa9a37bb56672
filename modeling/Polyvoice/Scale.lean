import Polyvoice.Binary64
import Polyvoice.Cue

/-!
# Scales of the protocols

Pitch, rate and volume are set on a scale from 0 to 100. The chunk protocol wants pitch and rate as
a percentage that doubles every so many steps and is 100 at the middle of the scale; the markup
protocol wants pitch as an offset from the middle.
-/

namespace Polyvoice

namespace Scale

/-- The percentage for a value: 100 at the middle, twice as much every `doubling` steps. -/
def percentage (value doubling : Float) : Int :=
  match Rounding.percent? value with
  | none => 0
  | some n => Rounding.nearest.toWord (Float.pow 2 ((n.toUInt8.toFloat - 50) / doubling) * 100)

/-- The chunk protocol's pitch. -/
def pitchPercentage (value : Float) : Int :=
  percentage value 50

/-- The chunk protocol's rate, which is steeper from the middle upward. -/
def ratePercentage (value : Float) : Int :=
  percentage value (if 50 ≤ Rounding.nearest.toWord value then 25 else 50)

/-- The chunk protocol's volume. -/
def volumeLevel (value : Float) : Int :=
  match Rounding.percent? value with
  | none => 0
  | some n => n

/-- The markup protocol's pitch, an integer of 64 bits. What falls below their range comes in again
at its upper end. -/
def middleOffset (value : Float) : Int :=
  Int.bmod (Rounding.down.toWord (value / 2) - 25) 0x10000000000000000

/-- Above the lowest values nothing comes in again: the offset is the difference from the middle. -/
theorem middleOffset_eq {value : Float}
    (inside : Rounding.leastWord + 25 ≤ Rounding.down.toWord (value / 2)) :
    middleOffset value = Rounding.down.toWord (value / 2) - 25 := by
  obtain ⟨-, upper⟩ := Rounding.down.toWord_mem (value / 2)
  unfold Rounding.leastWord at inside
  unfold Rounding.greatestWord at upper
  exact Int.bmod_eq_of_le (by omega) (by omega)

/-- The markup protocol's pitch for a value on the scale. -/
def wholeOffset (value : UInt8) : Int :=
  (value.toNat / 2 : Nat) - 25

end Scale

namespace Prosody

/-- The markup protocol's pitch for a setting. -/
def offset (base : UInt8) : Prosody → Int
  | absolute value => Scale.wholeOffset value
  | relative factor => Scale.middleOffset (base.toFloat * factor)

/-- The markup protocol's volume or rate for a setting. -/
def level (base : UInt8) : Prosody → Int
  | absolute value => value.toNat
  | relative factor => Rounding.towardZero.toWord (base.toFloat * factor)

end Prosody

end Polyvoice
