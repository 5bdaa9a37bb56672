/-!
# Hangul syllables

The syllables U+AC00 to U+D7A3 are numbered by a leading consonant, a vowel and an optional
trailing consonant, so that their decomposition and composition are arithmetic.
-/

namespace Polyvoice.Unicode.Hangul

/-- The first leading consonant. -/
def leadBase : Nat := 0x1100

/-- The first vowel. -/
def vowelBase : Nat := 0x1161

/-- The code point before the first trailing consonant. -/
def trailBase : Nat := 0x11A7

/-- The first syllable. -/
def syllableBase : Nat := 0xAC00

/-- The number of leading consonants. -/
def leadCount : Nat := 19

/-- The number of vowels. -/
def vowelCount : Nat := 21

/-- The number of trailing consonants, with one for their absence. -/
def trailCount : Nat := 28

/-- The parts of a syllable: its leading consonant, its vowel and, if it has one, its trailing
consonant. -/
def decomposition? (c : Char) : Option (List Char) :=
  let index := c.toNat - syllableBase
  if syllableBase ≤ c.toNat ∧ index < leadCount * vowelCount * trailCount then
    let lead := Char.ofNat (leadBase + index / (vowelCount * trailCount))
    let vowel := Char.ofNat (vowelBase + index % (vowelCount * trailCount) / trailCount)
    match index % trailCount with
    | 0 => some [lead, vowel]
    | trail => some [lead, vowel, Char.ofNat (trailBase + trail)]
  else none

/-- The syllable that a leading consonant and a vowel make. -/
def ofLeadVowel? (lead vowel : Char) : Option Char :=
  let l := lead.toNat - leadBase
  let v := vowel.toNat - vowelBase
  if leadBase ≤ lead.toNat ∧ l < leadCount ∧ vowelBase ≤ vowel.toNat ∧ v < vowelCount then
    some (Char.ofNat (syllableBase + (l * vowelCount + v) * trailCount))
  else none

/-- The syllable that an open syllable and a trailing consonant make. -/
def ofOpenTrail? (syllable trail : Char) : Option Char :=
  let s := syllable.toNat - syllableBase
  let t := trail.toNat - trailBase
  if syllableBase ≤ syllable.toNat ∧ s < leadCount * vowelCount * trailCount ∧
      s % trailCount = 0 ∧ trailBase < trail.toNat ∧ t < trailCount then
    some (Char.ofNat (syllable.toNat + t))
  else none

/-- The syllable that two characters make. -/
def composite? (first second : Char) : Option Char :=
  (ofLeadVowel? first second).orElse fun _ => ofOpenTrail? first second

end Polyvoice.Unicode.Hangul
