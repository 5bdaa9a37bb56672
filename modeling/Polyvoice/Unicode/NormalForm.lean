import Polyvoice.Unicode.CompatibilityDecomposition
import Polyvoice.Unicode.CombiningClass
import Polyvoice.Unicode.Composition
import Polyvoice.Unicode.Hangul

/-!
# Normal forms

The four normal forms of Unicode 18.0. A text is decomposed character by character, each run of
characters of non-zero combining class is put in order (`sortMarks`), and the composed forms then
join what a primary composite stands for (`compose`). Letter case (`Polyvoice.Unicode.Casing`) and
what is printable (`Polyvoice.Unicode.Printable`) follow 17.0 instead, and no character that 18.0
adds has a part in them.
-/

namespace Polyvoice.Unicode

/-- The decomposition of one character, by compatibility or canonical mappings. -/
def decomposeChar (compatible : Bool) (c : Char) : List Char :=
  if isBlank c then [decomposedBlank compatible c]
  else
    match Hangul.decomposition? c with
    | some parts => parts
    | none => if compatible then compatibilityDecomposition c else canonicalDecomposition c

/-- Puts a mark into a run that ascends by combining class, before the first mark of a higher
class. A starter stays in front, so that it parts two runs. -/
def insertMark (mark : Char) : List Char → List Char
  | [] => [mark]
  | c :: rest =>
    if combiningClass c ≠ 0 ∧ combiningClass c < combiningClass mark then
      c :: insertMark mark rest
    else mark :: c :: rest

/-- The canonical order: marks between two starters ascend by combining class, and those of one
class keep their order. -/
def sortMarks (t : List Char) : List Char :=
  t.foldr insertMark []

/-- The character that a pair composes to. -/
def composePair? (first second : Char) : Option Char :=
  if isBlank first || isBlank second then none
  else (Hangul.composite? first second).orElse fun _ => composite? first second

/-- Whether a character is blocked from a starter by the last one that was kept behind it: one of
its own or a higher class. -/
def isBlocked (c : Char) : List Char → Bool
  | [] => false
  | last :: _ => combiningClass c ≤ combiningClass last

/-- The character that a starter and a character behind the kept ones compose to. -/
def composeBehind? (starter : Char) (kept : List Char) (c : Char) : Option Char :=
  if isBlocked c kept then none else composePair? starter c

/-- Composes a text onto the starter `starter`. `kept` holds, newest first, the characters since
that starter that did not compose, none of them a starter; so a new starter composes only if nothing
was kept. -/
def composeFrom (starter : Char) (kept : List Char) : List Char → List Char
  | [] => starter :: kept.reverse
  | c :: rest =>
    match composeBehind? starter kept c with
    | some composed => composeFrom composed kept rest
    | none =>
      if combiningClass c = 0 then starter :: (kept.reverse ++ composeFrom c [] rest)
      else composeFrom starter (c :: kept) rest

/-- Replaces each pair of a starter and a character that is not blocked from it by its primary
composite, from left to right. -/
def compose : List Char → List Char
  | [] => []
  | c :: rest => if combiningClass c = 0 then composeFrom c [] rest else c :: compose rest

/-- The decomposed form of a text. -/
def decompose (compatible : Bool) (t : List Char) : List Char :=
  sortMarks (t.flatMap (decomposeChar compatible))

end Polyvoice.Unicode
