import Polyvoice.Json.Source

/-!
# Tokens of JSON

A document is first cut into tokens. The lexical rules are strict: only four characters are blanks,
a string holds no raw control characters, and a number has no leading zeros and a digit on both
sides of its point.
-/

namespace Polyvoice.Json

/-- The tokens of JSON. A number is kept as it is written. -/
inductive Token where
  | openObject
  | closeObject
  | openArray
  | closeArray
  | colon
  | comma
  | null
  | bool (b : Bool)
  | number (lexeme : Text)
  | string (content : Source)
deriving DecidableEq, Repr

/-- The characters that may stand between tokens. -/
def isSpace (c : Char) : Bool :=
  c == ' ' || c == '\t' || c == '\n' || c == '\r'

/-! ## Strings -/

/-- An element of a string as it is written: a character, raw or escaped by a letter, or a 16-bit
unit escaped by its number. -/
inductive StringItem where
  | raw (c : Option Char)
  | unit (u : Nat)
deriving DecidableEq, Repr

/-- The value of a hexadecimal digit. -/
def hexDigit? (c : Char) : Option Nat :=
  if c.isDigit then some (c.toNat - '0'.toNat)
  else if 'a' ≤ c ∧ c ≤ 'f' then some (c.toNat - 'a'.toNat + 10)
  else if 'A' ≤ c ∧ c ≤ 'F' then some (c.toNat - 'A'.toNat + 10)
  else none

/-- The unit that four hexadecimal digits write. -/
def unit? (a b c d : Option Char) : Option Nat := do
  let a ← hexDigit? (← a)
  let b ← hexDigit? (← b)
  let c ← hexDigit? (← c)
  let d ← hexDigit? (← d)
  return ((16 * a + b) * 16 + c) * 16 + d

/-- The character that a letter stands for behind a backslash. -/
def escapedChar? : Char → Option Char
  | '"' => some '"'
  | '\\' => some '\\'
  | '/' => some '/'
  | 'b' => some '\x08'
  | 'f' => some '\x0c'
  | 'n' => some '\n'
  | 'r' => some '\r'
  | 't' => some '\t'
  | _ => none

/-- Puts an item in front of what was read of a string. -/
def consItem (item : StringItem) :
    Option (List StringItem × Source) → Option (List StringItem × Source)
  | some (items, rest) => some (item :: items, rest)
  | none => none

/-- Reads a string behind its opening quote: its items, and what follows the closing quote. -/
def stringItems : Source → Option (List StringItem × Source)
  | [] => none
  | some '"' :: rest => some ([], rest)
  | some '\\' :: some 'u' :: a :: b :: c :: d :: rest =>
    match unit? a b c d with
    | some u => consItem (.unit u) (stringItems rest)
    | none => none
  | some '\\' :: some letter :: rest =>
    match escapedChar? letter with
    | some c => consItem (.raw (some c)) (stringItems rest)
    | none => none
  | some c :: rest =>
    if c.toNat < 0x20 ∨ c = '\\' then none else consItem (.raw (some c)) (stringItems rest)
  | none :: rest => consItem (.raw none) (stringItems rest)

/-- Whether a unit is the first half of a pair. -/
def isLead (u : Nat) : Bool :=
  0xD800 ≤ u && u < 0xDC00

/-- Whether a unit is the second half of a pair. -/
def isTrail (u : Nat) : Bool :=
  0xDC00 ≤ u && u < 0xE000

/-- The content of a string. Two halves of a pair make one character, and half a pair alone is no
character. -/
def content : List StringItem → Source
  | [] => []
  | .raw c :: rest => c :: content rest
  | [.unit u] => [if isLead u || isTrail u then none else some (Char.ofNat u)]
  | .unit u :: .raw c :: rest =>
    (if isLead u || isTrail u then none else some (Char.ofNat u)) :: c :: content rest
  | .unit u :: .unit v :: rest =>
    if isLead u && isTrail v then
      some (Char.ofNat (0x10000 + (u - 0xD800) * 0x400 + (v - 0xDC00))) :: content rest
    else
      (if isLead u || isTrail u then none else some (Char.ofNat u)) :: content (.unit v :: rest)

/-! ## Numbers -/

/-- The characters that numbers are written with. -/
def isNumberChar (c : Char) : Bool :=
  c.isDigit || c == '-' || c == '+' || c == '.' || c == 'e' || c == 'E'

/-- What follows the digits at the front of a text, if there are some. -/
def afterDigits? (t : Text) : Option Text :=
  match t with
  | c :: _ => if c.isDigit then some (t.dropWhile Char.isDigit) else none
  | [] => none

/-- What follows a whole number without sign; a leading zero stands alone. -/
def afterWhole? : Text → Option Text
  | '0' :: rest => some rest
  | t => afterDigits? t

/-- What follows a fraction, if there is one. -/
def afterFraction? : Text → Option Text
  | '.' :: rest => afterDigits? rest
  | t => some t

/-- What follows a power of ten behind its letter. -/
def afterPower? : Text → Option Text
  | '+' :: rest => afterDigits? rest
  | '-' :: rest => afterDigits? rest
  | t => afterDigits? t

/-- What follows a power of ten, if there is one. -/
def afterExponent? : Text → Option Text
  | 'e' :: rest => afterPower? rest
  | 'E' :: rest => afterPower? rest
  | t => some t

/-- What follows a sign, if there is one. -/
def afterSign : Text → Text
  | '-' :: rest => rest
  | t => t

/-- Whether a text is a number. -/
def isNumber (t : Text) : Bool :=
  ((afterWhole? (afterSign t)).bind afterFraction?).bind afterExponent? == some []

/-- The characters of a number at the front of a source. -/
def numberChars : Source → Text
  | some c :: rest => if isNumberChar c then c :: numberChars rest else []
  | _ => []

/-! ## Documents -/

/-- The token at the front of a source, which starts with no space, and what follows it. -/
def nextToken? : Source → Option (Token × Source)
  | some '\x7b' :: rest => some (.openObject, rest)
  | some '\x7d' :: rest => some (.closeObject, rest)
  | some '[' :: rest => some (.openArray, rest)
  | some ']' :: rest => some (.closeArray, rest)
  | some ':' :: rest => some (.colon, rest)
  | some ',' :: rest => some (.comma, rest)
  | some '"' :: rest =>
    (stringItems rest).map fun read => (.string (content read.1), read.2)
  | some 'n' :: some 'u' :: some 'l' :: some 'l' :: rest => some (.null, rest)
  | some 't' :: some 'r' :: some 'u' :: some 'e' :: rest => some (.bool true, rest)
  | some 'f' :: some 'a' :: some 'l' :: some 's' :: some 'e' :: rest => some (.bool false, rest)
  | source =>
    if isNumber (numberChars source) then
      some (.number (numberChars source), source.drop (numberChars source).length)
    else none

/-- What follows a string is shorter than what it was read from. -/
theorem length_stringItems_lt {source rest : Source} {items : List StringItem}
    (h : stringItems source = some (items, rest)) : rest.length < source.length := by
  have step : ∀ {item : StringItem} {read : Option (List StringItem × Source)}
      {items : List StringItem} {rest : Source},
      consItem item read = some (items, rest) → ∃ more, read = some (more, rest) := by
    intro item read items rest h
    cases read with
    | none => cases h
    | some read => cases h; exact ⟨_, rfl⟩
  fun_induction stringItems source generalizing items with
  | case1 => cases h
  | case2 => cases h; simp
  | case3 a b c d r u hu ih =>
    obtain ⟨more, read⟩ := step h
    have := ih read
    simp only [List.length_cons]
    omega
  | case4 => cases h
  | case5 letter r _ c hc ih =>
    obtain ⟨more, read⟩ := step h
    have := ih read
    simp only [List.length_cons]
    omega
  | case6 => cases h
  | case7 => cases h
  | case8 c r _ _ _ _ ih =>
    obtain ⟨more, read⟩ := step h
    have := ih read
    simp only [List.length_cons]
    omega
  | case9 r ih =>
    obtain ⟨more, read⟩ := step h
    have := ih read
    simp only [List.length_cons]
    omega

/-- What follows a token is shorter than what it was read from. -/
theorem length_nextToken?_lt {source rest : Source} {token : Token}
    (h : nextToken? source = some (token, rest)) : rest.length < source.length := by
  unfold nextToken? at h
  split at h
  case h_7 r =>
    cases read : stringItems r with
    | none => rw [read] at h; cases h
    | some found =>
      rw [read] at h
      cases h
      have := length_stringItems_lt read
      simp only [List.length_cons]
      omega
  case h_11 =>
    split at h
    · rename_i number
      cases h
      have nonempty : numberChars source ≠ [] := by
        intro none
        rw [none] at number
        exact absurd number (by decide)
      have positive : 0 < (numberChars source).length := List.length_pos_iff.2 nonempty
      have some : source ≠ [] := by
        intro none
        rw [none] at nonempty
        exact nonempty rfl
      have filled : 0 < source.length := List.length_pos_iff.2 some
      rw [List.length_drop]
      exact Nat.sub_lt filled positive
    · cases h
  all_goals
    cases h
    simp only [List.length_cons]
    omega

/-- The tokens of a document. -/
def tokens? : Source → Option (List Token)
  | [] => some []
  | c :: rest =>
    if c.any isSpace then tokens? rest
    else
      match _read : nextToken? (c :: rest) with
      | some (token, after) => (tokens? after).map (token :: ·)
      | none => none
termination_by source => source.length
decreasing_by
  · simp
  · exact length_nextToken?_lt _read

end Polyvoice.Json
