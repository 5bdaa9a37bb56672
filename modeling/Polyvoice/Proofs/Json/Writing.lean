import Polyvoice.Json.Value

/-!
# Written documents

A value is written as its tokens, one behind the other (`tokens`), with spaces wherever one likes
(`Written`). Each token is spelled in one of several ways (`Token.Spelled`): a string holds each of
its characters raw, behind a backslash or by number, and a number is any number of the grammar.
Texts, whole numbers and objects of them can be written (`exists_writes_object`). Nothing here says
how a document is read.
-/

namespace Polyvoice.Json

/-! ## Strings -/

/-- A hexadecimal digit, small or capital. -/
def HexDigit (n : Nat) (c : Char) : Prop :=
  n < 16 ∧ (c = n.digitChar ∨ c = n.digitChar.toUpper)

instance (n : Nat) (c : Char) : Decidable (HexDigit n c) :=
  inferInstanceAs (Decidable (_ ∧ _))

/-- A 16-bit unit as it is written by its number, in four hexadecimal digits. -/
inductive EscapedUnit : Nat → Text → Prop where
  | intro {m n o p : Nat} {a b c d : Char} (first : HexDigit m a) (second : HexDigit n b)
      (third : HexDigit o c) (fourth : HexDigit p d) :
      EscapedUnit (((16 * m + n) * 16 + o) * 16 + p) ['\\', 'u', a, b, c, d]

/-- The letters that are written behind a backslash, and what they stand for. -/
def escapeLetters : List (Char × Char) :=
  [('"', '"'), ('\\', '\\'), ('/', '/'), ('b', '\x08'), ('f', '\x0c'), ('n', '\n'), ('r', '\r'),
    ('t', '\t')]

/-- What a string may be written as between its quotes. A character beyond 16 bits is escaped as two
units, the halves of a pair; half a pair that is not followed by the other half is no character. -/
inductive Spells : Source → Text → Prop where
  | nil : Spells [] []
  | raw {c : Char} {content : Source} {t : Text} (visible : 0x20 ≤ c.toNat)
      (other : c ≠ '"' ∧ c ≠ '\\') (rest : Spells content t) : Spells (some c :: content) (c :: t)
  | letter {l c : Char} {content : Source} {t : Text} (known : (l, c) ∈ escapeLetters)
      (rest : Spells content t) : Spells (some c :: content) ('\\' :: l :: t)
  | unit {c : Char} {content : Source} {u t : Text} (escaped : EscapedUnit c.toNat u)
      (rest : Spells content t) : Spells (some c :: content) (u ++ t)
  | pair {c : Char} {content : Source} {u v t : Text} (beyond : 0x10000 ≤ c.toNat)
      (lead : EscapedUnit (0xD800 + (c.toNat - 0x10000) / 0x400) u)
      (trail : EscapedUnit (0xDC00 + (c.toNat - 0x10000) % 0x400) v)
      (rest : Spells content t) : Spells (some c :: content) (u ++ (v ++ t))
  | half {n : Nat} {content : Source} {u t : Text} (half : 0xD800 ≤ n ∧ n < 0xE000)
      (escaped : EscapedUnit n u)
      (alone : n < 0xDC00 → ∀ m v w, 0xDC00 ≤ m → m < 0xE000 → EscapedUnit m v → t ≠ v ++ w)
      (rest : Spells content t) : Spells (none :: content) (u ++ t)

/-- A character that may stand for itself in a string. -/
def isPlain (c : Char) : Bool :=
  0x20 ≤ c.toNat && c != '"' && c != '\\'

theorem spells_plain {t : Text} (plain : t.all isPlain = true) : Spells (.ofText t) t := by
  induction t with
  | nil => exact .nil
  | cons c t ih =>
    rw [List.all_cons, Bool.and_eq_true] at plain
    rcases plain with ⟨first, rest⟩
    rw [isPlain, Bool.and_eq_true, Bool.and_eq_true] at first
    rcases first with ⟨⟨visible, noQuote⟩, noBackslash⟩
    exact .raw (of_decide_eq_true visible) ⟨bne_iff_ne.1 noQuote, bne_iff_ne.1 noBackslash⟩
      (ih rest)

/-! ## Numbers -/

/-- One or more digits. -/
def Digits (t : Text) : Prop :=
  t ≠ [] ∧ ∀ c ∈ t, c.isDigit = true

/-- The whole part of a number, which has no leading zero. -/
def WholePart (t : Text) : Prop :=
  t = ['0'] ∨ (Digits t ∧ t.head? ≠ some '0')

/-- The fraction of a number, if there is one. -/
def FractionPart (t : Text) : Prop :=
  t = [] ∨ ∃ digits, Digits digits ∧ t = '.' :: digits

/-- The power of ten behind a number, if there is one. -/
def ExponentPart (t : Text) : Prop :=
  t = [] ∨ ∃ e sign digits, (e = 'e' ∨ e = 'E') ∧ (sign = [] ∨ sign = ['+'] ∨ sign = ['-']) ∧
    Digits digits ∧ t = e :: (sign ++ digits)

/-- A number as it may be written. -/
def NumberShape (t : Text) : Prop :=
  ∃ sign whole fraction exponent, (sign = [] ∨ sign = ['-']) ∧ WholePart whole ∧
    FractionPart fraction ∧ ExponentPart exponent ∧ t = sign ++ (whole ++ (fraction ++ exponent))

/-! ## Documents -/

/-- What a token may be written as. -/
inductive Token.Spelled : Token → Text → Prop where
  | openObject : Token.Spelled .openObject ['\x7b']
  | closeObject : Token.Spelled .closeObject ['\x7d']
  | openArray : Token.Spelled .openArray ['[']
  | closeArray : Token.Spelled .closeArray [']']
  | colon : Token.Spelled .colon [':']
  | comma : Token.Spelled .comma [',']
  | null : Token.Spelled .null ['n', 'u', 'l', 'l']
  | yes : Token.Spelled (.bool true) ['t', 'r', 'u', 'e']
  | no : Token.Spelled (.bool false) ['f', 'a', 'l', 's', 'e']
  | number {lexeme : Text} (shape : NumberShape lexeme) : Token.Spelled (.number lexeme) lexeme
  | string {content : Source} {t : Text} (spells : Spells content t) :
      Token.Spelled (.string content) ('"' :: (t ++ ['"']))

theorem Token.Spelled.plain {t : Text} (plain : t.all isPlain = true) :
    Token.Spelled (.string (.ofText t)) ('"' :: (t ++ ['"'])) :=
  .string (spells_plain plain)

/-- A text that holds tokens, and spaces. -/
inductive Written : List Token → Text → Prop where
  | nil : Written [] []
  | space {tokens : List Token} {c : Char} {t : Text} (blank : isSpace c = true)
      (rest : Written tokens t) : Written tokens (c :: t)
  | token {token : Token} {tokens : List Token} {u t : Text} (spelled : token.Spelled u)
      (rest : Written tokens t) : Written (token :: tokens) (u ++ t)

mutual

/-- The tokens of a value. -/
def tokens : Json → List Token
  | null => [.null]
  | bool b => [.bool b]
  | number lexeme => [.number lexeme]
  | string content => [.string content]
  | array [] => [.openArray, .closeArray]
  | array (item :: items) => .openArray :: (tokens item ++ (moreItems items ++ [.closeArray]))
  | object [] => [.openObject, .closeObject]
  | object ((key, value) :: members) =>
    .openObject :: .string key :: .colon ::
      (tokens value ++ (moreMembers members ++ [.closeObject]))

/-- The tokens of the items behind the first one. -/
def moreItems : List Json → List Token
  | [] => []
  | item :: items => .comma :: (tokens item ++ moreItems items)

/-- The tokens of the members behind the first one. -/
def moreMembers : List (Source × Json) → List Token
  | [] => []
  | (key, value) :: members =>
    .comma :: .string key :: .colon :: (tokens value ++ moreMembers members)

end

/-- A text that a value may be written as. -/
def Writes (value : Json) (t : Text) : Prop :=
  Written (tokens value) t

/-! ## What can be written -/

theorem EscapedUnit.small {m n o p : Nat} (digits : m < 16 ∧ n < 16 ∧ o < 16 ∧ p < 16) :
    EscapedUnit (((16 * m + n) * 16 + o) * 16 + p)
      ['\\', 'u', m.digitChar, n.digitChar, o.digitChar, p.digitChar] :=
  .intro ⟨digits.1, Or.inl rfl⟩ ⟨digits.2.1, Or.inl rfl⟩ ⟨digits.2.2.1, Or.inl rfl⟩
    ⟨digits.2.2.2, Or.inl rfl⟩

theorem exists_escapedUnit {n : Nat} (small : n < 0x10000) : ∃ u, EscapedUnit n u := by
  have value : ((16 * (n / 4096) + n / 256 % 16) * 16 + n / 16 % 16) * 16 + n % 16 = n := by
    omega
  rw [← value]
  exact ⟨_, .small (by omega)⟩

/-- Every text can be written as a string. -/
theorem exists_spells (t : Text) : ∃ u, Spells (.ofText t) u := by
  induction t with
  | nil => exact ⟨[], .nil⟩
  | cons c t ih =>
    rcases ih with ⟨u, rest⟩
    by_cases control : c.toNat < 0x20
    · rcases exists_escapedUnit (show c.toNat < 0x10000 by omega) with ⟨v, escaped⟩
      exact ⟨v ++ u, .unit escaped rest⟩
    · by_cases quote : c = '"'
      · have known : (c, c) ∈ escapeLetters := quote ▸ List.mem_cons_self
        exact ⟨'\\' :: c :: u, .letter known rest⟩
      · by_cases backslash : c = '\\'
        · have known : (c, c) ∈ escapeLetters :=
            backslash ▸ List.mem_cons_of_mem _ List.mem_cons_self
          exact ⟨'\\' :: c :: u, .letter known rest⟩
        · exact ⟨c :: u, .raw (by omega) ⟨quote, backslash⟩ rest⟩

/-- The digits of a number have no leading zero. -/
theorem head?_toDigits {n : Nat} (positive : 0 < n) : (Nat.toDigits 10 n).head? ≠ some '0' := by
  have ten : 1 < 10 := by decide
  induction n using Nat.strongRecOn with
  | _ n ih =>
    by_cases small : n < 10
    · have nonzero : ∀ n < 10, 0 < n → n.digitChar ≠ '0' := by decide
      rw [Nat.toDigits_of_lt_base small]
      exact fun same => nonzero n small positive (Option.some.inj same)
    · have front := ih (n / 10) (by omega) (by omega)
      rw [Nat.toDigits_of_base_le ten (by omega)]
      rcases written : Nat.toDigits 10 (n / 10) with _ | ⟨c, rest⟩
      · exact absurd written Nat.toDigits_ne_nil
      · rw [written] at front
        exact front

theorem numberShape_toDigits (n : Nat) : NumberShape (Nat.toDigits 10 n) := by
  refine ⟨[], Nat.toDigits 10 n, [], [], Or.inl rfl, ?_, Or.inl rfl, Or.inl rfl, by simp⟩
  by_cases zero : n = 0
  · rw [zero]
    exact Or.inl (Nat.toDigits_of_lt_base (by decide))
  · refine Or.inr ⟨⟨Nat.toDigits_ne_nil, fun c member => ?_⟩, head?_toDigits (by omega)⟩
    exact Nat.isDigit_of_mem_toDigits (by decide) (by decide) member

theorem Written.congr {front back : List Token} {t u : Text} (written : Written front t)
    (same : front = back) (alike : t = u) : Written back u :=
  same ▸ alike ▸ written

theorem Written.append {front back : List Token} {t u : Text} (first : Written front t)
    (second : Written back u) : Written (front ++ back) (t ++ u) := by
  induction first with
  | nil => exact second
  | space blank _ ih => exact .space blank ih
  | token spelled _ ih =>
    rw [List.append_assoc]
    exact .token spelled ih

theorem exists_writes_string (t : Text) : ∃ u, Writes (.string (.ofText t)) u := by
  rcases exists_spells t with ⟨u, spells⟩
  exact ⟨_, .token (.string spells) .nil⟩

theorem exists_writes_toDigits (n : Nat) : ∃ u, Writes (.number (Nat.toDigits 10 n)) u :=
  ⟨_, .token (.number (numberShape_toDigits n)) .nil⟩

section

variable {members : List (Text × Json)}

theorem exists_written_moreMembers (each : ∀ member ∈ members, ∃ t, Writes member.2 t) :
    ∃ t, Written (moreMembers (members.map fun member => (.ofText member.1, member.2))) t := by
  induction members with
  | nil => exact ⟨[], .nil⟩
  | cons member members ih =>
    rcases List.forall_mem_cons.1 each with ⟨⟨t, first⟩, others⟩
    rcases ih others with ⟨u, rest⟩
    rcases exists_spells member.1 with ⟨v, key⟩
    exact ⟨_, .token .comma (.token (.string key) (.token .colon (first.append rest)))⟩

/-- An object can be written if the values in it can. -/
theorem exists_writes_object (each : ∀ member ∈ members, ∃ t, Writes member.2 t) :
    ∃ t, Writes (.object (members.map fun member => (.ofText member.1, member.2))) t := by
  cases members with
  | nil => exact ⟨_, .token .openObject (.token .closeObject .nil)⟩
  | cons member members =>
    rcases List.forall_mem_cons.1 each with ⟨⟨t, first⟩, others⟩
    rcases exists_written_moreMembers others with ⟨u, rest⟩
    rcases exists_spells member.1 with ⟨v, key⟩
    exact ⟨_, .token .openObject (.token (.string key) (.token .colon
      (first.append (rest.append (.token .closeObject .nil)))))⟩

end

end Polyvoice.Json
