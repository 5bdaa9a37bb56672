import Polyvoice.Proofs.Json.Writing

/-!
# Reading tokens back

Whatever a token is written as, the reader of tokens finds it at the front of a source and stops
right behind it (`nextToken?_of_spelled`). Only a number has to be followed by something else than
a character of numbers, which is so where no two numbers follow each other (`Apart`). So the tokens
of a written text are read back (`tokens?_of_written`).
-/

namespace Polyvoice.Json

section

variable {c d : Char} {n u v : Nat} {t w : Text} {held : Source}

theorem ofText_cons (c : Char) (t : Text) : Source.ofText (c :: t) = some c :: Source.ofText t :=
  rfl

theorem ofText_append (t w : Text) :
    Source.ofText (t ++ w) = Source.ofText t ++ Source.ofText w :=
  List.map_append

theorem text?_ofText (t : Text) : (Source.ofText t).text? = some t := by
  induction t with
  | nil => rfl
  | cons c t ih =>
    rw [Source.text?] at ih ⊢
    rw [ofText_cons, List.mapM_cons, ih]
    rfl

/-! ## Strings -/

theorem hexDigit?_of_hexDigit (digit : HexDigit n c) : hexDigit? c = some n := by
  have all : ∀ n : Fin 16, hexDigit? n.val.digitChar = some n.val ∧
      hexDigit? n.val.digitChar.toUpper = some n.val := by
    decide
  rcases digit with ⟨small, rfl | rfl⟩
  · exact (all ⟨n, small⟩).1
  · exact (all ⟨n, small⟩).2

theorem stringItems_escapedUnit (escaped : EscapedUnit u t) (rest : Source) :
    stringItems (.ofText t ++ rest) = consItem (.unit u) (stringItems rest) := by
  rcases escaped with @⟨m, n, o, p, a, b, c, d, first, second, third, fourth⟩
  have read : unit? (some a) (some b) (some c) (some d) =
      some (((16 * m + n) * 16 + o) * 16 + p) := by
    simp [unit?, hexDigit?_of_hexDigit first, hexDigit?_of_hexDigit second,
      hexDigit?_of_hexDigit third, hexDigit?_of_hexDigit fourth]
  show stringItems (some '\\' :: some 'u' :: some a :: some b :: some c :: some d :: rest) = _
  rw [stringItems, read]

theorem stringItems_letter (known : (c, d) ∈ escapeLetters) (rest : Source) :
    stringItems (some '\\' :: some c :: rest) = consItem (.raw (some d)) (stringItems rest) := by
  simp only [escapeLetters, List.mem_cons, List.not_mem_nil, Prod.mk.injEq, or_false] at known
  rcases known with ⟨rfl, rfl⟩ | ⟨rfl, rfl⟩ | ⟨rfl, rfl⟩ | ⟨rfl, rfl⟩ | ⟨rfl, rfl⟩ | ⟨rfl, rfl⟩ |
    ⟨rfl, rfl⟩ | ⟨rfl, rfl⟩ <;> simp [stringItems, escapedChar?]

theorem stringItems_raw (visible : 0x20 ≤ c.toNat) (other : c ≠ '"' ∧ c ≠ '\\') (rest : Source) :
    stringItems (some c :: rest) = consItem (.raw (some c)) (stringItems rest) := by
  have kept : ¬(c.toNat < 0x20 ∨ c = '\\') := by
    rintro (control | same)
    · omega
    · exact other.2 same
  rw [stringItems, if_neg kept]
  all_goals simp [other]

/-- A unit stands by itself unless it is half a pair that the other half follows. -/
theorem content_unit {items : List StringItem}
    (alone : ∀ v more, items = .unit v :: more → ¬(isLead u && isTrail v) = true) :
    content (.unit u :: items) =
      (if isLead u || isTrail u then none else some (Char.ofNat u)) :: content items := by
  rcases items with _ | ⟨c | v, more⟩
  · rfl
  · rfl
  · rw [content, if_neg (alone v more rfl)]

theorem toNat_bounds (c : Char) :
    c.toNat < 0xD800 ∨ 0xDFFF < c.toNat ∧ c.toNat < 0x110000 := by
  have valid := c.valid
  simp only [UInt32.isValidChar, Nat.isValidChar] at valid
  exact valid

/-- A character is not half a pair. -/
theorem isHalf_toNat (c : Char) : (isLead c.toNat || isTrail c.toNat) = false := by
  have bounds := toNat_bounds c
  simp only [isLead, isTrail, Bool.or_eq_false_iff, Bool.and_eq_false_iff, decide_eq_false_iff_not]
  omega

/-- The halves of a pair make the character that was parted into them. -/
theorem content_pair (beyond : 0x10000 ≤ c.toNat) (items : List StringItem) :
    content (.unit (0xD800 + (c.toNat - 0x10000) / 0x400) ::
      .unit (0xDC00 + (c.toNat - 0x10000) % 0x400) :: items) = some c :: content items := by
  have bounds := toNat_bounds c
  have halves : (isLead (0xD800 + (c.toNat - 0x10000) / 0x400) &&
      isTrail (0xDC00 + (c.toNat - 0x10000) % 0x400)) = true := by
    simp only [isLead, isTrail, Bool.and_eq_true, decide_eq_true_eq]
    omega
  have joined : 0x10000 + (0xD800 + (c.toNat - 0x10000) / 0x400 - 0xD800) * 0x400 +
      (0xDC00 + (c.toNat - 0x10000) % 0x400 - 0xDC00) = c.toNat := by
    omega
  rw [content, if_pos halves, joined, Char.ofNat_toNat]

/-- What is between the quotes of a string is read back, up to the quote behind it; it begins with a
unit only where one is escaped. -/
theorem exists_stringItems_of_spells (spells : Spells held t) (rest : Source) :
    ∃ items, stringItems (.ofText t ++ some '"' :: rest) = some (items, rest) ∧
      content items = held ∧
      ∀ u more, items = .unit u :: more → ∃ v w, EscapedUnit u v ∧ t = v ++ w := by
  induction spells with
  | nil =>
    refine ⟨[], by simp [Source.ofText, stringItems], rfl, ?_⟩
    intro u more same
    cases same
  | @raw c _ t visible other _ ih =>
    rcases ih with ⟨items, read, rfl, -⟩
    refine ⟨.raw (some c) :: items, ?_, rfl, ?_⟩
    · rw [ofText_cons, List.cons_append, stringItems_raw visible other, read]
      rfl
    · intro u more same
      cases same
  | @letter l c _ t known _ ih =>
    rcases ih with ⟨items, read, rfl, -⟩
    refine ⟨.raw (some c) :: items, ?_, rfl, ?_⟩
    · rw [ofText_cons, ofText_cons, List.cons_append, List.cons_append, stringItems_letter known,
        read]
      rfl
    · intro u more same
      cases same
  | @unit c _ u t escaped _ ih =>
    rcases ih with ⟨items, read, rfl, -⟩
    have single := isHalf_toNat c
    refine ⟨.unit c.toNat :: items, ?_, ?_, ?_⟩
    · rw [ofText_append, List.append_assoc, stringItems_escapedUnit escaped, read]
      rfl
    · rw [content_unit fun v more _ => by simp [(Bool.or_eq_false_iff.1 single).1], single,
        Char.ofNat_toNat]
      rfl
    · intro v more same
      cases same
      exact ⟨u, t, escaped, rfl⟩
  | @pair c _ u v t beyond lead trail _ ih =>
    rcases ih with ⟨items, read, rfl, -⟩
    refine ⟨_, ?_, content_pair beyond items, ?_⟩
    · rw [ofText_append, ofText_append, List.append_assoc, List.append_assoc,
        stringItems_escapedUnit lead, stringItems_escapedUnit trail, read]
      rfl
    · intro n more same
      cases same
      exact ⟨u, v ++ t, lead, rfl⟩
  | @half n _ u t half escaped alone _ ih =>
    rcases ih with ⟨items, read, rfl, begins⟩
    have isHalf : (isLead n || isTrail n) = true := by
      simp only [isLead, isTrail, Bool.or_eq_true, Bool.and_eq_true, decide_eq_true_eq]
      omega
    refine ⟨.unit n :: items, ?_, ?_, ?_⟩
    · rw [ofText_append, List.append_assoc, stringItems_escapedUnit escaped, read]
      rfl
    · rw [content_unit ?_, isHalf]
      · rfl
      · intro m more same paired
        rcases begins m more same with ⟨v, w, other, follows⟩
        simp only [isLead, isTrail, Bool.and_eq_true, decide_eq_true_eq] at paired
        exact alone paired.1.2 m v w paired.2.1 paired.2.2 other follows
    · intro v more same
      cases same
      exact ⟨u, t, escaped, rfl⟩

/-! ## Numbers -/

theorem afterDigits?_append (digits : Digits t) (stop : ∀ c ∈ w.head?, c.isDigit = false) :
    afterDigits? (t ++ w) = some w := by
  rcases digits with ⟨present, digits⟩
  rcases List.exists_cons_of_ne_nil present with ⟨c, t, rfl⟩
  have behind : (c :: t ++ w).dropWhile Char.isDigit = w := by
    rw [List.dropWhile_append_of_pos digits]
    rcases w with _ | ⟨d, w⟩
    · rfl
    · rw [List.dropWhile_cons_of_neg (by simp [stop d rfl])]
  rw [List.cons_append] at behind ⊢
  rw [afterDigits?, if_pos (digits c List.mem_cons_self), behind]

theorem afterWhole?_append (whole : WholePart t) (stop : ∀ c ∈ w.head?, c.isDigit = false) :
    afterWhole? (t ++ w) = some w := by
  rcases whole with rfl | ⟨digits, nonzero⟩
  · rfl
  · rcases List.exists_cons_of_ne_nil digits.1 with ⟨c, t, rfl⟩
    have other : c ≠ '0' := fun same => nonzero (congrArg some same)
    rw [List.cons_append, afterWhole?]
    · exact afterDigits?_append digits stop
    · intro rest same
      exact other (List.cons.inj same).1

theorem afterFraction?_append (fraction : FractionPart t)
    (stop : ∀ c ∈ w.head?, c.isDigit = false ∧ c ≠ '.') : afterFraction? (t ++ w) = some w := by
  rcases fraction with rfl | ⟨digits, some, rfl⟩
  · rcases w with _ | ⟨c, w⟩
    · rfl
    · rw [List.nil_append, afterFraction?]
      intro rest same
      exact (stop c rfl).2 (List.cons.inj same).1
  · exact afterDigits?_append some fun c member => (stop c member).1

theorem afterExponent?_eq (exponent : ExponentPart t) : afterExponent? t = some [] := by
  rcases exponent with rfl | ⟨e, sign, digits, letter, signed, some, rfl⟩
  · rfl
  · have behind := afterDigits?_append (w := []) some (by simp)
    rw [List.append_nil] at behind
    have power : afterPower? (sign ++ digits) = Option.some [] := by
      rcases signed with rfl | rfl | rfl
      · rcases List.exists_cons_of_ne_nil some.1 with ⟨d, rest, rfl⟩
        have digit := some.2 d List.mem_cons_self
        rw [List.nil_append, afterPower?]
        · exact behind
        · rintro more same
          cases same
          cases digit
        · rintro more same
          cases same
          cases digit
      · exact behind
      · exact behind
    rcases letter with rfl | rfl
    · exact power
    · exact power

/-- A whole part begins with a digit. -/
theorem WholePart.begins (whole : WholePart t) : ∃ c rest, t = c :: rest ∧ c.isDigit = true := by
  rcases whole with rfl | ⟨⟨present, digits⟩, -⟩
  · exact ⟨'0', [], rfl, rfl⟩
  · rcases List.exists_cons_of_ne_nil present with ⟨c, rest, rfl⟩
    exact ⟨c, rest, rfl, digits c List.mem_cons_self⟩

theorem afterSign_append {sign : Text} (signed : sign = [] ∨ sign = ['-']) (whole : WholePart t)
    (w : Text) : afterSign (sign ++ (t ++ w)) = t ++ w := by
  rcases signed with rfl | rfl
  · rcases whole.begins with ⟨c, rest, rfl, digit⟩
    rw [List.nil_append, List.cons_append, afterSign]
    intro more same
    cases same
    cases digit
  · rfl

theorem ExponentPart.head (exponent : ExponentPart t) : ∀ c ∈ t.head?, c = 'e' ∨ c = 'E' := by
  rcases exponent with rfl | ⟨e, sign, digits, letter, -, -, rfl⟩
  · simp
  · intro c member
    cases member
    exact letter

theorem FractionPart.head (fraction : FractionPart t) (exponent : ExponentPart w) :
    ∀ c ∈ (t ++ w).head?, c.isDigit = false := by
  rcases fraction with rfl | ⟨digits, -, rfl⟩
  · intro c member
    rcases exponent.head c member with rfl | rfl <;> rfl
  · intro c member
    cases member
    rfl

/-- What has the shape of a number is one. -/
theorem isNumber_of_shape (shape : NumberShape t) : isNumber t = true := by
  rcases shape with ⟨sign, whole, fraction, exponent, signed, isWhole, isFraction, isExponent, rfl⟩
  have stop : ∀ c ∈ exponent.head?, c.isDigit = false ∧ c ≠ '.' := by
    intro c member
    rcases isExponent.head c member with rfl | rfl <;> decide
  rw [isNumber, afterSign_append signed isWhole,
    afterWhole?_append isWhole (isFraction.head isExponent), Option.bind_some,
    afterFraction?_append isFraction stop, Option.bind_some, afterExponent?_eq isExponent]
  rfl

theorem isNumberChar_of_isDigit (digit : c.isDigit = true) : isNumberChar c = true := by
  simp [isNumberChar, digit]

/-- A number is written with the characters of numbers. -/
theorem isNumberChar_of_mem_shape (shape : NumberShape t) (member : c ∈ t) :
    isNumberChar c = true := by
  rcases shape with ⟨sign, whole, fraction, exponent, signed, isWhole, isFraction, isExponent, rfl⟩
  simp only [List.mem_append] at member
  rcases member with inSign | inWhole | inFraction | inExponent
  · rcases signed with rfl | rfl
    · cases inSign
    · rw [List.mem_singleton.1 inSign]
      rfl
  · rcases isWhole with rfl | ⟨digits, -⟩
    · rw [List.mem_singleton.1 inWhole]
      rfl
    · exact isNumberChar_of_isDigit (digits.2 c inWhole)
  · rcases isFraction with rfl | ⟨digits, some, rfl⟩
    · cases inFraction
    · rcases List.mem_cons.1 inFraction with rfl | inDigits
      · rfl
      · exact isNumberChar_of_isDigit (some.2 c inDigits)
  · rcases isExponent with rfl | ⟨e, sign, digits, letter, signed, some, rfl⟩
    · cases inExponent
    · rcases List.mem_cons.1 inExponent with rfl | inPower
      · rcases letter with rfl | rfl <;> rfl
      · rcases List.mem_append.1 inPower with inSign | inDigits
        · rcases signed with rfl | rfl | rfl
          · cases inSign
          · rw [List.mem_singleton.1 inSign]
            rfl
          · rw [List.mem_singleton.1 inSign]
            rfl
        · exact isNumberChar_of_isDigit (some.2 c inDigits)

theorem numberChars_append {rest : Source} (inside : ∀ c ∈ t, isNumberChar c = true)
    (stop : ∀ c, some c ∈ rest.head? → isNumberChar c = false) :
    numberChars (.ofText t ++ rest) = t := by
  induction t with
  | nil =>
    rcases rest with _ | ⟨c | c, rest⟩
    · rfl
    · rfl
    · show (if isNumberChar c then c :: numberChars rest else []) = []
      rw [if_neg (by simp [stop c rfl])]
  | cons c t ih =>
    rw [ofText_cons, List.cons_append, numberChars, if_pos (inside c List.mem_cons_self),
      ih fun d member => inside d (List.mem_cons_of_mem c member)]

theorem NumberShape.begins (shape : NumberShape t) :
    ∃ c rest, t = c :: rest ∧ (c = '-' ∨ c.isDigit = true) := by
  rcases shape with ⟨sign, whole, fraction, exponent, signed, isWhole, -, -, rfl⟩
  rcases signed with rfl | rfl
  · rcases isWhole.begins with ⟨c, rest, rfl, digit⟩
    exact ⟨c, rest ++ (fraction ++ exponent), rfl, Or.inr digit⟩
  · exact ⟨'-', whole ++ (fraction ++ exponent), rfl, Or.inl rfl⟩

theorem nextToken?_number {rest : Source} (shape : NumberShape t)
    (stop : ∀ c, some c ∈ rest.head? → isNumberChar c = false) :
    nextToken? (.ofText t ++ rest) = some (.number t, rest) := by
  have chars : numberChars (.ofText t ++ rest) = t :=
    numberChars_append (fun c member => isNumberChar_of_mem_shape shape member) stop
  have length : (Source.ofText t).length = t.length := List.length_map some
  rcases shape.begins with ⟨c, more, begins, first⟩
  have front : Source.ofText t ++ rest = some c :: (Source.ofText more ++ rest) := by
    rw [begins]
    rfl
  -- no other token begins with a sign or a digit
  rw [front, nextToken?, ← front, chars, if_pos (isNumber_of_shape shape), ← length, List.drop_left]
  all_goals
    intros
    rename_i same
    obtain rfl := Option.some.inj (List.cons.inj same).1
    revert first
    decide

/-! ## Tokens -/

/-- Whether a token is a number. -/
def Token.isNumber : Token → Bool
  | .number _ => true
  | _ => false

/-- A token is found at the front of a source, whatever it is written as. -/
theorem nextToken?_of_spelled {token : Token} {rest : Source} (spelled : token.Spelled t)
    (stop : token.isNumber = true → ∀ c, some c ∈ rest.head? → isNumberChar c = false) :
    nextToken? (.ofText t ++ rest) = some (token, rest) := by
  cases spelled with
  | number shape => exact nextToken?_number shape (stop rfl)
  | string spells =>
    rcases exists_stringItems_of_spells spells rest with ⟨items, read, same, -⟩
    rw [ofText_cons, ofText_append, List.cons_append, List.append_assoc, nextToken?]
    show (stringItems (_ ++ some '"' :: rest)).map _ = _
    rw [read, Option.map_some, same]
  | openObject => rfl
  | closeObject => rfl
  | openArray => rfl
  | closeArray => rfl
  | colon => rfl
  | comma => rfl
  | null => rfl
  | yes => rfl
  | no => rfl

/-- A token is written as something that begins with no space. -/
theorem Token.Spelled.begins {token : Token} (spelled : token.Spelled t) :
    ∃ c rest, t = c :: rest ∧ isSpace c = false ∧
      (token.isNumber = false → isNumberChar c = false) := by
  cases spelled with
  | number shape =>
    rcases shape.begins with ⟨c, rest, rfl, rfl | digit⟩
    · exact ⟨'-', rest, rfl, rfl, nofun⟩
    · refine ⟨c, rest, rfl, Bool.eq_false_iff.2 fun blank => ?_, nofun⟩
      simp only [isSpace, Bool.or_eq_true, beq_iff_eq] at blank
      rcases blank with ((rfl | rfl) | rfl) | rfl <;> cases digit
  | string spells => exact ⟨'"', _, rfl, rfl, fun _ => rfl⟩
  | openObject => exact ⟨'\x7b', [], rfl, rfl, fun _ => rfl⟩
  | closeObject => exact ⟨'\x7d', [], rfl, rfl, fun _ => rfl⟩
  | openArray => exact ⟨'[', [], rfl, rfl, fun _ => rfl⟩
  | closeArray => exact ⟨']', [], rfl, rfl, fun _ => rfl⟩
  | colon => exact ⟨':', [], rfl, rfl, fun _ => rfl⟩
  | comma => exact ⟨',', [], rfl, rfl, fun _ => rfl⟩
  | null => exact ⟨'n', ['u', 'l', 'l'], rfl, rfl, fun _ => rfl⟩
  | yes => exact ⟨'t', ['r', 'u', 'e'], rfl, rfl, fun _ => rfl⟩
  | no => exact ⟨'f', ['a', 'l', 's', 'e'], rfl, rfl, fun _ => rfl⟩

/-- Tokens of which no two neighbours are numbers. -/
def Apart : List Token → Prop
  | [] => True
  | token :: rest =>
    (token.isNumber = true → ∀ next ∈ rest.head?, next.isNumber = false) ∧ Apart rest

/-- A text that holds tokens begins with a character of numbers only if a number comes first. -/
theorem Written.stop {tokens : List Token} (written : Written tokens t)
    (other : ∀ next ∈ tokens.head?, next.isNumber = false) :
    ∀ c, some c ∈ (Source.ofText t).head? → isNumberChar c = false := by
  intro c member
  cases written with
  | nil => cases member
  | space blank _ =>
    cases member
    simp only [isSpace, Bool.or_eq_true, beq_iff_eq] at blank
    rcases blank with ((rfl | rfl) | rfl) | rfl <;> rfl
  | @token token _ u t spelled _ =>
    rcases spelled.begins with ⟨d, rest, rfl, -, first⟩
    cases member
    exact first (other token rfl)

theorem tokens?_space {rest : Source} (blank : isSpace c = true) :
    tokens? (some c :: rest) = tokens? rest := by
  rw [tokens?, if_pos]
  exact blank

theorem tokens?_token {token : Token} {source rest : Source} (present : isSpace c = false)
    (found : nextToken? (some c :: source) = some (token, rest)) :
    tokens? (some c :: source) = (tokens? rest).map (token :: ·) := by
  rw [tokens?, if_neg (by simp [present])]
  split
  · rename_i other after read
    cases read.symm.trans found
    rfl
  · rename_i read
    cases read.symm.trans found

/-- **The tokens of a written text are read back.** -/
theorem tokens?_of_written {tokens : List Token} (written : Written tokens t)
    (apart : Apart tokens) : tokens? (.ofText t) = some tokens := by
  induction written with
  | nil => rw [Source.ofText, List.map_nil, tokens?]
  | space blank _ ih => rw [ofText_cons, tokens?_space blank, ih apart]
  | @token token tokens u t spelled rest ih =>
    have found : nextToken? (.ofText u ++ .ofText t) = some (token, .ofText t) :=
      nextToken?_of_spelled spelled fun number => rest.stop (apart.1 number)
    rcases spelled.begins with ⟨c, more, rfl, present, -⟩
    rw [ofText_append]
    rw [ofText_cons, List.cons_append] at found ⊢
    rw [tokens?_token present found, ih apart.2, Option.map_some]

end

end Polyvoice.Json
