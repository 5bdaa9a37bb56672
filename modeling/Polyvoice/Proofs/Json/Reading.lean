import Polyvoice.Proofs.Json.Lexing

/-!
# Reading values back

The parser takes the tokens of a value from one state to the next without looking further
(`steps_tokens`), so that a value is read back from whatever it is written as (`read?_of_writes`).
A file that holds a text has the characters of the text (`ofBytes_toUTF8`).
-/

namespace Polyvoice.Json

/-! ## Tokens of values -/

/-- What comes first among tokens, if it is no number. -/
def Unnumbered (tokens : List Token) : Prop :=
  ∀ next ∈ tokens.head?, next.isNumber = false

theorem unnumbered_cons {token : Token} (other : token.isNumber = false) (tokens : List Token) :
    Unnumbered (token :: tokens) := by
  intro next member
  cases member
  exact other

theorem Apart.cons {token : Token} {tokens : List Token} (other : token.isNumber = false)
    (apart : Apart tokens) : Apart (token :: tokens) := by
  refine ⟨fun number => ?_, apart⟩
  rw [other] at number
  cases number

theorem unnumbered_moreItems (items : List Json) {rest : List Token} (other : Unnumbered rest) :
    Unnumbered (moreItems items ++ rest) := by
  cases items with
  | nil => exact other
  | cons item items => exact unnumbered_cons rfl _

theorem unnumbered_moreMembers (members : List (Source × Json)) {rest : List Token}
    (other : Unnumbered rest) : Unnumbered (moreMembers members ++ rest) := by
  cases members with
  | nil => exact other
  | cons member members => exact unnumbered_cons rfl _

mutual

/-- No two numbers follow each other in a value, whatever else follows it. -/
theorem apart_tokens : ∀ (v : Json) {rest : List Token}, Unnumbered rest → Apart rest →
    Apart (tokens v ++ rest)
  | null, _, _, apart => apart.cons rfl
  | bool _, _, _, apart => apart.cons rfl
  | number _, _, other, apart => ⟨fun _ => other, apart⟩
  | string _, _, _, apart => apart.cons rfl
  | array [], _, _, apart => (apart.cons rfl).cons rfl
  | array (item :: items), rest, _, apart => by
    rw [tokens, List.cons_append, List.append_assoc, List.append_assoc]
    have ending : Apart (Token.closeArray :: rest) := apart.cons rfl
    exact (apart_tokens item (unnumbered_moreItems items (unnumbered_cons rfl rest))
      (apart_moreItems items (unnumbered_cons rfl rest) ending)).cons rfl
  | object [], _, _, apart => (apart.cons rfl).cons rfl
  | object ((_, v) :: members), rest, _, apart => by
    rw [tokens, List.cons_append, List.cons_append, List.cons_append, List.append_assoc,
      List.append_assoc]
    have ending : Apart (Token.closeObject :: rest) := apart.cons rfl
    exact (((apart_tokens v (unnumbered_moreMembers members (unnumbered_cons rfl rest))
      (apart_moreMembers members (unnumbered_cons rfl rest) ending)).cons rfl).cons rfl).cons rfl

theorem apart_moreItems : ∀ (items : List Json) {rest : List Token}, Unnumbered rest →
    Apart rest → Apart (moreItems items ++ rest)
  | [], _, _, apart => apart
  | item :: items, rest, other, apart => by
    rw [moreItems, List.cons_append, List.append_assoc]
    exact (apart_tokens item (unnumbered_moreItems items other)
      (apart_moreItems items other apart)).cons rfl

theorem apart_moreMembers : ∀ (members : List (Source × Json)) {rest : List Token},
    Unnumbered rest → Apart rest → Apart (moreMembers members ++ rest)
  | [], _, _, apart => apart
  | (_, v) :: members, rest, other, apart => by
    rw [moreMembers, List.cons_append, List.cons_append, List.cons_append, List.append_assoc]
    exact (((apart_tokens v (unnumbered_moreMembers members other)
      (apart_moreMembers members other apart)).cons rfl).cons rfl).cons rfl

end

/-! ## The parser -/

namespace Parser

/-- The first item of an array is read as any other value. -/
theorem steps_firstItem (v : Json) (frames : List Frame) (rest : List Token) :
    (Parser.firstItem frames).steps (tokens v ++ rest) =
      (Parser.value (.array [] :: frames)).steps (tokens v ++ rest) := by
  rcases v with _ | b | lexeme | content | (_ | ⟨item, items⟩) | (_ | ⟨⟨name, v⟩, members⟩) <;> rfl

mutual

/-- The tokens of a value are read as the value. -/
theorem steps_tokens : ∀ (v : Json) (frames : List Frame) (rest : List Token),
    (Parser.value frames).steps (tokens v ++ rest) = (deliver v frames).steps rest
  | null, _, _ => rfl
  | bool _, _, _ => rfl
  | number _, _, _ => rfl
  | string _, _, _ => rfl
  | array [], _, _ => rfl
  | array (item :: items), frames, rest => by
    rw [tokens, List.cons_append, List.append_assoc, List.append_assoc]
    show (Parser.firstItem frames).steps (tokens item ++ _) = _
    rw [steps_firstItem, steps_tokens item]
    exact steps_moreItems items [item] frames rest
  | object [], _, _ => rfl
  | object ((name, v) :: members), frames, rest => by
    rw [tokens, List.cons_append, List.cons_append, List.cons_append, List.append_assoc,
      List.append_assoc]
    show (Parser.value (.member [] name :: frames)).steps (tokens v ++ _) = _
    rw [steps_tokens v]
    exact steps_moreMembers members [(name, v)] frames rest

theorem steps_moreItems : ∀ (items done : List Json) (frames : List Frame) (rest : List Token),
    (Parser.moreItems done frames).steps (Json.moreItems items ++ .closeArray :: rest) =
      (deliver (.array (done.reverse ++ items)) frames).steps rest
  | [], done, frames, rest => by
    rw [List.append_nil]
    rfl
  | item :: items, done, frames, rest => by
    rw [Json.moreItems, List.cons_append, List.append_assoc]
    show (Parser.value (.array done :: frames)).steps (tokens item ++ _) = _
    rw [steps_tokens item, List.append_cons done.reverse, ← List.reverse_cons]
    exact steps_moreItems items (item :: done) frames rest

theorem steps_moreMembers : ∀ (members done : List (Source × Json)) (frames : List Frame)
    (rest : List Token),
    (Parser.moreMembers done frames).steps (Json.moreMembers members ++ .closeObject :: rest) =
      (deliver (.object (done.reverse ++ members)) frames).steps rest
  | [], done, frames, rest => by
    rw [List.append_nil]
    rfl
  | (name, v) :: members, done, frames, rest => by
    rw [Json.moreMembers, List.cons_append, List.cons_append, List.cons_append, List.append_assoc]
    show (Parser.value (.member done name :: frames)).steps (tokens v ++ _) = _
    rw [steps_tokens v, List.append_cons done.reverse, ← List.reverse_cons]
    exact steps_moreMembers members ((name, v) :: done) frames rest

end

end Parser

/-! ## Documents -/

/-- **A value is read back from whatever it is written as.** -/
theorem read?_of_writes {v : Json} {t : Text} (writes : Writes v t) :
    read? (.ofText t) = some v := by
  have nothing : Unnumbered [] := fun next member => by cases member
  have apart := apart_tokens v nothing trivial
  have parsed := Parser.steps_tokens v [] []
  rw [List.append_nil] at apart parsed
  rw [read?, tokens?_of_written writes apart, Option.bind_some, parsed]
  rfl

/-! ## Files -/

theorem ofBytesFrom_append (front : ByteArray) (t : Text) :
    Source.ofBytesFrom (front ++ t.utf8Encode) front.size = Source.ofText t := by
  induction t generalizing front with
  | nil =>
    rw [Source.ofBytesFrom, if_neg (by simp)]
    rfl
  | cons c t ih =>
    have size : [c].utf8Encode.size = c.utf8Size := by
      rw [List.utf8Encode_singleton, List.size_toByteArray, String.length_utf8EncodeChar]
    have positive := c.utf8Size_pos
    have inside : front.size < (front ++ (c :: t).utf8Encode).size := by
      rw [List.utf8Encode_cons, ByteArray.size_append, ByteArray.size_append, size]
      omega
    have found : (front ++ (c :: t).utf8Encode).utf8DecodeChar? front.size = some c := by
      rw [ByteArray.utf8DecodeChar?_eq_utf8DecodeChar?_extract,
        ByteArray.extract_append_eq_right rfl (ByteArray.size_append)]
      exact List.utf8DecodeChar?_utf8Encode_cons
    have behind := ih (front ++ [c].utf8Encode)
    rw [ByteArray.append_assoc, ← List.utf8Encode_cons, ByteArray.size_append, size] at behind
    rw [Source.ofBytesFrom, if_pos inside, found]
    exact congrArg (some c :: ·) behind

/-- A file that holds a text has the characters of the text. -/
theorem ofBytes_toUTF8 (t : Text) : Source.ofBytes (String.ofList t).toUTF8 = Source.ofText t := by
  have whole := ofBytesFrom_append ByteArray.empty t
  rw [ByteArray.empty_append, ← String.toByteArray_ofList] at whole
  exact whole

end Polyvoice.Json
