import Polyvoice.Proofs.Chunk.Framing

/-!
# Reading chunk payloads

What a chunk voice does with a payload: it takes characters as they come, up to an escape
character; behind it a directive must stand, with a key and a value between backslashes
(`Chunk.scan?`). The key must be one that the protocol knows, and the value one of the key: a number
of a bookmark, a word for spelling, an integer for the rest (`Directive.read?`).

Reading a payload that was laid out gives back its directives, in order and with their values, and
the characters between them (`Chunk.parse?_layout`), so a payload can be taken for no other one,
whatever characters its texts hold.
-/

namespace Polyvoice

/-! ## Reading directives -/

namespace Directive

/-- Reads a directive. A bookmark has a number of 32 bits, spelling one of two words, and rate,
pitch and volume have integers; other directives are not known. -/
def read? (key value : Text) : Option Directive :=
  if key = "mrk".toList then (Decimal.readWord? value).map mark
  else if key = "tn".toList then
    if value = "spell".toList then some (spelling true)
    else if value = "normal".toList then some (spelling false)
    else none
  else if key = "rate".toList then (Decimal.readInteger? value).map rate
  else if key = "pitch".toList then (Decimal.readInteger? value).map pitch
  else if key = "vol".toList then (Decimal.readInteger? value).map volume
  else none

/-- A directive is read back from how its key and its value are written. -/
theorem read?_key_value (d : Directive) : read? d.key.toList d.value.toList = some d := by
  have integer (n : Int) : Decimal.readInteger? n.repr.toList = some n :=
    Decimal.readInteger?_toString n
  cases d with
  | mark id =>
    have word : Decimal.readWord? (mark id).value.toList = some id :=
      Decimal.readWord?_toString id
    simp [read?, key, word]
  | spelling on => cases on <;> simp [read?, key, value]
  | rate n => simp [read?, key, value, integer]
  | pitch n => simp [read?, key, value, integer]
  | volume n => simp [read?, key, value, integer]

end Directive

namespace Chunk

/-- What is read in a payload. -/
inductive Token where
  | character (c : Char)
  | directive (key value : Text)
deriving DecidableEq, Repr

/-- Where a reader stands: between directives, behind an escape character, or in a directive of
which a part was read. -/
inductive Place where
  | text
  | escaped
  | key (read : Text)
  | value (key read : Text)
deriving DecidableEq, Repr

/-- Reads on from a place. A directive that is not complete, or not of the right form, cannot be
read. -/
def scanFrom : Place → Text → Option (List Token)
  | .text, [] => some []
  | .text, c :: rest =>
    if c = escapeCharacter then scanFrom .escaped rest
    else (scanFrom .text rest).map (.character c :: ·)
  | .escaped, c :: rest => if c = '\\' then scanFrom (.key []) rest else none
  | .key read, c :: rest =>
    if c = '=' then scanFrom (.value read []) rest
    else if c = '\\' then none
    else scanFrom (.key (read ++ [c])) rest
  | .value key read, c :: rest =>
    if c = '\\' then (scanFrom .text rest).map (.directive key read :: ·)
    else scanFrom (.value key (read ++ [c])) rest
  | .escaped, [] => none
  | .key _, [] => none
  | .value _ _, [] => none

/-- Reads a payload. -/
def scan? (payload : Text) : Option (List Token) :=
  scanFrom .text payload

/-! ## Reading chunk by chunk -/

/-- Characters in front of a payload are read as they are. -/
theorem scan?_append {t : Text} (free : escapeCharacter ∉ t) (rest : Text) :
    scan? (t ++ rest) = (scan? rest).map (t.map .character ++ ·) := by
  induction t with
  | nil => cases read : scan? rest <;> simp [read]
  | cons c t ih =>
    have plain : c ≠ escapeCharacter := fun same => free (same ▸ List.mem_cons_self)
    have later := ih fun member => free (List.mem_cons_of_mem c member)
    have step : scan? (c :: (t ++ rest)) = (scan? (t ++ rest)).map (.character c :: ·) :=
      if_neg plain
    rw [List.cons_append, step, later, Option.map_map]
    rfl

theorem scanFrom_key {u : Text} (sign : '=' ∉ u) (slash : '\\' ∉ u) (read rest : Text) :
    scanFrom (.key read) (u ++ '=' :: rest) = scanFrom (.value (read ++ u) []) rest := by
  induction u generalizing read with
  | nil => rw [List.nil_append, scanFrom, if_pos rfl, List.append_nil]
  | cons c u ih =>
    have noSign : c ≠ '=' := fun same => sign (same ▸ List.mem_cons_self)
    have noSlash : c ≠ '\\' := fun same => slash (same ▸ List.mem_cons_self)
    rw [List.cons_append, scanFrom, if_neg noSign, if_neg noSlash,
      ih (fun member => sign (List.mem_cons_of_mem c member))
        (fun member => slash (List.mem_cons_of_mem c member)),
      List.append_assoc, List.singleton_append]

theorem scanFrom_value {u : Text} (slash : '\\' ∉ u) (key read rest : Text) :
    scanFrom (.value key read) (u ++ '\\' :: rest) =
      (scan? rest).map (.directive key (read ++ u) :: ·) := by
  induction u generalizing read with
  | nil => rw [List.nil_append, scanFrom, if_pos rfl, List.append_nil]; rfl
  | cons c u ih =>
    have noSlash : c ≠ '\\' := fun same => slash (same ▸ List.mem_cons_self)
    rw [List.cons_append, scanFrom, if_neg noSlash,
      ih fun member => slash (List.mem_cons_of_mem c member), List.append_assoc,
      List.singleton_append]

/-- A directive in front of a payload is read as what it was written from. -/
theorem scan?_render_append (d : Directive) (rest : Text) :
    scan? (d.render ++ rest) =
      (scan? rest).map (.directive d.key.toList d.value.toList :: ·) := by
  have sign : '=' ∉ d.key.toList := fun member => by
    cases Directive.isWordCharacter_of_mem_key member
  have slash : '\\' ∉ d.key.toList := fun member => by
    cases Directive.isWordCharacter_of_mem_key member
  have last : '\\' ∉ d.value.toList := fun member => by
    cases Directive.isWordCharacter_of_mem_value member
  calc scan? (d.render ++ rest)
      = scanFrom (.key []) (d.key.toList ++ '=' :: (d.value.toList ++ ['\\']) ++ rest) := rfl
    _ = scanFrom (.key []) (d.key.toList ++ '=' :: (d.value.toList ++ '\\' :: rest)) := by simp
    _ = (scan? rest).map (.directive d.key.toList d.value.toList :: ·) := by
      rw [scanFrom_key sign slash, scanFrom_value last, List.nil_append, List.nil_append]

/-! ## Reading a layout -/

/-- What is read of a chunk. -/
def tokens : Chunk → List Token
  | text t => t.map .character
  | directive d => [.directive d.key.toList d.value.toList]

/-- What is read of a chunk behind another one: the separator belongs to a text. -/
def laterTokens : Chunk → List Token
  | text t => separator.map .character ++ t.map .character
  | directive d => [.directive d.key.toList d.value.toList]

/-- What is read of a payload. -/
def layoutTokens : List Chunk → List Token
  | [] => []
  | chunk :: rest => chunk.tokens ++ rest.flatMap laterTokens

/-- A chunk in front of a payload is read as what it is. -/
theorem scan?_chunk_append {chunk : Chunk} (free : EscapeFree [chunk]) (rest : Text) :
    scan? (chunk.render ++ rest) = (scan? rest).map (chunk.tokens ++ ·) := by
  cases chunk with
  | text t => exact scan?_append (free t List.mem_cons_self) rest
  | directive d => exact scan?_render_append d rest

theorem scan?_continuation_append {chunk : Chunk} (free : EscapeFree [chunk]) (rest : Text) :
    scan? (chunk.continuation ++ rest) = (scan? rest).map (chunk.laterTokens ++ ·) := by
  cases chunk with
  | text t =>
    rw [continuation, scan?_append (free.notMem_separator_append List.mem_cons_self),
      List.map_append, laterTokens]
  | directive d => exact scan?_render_append d rest

theorem scan?_continuations {chunks : List Chunk} (free : EscapeFree chunks) :
    scan? (chunks.flatMap continuation) = some (chunks.flatMap laterTokens) := by
  induction chunks with
  | nil => rfl
  | cons chunk rest ih =>
    rw [List.flatMap_cons, scan?_continuation_append free.head, ih free.tail, Option.map_some,
      List.flatMap_cons]

/-- A payload is read as the chunks that it was laid out from. -/
theorem scan?_layout {chunks : List Chunk} (free : EscapeFree chunks) :
    scan? (layout chunks) = some (layoutTokens chunks) := by
  cases chunks with
  | nil => rfl
  | cons chunk rest =>
    rw [layout, scan?_chunk_append free.head, scan?_continuations free.tail, Option.map_some,
      layoutTokens]

/-! ## What a payload says -/

/-- What a payload says: characters to speak, and directives to follow. -/
inductive Item where
  | character (c : Char)
  | directive (d : Directive)
deriving DecidableEq, Repr

/-- What a token says, if it is not a directive that cannot be read. -/
def Token.item? : Token → Option Item
  | character c => some (.character c)
  | directive key value => (Directive.read? key value).map .directive

/-- Parses a payload: it must be read to its end, and each directive must be a known one. -/
def parse? (payload : Text) : Option (List Item) :=
  (scan? payload).bind (List.mapM Token.item?)

/-- How an item is written. -/
def Item.token : Item → Token
  | character c => .character c
  | directive d => .directive d.key.toList d.value.toList

theorem item?_token (item : Item) : item.token.item? = some item := by
  cases item with
  | character c => rfl
  | directive d => rw [Item.token, Token.item?, Directive.read?_key_value, Option.map_some]

theorem mapM_item?_map_token (items : List Item) :
    (items.map Item.token).mapM Token.item? = some items := by
  induction items with
  | nil => rfl
  | cons item rest ih => simp [item?_token, ih]

/-- What a chunk says. -/
def items : Chunk → List Item
  | text t => t.map .character
  | directive d => [.directive d]

/-- What a chunk says behind another one: two spaces are in front of a text. -/
def laterItems : Chunk → List Item
  | text t => .character ' ' :: .character ' ' :: t.map .character
  | directive d => [.directive d]

/-- What a payload of chunks says. -/
def layoutItems : List Chunk → List Item
  | [] => []
  | chunk :: rest => chunk.items ++ rest.flatMap laterItems

theorem map_token_characters (t : Text) :
    (t.map Item.character).map Item.token = t.map Token.character := by
  rw [List.map_map]
  rfl

theorem map_token_items (chunk : Chunk) : chunk.items.map Item.token = chunk.tokens := by
  cases chunk with
  | text t => exact map_token_characters t
  | directive d => rfl

theorem map_token_laterItems (chunk : Chunk) :
    chunk.laterItems.map Item.token = chunk.laterTokens := by
  cases chunk with
  | text t =>
    rw [laterItems, List.map_cons, List.map_cons, map_token_characters]
    rfl
  | directive d => rfl

theorem map_token_layoutItems (chunks : List Chunk) :
    (layoutItems chunks).map Item.token = layoutTokens chunks := by
  cases chunks with
  | nil => rfl
  | cons chunk rest =>
    rw [layoutItems, List.map_append, map_token_items, List.map_flatMap, layoutTokens]
    simp only [map_token_laterItems]

/-- A payload is parsed as what its chunks say. -/
theorem parse?_layout {chunks : List Chunk} (free : EscapeFree chunks) :
    parse? (layout chunks) = some (layoutItems chunks) := by
  rw [parse?, scan?_layout free, Option.bind_some, ← map_token_layoutItems, mapM_item?_map_token]

-- A value that is none of its key is not skipped: nothing of the payload is parsed.
example :
    parse? "\x1b\\mrk=7\\a\x1b\\rate=-5\\".toList =
        some [.directive (.mark 7), .character 'a', .directive (.rate (-5))] ∧
      parse? "\x1b\\mrk=-7\\a".toList = none := by
  decide +kernel

/-! ## The directives of a payload -/

/-- The directive of a chunk, if it is one. -/
def called? : Chunk → Option Directive
  | text _ => none
  | directive d => some d

/-- The directive that was parsed, if it is one. -/
def Item.directive? : Item → Option Directive
  | character _ => none
  | directive d => some d

theorem filterMap_characters (t : Text) :
    (t.map Item.character).filterMap Item.directive? = [] := by
  rw [List.filterMap_map, List.filterMap_eq_nil_iff]
  exact fun _ _ => rfl

theorem filterMap_items (chunk : Chunk) :
    chunk.items.filterMap Item.directive? = chunk.called?.toList := by
  cases chunk with
  | text t => exact filterMap_characters t
  | directive d => rfl

theorem filterMap_laterItems (chunk : Chunk) :
    chunk.laterItems.filterMap Item.directive? = chunk.called?.toList := by
  cases chunk with
  | text t => exact filterMap_characters t
  | directive d => rfl

/-- The directives that are parsed are those that were laid out, in their order. -/
theorem filterMap_layoutItems (chunks : List Chunk) :
    (layoutItems chunks).filterMap Item.directive? = chunks.filterMap called? := by
  cases chunks with
  | nil => rfl
  | cons chunk rest =>
    have later : (rest.flatMap laterItems).filterMap Item.directive? = rest.filterMap called? := by
      induction rest with
      | nil => rfl
      | cons next rest ih =>
        rw [List.flatMap_cons, List.filterMap_append, filterMap_laterItems, ih]
        cases next <;> rfl
    rw [layoutItems, List.filterMap_append, filterMap_items, later]
    cases chunk <;> rfl

/-- The directive of a chunk, if it is one, as it is written. -/
def directive? : Chunk → Option (Text × Text)
  | text _ => none
  | directive d => some (d.key.toList, d.value.toList)

/-- The directive that was read, if it is one. -/
def Token.directive? : Token → Option (Text × Text)
  | character _ => none
  | directive key value => some (key, value)

/-- The directives that are read, as they are written, are those that were laid out. -/
theorem filterMap_layoutTokens (chunks : List Chunk) :
    (layoutTokens chunks).filterMap Token.directive? = chunks.filterMap directive? := by
  let written (d : Directive) : Text × Text := (d.key.toList, d.value.toList)
  have read : Token.directive? ∘ Item.token = fun item => item.directive?.map written := by
    funext item
    cases item <;> rfl
  have called : directive? = fun chunk => chunk.called?.map written := by
    funext chunk
    cases chunk <;> rfl
  calc (layoutTokens chunks).filterMap Token.directive?
      = (layoutItems chunks).filterMap fun item => item.directive?.map written := by
        rw [← map_token_layoutItems, List.filterMap_map, read]
    _ = ((layoutItems chunks).filterMap Item.directive?).map written := List.map_filterMap.symm
    _ = (chunks.filterMap called?).map written := by rw [filterMap_layoutItems]
    _ = chunks.filterMap directive? := by rw [List.map_filterMap, called]

end Chunk

end Polyvoice
