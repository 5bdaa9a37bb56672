import Polyvoice.Chunk
import Polyvoice.Proofs.Decimal.Digits

/-!
# Framing of chunk payloads

`Chunk.frame` joins the chunks of a payload and then takes the separator away in front of every
escape character. `Chunk.layout` is what this amounts to: the first chunk stands bare, each further
text has the separator in front of it, and no directive has. The two agree as long as no text holds
an escape character (`Chunk.frame_eq_layout`).
-/

namespace Polyvoice

/-! ## Written directives -/

/-- The characters of keys and values: letters, digits and the minus sign. -/
def isWordCharacter (c : Char) : Bool :=
  c.isAlphanum || c == '-'

theorem isWordCharacter_of_mem_integer {n : Int} {c : Char} (member : c ∈ (toString n).toList) :
    isWordCharacter c = true := by
  rcases Decimal.isDigit_or_eq_minus_of_mem_integer member with digit | rfl
  · simp [isWordCharacter, Char.isAlphanum, digit]
  · rfl

namespace Directive

theorem isWordCharacter_of_mem_key {d : Directive} {c : Char} (member : c ∈ d.key.toList) :
    isWordCharacter c = true := by
  have all : d.key.toList.all isWordCharacter = true := by
    cases d <;> simp [key, isWordCharacter]
  exact List.all_eq_true.1 all c member

theorem isWordCharacter_of_mem_value {d : Directive} {c : Char} (member : c ∈ d.value.toList) :
    isWordCharacter c = true := by
  cases d with
  | mark id =>
    have digit := Decimal.isDigit_of_mem_natural member
    simp [isWordCharacter, Char.isAlphanum, digit]
  | spelling on =>
    have all : (spelling on).value.toList.all isWordCharacter = true := by
      cases on <;> decide
    exact List.all_eq_true.1 all c member
  | rate n => exact isWordCharacter_of_mem_integer member
  | pitch n => exact isWordCharacter_of_mem_integer member
  | volume n => exact isWordCharacter_of_mem_integer member

/-- What follows the escape character of a directive. -/
def body (d : Directive) : Text :=
  '\\' :: (d.key.toList ++ '=' :: (d.value.toList ++ ['\\']))

/-- A directive has one escape character, its first. -/
theorem escape_notMem_body (d : Directive) : escapeCharacter ∉ d.body := by
  intro member
  simp only [body, List.mem_cons, List.mem_append, List.not_mem_nil, or_false] at member
  rcases member with same | key | same | value | same
  · cases same
  · cases isWordCharacter_of_mem_key key
  · cases same
  · cases isWordCharacter_of_mem_value value
  · cases same

end Directive

namespace Chunk

/-! ## The layout of a payload -/

/-- A chunk as it stands behind another one. -/
def continuation : Chunk → Text
  | text t => separator ++ t
  | directive d => d.render

/-- A payload laid out: the first chunk bare, each further text behind a separator. -/
def layout : List Chunk → Text
  | [] => []
  | chunk :: rest => chunk.render ++ rest.flatMap continuation

/-- A layout is empty only where there is nothing to say: no chunk, or one empty text. -/
theorem eq_of_layout_eq_nil {chunks : List Chunk} (silent : layout chunks = []) :
    chunks = [] ∨ chunks = [.text []] := by
  cases chunks with
  | nil => exact Or.inl rfl
  | cons chunk rest =>
    obtain ⟨bare, others⟩ := List.append_eq_nil_iff.1 silent
    have first : chunk = .text [] := by
      cases chunk with
      | text t => exact congrArg text bare
      | directive d => cases bare
    cases rest with
    | nil => exact Or.inr (congrArg (· :: []) first)
    | cons next rest =>
      obtain ⟨second, -⟩ := List.append_eq_nil_iff.1 others
      cases next <;> cases second

/-- What can stand behind a chunk when chunks are joined: nothing, or a separator. -/
def StartsApart (rest : Text) : Prop :=
  rest = [] ∨ ∃ more, rest = separator ++ more

/-- Characters other than the escape character stay as they are in front of the next chunk: their
last spaces do not count as its separator. -/
theorem attachDirectives_append {t rest : Text} (free : escapeCharacter ∉ t)
    (apart : StartsApart rest) : attachDirectives (t ++ rest) = t ++ attachDirectives rest := by
  induction t with
  | nil => rfl
  | cons c t ih =>
    have later : escapeCharacter ∉ t := fun member => free (List.mem_cons_of_mem c member)
    have skip : ∀ more, c :: (t ++ rest) ≠ ' ' :: ' ' :: '\x1b' :: more := by
      intro more same
      obtain ⟨-, same⟩ := List.cons.inj same
      -- the escape character would stand in `t` or at the head of what follows it
      match t, later with
      | [], _ =>
        rcases apart with rfl | ⟨after, rfl⟩
        · cases same
        · cases (List.cons.inj (List.cons.inj same).2).1
      | [d], _ =>
        rcases apart with rfl | ⟨after, rfl⟩
        · cases (List.cons.inj same).2
        · cases (List.cons.inj (List.cons.inj same).2).1
      | d :: e :: t, later =>
        have escape : e = escapeCharacter := (List.cons.inj (List.cons.inj same).2).1
        exact later (escape ▸ List.mem_cons_of_mem d List.mem_cons_self)
    have step : attachDirectives (c :: (t ++ rest)) = c :: attachDirectives (t ++ rest) := by
      rw [attachDirectives]
      exact fun more same tail => skip more (by rw [same, tail])
    rw [List.cons_append, step, ih later, List.cons_append]

theorem attachDirectives_render (d : Directive) {rest : Text} (apart : StartsApart rest) :
    attachDirectives (d.render ++ rest) = d.render ++ attachDirectives rest := by
  calc attachDirectives (d.render ++ rest)
      = escapeCharacter :: attachDirectives (d.body ++ rest) := rfl
    _ = escapeCharacter :: (d.body ++ attachDirectives rest) := by
      rw [attachDirectives_append d.escape_notMem_body apart]

theorem attachDirectives_separator_render (d : Directive) (rest : Text) :
    attachDirectives (separator ++ (d.render ++ rest)) = attachDirectives (d.render ++ rest) :=
  rfl

/-- Chunks behind a first one, joined. -/
def joined (chunks : List Chunk) : Text :=
  chunks.flatMap fun chunk => separator ++ chunk.render

theorem startsApart_joined (chunks : List Chunk) : StartsApart (joined chunks) := by
  cases chunks with
  | nil => exact Or.inl rfl
  | cons chunk rest => exact Or.inr ⟨_, List.append_assoc _ _ _⟩

theorem intercalate_render (chunk : Chunk) (rest : List Chunk) :
    separator.intercalate ((chunk :: rest).map render) = chunk.render ++ joined rest := by
  induction rest generalizing chunk with
  | nil => simp [joined]
  | cons next rest ih =>
    have tail := ih next
    rw [List.map_cons] at tail
    rw [List.map_cons, List.map_cons, List.intercalate_cons_cons, tail]
    simp [joined]

/-- No text among the chunks has an escape character, which would start a directive. -/
def EscapeFree (chunks : List Chunk) : Prop :=
  ∀ t, .text t ∈ chunks → escapeCharacter ∉ t

theorem EscapeFree.head {chunk : Chunk} {rest : List Chunk} (free : EscapeFree (chunk :: rest)) :
    EscapeFree [chunk] :=
  fun t member => free t (List.mem_singleton.1 member ▸ List.mem_cons_self)

theorem EscapeFree.tail {chunk : Chunk} {rest : List Chunk} (free : EscapeFree (chunk :: rest)) :
    EscapeFree rest :=
  fun t member => free t (List.mem_cons_of_mem chunk member)

theorem EscapeFree.notMem_separator_append {chunks : List Chunk} {t : Text}
    (free : EscapeFree chunks) (member : .text t ∈ chunks) :
    escapeCharacter ∉ separator ++ t := by
  intro escape
  rcases List.mem_append.1 escape with space | inside
  · exact absurd space (by decide)
  · exact free t member inside

/-- Taking the separators away does not reach into a chunk. -/
theorem attachDirectives_render_append {chunk : Chunk} {rest : Text}
    (free : EscapeFree [chunk]) (apart : StartsApart rest) :
    attachDirectives (chunk.render ++ rest) = chunk.render ++ attachDirectives rest := by
  cases chunk with
  | text t => exact attachDirectives_append (free t List.mem_cons_self) apart
  | directive d => exact attachDirectives_render d apart

/-- The separator stays in front of a text and goes in front of a directive. -/
theorem attachDirectives_separator_append {chunk : Chunk} {rest : Text}
    (free : EscapeFree [chunk]) (apart : StartsApart rest) :
    attachDirectives (separator ++ (chunk.render ++ rest)) =
      chunk.continuation ++ attachDirectives rest := by
  cases chunk with
  | text t =>
    have step := attachDirectives_append (free.notMem_separator_append List.mem_cons_self) apart
    rw [List.append_assoc] at step
    exact step
  | directive d =>
    rw [render, attachDirectives_separator_render, attachDirectives_render d apart, continuation]

/-- Behind the first chunk, what is joined becomes what is laid out. -/
theorem attachDirectives_joined {chunks : List Chunk} (free : EscapeFree chunks) :
    attachDirectives (joined chunks) = chunks.flatMap continuation := by
  induction chunks with
  | nil => rfl
  | cons chunk rest ih =>
    calc attachDirectives (joined (chunk :: rest))
        = attachDirectives (separator ++ (chunk.render ++ joined rest)) := by simp [joined]
      _ = chunk.continuation ++ attachDirectives (joined rest) :=
        attachDirectives_separator_append free.head (startsApart_joined rest)
      _ = (chunk :: rest).flatMap continuation := by rw [ih free.tail, List.flatMap_cons]

/-- To join the chunks and to take separators away is to lay the chunks out. -/
theorem frame_eq_layout {chunks : List Chunk} (free : EscapeFree chunks) :
    frame chunks = layout chunks := by
  cases chunks with
  | nil => rfl
  | cons chunk rest =>
    rw [frame, intercalate_render,
      attachDirectives_render_append free.head (startsApart_joined rest),
      attachDirectives_joined free.tail, layout]

end Chunk

end Polyvoice
