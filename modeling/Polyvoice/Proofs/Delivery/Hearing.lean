import Polyvoice.Call
import Polyvoice.Proofs.Chunk.Reader
import Polyvoice.Proofs.Markup.Reader

/-!
# What voices make of calls

A voice reads each call in its protocol and comes to atoms: characters to say, bookmarks and
silences (`Op.atoms?`). The calls of a delivery are read in order, and each atom is noted with its
voice (`readBack?`). Protocols put spaces between texts and between spelled characters, so atoms are
compared with the spaces left out (`audible`).
-/

namespace Polyvoice

/-- What a voice says or notes. -/
inductive Atom where
  | character (c : Char)
  | bookmark (id : UInt32)
  | silence (ms : UInt32)
deriving DecidableEq, Repr

/-- Whether an atom is anything but a space. -/
def Atom.isAudible (atom : Atom) : Bool :=
  atom != .character ' '

/-- The atoms that are not spaces. -/
def audible (atoms : List Atom) : List Atom :=
  atoms.filter Atom.isAudible

@[simp] theorem audible_append (atoms more : List Atom) :
    audible (atoms ++ more) = audible atoms ++ audible more :=
  List.filter_append atoms more

/-! ## Chunks -/

namespace Chunk

/-- What a chunk voice makes of a token: a `mrk` directive is a bookmark, and other directives say
nothing. -/
def Token.atoms : Token → List Atom
  | character c => [.character c]
  | directive key value =>
    if key = "mrk".toList then ((Decimal.readWord? value).map Atom.bookmark).toList else []

/-- What a chunk calls for. -/
def atoms : Chunk → List Atom
  | text t => t.map .character
  | directive (.mark id) => [.bookmark id]
  | directive _ => []

theorem flatMap_characters (t : Text) :
    (t.map Token.character).flatMap Token.atoms = t.map .character := by
  induction t with
  | nil => rfl
  | cons c t ih => exact congrArg (Atom.character c :: ·) ih

theorem atoms_directive (d : Directive) :
    (Token.directive d.key.toList d.value.toList).atoms = (directive d).atoms := by
  cases d with
  | mark id =>
    have read : Decimal.readWord? (Directive.mark id).value.toList = some id :=
      Decimal.readWord?_toString id
    have key : (Directive.mark id).key.toList = "mrk".toList := rfl
    rw [Token.atoms, if_pos key, read]
    rfl
  | _ => simp [Token.atoms, Directive.key, atoms]

theorem flatMap_tokens (chunk : Chunk) : chunk.tokens.flatMap Token.atoms = chunk.atoms := by
  cases chunk with
  | text t => exact flatMap_characters t
  | directive d => exact (List.flatMap_singleton _ _).trans (atoms_directive d)

/-- Separators are not heard. -/
theorem audible_laterTokens (chunk : Chunk) :
    audible (chunk.laterTokens.flatMap Token.atoms) = audible chunk.atoms := by
  cases chunk with
  | text t =>
    rw [laterTokens, List.flatMap_append, flatMap_characters, flatMap_characters]
    exact audible_append (separator.map .character) (t.map .character)
  | directive d => exact congrArg audible (flatMap_tokens (.directive d))

theorem audible_flatMap_laterTokens (chunks : List Chunk) :
    audible ((chunks.flatMap laterTokens).flatMap Token.atoms) =
      audible (chunks.flatMap atoms) := by
  induction chunks with
  | nil => rfl
  | cons chunk rest ih =>
    rw [List.flatMap_cons, List.flatMap_append, audible_append, audible_laterTokens, ih,
      List.flatMap_cons, audible_append]

/-- A payload is heard as what its chunks call for. -/
theorem audible_layoutTokens (chunks : List Chunk) :
    audible ((layoutTokens chunks).flatMap Token.atoms) = audible (chunks.flatMap atoms) := by
  cases chunks with
  | nil => rfl
  | cons chunk rest =>
    rw [layoutTokens, List.flatMap_append, audible_append, flatMap_tokens,
      audible_flatMap_laterTokens, List.flatMap_cons, audible_append]

end Chunk

/-! ## Markup -/

namespace Markup

/-- The number of a bookmark, read from its tag. -/
def bookmark? (body : Text) : Option UInt32 :=
  let lead := "Bookmark Mark=\"".toList
  if lead.isPrefixOf body then
    Decimal.readWord? ((body.drop lead.length).takeWhile (· != '"'))
  else none

/-- What a markup voice makes of a token: the tags of bookmarks are bookmarks, and other tags say
nothing. -/
def Token.atoms : Token → List Atom
  | character c => [.character c]
  | tag body => ((bookmark? body).map Atom.bookmark).toList

/-- What a piece calls for. -/
def Piece.atoms : Piece → List Atom
  | tag _ => []
  | text t => t.map .character
  | bookmark id => [.bookmark id]
  | pronunciation _ words => words.map .character

theorem flatMap_characters (t : Text) :
    (t.map Token.character).flatMap Token.atoms = t.map .character := by
  induction t with
  | nil => rfl
  | cons c t ih => exact congrArg (Atom.character c :: ·) ih

theorem bookmark?_body (t : Tag) : bookmark? t.body = none := by
  cases t with
  | opening element attributes => cases element <;> rfl
  | closing element => cases element <;> rfl

theorem bookmark?_bookmark (id : UInt32) :
    bookmark? ("Bookmark Mark=".toList ++ '"' :: ((toString id.toNat).toList ++ '"' :: [' ', '/'])) =
      some id := by
  let lead := "Bookmark Mark=\"".toList
  let digits := (toString id.toNat).toList
  have noQuote : ∀ c ∈ digits, (c != '"') = true := by
    intro c member
    refine bne_iff_ne.2 fun same => ?_
    rw [same] at member
    exact quote_notMem_integer id.toNat member
  have split : "Bookmark Mark=".toList ++ '"' :: (digits ++ '"' :: [' ', '/']) =
      lead ++ (digits ++ '"' :: [' ', '/']) := rfl
  have starts : lead.isPrefixOf (lead ++ (digits ++ '"' :: [' ', '/'])) = true :=
    List.isPrefixOf_iff_prefix.2 (List.prefix_append _ _)
  have number : (digits ++ '"' :: [' ', '/']).takeWhile (· != '"') = digits := by
    rw [List.takeWhile_append_of_pos noQuote, List.takeWhile_cons_of_neg (by decide),
      List.append_nil]
  calc bookmark? ("Bookmark Mark=".toList ++ '"' :: (digits ++ '"' :: [' ', '/']))
      = bookmark? (lead ++ (digits ++ '"' :: [' ', '/'])) := by rw [split]
    _ = Decimal.readWord? digits := by
      rw [bookmark?, if_pos starts, List.drop_left, number]
    _ = some id := Decimal.readWord?_toString id

/-- A piece is heard as what it calls for. -/
theorem atoms_tokens (piece : Piece) : piece.tokens.flatMap Token.atoms = piece.atoms := by
  cases piece with
  | tag t => simp [Piece.tokens, Token.atoms, bookmark?_body, Piece.atoms]
  | text t => exact flatMap_characters t
  | bookmark id =>
    rw [Piece.tokens, List.flatMap_singleton, Token.atoms, bookmark?_bookmark]
    rfl
  | pronunciation phones words =>
    have opening : bookmark? ("pron sym=".toList ++ '"' :: (escapeAttribute phones ++ ['"'])) =
        none := rfl
    have closing : bookmark? "/pron".toList = none := rfl
    rw [Piece.tokens, List.flatMap_cons, List.flatMap_append, flatMap_characters,
      List.flatMap_singleton, Token.atoms, Token.atoms, opening, closing]
    exact List.append_nil _

end Markup

/-! ## Calls -/

/-- What a voice makes of an operation, read in its protocol. A payload that is not of the protocol
cannot be read. -/
def Op.atoms? (engine : Engine) : Op → Option (List Atom)
  | silence ms => some [.silence ms]
  | bookmark id => some [.bookmark id]
  | speak payload =>
    match engine with
    | .plain => some (payload.map .character)
    | .chunk => (Chunk.scan? payload).map (List.flatMap Chunk.Token.atoms)
    | .markup => (Markup.scan? payload).map (List.flatMap Markup.Token.atoms)

/-- To an empty payload, any voice has nothing to say. -/
theorem Op.atoms?_speak_nil (engine : Engine) : (speak []).atoms? engine = some [] := by
  cases engine <;> rfl

namespace Delivery

variable {H : Type} {roster : Roster H}

/-- Atoms, noted with their voice. -/
def heardBy (h : H) (atoms : List Atom) : List (H × Atom) :=
  atoms.map (h, ·)

/-- What the voices make of calls, one after the other. -/
def readBack? (roster : Roster H) : List (Call H) → Option (List (H × Atom))
  | [] => some []
  | call :: rest =>
    match call.op.atoms? (roster.engine call.voice), readBack? roster rest with
    | some atoms, some later => some (heardBy call.voice atoms ++ later)
    | _, _ => none

/-- What was noted of atoms that are not spaces. -/
def audibly (heard : List (H × Atom)) : List (H × Atom) :=
  heard.filter fun entry => entry.2.isAudible

@[simp] theorem audibly_append (heard more : List (H × Atom)) :
    audibly (heard ++ more) = audibly heard ++ audibly more :=
  List.filter_append heard more

theorem audibly_heardBy (h : H) (atoms : List Atom) :
    audibly (heardBy h atoms) = heardBy h (audible atoms) :=
  List.filter_map

/-- Calls can be read, and their atoms are the expected ones, spaces left aside. -/
def Heard (roster : Roster H) (calls : List (Call H)) (expected : List (H × Atom)) : Prop :=
  ∃ heard, readBack? roster calls = some heard ∧ audibly heard = audibly expected

namespace Heard

variable {calls more : List (Call H)} {expected later : List (H × Atom)}

theorem nil : Heard roster [] [] :=
  ⟨[], rfl, rfl⟩

theorem single {h : H} {op : Op} {atoms wanted : List Atom}
    (reads : op.atoms? (roster.engine h) = some atoms) (same : audible atoms = audible wanted) :
    Heard roster [⟨h, op⟩] (heardBy h wanted) := by
  refine ⟨heardBy h atoms, ?_, ?_⟩
  · simp [readBack?, reads]
  · rw [audibly_heardBy, audibly_heardBy, same]

/-- Spaces may be left out of what is expected, or put in. -/
theorem congr (heard : Heard roster calls expected) (same : audibly expected = audibly later) :
    Heard roster calls later := by
  obtain ⟨found, reads, audible⟩ := heard
  exact ⟨found, reads, audible.trans same⟩

theorem append (first : Heard roster calls expected) (second : Heard roster more later) :
    Heard roster (calls ++ more) (expected ++ later) := by
  obtain ⟨after, readsAfter, audibleAfter⟩ := second
  obtain ⟨before, readsBefore, audibleBefore⟩ := first
  suffices reads : readBack? roster (calls ++ more) = some (before ++ after) by
    refine ⟨before ++ after, reads, ?_⟩
    rw [audibly_append, audibly_append, audibleBefore, audibleAfter]
  clear audibleBefore
  induction calls generalizing before with
  | nil =>
    cases readsBefore
    exact readsAfter
  | cons call rest ih =>
    rw [readBack?] at readsBefore
    split at readsBefore
    · rename_i atoms tail atomsRead tailRead
      cases readsBefore
      rw [List.cons_append, readBack?, atomsRead, ih tail tailRead]
      exact congrArg some (List.append_assoc _ _ _).symm
    · cases readsBefore

end Heard

end Delivery

end Polyvoice
