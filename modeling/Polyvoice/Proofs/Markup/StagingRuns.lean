import Mathlib.Data.List.DropRight
import Mathlib.Data.List.Nodup
import Polyvoice.Proofs.Markup.OpenTags

/-!
# Runs of a staging

A staging is asked to plan, stage and drop elements, to open the staged ones and to close all of
them, in any order (`Staging.Operation`). Whatever was asked of a fresh one (`Staging.orderly`):

* the tags that it has written are nested, and leave those elements open that it says are open
  (`Staging.unclosed?_written`), which a reader of the written text finds too, with their attributes
  (`openEntries?_render`);
* what is staged can be read off the operations: each element has the attributes that it was given
  last, and the elements stand in the order in which they were staged first, both counted since the
  element was last dropped (`Staging.Recalls`);
* behind an emission, the staged elements are open with their attributes, and they stay so until
  something is asked for or planned (`Staging.settled`).
-/

namespace Polyvoice.Markup.Staging

/-! ## Operations -/

/-- What may be asked of a staging. -/
inductive Operation where
  | plan (element : Element) (attributes : Attributes)
  | stage (element : Element) (attributes : Attributes)
  | drop (element : Element)
  /-- Open what is staged, if something changed. -/
  | emit
  /-- Close what is open. -/
  | close
deriving DecidableEq, Repr

/-- The staging behind an operation. -/
def next (staging : Staging) : Operation → Staging
  | .plan element attributes => staging.plan element attributes
  | .stage element attributes => staging.stage element attributes
  | .drop element => staging.drop element
  | .emit => staging.emitted
  | .close => staging.closed

@[simp]
theorem staged_next_emit (staging : Staging) : (staging.next .emit).staged = staging.staged := by
  rw [next, emitted]
  split
  · rfl
  · rfl

theorem next_emit_of_clean {staging : Staging} (clean : staging.dirty = false) :
    staging.next .emit = staging :=
  if_neg (by simp [clean])

/-- The tags that an operation writes. -/
def writes (staging : Staging) : Operation → List Tag
  | .emit => staging.emission
  | .close => staging.closings
  | _ => []

theorem writes_emit_of_clean {staging : Staging} (clean : staging.dirty = false) :
    staging.writes .emit = [] :=
  if_neg (by simp [clean])

/-- A fresh staging behind some operations. -/
def after (operations : List Operation) : Staging :=
  operations.foldl next fresh

/-- The tags that some operations write, one after the other. -/
def writtenFrom (staging : Staging) : List Operation → List Tag
  | [] => []
  | operation :: rest => staging.writes operation ++ (staging.next operation).writtenFrom rest

/-- The tags that a fresh staging has written behind some operations. -/
def written (operations : List Operation) : List Tag :=
  fresh.writtenFrom operations

/-- The elements that are left open behind some operations, with their attributes, innermost
first. -/
def leftOpen (operations : List Operation) : Entries :=
  entriesBehind [] ((written operations).map .tag)

theorem after_concat (operations : List Operation) (operation : Operation) :
    after (operations ++ [operation]) = (after operations).next operation :=
  List.foldl_concat next fresh operation operations

theorem writtenFrom_append (staging : Staging) (operations more : List Operation) :
    staging.writtenFrom (operations ++ more) =
      staging.writtenFrom operations ++ (operations.foldl next staging).writtenFrom more := by
  induction operations generalizing staging with
  | nil => rfl
  | cons operation rest ih =>
    rw [List.cons_append, writtenFrom, writtenFrom, ih, List.append_assoc]
    rfl

theorem written_concat (operations : List Operation) (operation : Operation) :
    written (operations ++ [operation]) =
      written operations ++ (after operations).writes operation := by
  rw [written, writtenFrom_append, writtenFrom, writtenFrom, List.append_nil]
  rfl

/-! ## Tags that are written -/

/-- What a staging says is open is what the tags leave open that it has written. -/
theorem unclosed?_writes {staging : Staging} (distinct : staging.Distinct)
    (operation : Operation) :
    unclosed? staging.opened.reverse ((staging.writes operation).map .tag) =
      some (staging.next operation).opened.reverse := by
  cases operation with
  | emit => exact unclosed?_emission distinct
  | close => exact unclosed?_closings staging
  | _ => rfl

theorem Distinct.next {staging : Staging} (distinct : staging.Distinct) (operation : Operation) :
    (staging.next operation).Distinct := by
  cases operation with
  | plan element attributes => exact distinct.plan element attributes
  | stage element attributes => exact distinct.plan element attributes
  | drop element => exact distinct.drop element
  | emit =>
    rw [Distinct, staged_next_emit]
    exact distinct
  | close => exact distinct

theorem distinct_after (operations : List Operation) : (after operations).Distinct := by
  induction operations using List.reverseRecOn with
  | nil => exact distinct_fresh
  | append_singleton operations operation ih =>
    rw [after_concat]
    exact ih.next operation

/-- The tags that were written are nested, and leave those elements open that the staging says. -/
theorem unclosed?_written (operations : List Operation) :
    unclosed? [] ((written operations).map .tag) = some (after operations).opened.reverse := by
  induction operations using List.reverseRecOn with
  | nil => rfl
  | append_singleton operations operation ih =>
    rw [written_concat, List.map_append, unclosed?_append, ih, Option.bind_some,
      unclosed?_writes (distinct_after operations), after_concat]

/-! ## Tags that are read -/

theorem mem_of_tag_mem {t : Tag} {tags : List Tag} (member : .tag t ∈ tags.map Piece.tag) :
    t ∈ tags := by
  simpa using member

theorem scan?_tags {tags : List Tag} (readable : ∀ t ∈ tags, t.Readable) :
    scan? (render (tags.map .tag)) = some (tags.map fun t => .tag t.body) := by
  have tokens : (tags.map Piece.tag).flatMap Piece.tokens = tags.map fun t => .tag t.body := by
    rw [List.flatMap_map, List.map_eq_flatMap]
    rfl
  rw [scan?_render_of_readable fun t member => readable t (mem_of_tag_mem member), tokens]

theorem tagsBehind_tags (tags : List Tag) (entries : Entries) :
    tagsBehind (bodies entries) (tags.map fun t => .tag t.body) =
      bodies (entriesBehind entries (tags.map .tag)) := by
  induction tags generalizing entries with
  | nil => rfl
  | cons t rest ih =>
    calc tagsBehind (bodies entries) ((t :: rest).map fun t => .tag t.body)
        = tagsBehind (behindTag t.body (bodies entries)) (rest.map fun t => .tag t.body) := rfl
      _ = bodies (entriesBehind (t.behind entries) (rest.map .tag)) := by
        rw [behindTag_body, ih]

/-! ## What is left open -/

theorem leftOpen_concat (operations : List Operation) (operation : Operation) :
    leftOpen (operations ++ [operation]) =
      entriesBehind (leftOpen operations) (((after operations).writes operation).map .tag) := by
  rw [leftOpen, written_concat, List.map_append, entriesBehind_append, leftOpen]

/-- What was open before is closed, and what is staged is opened. -/
theorem leftOpen_emit_of_dirty {operations : List Operation}
    (dirty : (after operations).dirty = true) :
    leftOpen (operations ++ [.emit]) = (after operations).staged.reverse := by
  rw [leftOpen, written_concat, List.map_append]
  exact entriesBehind_emission (unclosed?_written operations) dirty

theorem leftOpen_emit_of_clean {operations : List Operation}
    (clean : (after operations).dirty = false) :
    leftOpen (operations ++ [.emit]) = leftOpen operations := by
  rw [leftOpen_concat, writes_emit_of_clean clean]
  rfl

/-- Whether an operation stages an element without asking for it. -/
def Operation.isPlan : Operation → Bool
  | plan _ _ => true
  | _ => false

/-- Behind an emission that wrote something, as long as nothing is planned: something else was asked
for, or what is staged is open. -/
theorem settled {before later : List Operation} (dirty : (after before).dirty = true)
    (unplanned : ∀ operation ∈ later, operation.isPlan = false) :
    (after (before ++ .emit :: later)).dirty = true ∨
      leftOpen (before ++ .emit :: later) = (after (before ++ .emit :: later)).staged.reverse := by
  induction later using List.reverseRecOn with
  | nil =>
    rw [after_concat, staged_next_emit]
    exact Or.inr (leftOpen_emit_of_dirty dirty)
  | append_singleton later operation ih =>
    have earlier := ih fun other member => unplanned other (List.mem_append_left _ member)
    have here := unplanned operation List.mem_concat_self
    rw [← List.cons_append, ← List.append_assoc]
    generalize before ++ .emit :: later = operations at earlier
    rw [after_concat]
    cases operation with
    | plan element attributes => cases here
    | stage element attributes => exact Or.inl rfl
    | drop element => exact Or.inl rfl
    | close => exact Or.inl rfl
    | emit =>
      cases asked : (after operations).dirty with
      | true =>
        rw [staged_next_emit]
        exact Or.inr (leftOpen_emit_of_dirty asked)
      | false =>
        rw [leftOpen_emit_of_clean asked, next_emit_of_clean asked]
        exact earlier

/-- A staging is clean only behind an emission that wrote something, and nothing but plans and
emissions came since. -/
theorem exists_emission_of_clean {operations : List Operation}
    (clean : (after operations).dirty = false) :
    ∃ before later, operations = before ++ .emit :: later ∧ (after before).dirty = true ∧
      ∀ operation ∈ later, operation = .emit ∨ operation.isPlan = true := by
  induction operations using List.reverseRecOn with
  | nil => cases clean
  | append_singleton operations operation ih =>
    -- behind an operation that leaves the flag as it is, the emission is the earlier one
    have longer (kept : (after operations).dirty = false)
        (quiet : operation = .emit ∨ operation.isPlan = true) :
        ∃ before later, operations ++ [operation] = before ++ .emit :: later ∧
          (after before).dirty = true ∧
          ∀ operation ∈ later, operation = .emit ∨ operation.isPlan = true := by
      obtain ⟨before, later, rfl, dirty, plain⟩ := ih kept
      refine ⟨before, later ++ [operation], by simp, dirty, fun other member => ?_⟩
      rcases List.mem_append.1 member with old | new
      · exact plain other old
      · exact List.mem_singleton.1 new ▸ quiet
    rw [after_concat] at clean
    cases operation with
    | plan element attributes => exact longer clean (Or.inr rfl)
    | stage element attributes => cases clean
    | drop element => cases clean
    | close => cases clean
    | emit =>
      cases asked : (after operations).dirty with
      | true => exact ⟨operations, [], rfl, asked, fun _ member => absurd member List.not_mem_nil⟩
      | false => exact longer asked (Or.inl rfl)

/-! ## What is staged -/

/-- The attributes that an operation gives to an element. -/
def Operation.given? (element : Element) : Operation → Option Attributes
  | plan other attributes => if element = other then some attributes else none
  | stage other attributes => if element = other then some attributes else none
  | _ => none

/-- Whether an operation drops an element. -/
def Operation.drops (element : Element) : Operation → Bool
  | drop other => element = other
  | _ => false

/-- Where an element was staged since it was last dropped, and the attributes that it was given
there. -/
def stagings (element : Element) (operations : List Operation) : List (Nat × Attributes) :=
  (operations.zipIdx.rtakeWhile fun o => !o.1.drops element).filterMap fun o =>
    (o.1.given? element).map (o.2, ·)

/-- The attributes that an element was given last. -/
def latest? (element : Element) (operations : List Operation) : Option Attributes :=
  (stagings element operations).getLast?.map Prod.snd

/-- Where an element was staged first. -/
def firstStaged? (element : Element) (operations : List Operation) : Option Nat :=
  (stagings element operations).head?.map Prod.fst

/-- One element was staged first before another one was. -/
def StagedBefore (operations : List Operation) (earlier later : Element) : Prop :=
  ∃ m n, firstStaged? earlier operations = some m ∧ firstStaged? later operations = some n ∧ m < n

/-- What is staged is what the operations left of it. -/
structure Recalls (staged : Entries) (operations : List Operation) : Prop where
  latest : ∀ element, staged.lookup element = latest? element operations
  ordered : (staged.map Prod.fst).Pairwise (StagedBefore operations)

section Histories

variable {element : Element} {operations : List Operation} {operation : Operation}

theorem stagings_concat (element : Element) (operations : List Operation) (operation : Operation) :
    stagings element (operations ++ [operation]) =
      if operation.drops element then []
      else stagings element operations ++
        ((operation.given? element).map (operations.length, ·)).toList := by
  rw [stagings, List.zipIdx_append, List.zipIdx_singleton, Nat.zero_add, List.rtakeWhile_concat]
  cases operation.drops element with
  | true => rfl
  | false =>
    rw [Bool.not_false, if_pos rfl, List.filterMap_append]
    cases given : operation.given? element <;> simp [given, stagings]

theorem stagings_concat_of_kept (kept : operation.drops element = false) :
    stagings element (operations ++ [operation]) = stagings element operations ++
      ((operation.given? element).map (operations.length, ·)).toList := by
  rw [stagings_concat, kept]
  rfl

/-- An operation about another element says nothing. -/
theorem stagings_concat_of_other (kept : operation.drops element = false)
    (other : operation.given? element = none) :
    stagings element (operations ++ [operation]) = stagings element operations := by
  rw [stagings_concat_of_kept kept, other]
  exact List.append_nil _

theorem lt_of_mem_stagings {staging : Nat × Attributes}
    (member : staging ∈ stagings element operations) : staging.1 < operations.length := by
  induction operations using List.reverseRecOn with
  | nil => cases member
  | append_singleton operations operation ih =>
    rw [List.length_append, List.length_singleton]
    rw [stagings_concat] at member
    split at member
    · cases member
    · rcases List.mem_append.1 member with old | new
      · exact Nat.lt_succ_of_lt (ih old)
      · obtain ⟨attributes, -, rfl⟩ := Option.map_eq_some_iff.1 (Option.mem_toList.1 new)
        exact Nat.lt_succ_self _

theorem firstStaged?_concat {place : Nat} (first : firstStaged? element operations = some place)
    (kept : operation.drops element = false) :
    firstStaged? element (operations ++ [operation]) = some place := by
  obtain ⟨staging, head, rfl⟩ := Option.map_eq_some_iff.1 first
  rw [firstStaged?, stagings_concat_of_kept kept, List.head?_append, head]
  rfl

theorem StagedBefore.concat {earlier later : Element}
    (before : StagedBefore operations earlier later) (keptEarlier : operation.drops earlier = false)
    (keptLater : operation.drops later = false) :
    StagedBefore (operations ++ [operation]) earlier later := by
  obtain ⟨m, n, first, second, less⟩ := before
  exact ⟨m, n, firstStaged?_concat first keptEarlier, firstStaged?_concat second keptLater, less⟩

theorem latest?_concat_of_given {attributes : Attributes} (kept : operation.drops element = false)
    (given : operation.given? element = some attributes) :
    latest? element (operations ++ [operation]) = some attributes := by
  rw [latest?, stagings_concat_of_kept kept, given, Option.map_some, Option.toList_some,
    List.getLast?_concat]
  rfl

theorem latest?_concat_of_other (kept : operation.drops element = false)
    (other : operation.given? element = none) :
    latest? element (operations ++ [operation]) = latest? element operations := by
  rw [latest?, stagings_concat_of_other kept other, latest?]

theorem latest?_concat_of_dropped (dropped : operation.drops element = true) :
    latest? element (operations ++ [operation]) = none := by
  rw [latest?, stagings_concat, if_pos dropped]
  rfl

/-- A member of what is staged was staged at some place. -/
theorem Recalls.exists_place {staged : Entries} (recalls : Recalls staged operations)
    (member : element ∈ staged.map Prod.fst) :
    ∃ place, firstStaged? element operations = some place ∧ place < operations.length := by
  have found : latest? element operations ≠ none := by
    rw [← recalls.latest element]
    intro absent
    obtain ⟨entry, inside, rfl⟩ := List.mem_map.1 member
    exact bne_iff_ne.1 (List.lookup_eq_none_iff.1 absent entry inside) rfl
  cases history : stagings element operations with
  | nil => exact absurd (by rw [latest?, history]; rfl) found
  | cons staging rest =>
    refine ⟨staging.1, by rw [firstStaged?, history]; rfl, ?_⟩
    exact lt_of_mem_stagings (history ▸ List.mem_cons_self)

theorem Recalls.stagings_of_absent {staged : Entries} (recalls : Recalls staged operations)
    (absent : element ∉ staged.map Prod.fst) : stagings element operations = [] := by
  have missed : staged.lookup element = none :=
    List.lookup_eq_none_iff.2 fun entry member =>
      bne_iff_ne.2 fun same => absent (same ▸ List.mem_map_of_mem member)
  rw [recalls.latest] at missed
  exact List.getLast?_eq_none_iff.1 (Option.map_eq_none_iff.1 missed)

/-- An operation that neither stages nor drops leaves the history as it is. -/
theorem Recalls.kept {staged : Entries} (recalls : Recalls staged operations)
    (nothing : ∀ element, operation.given? element = none)
    (keeps : ∀ element, operation.drops element = false) :
    Recalls staged (operations ++ [operation]) where
  latest element :=
    (recalls.latest element).trans (latest?_concat_of_other (keeps element) (nothing element)).symm
  ordered := recalls.ordered.imp fun before => before.concat (keeps _) (keeps _)

theorem Recalls.given {staged : Entries} (recalls : Recalls staged operations)
    {attributes : Attributes} (here : operation.given? element = some attributes)
    (elsewhere : ∀ other, other ≠ element → operation.given? other = none)
    (keeps : ∀ other, operation.drops other = false) :
    Recalls (assign element attributes staged) (operations ++ [operation]) where
  latest other := by
    by_cases same : other = element
    · rw [same, lookup_assign_self, latest?_concat_of_given (keeps element) here]
    · rw [lookup_assign_of_ne same, recalls.latest,
        latest?_concat_of_other (keeps other) (elsewhere other same)]
  ordered := by
    have old : (staged.map Prod.fst).Pairwise (StagedBefore (operations ++ [operation])) :=
      recalls.ordered.imp fun before => before.concat (keeps _) (keeps _)
    rw [map_fst_assign]
    split
    · exact old
    · rename_i absent
      have now : firstStaged? element (operations ++ [operation]) = some operations.length := by
        rw [firstStaged?, stagings_concat_of_kept (keeps element),
          recalls.stagings_of_absent absent, here]
        rfl
      refine List.pairwise_append.2 ⟨old, List.pairwise_singleton _ _, ?_⟩
      intro other member last single
      rw [List.mem_singleton.1 single]
      obtain ⟨place, first, less⟩ := recalls.exists_place member
      exact ⟨place, operations.length, firstStaged?_concat first (keeps other), now, less⟩

theorem Recalls.dropped {staged : Entries} (recalls : Recalls staged operations)
    (element : Element) :
    Recalls (staged.filter (·.1 ≠ element)) (operations ++ [.drop element]) where
  latest other := by
    by_cases same : other = element
    · rw [same, lookup_filter_self, latest?_concat_of_dropped (by simp [Operation.drops])]
    · rw [lookup_filter_of_ne same, recalls.latest,
        latest?_concat_of_other (by simp [Operation.drops, same]) rfl]
  ordered := by
    have remaining : List.Sublist ((staged.filter (·.1 ≠ element)).map Prod.fst)
        (staged.map Prod.fst) :=
      List.filter_sublist.map Prod.fst
    refine (recalls.ordered.sublist remaining).imp_of_mem fun first second before => ?_
    have apart : ∀ other ∈ (staged.filter (·.1 ≠ element)).map Prod.fst,
        (Operation.drop element).drops other = false := by
      intro other member
      obtain ⟨entry, inside, rfl⟩ := List.mem_map.1 member
      exact decide_eq_false (of_decide_eq_true (List.mem_filter.1 inside).2)
    exact before.concat (apart _ first) (apart _ second)

end Histories

theorem recalls_after (operations : List Operation) :
    Recalls (after operations).staged operations := by
  induction operations using List.reverseRecOn with
  | nil => exact ⟨fun _ => rfl, List.Pairwise.nil⟩
  | append_singleton operations operation ih =>
    rw [after_concat]
    cases operation with
    | plan element attributes =>
      exact ih.given (if_pos rfl) (fun _ apart => if_neg apart) fun _ => rfl
    | stage element attributes =>
      exact ih.given (if_pos rfl) (fun _ apart => if_neg apart) fun _ => rfl
    | drop element => exact ih.dropped element
    | emit =>
      rw [staged_next_emit]
      exact ih.kept (fun _ => rfl) fun _ => rfl
    | close => exact ih.kept (fun _ => rfl) fun _ => rfl

/-! ## Runs -/

/-- What a staging keeps to behind some operations. -/
structure Orderly (operations : List Operation) : Prop where
  /-- The tags that were written are nested, and leave the open elements open. -/
  nested : unclosed? [] ((written operations).map .tag) = some (after operations).opened.reverse
  leftOpen : (leftOpen operations).map Prod.fst = (after operations).opened.reverse
  /-- A reader of what was written finds the elements that are left open. -/
  read : (∀ t ∈ written operations, t.Readable) →
    (scan? (render ((written operations).map .tag))).map (tagsBehind []) =
      some (bodies (Staging.leftOpen operations))
  /-- A reader that refuses a tag which closes another element than the innermost one finds them as
  well, with the attributes that they were opened with. -/
  told : (∀ t ∈ written operations, t.Legible) →
    openEntries? (render ((written operations).map .tag)) = some (Staging.leftOpen operations)
  stagedOnce : (after operations).Distinct
  openOnce : (after operations).opened.Nodup
  /-- Elements are staged in the order of their first staging, with their latest attributes. -/
  recalls : Recalls (after operations).staged operations
  /-- Behind an emission of what has changed, the staged elements are open. -/
  emission : (after operations).dirty = true →
    Staging.leftOpen (operations ++ [.emit]) = (after operations).staged.reverse
  silence : (after operations).dirty = false → (after operations).writes .emit = []
  /-- A clean staging has written an emission, and nothing else has changed what is open. -/
  emitted : (after operations).dirty = false →
    ∃ before later, operations = before ++ .emit :: later ∧ (after before).dirty = true ∧
      ∀ operation ∈ later, operation = .emit ∨ operation.isPlan = true
  /-- As long as nothing was planned since, what is open is what is staged. -/
  settled : (after operations).dirty = false →
    ∀ before later, operations = before ++ .emit :: later → (after before).dirty = true →
      (∀ operation ∈ later, operation.isPlan = false) →
        Staging.leftOpen operations = (after operations).staged.reverse

theorem orderly (operations : List Operation) : Orderly operations where
  nested := unclosed?_written operations
  leftOpen := map_fst_entriesBehind (unclosed?_written operations)
  read readable := by
    rw [scan?_tags readable, Option.map_some]
    exact congrArg some (tagsBehind_tags (written operations) [])
  told legible := openEntries?_render (fun t member => legible t (mem_of_tag_mem member))
    (unclosed?_written operations)
  stagedOnce := distinct_after operations
  openOnce := List.nodup_reverse.1 (nodup_unclosed? (unclosed?_written operations) List.nodup_nil)
  recalls := recalls_after operations
  emission := leftOpen_emit_of_dirty
  silence := writes_emit_of_clean
  emitted := exists_emission_of_clean
  settled clean before later whole dirty unplanned := by
    subst whole
    rcases settled dirty unplanned with asked | same
    · cases clean.symm.trans asked
    · exact same

-- What is planned on a clean staging waits for the next element that is staged.
example :
    render ((written [.stage .rate [("absspeed", 60)], .emit, .plan .pitch [("absmiddle", 1)],
      .emit, .drop .rate, .emit, .close]).map .tag) =
      "<rate absspeed=\"60\"></rate><pitch absmiddle=\"1\"></pitch>".toList := by
  decide +kernel

end Polyvoice.Markup.Staging
