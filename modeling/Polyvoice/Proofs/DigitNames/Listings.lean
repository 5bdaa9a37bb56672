import Mathlib.Data.List.Dedup
import Polyvoice.DigitNames.Document
import Polyvoice.Proofs.DigitNames.Entering
import Polyvoice.Proofs.Json.Reading

/-!
# Documents that list a table

What a table says may be listed language by language, in any order (`Lists`), and the listing
written as a document (`document`). Such a document is read as a table that says the same, however
it is written, so that a table that calls have made and a table that is read from a document spell
digits alike; a table with an entry for something else is refused (`ofText_document_listed`).
-/

namespace Polyvoice.DigitNames

/-! ## Listings -/

/-- Names of digits, language by language. -/
abbrev Listing := List (String × List (Char × Text))

namespace Listing

/-- A listing has a name for a digit in a language. -/
def Names (listing : Listing) (language : String) (digit : Char) (name : Text) : Prop :=
  ∃ digits, (language, digits) ∈ listing ∧ (digit, name) ∈ digits

/-- The object that has the names of a language, in their order. -/
def languageObject (digits : List (Char × Text)) : Json :=
  .object (digits.map fun named => (.ofText [named.1], .string (.ofText named.2)))

/-- The document that has the languages of a listing, in their order. -/
def document (listing : Listing) : Json :=
  .object (listing.map fun entry => (.ofText entry.1.toList, languageObject entry.2))

/-- A listing of what is said of digits, in which no language stands twice, and no digit stands
twice in a language. -/
structure Lists (listing : Listing) (said : String → Char → Option Text) : Prop where
  languages_distinct : (listing.map Prod.fst).Nodup
  digits_distinct : ∀ entry ∈ listing, (entry.2.map Prod.fst).Nodup
  names_iff : ∀ language digit name,
    listing.Names language digit name ↔ said language digit = some name

theorem names_cons {entry : String × List (Char × Text)} {listing : Listing} {language : String}
    {digit : Char} {name : Text} :
    Names (entry :: listing) language digit name ↔
      (language = entry.1 ∧ (digit, name) ∈ entry.2) ∨ listing.Names language digit name := by
  constructor
  · intro named
    rcases named with ⟨digits, member, named⟩
    rcases List.mem_cons.1 member with first | other
    · exact Or.inl ⟨congrArg Prod.fst first, congrArg Prod.snd first ▸ named⟩
    · exact Or.inr ⟨digits, other, named⟩
  · intro named
    rcases named with ⟨same, named⟩ | ⟨digits, member, named⟩
    · refine ⟨entry.2, ?_, named⟩
      rw [same]
      exact List.mem_cons_self
    · exact ⟨digits, List.mem_cons_of_mem entry member, named⟩

end Listing

open Listing

/-- The entries of a table by language. -/
def toListing (names : DigitNames) : Listing :=
  (names.entries.map (·.1.1)).dedup.map fun language =>
    (language, (names.entries.filter (·.1.1 == language)).map fun entry => (entry.1.2, entry.2))

/-- Every table can be listed. -/
theorem toListing_lists (names : DigitNames) : names.toListing.Lists names.nameOf? where
  languages_distinct := by
    have same : names.toListing.map Prod.fst = (names.entries.map (·.1.1)).dedup := by
      rw [toListing, List.map_map]
      exact List.map_id _
    rw [same]
    exact List.nodup_dedup _
  digits_distinct := by
    intro entry member
    rcases List.mem_map.1 member with ⟨language, -, rfl⟩
    have keys : ((names.entries.filter (·.1.1 == language)).map Prod.fst).Nodup :=
      names.distinct.sublist (List.filter_sublist.map Prod.fst)
    rw [List.map_map]
    refine List.Nodup.map_on (fun first inFirst second inSecond same => ?_) keys.of_map
    have languages := (beq_iff_eq.1 (List.mem_filter.1 inFirst).2).trans
      (beq_iff_eq.1 (List.mem_filter.1 inSecond).2).symm
    exact List.inj_on_of_nodup_map keys inFirst inSecond (Prod.ext languages same)
  names_iff := by
    intro language digit name
    rw [nameOf?_eq_some_iff]
    constructor
    · intro named
      rcases named with ⟨digits, member, named⟩
      rcases List.mem_map.1 member with ⟨own, -, same⟩
      rcases Prod.mk.inj same with ⟨rfl, rfl⟩
      rcases List.mem_map.1 named with ⟨entry, inside, same⟩
      rcases Prod.mk.inj same with ⟨rfl, rfl⟩
      rcases List.mem_filter.1 inside with ⟨inside, same⟩
      rw [← beq_iff_eq.1 same]
      exact inside
    · intro member
      refine ⟨_, List.mem_map.2 ⟨language, List.mem_dedup.2 ?_, rfl⟩, ?_⟩
      · exact List.mem_map.2 ⟨_, member, rfl⟩
      · exact List.mem_map.2 ⟨_, List.mem_filter.2 ⟨member, beq_self_eq_true language⟩, rfl⟩

theorem toListing_entered (entries : List Entry) :
    (entered entries).toListing.Lists (lastNamed entries) := by
  have lists := toListing_lists (entered entries)
  rw [funext fun language => funext (nameOf?_entered entries language)] at lists
  exact lists

theorem exists_writes_languageObject (digits : List (Char × Text)) :
    ∃ t, Json.Writes (languageObject digits) t := by
  have each : ∀ member ∈ digits.map fun named => ([named.1], Json.string (.ofText named.2)),
      ∃ t, Json.Writes member.2 t := by
    intro member inside
    rcases List.mem_map.1 inside with ⟨named, -, rfl⟩
    exact Json.exists_writes_string named.2
  have written := Json.exists_writes_object each
  rwa [List.map_map] at written

/-- Every listing can be written. -/
theorem exists_writes_document (listing : Listing) : ∃ t, Json.Writes listing.document t := by
  have each : ∀ member ∈ listing.map fun entry => (entry.1.toList, languageObject entry.2),
      ∃ t, Json.Writes member.2 t := by
    intro member inside
    rcases List.mem_map.1 inside with ⟨entry, -, rfl⟩
    exact exists_writes_languageObject entry.2
  have written := Json.exists_writes_object each
  rwa [List.map_map] at written

/-- What calls have entered has a document that lists it. -/
theorem exists_document (entries : List Entry) : ∃ (listing : Listing) (t : Text),
    listing.Lists (lastNamed entries) ∧ Json.Writes listing.document t := by
  rcases exists_writes_document (entered entries).toListing with ⟨t, written⟩
  exact ⟨_, t, toListing_entered entries, written⟩

/-! ## Tables -/

/-- Of distinct names that are entered one after the other, each is found. -/
theorem nameOf?_insertEach_iff {entries : List ((String × Char) × Text)}
    (distinct : (entries.map Prod.fst).Nodup) {names : DigitNames} {language : String}
    {digit : Char} {name : Text} :
    (names.insertEach entries).nameOf? language digit = some name ↔
      ((language, digit), name) ∈ entries ∨
        (language, digit) ∉ entries.map Prod.fst ∧ names.nameOf? language digit = some name := by
  have reversed : (entries.reverse.map Prod.fst).Nodup := by
    rw [List.map_reverse]
    exact List.nodup_reverse.2 distinct
  have found := find?_key_iff reversed (language, digit)
  simp only [List.mem_reverse] at found
  rw [nameOf?_insertEach, Option.or_eq_some_iff, found, Option.map_eq_none_iff,
    List.find?_eq_none]
  refine or_congr_right (and_congr_left fun _ => ?_)
  simp only [List.mem_reverse, beq_iff_eq, List.mem_map, not_exists, not_and]

theorem nameOf?_eraseLanguage_iff {names : DigitNames} {erased language : String} {digit : Char}
    {name : Text} :
    (names.eraseLanguage erased).nameOf? language digit = some name ↔
      language ≠ erased ∧ names.nameOf? language digit = some name := by
  rw [nameOf?_eq_some_iff, nameOf?_eq_some_iff, and_comm]
  exact List.mem_filter.trans (and_congr_right fun _ => bne_iff_ne)

/-- Replaces what a table says of a language by what a listing says of it. -/
def replaceLanguage (names : DigitNames) (entry : String × List (Char × Text)) : DigitNames :=
  (names.eraseLanguage entry.1).insertEach
    (entry.2.map fun named => ((entry.1, named.1), named.2))

theorem nameOf?_replaceLanguage_iff {entry : String × List (Char × Text)}
    (distinct : (entry.2.map Prod.fst).Nodup) {names : DigitNames} {language : String}
    {digit : Char} {name : Text} :
    (names.replaceLanguage entry).nameOf? language digit = some name ↔
      (language = entry.1 ∧ (digit, name) ∈ entry.2) ∨
        language ≠ entry.1 ∧ names.nameOf? language digit = some name := by
  have keys : (entry.2.map fun named => ((entry.1, named.1), named.2)).map Prod.fst =
      (entry.2.map Prod.fst).map (Prod.mk entry.1) := by
    rw [List.map_map, List.map_map]
    rfl
  have apart : ((entry.2.map fun named => ((entry.1, named.1), named.2)).map Prod.fst).Nodup := by
    rw [keys]
    exact distinct.map fun first second same => congrArg Prod.snd same
  have said : ((language, digit), name) ∈
      (entry.2.map fun named => ((entry.1, named.1), named.2)) ↔
        language = entry.1 ∧ (digit, name) ∈ entry.2 := by
    simp only [List.mem_map, Prod.mk.injEq, Prod.exists]
    constructor
    · intro member
      rcases member with ⟨d, n, member, ⟨same, rfl⟩, rfl⟩
      exact ⟨same.symm, member⟩
    · intro member
      exact ⟨digit, name, member.2, ⟨member.1.symm, rfl⟩, rfl⟩
  rw [replaceLanguage, nameOf?_insertEach_iff apart, said, nameOf?_eraseLanguage_iff, keys]
  refine or_congr_right ⟨fun kept => kept.2, fun kept => ⟨fun member => ?_, kept⟩⟩
  rcases List.mem_map.1 member with ⟨d, -, same⟩
  exact kept.1 (congrArg Prod.fst same).symm

/-- Of the languages that replace each other's names one after the other, a table says what they
say, and of other languages what it said before. -/
theorem nameOf?_foldl_replaceLanguage {listing : Listing}
    (languages_distinct : (listing.map Prod.fst).Nodup)
    (digits_distinct : ∀ entry ∈ listing, (entry.2.map Prod.fst).Nodup) {names : DigitNames}
    {language : String} {digit : Char} {name : Text} :
    (listing.foldl replaceLanguage names).nameOf? language digit = some name ↔
      listing.Names language digit name ∨
        language ∉ listing.map Prod.fst ∧ names.nameOf? language digit = some name := by
  induction listing generalizing names with
  | nil =>
    refine ⟨fun kept => Or.inr ⟨List.not_mem_nil, kept⟩, fun said => ?_⟩
    rcases said with ⟨digits, member, -⟩ | ⟨-, kept⟩
    · cases member
    · exact kept
  | cons entry listing ih =>
    rcases List.nodup_cons.1 languages_distinct with ⟨absent, others⟩
    rcases List.forall_mem_cons.1 digits_distinct with ⟨first, rest⟩
    rw [List.foldl_cons, ih others rest, nameOf?_replaceLanguage_iff first, names_cons,
      List.map_cons, List.mem_cons, not_or]
    by_cases same : language = entry.1
    · rw [same]
      simp only [absent, true_and, not_true, false_and, or_false, ne_eq, not_false_eq_true]
      exact or_comm
    · simp only [same, false_and, false_or, not_false_eq_true, true_and, ne_eq]

/-! ## Reading -/

theorem foldlM_eq_some {σ α : Type} {step : σ → α → Option σ} {next : σ → α → σ}
    (steps : ∀ s x, step s x = some (next s x)) (s : σ) (l : List α) :
    l.foldlM step s = some (l.foldl next s) := by
  have same : step = fun s x => pure (next s x) := funext fun s => funext (steps s)
  rw [same]
  exact List.foldlM_pure

theorem addMember?_listed (language : String) (names : DigitNames) (named : Char × Text) :
    addMember? language names (.ofText [named.1], .string (.ofText named.2)) =
      some (names.insert language named.1 named.2) := by
  have name : Json.text? (.string (.ofText named.2)) = some named.2 := Json.text?_ofText named.2
  rw [addMember?, Json.text?_ofText, name]
  rfl

theorem addLanguage?_listed (names : DigitNames) (entry : String × List (Char × Text)) :
    addLanguage? names (.ofText entry.1.toList, languageObject entry.2) =
      some (names.replaceLanguage entry) := by
  rw [addLanguage?, Json.text?_ofText]
  show List.foldlM (addMember? (String.ofList entry.1.toList)) (names.eraseLanguage
    (String.ofList entry.1.toList)) (entry.2.map _) = _
  rw [String.ofList_toList, List.foldlM_map, foldlM_eq_some (addMember?_listed entry.1),
    replaceLanguage, insertEach, List.foldl_map]

theorem ofJson?_document (listing : Listing) :
    ofJson? listing.document = some (listing.foldl replaceLanguage empty) := by
  rw [document, ofJson?, List.foldlM_map]
  exact foldlM_eq_some addLanguage?_listed empty listing

theorem mem_keys_iff {names : DigitNames} {language : String} {symbol : Char} :
    (language, symbol) ∈ names.entries.map Prod.fst ↔
      ∃ name, names.nameOf? language symbol = some name := by
  simp only [nameOf?_eq_some_iff, List.mem_map, Prod.exists, exists_and_right, exists_eq_right]

theorem stray?_eq_none_iff {names : DigitNames} :
    names.stray? = none ↔ ∀ language symbol name,
      names.nameOf? language symbol = some name → symbol.isDigit = true := by
  rw [stray?, List.find?_eq_none, Prod.forall]
  simp only [mem_keys_iff, Bool.not_eq_true, Bool.not_eq_false', forall_exists_index]

theorem of_stray? {names : DigitNames} {language : String} {symbol : Char}
    (stray : names.stray? = some (language, symbol)) :
    symbol.isDigit = false ∧ ∃ name, names.nameOf? language symbol = some name := by
  refine ⟨?_, mem_keys_iff.1 (List.mem_of_find?_eq_some stray)⟩
  simpa using List.find?_some stray

/-- Whatever calls have entered is about digits. -/
def OnlyDigits (entries : List Entry) : Prop :=
  ∀ language symbol name, lastNamed entries language symbol = some name → symbol.isDigit = true

/-- **A table and a document that lists it agree.** A document that lists what calls have entered
is read as a table exactly if all of it is about digits. Digits are then spelled as the calls have
it, in every language and text. Otherwise the document is refused, because of something that it
names and that is no digit. -/
theorem ofText_document_listed {entries : List Entry} {listing : Listing} {t : Text}
    (lists : listing.Lists (lastNamed entries)) (written : Json.Writes listing.document t) :
    ((∃ names, ofText t = .ok names) ↔ OnlyDigits entries) ∧
      (∀ names, ofText t = .ok names →
        (∀ digit language,
          names.spelling digit language = (entered entries).spelling digit language) ∧
        ∀ language u, Numeral.nameDigits (names.spelling · language) u =
          Numeral.nameDigits ((entered entries).spelling · language) u) ∧
      (¬OnlyDigits entries → ∃ language symbol name,
        lastNamed entries language symbol = some name ∧ symbol.isDigit = false ∧
          ofText t = .error (.notADigit symbol language)) := by
  let names := listing.foldl replaceLanguage empty
  have read : (Json.read? (.ofText t)).bind ofJson? = some names := by
    rw [Json.read?_of_writes written, Option.bind_some, ofJson?_document]
  have agree (language : String) (digit : Char) :
      names.nameOf? language digit = lastNamed entries language digit := by
    refine Option.ext fun name => ?_
    rw [nameOf?_foldl_replaceLanguage lists.languages_distinct lists.digits_distinct,
      lists.names_iff]
    exact or_iff_left fun kept => nomatch kept.2
  have spells : names.spelling = (entered entries).spelling := by
    refine funext fun digit => funext fun language => ?_
    rw [spelling, spelling, agree, agree, nameOf?_entered, nameOf?_entered]
  cases stray : names.stray? with
  | none =>
    have accepted : ofText t = .ok names := by
      rw [ofText, read]
      simp only [stray]
    have digits : OnlyDigits entries := by
      intro language symbol name said
      rw [← agree] at said
      exact stray?_eq_none_iff.1 stray language symbol name said
    refine ⟨⟨fun _ => digits, fun _ => ⟨names, accepted⟩⟩, fun found same => ?_,
      fun other => absurd digits other⟩
    have equal : names = found := Except.ok.inj (accepted.symm.trans same)
    rw [← equal, spells]
    exact ⟨fun _ _ => rfl, fun _ _ => rfl⟩
  | some key =>
    rcases key with ⟨language, symbol⟩
    have refused : ofText t = .error (.notADigit symbol language) := by
      rw [ofText, read]
      simp only [stray]
    have unread (found : DigitNames) : ofText t ≠ .ok found := by
      rw [refused]
      exact fun same => nomatch same
    rcases of_stray? stray with ⟨other, name, said⟩
    rw [agree] at said
    refine ⟨⟨fun accepted => ?_, fun digits => ?_⟩,
      fun found accepted => absurd accepted (unread found),
      fun _ => ⟨language, symbol, name, said, other, refused⟩⟩
    · rcases accepted with ⟨found, accepted⟩
      exact absurd accepted (unread found)
    · have digit := digits language symbol name said
      rw [other] at digit
      cases digit

/-- A digit that is named twice, and one that is named in every language; and a letter. -/
theorem ofText_document_listed_twice :
    let entries := [Entry.one "zh" '1' "one".toList, Entry.one anyLanguage '0' "o".toList,
      Entry.one "zh" '1' "yi".toList]
    let listing : Listing := [("zh", [('1', "yi".toList)]), ("*", [('0', "o".toList)])]
    let t := ("\x7b\"zh\": \x7b\"1\":\"y\\u0069\"\x7d," ++
      "\"*\":\x7b\"0\":\"o\"\x7d\x7d").toList
    let others := [Entry.one "en" 'x' "ex".toList]
    let other : Listing := [("en", [('x', "ex".toList)])]
    let u := "\x7b\"en\":\x7b\"x\":\"ex\"\x7d\x7d".toList
    (listing.Lists (lastNamed entries) ∧ Json.Writes listing.document t ∧
      ∃ names, ofText t = .ok names ∧
        Numeral.nameDigits (names.spelling · "zh") ['1', '0'] = "yio".toList) ∧
      other.Lists (lastNamed others) ∧ Json.Writes other.document u ∧
        ofText u = .error (.notADigit 'x' "en") := by
  intro entries listing t others other u
  have read : listing.Lists (lastNamed entries) ∧ Json.Writes listing.document t := by
    have same : (entered entries).toListing = listing := by decide
    have number : Json.Spells (.ofText "yi".toList) "y\\u0069".toList := by
      refine .raw (by decide) (by decide) (.unit (u := "\\u0069".toList) ?_ .nil)
      exact .small (m := 0) (n := 0) (o := 6) (p := 9) (by decide)
    have second : Json.Written _ _ :=
      .token .comma (.token (.plain (t := ['*']) rfl) (.token .colon
        (.token .openObject (.token (.plain (t := ['0']) rfl) (.token .colon
          (.token (.plain (t := ['o']) rfl) (.token .closeObject (.token .closeObject .nil))))))))
    have whole : Json.Written _ _ :=
      .token .openObject (.token (.plain (t := "zh".toList) rfl) (.token .colon (.space (c := ' ')
        rfl (.token .openObject (.token (.plain (t := ['1']) rfl) (.token .colon
          (.token (.string number) (.token .closeObject second))))))))
    exact ⟨same ▸ toListing_entered entries, whole.congr rfl (by decide +kernel)⟩
  have refused : other.Lists (lastNamed others) ∧ Json.Writes other.document u := by
    have same : (entered others).toListing = other := by decide
    have whole : Json.Written _ _ :=
      .token .openObject (.token (.plain (t := "en".toList) rfl) (.token .colon
        (.token .openObject (.token (.plain (t := ['x']) rfl) (.token .colon
          (.token (.plain (t := "ex".toList) rfl) (.token .closeObject
            (.token .closeObject .nil))))))))
    exact ⟨same ▸ toListing_entered others, whole.congr rfl (by decide +kernel)⟩
  have digits : OnlyDigits entries := by
    intro language symbol name said
    have none : (entered entries).stray? = none := by decide
    rw [← nameOf?_entered] at said
    exact stray?_eq_none_iff.1 none language symbol name said
  have letter : ¬OnlyDigits others :=
    fun digits => absurd (digits "en" 'x' "ex".toList (by decide)) (by decide)
  have accepts := ofText_document_listed read.1 read.2
  have refuses := ofText_document_listed refused.1 refused.2
  rcases accepts.1.2 digits with ⟨names, accepted⟩
  rcases refuses.2.2 letter with ⟨language, symbol, named, said, -, error⟩
  rw [← nameOf?_entered, nameOf?_eq_some_iff] at said
  have only : ((language, symbol), named) = (("en", 'x'), "ex".toList) := List.mem_singleton.1 said
  rcases Prod.mk.inj (Prod.mk.inj only).1 with ⟨rfl, rfl⟩
  have spoken := (accepts.2.1 names accepted).2 "zh" ['1', '0']
  exact ⟨⟨read.1, read.2, names, accepted, spoken.trans (by decide)⟩, refused.1, refused.2, error⟩

end Polyvoice.DigitNames
