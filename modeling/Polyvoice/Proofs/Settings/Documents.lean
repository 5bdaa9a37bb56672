import Polyvoice.Proofs.Json.Reading
import Polyvoice.Settings.Document

/-!
# Settings read back from documents

An object gives settings if it has a member for each of them, where those that are left out have
their defaults (`Gives`); members of other names may stand between them, and the order is free.
All settings have such a document (`exists_document`). Whatever such an object is written as, the
settings are read back from it, as a text or as a file, and no setting may be mentioned twice
(`ofText_document`).
-/

namespace Polyvoice.Settings

/-! ## Members of a document -/

/-- The settings, as members of a document. -/
inductive Member where
  | pointText
  | dropsDigitCommas
  | gapFactor
  | normalForm
  | reading
  | numberLanguage
  | fragmentLimit
deriving DecidableEq, Repr

namespace Member

/-- What a setting is called in a document. -/
def name : Member → String
  | pointText => "number_dot_replacement"
  | dropsDigitCommas => "ignore_comma_between_numbers"
  | gapFactor => "script_wait_factor"
  | normalForm => "normalization"
  | reading => "number_mode"
  | numberLanguage => "number_language"
  | fragmentLimit => "max_fragment_chars"

/-- What a document says of a setting. -/
def value (settings : Settings) : Member → Json
  | pointText => .string (.ofText settings.pointText)
  | dropsDigitCommas => .bool settings.dropsDigitCommas
  | gapFactor => .number (Nat.toDigits 10 settings.gapFactor.toNat)
  | normalForm => .string (.ofText settings.normalForm.name.toList)
  | reading =>
    match settings.reading with
    | .asValue => .string (.ofText "value".toList)
    | .digitByDigit => .string (.ofText "number".toList)
  | numberLanguage =>
    (settings.numberLanguage.map fun language => .string (.ofText language.toList)).getD .null
  | fragmentLimit =>
    (settings.fragmentLimit.map fun limit => .number (Nat.toDigits 10 limit.toNat)).getD .null

end Member

/-- The object with members of given names and values. -/
def object (members : List (Text × Json)) : Json :=
  .object (members.map fun member => (.ofText member.1, member.2))

/-- The values that members give under a name. -/
def valuesOf (members : List (Text × Json)) (name : String) : List Json :=
  (members.filter (·.1 == name.toList)).map Prod.snd

/-- Each setting is given once, or is left out and has its default. -/
def Gives (members : List (Text × Json)) (settings : Settings) : Prop :=
  ∀ member : Member, valuesOf members member.name = [member.value settings] ∨
    valuesOf members member.name = [] ∧ member.value settings = member.value default

/-! ## Settings one by one -/

section Values

/-- A number is read back from its digits. -/
theorem natBelow?_toDigits {n bound : Nat} (small : n < bound) :
    Json.natBelow? bound (.number (Nat.toDigits 10 n)) = some n := by
  have digits : (Nat.toDigits 10 n).all Char.isDigit = true := by
    refine List.all_eq_true.2 fun c member => ?_
    exact Nat.isDigit_of_mem_toDigits (by decide) (by decide) member
  have value : (Nat.toDigits 10 n).foldl (fun n c => 10 * n + (c.toNat - '0'.toNat)) 0 = n := by
    rw [← Nat.ofDigitChars_eq_foldl, Nat.ofDigitChars_ten_toDigits]
  simp only [Json.natBelow?]
  rw [if_pos digits, value, if_pos small]

theorem word?_ofText {α : Type} (words : List (String × α)) (t : Text) :
    word? words (.string (.ofText t)) =
      (words.find? fun entry => entry.1.toList == t).map Prod.snd := by
  simp only [word?]
  rw [Json.text?_ofText]
  show ((words.find? fun entry => entry.1.toList == t).bind fun entry => some entry.2) = _
  cases words.find? fun entry => entry.1.toList == t <;> rfl

theorem optional?_getD {α β : Type} {read : Json → Option α} {write : β → Json} {field : β → α}
    (given : Option β) (reads : ∀ x, read (write x) = some (field x))
    (present : ∀ x, write x ≠ .null) :
    Json.optional? read ((given.map write).getD .null) = some (given.map field) := by
  cases given with
  | none => rfl
  | some x =>
    show Json.optional? read (write x) = some (some (field x))
    rw [Json.optional?, reads]
    · rfl
    · exact present x

variable (settings : Settings)

theorem pointText_value : Json.text? (Member.pointText.value settings) = some settings.pointText :=
  Json.text?_ofText settings.pointText

theorem dropsDigitCommas_value :
    Json.bool? (Member.dropsDigitCommas.value settings) = some settings.dropsDigitCommas :=
  rfl

theorem gapFactor_value :
    Json.natBelow? 0x100000000 (Member.gapFactor.value settings) =
      some settings.gapFactor.toNat :=
  natBelow?_toDigits settings.gapFactor.toNat_lt_size

theorem normalForm_value :
    word? normalFormWords (Member.normalForm.value settings) = some settings.normalForm := by
  rw [Member.value, word?_ofText]
  cases settings.normalForm <;> decide

theorem reading_value :
    word? readingWords (Member.reading.value settings) = some settings.reading := by
  rw [Member.value]
  cases settings.reading <;> rw [word?_ofText] <;> decide

theorem numberLanguage_value :
    Json.optional? Json.text? (Member.numberLanguage.value settings) =
      some (settings.numberLanguage.map String.toList) :=
  optional?_getD settings.numberLanguage (fun language => Json.text?_ofText language.toList)
    fun _ => Json.noConfusion

theorem fragmentLimit_value :
    Json.optional? (Json.natBelow? 0x10000000000000000) (Member.fragmentLimit.value settings) =
      some (settings.fragmentLimit.map UInt64.toNat) :=
  optional?_getD settings.fragmentLimit (fun limit => natBelow?_toDigits limit.toNat_lt_size)
    fun _ => Json.noConfusion

end Values

/-! ## Settings together -/

section

variable {settings : Settings} {members : List (Text × Json)} {t : Text}

/-- A setting is what the members say it is, or its default if they do not mention it. -/
theorem Gives.given? (gives : Gives members settings) (member : Member) {α : Type}
    {read : Json → Option α} {field : Settings → α}
    (reads : ∀ settings, read (member.value settings) = some (field settings)) :
    Settings.given? read (field default) (valuesOf members member.name) =
      some (field settings) := by
  rcases gives member with said | ⟨unsaid, same⟩
  · rw [said]
    exact reads settings
  · have read := reads settings
    rw [same, reads default] at read
    rw [unsaid]
    exact read

theorem collect?_of_gives (gives : Gives members settings) :
    (collect? fun name _ => valuesOf members name) = some settings := by
  have pointText := gives.given? .pointText pointText_value
  have dropsDigitCommas := gives.given? .dropsDigitCommas dropsDigitCommas_value
  have gapFactor := gives.given? .gapFactor gapFactor_value
  have normalForm := gives.given? .normalForm normalForm_value
  have reading := gives.given? .reading reading_value
  have numberLanguage := gives.given? .numberLanguage numberLanguage_value
  have fragmentLimit := gives.given? .fragmentLimit fragmentLimit_value
  simp only [Member.name] at *
  rw [collect?, pointText, dropsDigitCommas, gapFactor, normalForm, reading, numberLanguage,
    fragmentLimit]
  have factor : UInt32.ofNat settings.gapFactor.toNat = settings.gapFactor := UInt32.ofNat_toNat
  have language : (settings.numberLanguage.map String.toList).map String.ofList =
      settings.numberLanguage := by
    cases settings.numberLanguage with
    | none => rfl
    | some language => exact congrArg some String.ofList_toList
  have limit : (settings.fragmentLimit.map UInt64.toNat).map UInt64.ofNat =
      settings.fragmentLimit := by
    cases settings.fragmentLimit with
    | none => rfl
    | some limit => exact congrArg some UInt64.ofNat_toNat
  simp only [Option.bind_eq_bind, Option.bind_some, factor, language, limit]
  rfl

theorem length_le_of_given? {α : Type} {read : Json → Option α} {unsaid x : α} {values : List Json}
    (found : Settings.given? read unsaid values = some x) : values.length ≤ 1 := by
  rcases values with _ | ⟨first, _ | ⟨second, rest⟩⟩
  · exact Nat.zero_le 1
  · exact Nat.le_refl 1
  · cases found

/-- Where settings are read, no setting is given twice. -/
theorem length_valuesOf_le (found : (collect? fun name _ => valuesOf members name) = some settings)
    (member : Member) : (valuesOf members member.name).length ≤ 1 := by
  simp only [collect?, Option.bind_eq_bind, Option.bind_eq_some_iff] at found
  rcases found with ⟨_, pointText, _, dropsDigitCommas, _, gapFactor, _, normalForm, _, reading, _,
    numberLanguage, _, fragmentLimit, -⟩
  cases member with
  | pointText => exact length_le_of_given? pointText
  | dropsDigitCommas => exact length_le_of_given? dropsDigitCommas
  | gapFactor => exact length_le_of_given? gapFactor
  | normalForm => exact length_le_of_given? normalForm
  | reading => exact length_le_of_given? reading
  | numberLanguage => exact length_le_of_given? numberLanguage
  | fragmentLimit => exact length_le_of_given? fragmentLimit

theorem ofJson?_object (members : List (Text × Json)) :
    ofJson? (object members) = collect? fun name _ => valuesOf members name := by
  have read : (members.map fun member => (Json.Source.ofText member.1, member.2)).mapM
      (fun member => do return (← member.1.text?, member.2)) = some members := by
    induction members with
    | nil => rfl
    | cons member members ih =>
      rw [List.map_cons, List.mapM_cons, ih, Json.text?_ofText]
      rfl
  rw [object, ofJson?, read]
  rfl

end

theorem exists_writes_value (settings : Settings) (member : Member) :
    ∃ t, Json.Writes (member.value settings) t := by
  cases member with
  | pointText => exact Json.exists_writes_string settings.pointText
  | dropsDigitCommas =>
    rw [Member.value]
    cases settings.dropsDigitCommas with
    | false => exact ⟨_, .token .no .nil⟩
    | true => exact ⟨_, .token .yes .nil⟩
  | gapFactor => exact Json.exists_writes_toDigits settings.gapFactor.toNat
  | normalForm => exact Json.exists_writes_string settings.normalForm.name.toList
  | reading =>
    rw [Member.value]
    cases settings.reading with
    | asValue => exact Json.exists_writes_string "value".toList
    | digitByDigit => exact Json.exists_writes_string "number".toList
  | numberLanguage =>
    rw [Member.value]
    cases settings.numberLanguage with
    | none => exact ⟨_, .token .null .nil⟩
    | some language => exact Json.exists_writes_string language.toList
  | fragmentLimit =>
    rw [Member.value]
    cases settings.fragmentLimit with
    | none => exact ⟨_, .token .null .nil⟩
    | some limit => exact Json.exists_writes_toDigits limit.toNat

/-- All settings have a document that gives them. -/
theorem exists_document (settings : Settings) :
    ∃ members t, Gives members settings ∧ Json.Writes (object members) t := by
  let all : List Member := [.pointText, .dropsDigitCommas, .gapFactor, .normalForm, .reading,
    .numberLanguage, .fragmentLimit]
  let members := all.map fun member => (member.name.toList, member.value settings)
  have gives : Gives members settings := by
    intro member
    cases member <;> exact Or.inl rfl
  have each : ∀ entry ∈ members, ∃ t, Json.Writes entry.2 t := by
    intro entry inside
    rcases List.mem_map.1 inside with ⟨member, -, rfl⟩
    exact exists_writes_value settings member
  rcases Json.exists_writes_object each with ⟨t, written⟩
  exact ⟨members, t, gives, written⟩

/-- **Settings are read back from every document that gives them.** Whatever an object that gives
settings is written as, the settings are read from it, be it a text or the bytes of a file. An
object in which a setting is mentioned again is refused. -/
theorem ofText_document {members : List (Text × Json)} {t : Text}
    (written : Json.Writes (object members) t) :
    (∀ settings, Gives members settings →
      ofText t = .ok settings ∧
        ∀ path, ofFile path (some (String.ofList t).toUTF8) = .ok settings) ∧
      ∀ member : Member, 2 ≤ (valuesOf members member.name).length →
        ofText t = .error .malformedSettings ∧
          ∀ path, ofFile path (some (String.ofList t).toUTF8) =
            .error (.malformedSettingsFile path) := by
  have read : (Json.read? (.ofText t)).bind ofJson? =
      collect? fun name _ => valuesOf members name := by
    rw [Json.read?_of_writes written, Option.bind_some, ofJson?_object]
  have same := Json.ofBytes_toUTF8 t
  refine ⟨fun settings gives => ?_, fun member twice => ?_⟩
  · have found := read.trans (collect?_of_gives gives)
    refine ⟨by rw [ofText, found], fun path => ?_⟩
    rw [ofFile, same, found]
  · have none : (Json.read? (.ofText t)).bind ofJson? = none := by
      rw [read]
      refine Option.eq_none_iff_forall_ne_some.2 fun settings found => ?_
      have once := length_valuesOf_le found member
      omega
    refine ⟨by rw [ofText, none], fun path => ?_⟩
    rw [ofFile, same, none]

/-- A document that mentions something else first, writes a name and a value by numbers, and leaves
most settings out; and one that mentions a setting twice. -/
theorem ofText_document_escaped :
    let settings : Settings := { default with gapFactor := 40, numberLanguage := some "😀" }
    let members : List (Text × Json) :=
      [("x".toList, .array [.number "-1.5e+3".toList, .string [none], .object []]),
        ("number_language".toList, .string (.ofText "😀".toList)),
        ("script_wait_factor".toList, .number "40".toList)]
    let t := ("\x7b \"x\" :\t[-1.5e+3,\"\\udead\",\x7b\x7d],\"n\\u0075mber_language\":" ++
      "\"\\ud83d\\ude00\",\"script_wait_factor\":40\x7d").toList
    let twice : List (Text × Json) :=
      [("number_mode".toList, .null), ("number_mode".toList, .string (.ofText "value".toList))]
    let u := "\x7b\"number_mode\":null,\"number_mode\":\"value\"\x7d".toList
    (Json.Writes (object members) t ∧ Gives members settings ∧ ofText t = .ok settings ∧
      ofFile "settings.json" (some (String.ofList t).toUTF8) = .ok settings) ∧
      Json.Writes (object twice) u ∧ ofText u = .error .malformedSettings := by
  intro settings members t twice u
  have written : Json.Writes (object members) t := by
    have language : Json.Spells (.ofText "number_language".toList)
        "n\\u0075mber_language".toList := by
      refine .raw (by decide) (by decide) (.unit (u := "\\u0075".toList) ?_
        (Json.spells_plain (t := "mber_language".toList) (by decide)))
      exact .small (m := 0) (n := 0) (o := 7) (p := 5) (by decide)
    have face : Json.Spells (.ofText "😀".toList) "\\ud83d\\ude00".toList := by
      refine .pair (u := "\\ud83d".toList) (v := "\\ude00".toList) (by decide) ?_ ?_ .nil
      · exact .small (m := 13) (n := 8) (o := 3) (p := 13) (by decide)
      · exact .small (m := 13) (n := 14) (o := 0) (p := 0) (by decide)
    have half : Json.Spells [none] "\\udead".toList := by
      refine .half (n := 0xDEAD) (u := "\\udead".toList) (by decide) ?_
        (fun small => absurd small (by decide)) .nil
      exact .small (m := 13) (n := 14) (o := 10) (p := 13) (by decide)
    have digits {c : Char} {t : Text} (all : (c :: t).all Char.isDigit = true) :
        Json.Digits (c :: t) :=
      ⟨List.cons_ne_nil c t, List.all_eq_true.1 all⟩
    have number : Json.NumberShape "-1.5e+3".toList :=
      ⟨['-'], ['1'], ".5".toList, "e+3".toList, Or.inr rfl, Or.inr ⟨digits rfl, by decide⟩,
        Or.inr ⟨['5'], digits rfl, rfl⟩,
        Or.inr ⟨'e', ['+'], ['3'], Or.inl rfl, Or.inr (Or.inl rfl), digits rfl, rfl⟩, rfl⟩
    have forty : Json.NumberShape "40".toList :=
      ⟨[], ['4', '0'], [], [], Or.inl rfl, Or.inr ⟨digits rfl, by decide⟩, Or.inl rfl, Or.inl rfl,
        rfl⟩
    have third : Json.Written _ _ :=
      .token .comma (.token (.plain (t := "script_wait_factor".toList) rfl)
        (.token .colon (.token (.number forty) (.token .closeObject .nil))))
    have second : Json.Written _ _ := .token .comma (.token (.string language)
      (.token .colon (.token (.string face) third)))
    have first : Json.Written _ _ := .token .openArray (.token (.number number)
      (.token .comma (.token (.string half) (.token .comma (.token .openObject
        (.token .closeObject (.token .closeArray second)))))))
    have whole : Json.Written _ _ := .token .openObject (.space (c := ' ') rfl
      (.token (.plain (t := "x".toList) rfl) (.space (c := ' ') rfl
        (.token .colon (.space (c := '\t') rfl first)))))
    exact whole.congr rfl (by decide +kernel)
  have repeated : Json.Writes (object twice) u := by
    have second : Json.Written _ _ :=
      .token .comma (.token (.plain (t := "number_mode".toList) rfl)
        (.token .colon (.token (.plain (t := "value".toList) rfl) (.token .closeObject .nil))))
    have whole : Json.Written _ _ :=
      .token .openObject (.token (.plain (t := "number_mode".toList) rfl)
        (.token .colon (.token .null second)))
    exact whole.congr rfl (by decide +kernel)
  have gives : Gives members settings := by
    intro member
    cases member with
    | pointText => exact Or.inr ⟨rfl, rfl⟩
    | dropsDigitCommas => exact Or.inr ⟨rfl, rfl⟩
    | gapFactor =>
      have digits : "40".toList = Nat.toDigits 10 (40 : UInt32).toNat := by decide
      exact Or.inl (congrArg (fun digits => [Json.number digits]) digits)
    | normalForm => exact Or.inr ⟨rfl, rfl⟩
    | reading => exact Or.inr ⟨rfl, rfl⟩
    | numberLanguage => exact Or.inl rfl
    | fragmentLimit => exact Or.inr ⟨rfl, rfl⟩
  have read := (ofText_document written).1 settings gives
  have refused := (ofText_document repeated).2 .reading (Nat.le_refl 2)
  exact ⟨⟨written, gives, read.1, read.2 "settings.json"⟩, repeated, refused.1⟩

end Polyvoice.Settings
