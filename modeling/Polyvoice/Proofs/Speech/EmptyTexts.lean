import Polyvoice.Proofs.Speech.Markers

/-!
# Where empty texts come from

Most passes over a speech leave no text empty that had words. Commas go only between digits
(`dropDigitCommas_ne_nil`), what stands between two gaps has an ideograph
(`ne_nil_of_mem_cutGaps`), and a normal form has a character for each character that it stands for,
or one for several (`NormalForm.apply_eq_nil_iff`). A number is said in no words only if a digit has
a name without characters (`Numeral.spoken_ne_nil`); a fragment may be empty behind a blank.
-/

namespace Polyvoice

/-! ## Normal forms -/

namespace Unicode

theorem canonicalDecomposition_ne_nil (c : Char) : canonicalDecomposition c ≠ [] := by
  unfold canonicalDecomposition
  split
  · exact List.cons_ne_nil c []
  · cases found : canonicalDecompositions.image? c with
    | none => exact List.cons_ne_nil c []
    | some image => exact Spreads.ne_nil_of_image? found

theorem compatibilityDecomposition_ne_nil (c : Char) : compatibilityDecomposition c ≠ [] := by
  unfold compatibilityDecomposition
  split
  · exact List.cons_ne_nil c []
  · cases found : compatibilityDecompositions.image? c with
    | none => exact canonicalDecomposition_ne_nil c
    | some image => exact Spreads.ne_nil_of_image? found

theorem Hangul.decomposition?_ne_nil {c : Char} {parts : List Char}
    (found : Hangul.decomposition? c = some parts) : parts ≠ [] := by
  unfold Hangul.decomposition? at found
  dsimp only at found
  split at found
  · split at found
    · cases found
      exact List.cons_ne_nil _ _
    · cases found
      exact List.cons_ne_nil _ _
  · cases found

/-- Every character decomposes to one or more. -/
theorem decomposeChar_ne_nil (compatible : Bool) (c : Char) : decomposeChar compatible c ≠ [] := by
  unfold decomposeChar
  split
  · exact List.cons_ne_nil _ []
  · split
    · rename_i parts found
      exact Hangul.decomposition?_ne_nil found
    · split
      · exact compatibilityDecomposition_ne_nil c
      · exact canonicalDecomposition_ne_nil c

theorem insertMark_ne_nil (mark : Char) (t : List Char) : insertMark mark t ≠ [] := by
  cases t with
  | nil => exact List.cons_ne_nil mark []
  | cons c rest =>
    unfold insertMark
    split
    · exact List.cons_ne_nil c _
    · exact List.cons_ne_nil mark _

theorem decompose_ne_nil (compatible : Bool) {t : List Char} (some : t ≠ []) :
    decompose compatible t ≠ [] := by
  obtain ⟨c, rest, rfl⟩ := List.exists_cons_of_ne_nil some
  obtain ⟨d, more, parts⟩ := List.exists_cons_of_ne_nil (decomposeChar_ne_nil compatible c)
  rw [decompose, List.flatMap_cons, parts]
  exact insertMark_ne_nil d _

theorem composeFrom_ne_nil (starter : Char) (kept t : List Char) :
    composeFrom starter kept t ≠ [] := by
  fun_induction composeFrom starter kept t with
  | case1 starter kept => exact List.cons_ne_nil starter _
  | case2 _ _ _ _ _ _ ih => exact ih
  | case3 => exact List.cons_ne_nil _ _
  | case4 _ _ _ _ _ _ ih => exact ih

theorem compose_ne_nil {t : List Char} (some : t ≠ []) : compose t ≠ [] := by
  obtain ⟨c, rest, rfl⟩ := List.exists_cons_of_ne_nil some
  unfold compose
  split
  · exact composeFrom_ne_nil c [] rest
  · exact List.cons_ne_nil c _

end Unicode

/-- A text is empty if and only if its normal forms are. -/
theorem NormalForm.apply_eq_nil_iff (form : NormalForm) (t : Text) :
    form.apply t = [] ↔ t = [] := by
  constructor
  · intro none
    by_contra some
    have parts (compatible : Bool) := Unicode.decompose_ne_nil compatible some
    cases form with
    | off => exact some none
    | nfc => exact Unicode.compose_ne_nil (parts false) none
    | nfkc => exact Unicode.compose_ne_nil (parts true) none
    | nfd => exact parts false none
    | nfkd => exact parts true none
  · rintro rfl
    cases form <;> rfl

namespace Speech

/-! ## Texts of a speech behind a pass -/

theorem text_mem_mapText {f : Text → Text} {u : Text} {speech : Speech} :
    .text u ∈ mapText f speech ↔ ∃ t, .text t ∈ speech ∧ f t = u := by
  constructor
  · intro member
    obtain ⟨cue, listed, same⟩ := List.mem_map.1 member
    cases cue with
    | text t => exact ⟨t, listed, Cue.text.inj same⟩
    | _ => cases same
  · rintro ⟨t, listed, rfl⟩
    exact List.mem_map.2 ⟨.text t, listed, rfl⟩

theorem text_mem_separated {separator : Cue} (silent : ∀ t, separator ≠ .text t) {t : Text}
    {pieces : List Text} : .text t ∈ separated separator pieces ↔ t ∈ pieces := by
  have other : .text t ≠ separator := fun same => silent t same.symm
  induction pieces with
  | nil => simp [separated]
  | cons piece rest ih =>
    cases rest with
    | nil => simp [separated]
    | cons next rest =>
      simp only [separated_cons, List.mem_cons, other, Cue.text.injEq, false_or]
      exact or_congr_right (ih.trans List.mem_cons)

theorem exists_of_text_mem_cutLong {limit : Nat} {u : Text} {speech : Speech}
    (member : .text u ∈ cutLong limit speech) :
    ∃ t, .text t ∈ speech ∧ u ∈ fragments limit t := by
  have silent : ∀ t, Cue.cut ≠ .text t := nofun
  obtain ⟨cue, listed, inside⟩ := List.mem_flatMap.1 member
  cases cue with
  | text t => exact ⟨t, listed, (text_mem_separated silent).1 inside⟩
  | _ => cases List.mem_singleton.1 inside

/-- Anchoring neither makes a text nor loses one. -/
theorem text_mem_anchor {t : Text} {speech : Speech} :
    .text t ∈ anchor speech ↔ .text t ∈ speech := by
  have same := filter_anchorAfter (fun cue => decide (cue = .text t)) (fun _ => rfl) [] speech
  have members := congrArg (.text t ∈ ·) same
  simpa [anchor] using members

/-! ## Commas and gaps -/

theorem dropDigitCommas_ne_nil {t : Text} (some : t ≠ []) : dropDigitCommas t ≠ [] := by
  fun_cases dropDigitCommas t with
  | case1 => exact List.cons_ne_nil _ _
  | case2 => exact List.cons_ne_nil _ _
  | case3 => exact List.cons_ne_nil _ _
  | case4 => exact absurd rfl some

/-- Texts in a row are joined, and none of them is empty. -/
theorem empty_notMem_consText {t : Text} {speech : Speech} (worded : .text [] ∉ speech) :
    .text [] ∉ consText t speech := by
  intro member
  unfold consText at member
  split at member
  · rename_i u rest
    rcases List.mem_cons.1 member with first | later
    · obtain ⟨-, none⟩ := List.append_eq_nil_iff.1 (Cue.text.inj first).symm
      exact worded (none ▸ List.mem_cons_self)
    · exact worded (List.mem_cons_of_mem _ later)
  · split at member
    · exact worded member
    · rename_i some
      rcases List.mem_cons.1 member with first | later
      · exact some (by rw [← Cue.text.inj first]; rfl)
      · exact worded later

theorem empty_notMem_joinTexts (speech : Speech) : .text [] ∉ joinTexts speech := by
  fun_induction joinTexts speech with
  | case1 => exact List.not_mem_nil
  | case2 t rest ih => exact empty_notMem_consText ih
  | case3 cue rest other ih =>
    intro member
    rcases List.mem_cons.1 member with first | later
    · exact other [] first.symm
    · exact ih later

/-- What stands between two gaps of a text has characters. -/
theorem ne_nil_of_mem_cutGaps {t piece : Text} (some : t ≠ []) (member : piece ∈ cutGaps t) :
    piece ≠ [] := by
  fun_induction cutGaps t with
  | case1 => exact absurd rfl some
  | case2 c rest after gap ih =>
    split at gap
    · obtain ⟨-, d, more, -, rfl, -⟩ := exists_of_afterGap? gap
      rcases List.mem_cons.1 member with rfl | later
      · exact List.cons_ne_nil c []
      · exact ih (List.cons_ne_nil d more) later
    · cases gap
  | case3 c rest none ih =>
    cases rest with
    | nil =>
      rw [cutGaps] at member
      exact List.mem_singleton.1 member ▸ List.cons_ne_nil c []
    | cons d rest =>
      cases pieces : cutGaps (d :: rest) with
      | nil =>
        rw [pieces] at member
        exact List.mem_singleton.1 member ▸ List.cons_ne_nil c []
      | cons first others =>
        rw [pieces] at member ih
        rcases List.mem_cons.1 member with rfl | later
        · exact List.cons_ne_nil c first
        · exact ih (List.cons_ne_nil d rest) (List.mem_cons_of_mem first later)

theorem silence_ne_text (ms : UInt32) (t : Text) : Cue.silence ms ≠ .text t :=
  fun same => by cases same

/-- A text between silences is a piece of a joined text. -/
theorem exists_of_text_mem_pauseAtGaps {ms : UInt32} {speech : Speech} {t : Text}
    (member : .text t ∈ pauseAtGaps ms speech) :
    ∃ u, .text u ∈ joinTexts speech ∧ t ∈ cutGaps u := by
  obtain ⟨cue, listed, inside⟩ := List.mem_flatMap.1 member
  cases cue with
  | text u => exact ⟨u, listed, (text_mem_separated (silence_ne_text ms)).1 inside⟩
  | _ => cases List.mem_singleton.1 inside

/-- Silence in the gaps leaves no text empty, whatever the texts were. -/
theorem empty_notMem_pauseAtGaps (ms : UInt32) (speech : Speech) :
    .text [] ∉ pauseAtGaps ms speech := by
  intro member
  obtain ⟨t, listed, piece⟩ := exists_of_text_mem_pauseAtGaps member
  have some : t ≠ [] := fun none => empty_notMem_joinTexts speech (none ▸ listed)
  exact ne_nil_of_mem_cutGaps some piece rfl

end Speech

/-! ## Numbers -/

namespace Numeral

/-- What is left of a text that is cut after its last digit has a digit. -/
theorem exists_digit_of_throughLastDigit {t : Text} (some : throughLastDigit t ≠ []) :
    ∃ c ∈ throughLastDigit t, c.isDigit = true := by
  induction t with
  | nil => exact absurd rfl some
  | cons c rest ih =>
    unfold throughLastDigit at some ⊢
    cases kept : throughLastDigit rest with
    | nil =>
      by_cases digit : c.isDigit = true
      · exact ⟨c, by simp [digit], digit⟩
      · simp [kept, digit] at some
    | cons d more =>
      obtain ⟨e, member, digit⟩ := ih (kept ▸ List.cons_ne_nil d more)
      exact ⟨e, List.mem_cons_of_mem c (kept ▸ member), digit⟩

theorem exists_digit_of_leadingRun {t : Text} (some : leadingRun t ≠ []) :
    ∃ c ∈ leadingRun t, c.isDigit = true := by
  unfold leadingRun at some ⊢
  split at some
  · exact absurd rfl some
  · exact exists_digit_of_throughLastDigit some

/-- A numeric run has a digit. -/
theorem exists_digit_of_mem_cutRuns {t run : Text} (member : .run run ∈ cutRuns t) :
    ∃ c ∈ run, c.isDigit = true := by
  fun_induction cutRuns t with
  | case1 => cases member
  | case2 c rest first none ih => exact ih (run_mem_consPlain.1 member)
  | case3 c rest first some ih =>
    rcases List.mem_cons.1 member with same | later
    · rw [Piece.run.inj same]
      exact exists_digit_of_leadingRun some
    · exact ih later

/-- What stands between numeric runs has characters. -/
theorem ne_nil_of_plain_mem_cutRuns {t u : Text} (member : .plain u ∈ cutRuns t) : u ≠ [] := by
  fun_induction cutRuns t with
  | case1 => cases member
  | case2 c rest first none ih =>
    unfold consPlain at member
    split at member
    · rename_i u' others found
      rcases List.mem_cons.1 member with same | later
      · cases same
        exact List.cons_ne_nil c u'
      · exact ih (found ▸ List.mem_cons_of_mem _ later)
    · rcases List.mem_cons.1 member with same | later
      · cases same
        exact List.cons_ne_nil c []
      · exact ih later
  | case3 c rest first some ih =>
    rcases List.mem_cons.1 member with same | later
    · cases same
    · exact ih later

/-! ## Numbers as they are said -/

section Names

variable {name : Char → Option Text}

theorem nameDigits_ne_nil (named : ∀ digit, name digit ≠ some []) {t : Text} (some : t ≠ []) :
    nameDigits name t ≠ [] := by
  obtain ⟨c, rest, rfl⟩ := List.exists_cons_of_ne_nil some
  rw [nameDigits, List.flatMap_cons]
  refine List.append_ne_nil_of_left_ne_nil ?_ _
  split
  · cases given : name c with
    | none => exact List.cons_ne_nil c []
    | some word => exact fun none => named c (given.trans (congrArg Option.some none))
  · exact List.cons_ne_nil c []

theorem intercalate_cons (between first : Text) (rest : List Text) :
    between.intercalate (first :: rest) = first ++ rest.flatMap (between ++ ·) := by
  induction rest generalizing first with
  | nil => rw [List.intercalate_singleton, List.flatMap_nil, List.append_nil]
  | cons next rest ih =>
    rw [List.intercalate_cons_cons, ih, List.flatMap_cons]
    simp only [List.append_assoc]

/-- Texts that are joined have characters if one of them has. -/
theorem intercalate_ne_nil {between : Text} {ts : List Text} {t : Text} (member : t ∈ ts)
    (some : t ≠ []) : between.intercalate ts ≠ [] := by
  obtain ⟨c, inside⟩ := List.exists_mem_of_ne_nil t some
  cases ts with
  | nil => cases member
  | cons first rest =>
    rw [intercalate_cons]
    refine List.ne_nil_of_mem (a := c) (List.mem_append.2 ?_)
    rcases List.mem_cons.1 member with rfl | later
    · exact Or.inl inside
    · exact Or.inr (List.mem_flatMap.2 ⟨t, later, List.mem_append_right between inside⟩)

theorem mem_of_mem_intercalate {between : Text} {ts : List Text} {c : Char}
    (member : c ∈ between.intercalate ts) : c ∈ between ∨ ∃ t ∈ ts, c ∈ t := by
  cases ts with
  | nil => cases member
  | cons first rest =>
    rw [intercalate_cons] at member
    rcases List.mem_append.1 member with here | later
    · exact Or.inr ⟨first, List.mem_cons_self, here⟩
    · obtain ⟨t, listed, inside⟩ := List.mem_flatMap.1 later
      refine (List.mem_append.1 inside).imp_right fun inText => ?_
      exact ⟨t, List.mem_cons_of_mem first listed, inText⟩

/-- The segments of a run hold all of it but its points. -/
theorem exists_mem_segments {t : Text} {c : Char} (member : c ∈ t) (other : c ≠ '.') :
    ∃ segment ∈ segments t, c ∈ segment := by
  have joined : ['.'].intercalate (segments t) = t := List.intercalate_splitOn '.'
  have inside : c ∈ ['.'].intercalate (segments t) := joined.symm ▸ member
  exact (mem_of_mem_intercalate inside).resolve_left fun point =>
    other (List.mem_singleton.1 point)

theorem mem_closePoints {t : Text} {c : Char} (member : c ∈ t) (other : c ≠ ' ') :
    c ∈ closePoints t := by
  fun_induction closePoints t with
  | case1 rest ih =>
    simp only [List.mem_cons, other, false_or] at member ⊢
    exact member.imp_right ih
  | case2 d rest _ ih =>
    rcases List.mem_cons.1 member with rfl | later
    · exact List.mem_cons_self
    · exact List.mem_cons_of_mem d (ih later)
  | case3 => cases member

theorem mem_intersperse {between c : Char} {t : Text} (member : c ∈ t) :
    c ∈ t.intersperse between := by
  induction t with
  | nil => cases member
  | cons d rest ih =>
    cases rest with
    | nil => exact member
    | cons e rest =>
      rw [List.intersperse_cons_cons]
      rcases List.mem_cons.1 member with rfl | later
      · exact List.mem_cons_self
      · exact List.mem_cons_of_mem d (List.mem_cons_of_mem between (ih later))

/-- A number is said in some words, unless a digit has a name without characters. -/
theorem spoken_ne_nil (named : ∀ digit, name digit ≠ some []) (reading : Reading) (point : Text)
    {run : Text} (digits : ∃ c ∈ run, c.isDigit = true) :
    reading.spoken name point run ≠ [] := by
  obtain ⟨c, member, digit⟩ := digits
  have noPoint : c ≠ '.' := fun same => absurd (same ▸ digit) (by decide)
  have noBlank : c ≠ ' ' := fun same => absurd (same ▸ digit) (by decide)
  cases reading with
  | asValue =>
    unfold Reading.spoken
    dsimp only
    split
    · exact List.ne_nil_of_mem member
    · obtain ⟨segment, listed, inside⟩ := exists_mem_segments member noPoint
      have some : segment ≠ [] := List.ne_nil_of_mem inside
      refine intercalate_ne_nil (List.mem_map_of_mem listed) ?_
      split
      · exact nameDigits_ne_nil named some
      · exact some
  | digitByDigit =>
    have apart : c ∈ closePoints (run.intersperse ' ') :=
      mem_closePoints (mem_intersperse member) noBlank
    obtain ⟨segment, listed, inside⟩ := exists_mem_segments apart noPoint
    exact intercalate_ne_nil (List.mem_map_of_mem listed)
      (nameDigits_ne_nil named (List.ne_nil_of_mem inside))

end Names

/-- A piece of a text is said in some words, unless a digit has a name without characters. -/
theorem empty_notMem_cues {speaker : Speaker}
    (named : ∀ digit, speaker.spelling digit speaker.language ≠ some []) {t : Text} (some : t ≠ [])
    (current : String) : .text [] ∉ (pieces t).flatMap (speaker.cues current) := by
  have cut : pieces t = cutRuns t := if_neg (by simpa using some)
  intro member
  obtain ⟨piece, listed, inside⟩ := List.mem_flatMap.1 member
  rw [cut] at listed
  cases piece with
  | plain u =>
    have none : [] = u := by simpa [Speaker.cues] using inside
    exact ne_nil_of_plain_mem_cutRuns listed none.symm
  | run u =>
    have none : [] = speaker.spoken u := by simpa [Speaker.cues] using inside
    exact spoken_ne_nil named speaker.reading speaker.point (exists_digit_of_mem_cutRuns listed)
      none.symm

/-- Numbers in a language of their own leave no text empty, unless a digit has a name without
characters. -/
theorem empty_notMem_bracketFrom {speaker : Speaker}
    (named : ∀ digit, speaker.spelling digit speaker.language ≠ some []) {speech : Speech}
    (worded : .text [] ∉ speech) (active current : String) :
    .text [] ∉ speaker.bracketFrom active current speech := by
  induction speech generalizing current with
  | nil => exact List.not_mem_nil
  | cons cue rest ih =>
    have later (current : String) :=
      ih (fun member => worded (List.mem_cons_of_mem cue member)) current
    cases cue with
    | text t =>
      have some : t ≠ [] := fun none => worded (none ▸ List.mem_cons_self)
      intro member
      rcases List.mem_append.1 member with here | behind
      · exact empty_notMem_cues named some current here
      · exact later current behind
    | _ =>
      intro member
      rcases List.mem_cons.1 member with same | behind
      · cases same
      · exact later _ behind

end Numeral

end Polyvoice
