import Mathlib.Data.List.Forall2
import Polyvoice.Compilation

/-!
# Markers and the text between them

What the passes over a speech leave as it is. Some cues are firm: no pass adds, drops or moves one.
Language changes, silences and cuts are kept too, but passes put more of them between the texts
(`Keeps`). The text of a speech falls into stretches between its firm markers; as long as texts are
not rewritten, all that may be missing of a stretch are gaps between ideographs (`Thinned`).

Each pass is shown to keep the markers, and the stretches up to gaps; a prepared speech follows by
going through the passes in turn (`prepared_keeps`).
-/

namespace Polyvoice

namespace Cue

/-- Cues that no pass adds, drops or moves, and over which no text is moved. -/
def isFirm : Cue → Bool
  | .bookmark _ => true
  | .spelling _ => true
  | .pitch _ => true
  | .rate _ => true
  | .volume _ => true
  | .phonetic _ _ => true
  | .unknown _ => true
  | _ => false

/-- Language changes. -/
def isLanguage : Cue → Bool
  | .language _ => true
  | _ => false

/-- Silences. -/
def isSilence : Cue → Bool
  | .silence _ => true
  | _ => false

/-- Ends of fragments. -/
def isCut : Cue → Bool
  | .cut => true
  | _ => false

/-- Cues that are neither texts nor language changes. -/
def isMarker : Cue → Bool
  | .text _ => false
  | .language _ => false
  | _ => true

/-- The words of a cue, if it is a text. -/
def words : Cue → Text
  | .text t => t
  | _ => []

theorem text_or_silent (cue : Cue) : (∃ t, cue = .text t) ∨ ∀ t, cue ≠ .text t :=
  (Classical.em _).imp_right fun silent t is => silent ⟨t, is⟩

theorem language_or_still (cue : Cue) :
    (∃ code, cue = .language code) ∨ ∀ code, cue ≠ .language code :=
  (Classical.em _).imp_right fun still code is => still ⟨code, is⟩

theorem isLanguage_of_isMarker {cue : Cue} (marker : cue.isMarker = true) :
    cue.isLanguage = false := by
  cases cue with
  | language code => cases marker
  | _ => rfl

end Cue

/-- Whether a piece of a text has at most two segments if it is a run. -/
def Numeral.Piece.isShort : Numeral.Piece → Bool
  | .plain _ => true
  | .run t => (Numeral.segments t).length ≤ 2

namespace Speech

/-! ## Markers that are kept -/

/-- The markers of a speech that are still there behind a pass. -/
structure Keeps (before after : Speech) : Prop where
  /-- The firm markers are the same, in the same order. -/
  firm : after.filter Cue.isFirm = before.filter Cue.isFirm
  /-- All language changes are there, in their order. -/
  languages : (before.filter Cue.isLanguage).Sublist (after.filter Cue.isLanguage)
  /-- All silences are there, in their order. -/
  silences : (before.filter Cue.isSilence).Sublist (after.filter Cue.isSilence)
  /-- All cuts are there, in their order. -/
  cuts : (before.filter Cue.isCut).Sublist (after.filter Cue.isCut)

namespace Keeps

theorem refl (speech : Speech) : Keeps speech speech where
  firm := rfl
  languages := List.Sublist.refl _
  silences := List.Sublist.refl _
  cuts := List.Sublist.refl _

theorem trans {p q r : Speech} (first : Keeps p q) (second : Keeps q r) : Keeps p r where
  firm := second.firm.trans first.firm
  languages := first.languages.trans second.languages
  silences := first.silences.trans second.silences
  cuts := first.cuts.trans second.cuts

/-- Texts may be put in or left out. -/
theorem of_filter {p q : Speech}
    (same : ∀ keep : Cue → Bool, (∀ t, keep (.text t) = false) →
      q.filter keep = p.filter keep) :
    Keeps p q where
  firm := same _ fun _ => rfl
  languages := same Cue.isLanguage (fun _ => rfl) ▸ List.Sublist.refl _
  silences := same Cue.isSilence (fun _ => rfl) ▸ List.Sublist.refl _
  cuts := same Cue.isCut (fun _ => rfl) ▸ List.Sublist.refl _

end Keeps

/-! ## Stretches of text -/

/-- Puts a text in front of the first stretch. -/
def joinFirst (t : Text) : List Text → List Text
  | [] => [t]
  | first :: rest => (t ++ first) :: rest

/-- The text in front of the first firm marker, between each two of them, and behind the last. -/
def stretches : Speech → List Text
  | [] => [[]]
  | cue :: rest => if cue.isFirm then [] :: stretches rest else joinFirst cue.words (stretches rest)

theorem joinFirst_append (t u : Text) (rest : List Text) :
    joinFirst (t ++ u) rest = joinFirst t (joinFirst u rest) := by
  cases rest with
  | nil => rfl
  | cons first rest => rw [joinFirst, joinFirst, joinFirst, List.append_assoc]

theorem stretches_ne_nil (speech : Speech) : stretches speech ≠ [] := by
  cases speech with
  | nil => exact List.cons_ne_nil _ _
  | cons cue rest =>
    rw [stretches]
    split
    · exact List.cons_ne_nil _ _
    · cases stretches rest <;> exact List.cons_ne_nil _ _

theorem joinFirst_nil (speech : Speech) : joinFirst [] (stretches speech) = stretches speech := by
  cases found : stretches speech with
  | nil => exact absurd found (stretches_ne_nil speech)
  | cons first rest => rfl

/-- A text, less some gaps between ideographs. -/
inductive Thinned : Text → Text → Prop where
  | nil : Thinned [] []
  | keep {c : Char} {t u : Text} : Thinned t u → Thinned (c :: t) (c :: u)
  | gap {left right : Char} {blanks t u : Text} : isIdeograph left = true →
    isIdeograph right = true → blanks ≠ [] → (∀ c ∈ blanks, isBlank c = true) →
    Thinned (right :: t) u →
    Thinned (left :: (blanks ++ right :: t)) (left :: u)

namespace Thinned

theorem refl (t : Text) : Thinned t t := by
  induction t with
  | nil => exact .nil
  | cons c t ih => exact .keep ih

theorem append {t u t' u' : Text} (first : Thinned t t') (second : Thinned u u') :
    Thinned (t ++ u) (t' ++ u') := by
  induction first with
  | nil => exact second
  | keep _ ih => exact .keep ih
  | gap left right some blank _ ih =>
    rw [List.cons_append, List.cons_append, List.append_assoc, List.cons_append]
    exact .gap left right some blank ih

end Thinned

/-- What follows a gap: some blanks, and a text that begins with an ideograph. -/
theorem exists_of_afterGap? {t after : Text} (gap : afterGap? t = some after) :
    ∃ blanks c rest, t = blanks ++ after ∧ after = c :: rest ∧ isIdeograph c = true ∧
      blanks ≠ [] ∧ ∀ b ∈ blanks, isBlank b = true := by
  have whole : t.takeWhile isBlank ++ t.dropWhile isBlank = t := List.takeWhile_append_dropWhile
  unfold afterGap? at gap
  split at gap
  · rename_i blank blanks c rest before behind
    split at gap
    · rename_i ideograph
      cases gap
      refine ⟨t.takeWhile isBlank, c, rest, ?_, rfl, ideograph, ?_, fun b member => ?_⟩
      · rw [behind] at whole
        exact whole.symm
      · rw [before]
        exact List.cons_ne_nil _ _
      · exact List.all_eq_true.1 List.all_takeWhile b member
    · cases gap
  · cases gap

/-- Cutting a text at its gaps thins it. -/
theorem thinned_cutGaps (t : Text) : Thinned t (cutGaps t).flatten := by
  fun_induction cutGaps t with
  | case1 => exact .nil
  | case2 c rest after gap ih =>
    split at gap
    · rename_i ideograph
      obtain ⟨blanks, d, more, rfl, rfl, next, some, blank⟩ := exists_of_afterGap? gap
      exact .gap ideograph next some blank ih
    · cases gap
  | case3 c rest none ih =>
    rw [Text.flatten_consFirst]
    exact .keep ih

/-! ## Passes that put cues in place of texts -/

/-- One speech has, in place of each text of another one, texts and loose cues whose words are what
`relates` makes of it. -/
inductive Expands (relates : Text → Text → Prop) : Speech → Speech → Prop where
  | nil : Expands relates [] []
  | keep {p q : Speech} (cue : Cue) : Expands relates p q → Expands relates (cue :: p) (cue :: q)
  | text {t : Text} {cues p q : Speech} : (∀ cue ∈ cues, cue.isFirm = false) →
    relates t (cues.flatMap Cue.words) → Expands relates p q →
    Expands relates (.text t :: p) (cues ++ q)

namespace Expands

variable {relates : Text → Text → Prop} {p q : Speech}

theorem sublist (expands : Expands relates p q) {keep : Cue → Bool}
    (silent : ∀ t, keep (.text t) = false) : (p.filter keep).Sublist (q.filter keep) := by
  induction expands with
  | nil => exact List.Sublist.refl _
  | keep cue _ ih =>
    rw [List.filter_cons, List.filter_cons]
    split
    · exact ih.cons_cons cue
    · exact ih
  | @text t cues p q _ _ _ ih =>
    rw [List.filter_cons_of_neg (by simp [silent]), List.filter_append]
    exact ih.trans (List.sublist_append_right _ _)

theorem filter_isFirm (expands : Expands relates p q) :
    q.filter Cue.isFirm = p.filter Cue.isFirm := by
  induction expands with
  | nil => rfl
  | keep cue _ ih => rw [List.filter_cons, List.filter_cons, ih]
  | @text t cues p q loose _ _ ih =>
    have none : cues.filter Cue.isFirm = [] :=
      List.filter_eq_nil_iff.2 fun cue member => by simp [loose cue member]
    rw [List.filter_append, none, List.nil_append, ih,
      List.filter_cons_of_neg (by simp [Cue.isFirm])]

theorem keeps (expands : Expands relates p q) : Keeps p q where
  firm := expands.filter_isFirm
  languages := expands.sublist fun _ => rfl
  silences := expands.sublist fun _ => rfl
  cuts := expands.sublist fun _ => rfl

/-- Loose cues in front put their words in front of the first stretch. -/
theorem stretches_append {cues : Speech} (loose : ∀ cue ∈ cues, cue.isFirm = false)
    (speech : Speech) :
    stretches (cues ++ speech) = joinFirst (cues.flatMap Cue.words) (stretches speech) := by
  induction cues with
  | nil => exact (joinFirst_nil speech).symm
  | cons cue cues ih =>
    have here : cue.isFirm = false := loose cue List.mem_cons_self
    have later := ih fun other member => loose other (List.mem_cons_of_mem cue member)
    rw [List.cons_append, stretches, here, if_neg Bool.false_ne_true, later, ← joinFirst_append,
      List.flatMap_cons]

theorem forall₂_joinFirst {t u : Text} {xs ys : List Text}
    (append : ∀ {t u t' u'}, relates t t' → relates u u' → relates (t ++ u) (t' ++ u'))
    (first : relates t u) (rest : List.Forall₂ relates xs ys) :
    List.Forall₂ relates (joinFirst t xs) (joinFirst u ys) := by
  cases rest with
  | nil => exact .cons first .nil
  | cons second rest => exact .cons (append first second) rest

/-- What is said of each text can be said of each stretch. -/
theorem forall₂_stretches (expands : Expands relates p q) (refl : ∀ t, relates t t)
    (append : ∀ {t u t' u'}, relates t t' → relates u u' → relates (t ++ u) (t' ++ u')) :
    List.Forall₂ relates (stretches p) (stretches q) := by
  induction expands with
  | nil => exact .cons (refl []) .nil
  | keep cue _ ih =>
    rw [stretches, stretches]
    split
    · exact .cons (refl []) ih
    · exact forall₂_joinFirst append (refl cue.words) ih
  | @text t cues p q loose said _ ih =>
    rw [stretches_append loose]
    exact forall₂_joinFirst append said ih

theorem stretches_eq {p q : Speech} (expands : Expands Eq p q) : stretches q = stretches p := by
  have append : ∀ {t u t' u' : Text}, t = t' → u = u' → t ++ u = t' ++ u' := by
    rintro t u _ _ rfl rfl
    rfl
  have pointwise := expands.forall₂_stretches (fun _ => rfl) append
  rw [List.forall₂_eq_eq_eq] at pointwise
  exact pointwise.symm

/-- A pass that puts cues in place of each text, one text at a time. -/
theorem flatMap {expand : Cue → Speech}
    (same : ∀ cue, (∀ t, cue ≠ .text t) → expand cue = [cue])
    (loose : ∀ t, ∀ cue ∈ expand (.text t), cue.isFirm = false)
    (said : ∀ t, relates t ((expand (.text t)).flatMap Cue.words)) (speech : Speech) :
    Expands relates speech (speech.flatMap expand) := by
  induction speech with
  | nil => exact .nil
  | cons cue rest ih =>
    rw [List.flatMap_cons]
    rcases cue.text_or_silent with ⟨t, rfl⟩ | silent
    · exact .text (loose t) (said t) ih
    · rw [same cue silent]
      exact .keep cue ih

end Expands

/-! ## Pieces of a text with a cue between each two -/

theorem separated_cons (separator : Cue) (t u : Text) (rest : List Text) :
    separated separator (t :: u :: rest) =
      .text t :: separator :: separated separator (u :: rest) :=
  rfl

theorem mem_separated {separator cue : Cue} {pieces : List Text}
    (member : cue ∈ separated separator pieces) : cue = separator ∨ ∃ t, cue = .text t := by
  induction pieces with
  | nil => cases member
  | cons piece rest ih =>
    cases rest with
    | nil => exact Or.inr ⟨piece, List.mem_singleton.1 member⟩
    | cons next rest =>
      rcases List.mem_cons.1 member with first | later
      · exact Or.inr ⟨piece, first⟩
      · rcases List.mem_cons.1 later with second | later
        · exact Or.inl second
        · exact ih later

theorem flatMap_words_separated {separator : Cue} (silent : separator.words = [])
    (pieces : List Text) : (separated separator pieces).flatMap Cue.words = pieces.flatten := by
  induction pieces with
  | nil => rfl
  | cons piece rest ih =>
    cases rest with
    | nil => simp [separated, Cue.words]
    | cons next rest =>
      rw [separated_cons, List.flatMap_cons, List.flatMap_cons, ih, silent, List.flatten_cons]
      rfl

/-! ## The passes -/

theorem expands_mapText {relates : Text → Text → Prop} {f : Text → Text}
    (said : ∀ t, relates t (f t)) (speech : Speech) :
    Expands relates speech (speech.mapText f) := by
  induction speech with
  | nil => exact .nil
  | cons cue rest ih =>
    cases cue with
    | text t =>
      have loose : ∀ cue ∈ [Cue.text (f t)], cue.isFirm = false := by
        intro cue member
        rw [List.mem_singleton.1 member]
        rfl
      have words : relates t ([Cue.text (f t)].flatMap Cue.words) := by
        rw [List.flatMap_singleton]
        exact said t
      exact .text loose words ih
    | _ => exact .keep _ ih

/-- Texts without a normal form stay as they are. -/
theorem expands_normalize_off (speech : Speech) :
    Expands Eq speech (speech.normalize .off) :=
  expands_mapText (fun _ => rfl) speech

theorem expands_cutLong (limit : Nat) (speech : Speech) :
    Expands Eq speech (cutLong limit speech) := by
  refine .flatMap (fun cue other => ?_) (fun t cue member => ?_) (fun t => ?_) speech
  · cases cue with
    | text t => exact absurd rfl (other t)
    | _ => rfl
  · rcases mem_separated member with rfl | ⟨u, rfl⟩
    · rfl
    · rfl
  · have joined : (fragments limit t).flatten = t := flatten_fragmentsFrom limit 0 t
    calc t = (fragments limit t).flatten := joined.symm
      _ = (separated .cut (fragments limit t)).flatMap Cue.words :=
        (flatMap_words_separated rfl _).symm

/-- Texts in a row are joined, which moves no text over another cue. -/
theorem filter_consText {keep : Cue → Bool} (silent : ∀ t, keep (.text t) = false) (t : Text)
    (speech : Speech) : (consText t speech).filter keep = speech.filter keep := by
  unfold consText
  split
  · rw [List.filter_cons_of_neg (by simp [silent]), List.filter_cons_of_neg (by simp [silent])]
  · split
    · rfl
    · rw [List.filter_cons_of_neg (by simp [silent])]

theorem stretches_consText (t : Text) (speech : Speech) :
    stretches (consText t speech) = joinFirst t (stretches speech) := by
  unfold consText
  split
  · rename_i u rest
    calc stretches (.text (t ++ u) :: rest)
        = joinFirst (t ++ u) (stretches rest) := rfl
      _ = joinFirst t (joinFirst u (stretches rest)) := joinFirst_append t u _
  · split
    · rename_i empty
      rw [List.isEmpty_iff.1 empty, joinFirst_nil]
    · rfl

theorem filter_joinTexts {keep : Cue → Bool} (silent : ∀ t, keep (.text t) = false)
    (speech : Speech) : (joinTexts speech).filter keep = speech.filter keep := by
  fun_induction joinTexts speech with
  | case1 => rfl
  | case2 t rest ih =>
    rw [filter_consText silent, ih, List.filter_cons_of_neg (by simp [silent])]
  | case3 cue rest _ ih => rw [List.filter_cons, List.filter_cons, ih]

theorem stretches_joinTexts (speech : Speech) :
    stretches (joinTexts speech) = stretches speech := by
  fun_induction joinTexts speech with
  | case1 => rfl
  | case2 t rest ih =>
    rw [stretches_consText, ih]
    rfl
  | case3 cue rest _ ih => rw [stretches, stretches, ih]

/-- Silences take the place of gaps. -/
theorem expands_pauseAtGaps (ms : UInt32) (speech : Speech) :
    Expands Thinned (joinTexts speech) (pauseAtGaps ms speech) := by
  refine .flatMap (fun cue other => ?_) (fun t cue member => ?_) (fun t => ?_) _
  · cases cue with
    | text t => exact absurd rfl (other t)
    | _ => rfl
  · rcases mem_separated member with rfl | ⟨u, rfl⟩
    · rfl
    · rfl
  · rw [flatMap_words_separated rfl]
    exact thinned_cutGaps t

theorem keeps_pauseAtGaps (ms : UInt32) (speech : Speech) :
    Keeps speech (pauseAtGaps ms speech) :=
  (Keeps.of_filter fun _ silent => filter_joinTexts silent speech).trans
    (expands_pauseAtGaps ms speech).keeps

theorem thinned_pauseAtGaps (ms : UInt32) (speech : Speech) :
    List.Forall₂ Thinned (stretches speech) (stretches (pauseAtGaps ms speech)) := by
  have pointwise := (expands_pauseAtGaps ms speech).forall₂_stretches .refl .append
  rwa [stretches_joinTexts] at pointwise

/-! ## Numbers -/

/-- All runs of a speech have at most two segments, so that it is not rewritten where numbers are
read as values. -/
def ShortRuns (speech : Speech) : Prop :=
  ∀ cue ∈ speech, ∀ piece ∈ Numeral.pieces cue.words, piece.isShort = true

instance (speech : Speech) : Decidable speech.ShortRuns :=
  inferInstanceAs
    (Decidable (∀ cue ∈ speech, ∀ piece ∈ Numeral.pieces cue.words, piece.isShort = true))

section Numbers

open Numeral (Speaker pieces segments)

variable {speaker : Speaker} {current : String} {t : Text}

theorem isFirm_cues {piece : Numeral.Piece} : ∀ cue ∈ speaker.cues current piece,
    cue.isFirm = false := by
  intro cue member
  cases piece with
  | plain t => rw [List.mem_singleton.1 member]; rfl
  | run t =>
    simp only [Speaker.cues, List.mem_cons, List.not_mem_nil, or_false] at member
    rcases member with rfl | rfl | rfl <;> rfl

theorem isFirm_flatMap_cues {ps : List Numeral.Piece} :
    ∀ cue ∈ ps.flatMap (speaker.cues current), cue.isFirm = false := by
  intro cue member
  obtain ⟨piece, -, inside⟩ := List.mem_flatMap.1 member
  exact isFirm_cues cue inside

/-- A speaker that reads values leaves a run of at most two segments as it is written. -/
theorem spoken_of_short (value : speaker.reading = .asValue) {run : Text}
    (short : (segments run).length ≤ 2) : speaker.spoken run = run := by
  rw [Speaker.spoken, value]
  exact if_pos short

theorem flatMap_text_pieces (t : Text) : (pieces t).flatMap Numeral.Piece.text = t := by
  unfold pieces
  split
  · rename_i empty
    rw [List.isEmpty_iff.1 empty]
    rfl
  · rw [List.flatMap_def]
    exact Numeral.flatten_cutRuns t

/-- The words of a text whose runs stay as they are written. -/
theorem flatMap_words_cues (value : speaker.reading = .asValue)
    (short : ∀ piece ∈ pieces t, piece.isShort = true) :
    ((pieces t).flatMap (speaker.cues current)).flatMap Cue.words = t := by
  have same : ∀ piece ∈ pieces t,
      (speaker.cues current piece).flatMap Cue.words = piece.text := by
    intro piece member
    cases piece with
    | plain u => simp [Speaker.cues, Cue.words, Numeral.Piece.text]
    | run u =>
      have spoken := spoken_of_short value (of_decide_eq_true (short (.run u) member))
      simp [Speaker.cues, Cue.words, Numeral.Piece.text, spoken]
  calc ((pieces t).flatMap (speaker.cues current)).flatMap Cue.words
      = (pieces t).flatMap fun piece => (speaker.cues current piece).flatMap Cue.words :=
        List.flatMap_assoc
    _ = (pieces t).flatMap Numeral.Piece.text := by
        rw [List.flatMap_def, List.flatMap_def, List.map_congr_left same]
    _ = t := flatMap_text_pieces t

theorem expands_bracketFrom {relates : Text → Text → Prop} (speaker : Speaker)
    (active current : String) {speech : Speech}
    (said : ∀ t, .text t ∈ speech → ∀ current,
      relates t (((pieces t).flatMap (speaker.cues current)).flatMap Cue.words)) :
    Expands relates speech (speaker.bracketFrom active current speech) := by
  induction speech generalizing current with
  | nil => exact .nil
  | cons cue rest ih =>
    have later (current : String) := ih current fun t member =>
      said t (List.mem_cons_of_mem cue member)
    cases cue with
    | text t => exact .text isFirm_flatMap_cues (said t List.mem_cons_self current) (later current)
    | _ => exact .keep _ (later _)

end Numbers

/-! ## Anchoring -/

/-- The cues that no anchor moves: all but the language changes. -/
theorem filter_anchorAfter (keep : Cue → Bool) (unheld : ∀ code, keep (.language code) = false)
    (held speech : Speech) :
    (anchorAfter held speech).filter keep = (held ++ speech).filter keep := by
  fun_induction anchorAfter held speech with
  | case1 held => rw [List.append_nil]
  | case2 held code rest ih =>
    rw [List.filter_cons_of_neg (by simp [unheld]), ih, List.filter_append, List.filter_append,
      List.filter_cons_of_neg (by simp [unheld])]
  | case3 held t rest ih =>
    rw [List.filter_append, List.filter_append, List.filter_cons, List.filter_cons, ih,
      List.nil_append]
  | case4 held cue rest _ _ ih => rw [ih, List.append_assoc, List.singleton_append]

/-- Only markers wait, so that all other cues keep their order. -/
theorem filter_anchorAfter_of_waiting {keep : Cue → Bool}
    (markers : ∀ cue, cue.isMarker = true → keep cue = false) {held : Speech}
    (free : held.filter keep = []) (speech : Speech) :
    (anchorAfter held speech).filter keep = speech.filter keep := by
  fun_induction anchorAfter held speech with
  | case1 held => exact free
  | case2 held code rest ih => rw [List.filter_cons, List.filter_cons, ih free]
  | case3 held t rest ih =>
    rw [List.filter_append, free, List.nil_append, List.filter_cons, List.filter_cons, ih rfl]
  | case4 held cue rest other text ih =>
    have waits : keep cue = false := by
      refine markers cue ?_
      cases cue with
      | text t => exact absurd rfl (text t)
      | language code => exact absurd rfl (other code)
      | _ => rfl
    have none : (held ++ [cue]).filter keep = [] := by
      rw [List.filter_append, free, List.filter_cons_of_neg (by simp [waits])]
      rfl
    rw [ih none, List.filter_cons_of_neg (by simp [waits])]

/-- An anchored speech has the markers of the speech. -/
theorem keeps_anchor (speech : Speech) : Keeps speech (anchor speech) where
  firm := filter_anchorAfter Cue.isFirm (fun _ => rfl) [] speech
  languages := by
    have same : (anchor speech).filter Cue.isLanguage = speech.filter Cue.isLanguage :=
      filter_anchorAfter_of_waiting (fun _ => Cue.isLanguage_of_isMarker) rfl speech
    rw [same]
  silences := filter_anchorAfter Cue.isSilence (fun _ => rfl) [] speech ▸ .refl _
  cuts := filter_anchorAfter Cue.isCut (fun _ => rfl) [] speech ▸ .refl _

theorem stretches_append_congr {p q : Speech} (same : stretches p = stretches q)
    (front : Speech) : stretches (front ++ p) = stretches (front ++ q) := by
  induction front with
  | nil => exact same
  | cons cue front ih => rw [List.cons_append, List.cons_append, stretches, stretches, ih]

theorem stretches_language (code : Option String) (speech : Speech) :
    stretches (.language code :: speech) = stretches speech :=
  joinFirst_nil speech

/-- Only language changes are moved, and they part no stretch. -/
theorem stretches_anchorAfter (held speech : Speech) :
    stretches (anchorAfter held speech) = stretches (held ++ speech) := by
  fun_induction anchorAfter held speech with
  | case1 held => rw [List.append_nil]
  | case2 held code rest ih =>
    rw [stretches_language, ih]
    exact stretches_append_congr (stretches_language code rest).symm held
  | case3 held t rest ih =>
    refine stretches_append_congr ?_ held
    rw [stretches, stretches, ih, List.nil_append]
  | case4 held cue rest _ _ ih => rw [ih, List.append_assoc, List.singleton_append]

/-! ## Prepared speeches -/

/-- A speech without the commas between digits, if they are dropped. -/
def grouped (settings : Settings) (speech : Speech) : Speech :=
  if settings.dropsDigitCommas then speech.mapText dropDigitCommas else speech

/-- A speech with silence in the gaps between ideographs, if they get some. -/
def spaced (settings : Settings) (speech : Speech) : Speech :=
  match settings.gapSilence? with
  | some ms => pauseAtGaps ms speech
  | none => speech

/-- A speech with its long texts cut, if there is a limit. -/
def limited (settings : Settings) (speech : Speech) : Speech :=
  match settings.fragmentLimit with
  | some limit => cutLong limit.toNat speech
  | none => speech

section Prepared

variable {settings : Settings} {spelling : DigitSpelling} {language : String}

/-- The passes over a speech, one inside the other. -/
theorem prepared_eq (speech : Speech) :
    speech.prepared settings spelling language =
      anchor (normalize settings.normalForm (limited settings (spaced settings
        ((settings.numberSpeaker spelling language).bracket language
          (grouped settings speech))))) :=
  rfl

theorem keeps_mapText (f : Text → Text) (speech : Speech) : Keeps speech (speech.mapText f) := by
  have expands : Expands (fun _ _ => True) speech (speech.mapText f) :=
    expands_mapText (fun _ => trivial) speech
  exact expands.keeps

theorem keeps_grouped (speech : Speech) : Keeps speech (grouped settings speech) := by
  unfold grouped
  split
  · exact keeps_mapText dropDigitCommas speech
  · exact .refl speech

theorem keeps_bracket (speech : Speech) :
    Keeps speech ((settings.numberSpeaker spelling language).bracket language speech) := by
  have expands : Expands (fun _ _ => True) speech
      ((settings.numberSpeaker spelling language).bracket language speech) :=
    expands_bracketFrom _ _ _ fun _ _ _ => trivial
  exact expands.keeps

theorem keeps_spaced (speech : Speech) : Keeps speech (spaced settings speech) := by
  unfold spaced
  split
  · exact keeps_pauseAtGaps _ speech
  · exact .refl speech

theorem keeps_limited (speech : Speech) : Keeps speech (limited settings speech) := by
  unfold limited
  split
  · exact (expands_cutLong _ speech).keeps
  · exact .refl speech

/-- Every pass keeps the markers, whatever it makes of the texts. -/
theorem keeps_prepared (speech : Speech) :
    Keeps speech (speech.prepared settings spelling language) := by
  rw [prepared_eq]
  refine .trans ?_ (keeps_anchor _)
  refine .trans ?_ (keeps_mapText settings.normalForm.apply _)
  refine .trans ?_ (keeps_limited _)
  refine .trans ?_ (keeps_spaced _)
  exact .trans (keeps_grouped speech) (keeps_bracket _)

theorem stretches_limited (speech : Speech) :
    stretches (limited settings speech) = stretches speech := by
  unfold limited
  split
  · exact (expands_cutLong _ speech).stretches_eq
  · rfl

theorem thinned_spaced (speech : Speech) : List.Forall₂ Thinned (stretches speech)
    (stretches (spaced settings speech)) := by
  unfold spaced
  split
  · exact thinned_pauseAtGaps _ speech
  · exact List.forall₂_same.2 fun t _ => .refl t

variable {speech : Speech}

theorem stretches_bracket (value : settings.reading = .asValue) (short : speech.ShortRuns) :
    stretches ((settings.numberSpeaker spelling language).bracket language speech) =
      stretches speech := by
  have expands : Expands Eq speech
      ((settings.numberSpeaker spelling language).bracket language speech) :=
    expands_bracketFrom _ language language fun t member _ =>
      (flatMap_words_cues value (short (.text t) member)).symm
  exact expands.stretches_eq

/-- As long as no pass rewrites a text, only gaps may be missing. -/
theorem stretches_prepared (commas : settings.dropsDigitCommas = false)
    (normal : settings.normalForm = .off) :
    stretches (speech.prepared settings spelling language) =
      stretches (spaced settings
        ((settings.numberSpeaker spelling language).bracket language speech)) := by
  have same : grouped settings speech = speech := by
    rw [grouped, commas]
    rfl
  rw [prepared_eq, same, normal, anchor, stretches_anchorAfter, List.nil_append,
    (expands_normalize_off _).stretches_eq, stretches_limited]

end Prepared

/-- **Preparing a speech loses no marker, and takes no text over one.** The firm markers are the
same, and the other markers are all there. Where no pass rewrites texts, the text between two firm
markers is the same up to gaps between ideographs, and the very same if gaps get no silence. -/
theorem prepared_keeps (settings : Settings) (spelling : DigitSpelling) (language : String)
    (speech : Speech) :
    Keeps speech (speech.prepared settings spelling language) ∧
      (settings.dropsDigitCommas = false → settings.normalForm = .off →
        settings.reading = .asValue → speech.ShortRuns →
        List.Forall₂ Thinned (stretches speech)
            (stretches (speech.prepared settings spelling language)) ∧
          (settings.gapFactor = 0 →
            stretches (speech.prepared settings spelling language) = stretches speech)) := by
  refine ⟨keeps_prepared speech, fun commas normal value short => ?_⟩
  have bracketed : stretches ((settings.numberSpeaker spelling language).bracket language speech) =
      stretches speech := stretches_bracket value short
  rw [stretches_prepared commas normal]
  constructor
  · rw [← bracketed]
    exact thinned_spaced _
  · intro even
    have silent : settings.gapSilence? = none := if_pos even
    rw [spaced, silent]
    exact bracketed

/-- Cuts, silences and language changes come in, and nothing else changes: a Chinese text with a
gap, a number for another voice, and a bookmark between two texts. -/
theorem prepared_keeps_gap :
    let settings : Settings :=
      { Settings.default with
        gapFactor := 2, fragmentLimit := some 2, numberLanguage := some "en" }
    let speech : Speech :=
      [.text "中 文".toList, .bookmark 1, .text "a b 7".toList, .language none]
    speech.ShortRuns ∧ stretches speech = ["中 文".toList, "a b 7".toList] ∧
      stretches (speech.prepared settings (fun _ _ => none) "zh") =
        ["中文".toList, "a b 7".toList] ∧
      List.Forall₂ Thinned (stretches speech)
        (stretches (speech.prepared settings (fun _ _ => none) "zh")) := by
  intro settings speech
  have short : speech.ShortRuns := by decide +kernel
  refine ⟨short, by decide, by decide +kernel, ?_⟩
  exact ((prepared_keeps settings (fun _ _ => none) "zh" speech).2 rfl rfl rfl short).1

end Speech

end Polyvoice
