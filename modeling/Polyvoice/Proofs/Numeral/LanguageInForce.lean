import Polyvoice.Proofs.Speech.Markers

/-!
# The language in force around numbers

A walk over a speech meets each cue while some language is in force. In a bracketed speech, a text
has a share of several cues. The walk meets the runs in it while the number language is in force,
and all else while the language is in force in which the walk over the speech itself meets the text
(`met_bracket`). A share shows the text too: one only has to take away the changes around its runs,
and to join its pieces with the runs as they are written (`Share.source`).
-/

namespace Polyvoice.Numeral

open Speech (flatMap_text_pieces)

/-! ## Walks over a speech -/

/-- The language in force behind a cue. -/
def languageBehind (active current : String) : Cue → String
  | .language code => code.getD active
  | _ => current

/-- The language in force behind a speech. -/
def languageAfter (active current : String) (speech : Speech) : String :=
  speech.foldl (languageBehind active) current

/-- The cues of a speech, each with the language in force where it is met. -/
def met (active current : String) : Speech → List (Cue × String)
  | [] => []
  | cue :: rest => (cue, current) :: met active (languageBehind active current cue) rest

section Walks

variable {active current : String}

/-- Firm cues say nothing of a language. -/
theorem languageBehind_of_isFirm {cue : Cue} (firm : cue.isFirm = true) :
    languageBehind active current cue = current := by
  cases cue with
  | language code => cases firm
  | _ => rfl

theorem languageAfter_append (p q : Speech) :
    languageAfter active current (p ++ q) =
      languageAfter active (languageAfter active current p) q :=
  List.foldl_append

theorem met_append (p q : Speech) :
    met active current (p ++ q) =
      met active current p ++ met active (languageAfter active current p) q := by
  induction p generalizing current with
  | nil => rfl
  | cons cue rest ih => exact congrArg ((cue, current) :: ·) ih

end Walks

/-! ## Shares of a bracketed speech -/

/-- A cue of a speech that is met in `language`, with what becomes of it. -/
inductive Share where
  /-- A cue that is no text, and stays as it is. -/
  | other (language : String) (cue : Cue) (silent : ∀ t, cue ≠ .text t)
  /-- A text, in its plain pieces and runs. -/
  | text (language : String) (ps : List Piece) (whole : pieces (ps.flatMap Piece.text) = ps)

namespace Share

/-- The cue that a share is made of, and the language in force where it is met. There are no changes
around the runs of a text, its runs are as they are written, and its pieces are joined. -/
def source : Share → Cue × String
  | other language cue _ => (cue, language)
  | text language ps _ => (.text (ps.flatMap Piece.text), language)

end Share

/-- A piece of a text that is met in `language`: each of its cues with the language in force where
it is met. A run stands between two changes. -/
def Speaker.metPiece (speaker : Speaker) (language : String) : Piece → List (Cue × String)
  | .plain t => [(.text t, language)]
  | .run t =>
    [(.language (some speaker.language), language),
      (.text (speaker.spoken t), speaker.language),
      (.language (some language), speaker.language)]

/-- The cues of a share, each with the language in force where it is met. -/
def Speaker.metShare (speaker : Speaker) : Share → List (Cue × String)
  | .other language cue _ => [(cue, language)]
  | .text language ps _ => ps.flatMap (speaker.metPiece language)

section Bracketing

variable {speaker : Speaker} {active current : String}

/-- Behind a piece, the language in force is back. -/
theorem languageAfter_cues (piece : Piece) :
    languageAfter active current (speaker.cues current piece) = current := by
  cases piece <;> rfl

theorem met_cues (piece : Piece) :
    met active current (speaker.cues current piece) = speaker.metPiece current piece := by
  cases piece <;> rfl

theorem languageAfter_flatMap_cues (ps : List Piece) :
    languageAfter active current (ps.flatMap (speaker.cues current)) = current := by
  induction ps with
  | nil => rfl
  | cons piece ps ih => rw [List.flatMap_cons, languageAfter_append, languageAfter_cues, ih]

theorem met_flatMap_cues (ps : List Piece) :
    met active current (ps.flatMap (speaker.cues current)) =
      ps.flatMap (speaker.metPiece current) := by
  induction ps with
  | nil => rfl
  | cons piece ps ih =>
    rw [List.flatMap_cons, met_append, met_cues, languageAfter_cues, ih, List.flatMap_cons]

theorem bracketFrom_of_silent {cue : Cue} (silent : ∀ t, cue ≠ .text t) (rest : Speech) :
    speaker.bracketFrom active current (cue :: rest) =
      cue :: speaker.bracketFrom active (languageBehind active current cue) rest := by
  cases cue with
  | text t => exact absurd rfl (silent t)
  | _ => rfl

/-- The changes around runs do not count: wherever a speech begins, the same language is in force
behind it. -/
theorem languageAfter_bracketFrom (speech : Speech) :
    languageAfter active current (speaker.bracketFrom active current speech) =
      languageAfter active current speech := by
  induction speech generalizing current with
  | nil => rfl
  | cons cue rest ih =>
    rcases cue.text_or_silent with ⟨t, rfl⟩ | silent
    · rw [Speaker.bracketFrom, languageAfter_append, languageAfter_flatMap_cues, ih]
      rfl
    · rw [bracketFrom_of_silent silent]
      exact ih

/-- The shares of a speech, wherever it begins. -/
theorem exists_shares (speaker : Speaker) (active current : String) (speech : Speech) :
    ∃ shares : List Share,
      met active current (speaker.bracketFrom active current speech) =
        shares.flatMap speaker.metShare ∧
      met active current speech = shares.map Share.source := by
  induction speech generalizing current with
  | nil => exact ⟨[], rfl, rfl⟩
  | cons cue rest ih =>
    obtain ⟨shares, bracketed, sources⟩ := ih (languageBehind active current cue)
    rcases cue.text_or_silent with ⟨t, rfl⟩ | silent
    · have joined : (pieces t).flatMap Piece.text = t := flatMap_text_pieces t
      have whole : pieces ((pieces t).flatMap Piece.text) = pieces t := congrArg pieces joined
      refine ⟨.text current (pieces t) whole :: shares, ?_, ?_⟩
      · have later : met active current (speaker.bracketFrom active current rest) =
            shares.flatMap speaker.metShare := bracketed
        rw [Speaker.bracketFrom, met_append, met_flatMap_cues, languageAfter_flatMap_cues, later,
          List.flatMap_cons]
        rfl
      · rw [met, sources, List.map_cons, Share.source, joined]
    · refine ⟨.other current cue silent :: shares, ?_, ?_⟩
      · rw [bracketFrom_of_silent silent, met, bracketed, List.flatMap_cons]
        rfl
      · rw [met, sources, List.map_cons]
        rfl

end Bracketing

/-- **Numbers leave the language in force alone.** A bracketed speech falls into shares, one for
each cue of the speech. Runs are met in the number language, and all else is met in the language in
which the cue that it comes from is met in the speech. Without the changes around runs, with runs as
they are written and the pieces of texts joined, the shares are the speech; and the language behind
it is the same. -/
theorem met_bracket (speaker : Speaker) (active : String) (speech : Speech) :
    (∃ shares : List Share,
      met active active (speaker.bracket active speech) = shares.flatMap speaker.metShare ∧
      met active active speech = shares.map Share.source) ∧
      languageAfter active active (speaker.bracket active speech) =
        languageAfter active active speech :=
  ⟨exists_shares speaker active active speech, languageAfter_bracketFrom speech⟩

end Polyvoice.Numeral
