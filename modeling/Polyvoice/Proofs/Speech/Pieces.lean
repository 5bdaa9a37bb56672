import Polyvoice.Proofs.Speech.Markers
import Polyvoice.Proofs.Unicode.Parting

/-!
# Speeches in pieces

A speech whose texts are cut in pieces (`inPieces`), and how that goes with the other passes.
Fragments end with blanks, so that a text may be brought into a normal form before it is cut or
behind that (`apply_flatten_fragments`); and a speech may be anchored before its texts are cut or
behind that (`anchor_inPieces`).
-/

namespace Polyvoice.Speech

/-! ## Fragments and normal forms -/

/-- Texts each of which ends with a blank, the last one aside. -/
inductive BlankEnds : List Text → Prop where
  | last (t : Text) : BlankEnds [t]
  | cons {b : Char} {rest : List Text} (t : Text) : isBlank b = true → BlankEnds rest →
    BlankEnds ((t ++ [b]) :: rest)

theorem BlankEnds.consFirst {ts : List Text} (ends : BlankEnds ts) (c : Char) :
    BlankEnds (Text.consFirst c ts) := by
  cases ends with
  | last t => exact .last (c :: t)
  | cons t blank rest => exact .cons (c :: t) blank rest

theorem blankEnds_fragmentsFrom (limit count : Nat) (t : Text) :
    BlankEnds (fragmentsFrom limit count t) := by
  induction t generalizing count with
  | nil => exact .last []
  | cons c rest ih =>
    unfold fragmentsFrom
    split
    · rename_i ends
      exact .cons [] ends.1 (ih 0)
    · exact (ih (count + 1)).consFirst c

/-- Texts that end with blanks may be brought into a normal form one by one. -/
theorem BlankEnds.apply_flatten {ts : List Text} (ends : BlankEnds ts) (form : NormalForm) :
    (ts.map form.apply).flatten = form.apply ts.flatten := by
  induction ends with
  | last t => simp
  | @cons b rest t blank _ ih =>
    rw [List.map_cons, List.flatten_cons, ih, List.flatten_cons, form.apply_append blank]

/-- The fragments of a text in a normal form join to the text in its normal form. -/
theorem apply_flatten_fragments (form : NormalForm) (limit : Nat) (t : Text) :
    ((fragments limit t).map form.apply).flatten = form.apply t := by
  have ends : BlankEnds (fragments limit t) := blankEnds_fragmentsFrom limit 0 t
  have joined : (fragments limit t).flatten = t := flatten_fragmentsFrom limit 0 t
  rw [ends.apply_flatten, joined]

/-! ## Speeches in pieces -/

/-- A speech with each text in pieces that are cut apart. -/
def inPieces (pieces : Text → List Text) (speech : Speech) : Speech :=
  speech.flatMap fun
    | .text t => separated .cut (pieces t)
    | cue => [cue]

theorem inPieces_text (pieces : Text → List Text) (t : Text) (rest : Speech) :
    inPieces pieces (.text t :: rest) = separated .cut (pieces t) ++ inPieces pieces rest :=
  rfl

theorem inPieces_of_silent {cue : Cue} (silent : ∀ t, cue ≠ .text t)
    (pieces : Text → List Text) (rest : Speech) :
    inPieces pieces (cue :: rest) = cue :: inPieces pieces rest := by
  cases cue with
  | text t => exact absurd rfl (silent t)
  | _ => rfl

/-- Texts that change and are not cut are in one piece each. -/
theorem inPieces_single (f : Text → Text) (speech : Speech) :
    inPieces (fun t => [f t]) speech = mapText f speech := by
  induction speech with
  | nil => rfl
  | cons cue rest ih =>
    cases cue with
    | text t => exact congrArg (Cue.text (f t) :: ·) ih
    | _ => exact congrArg (_ :: ·) ih

section Filters

variable {keep : Cue → Bool} (texts : ∀ t, keep (.text t) = true) (cuts : keep .cut = true)

include texts cuts

theorem filter_separated (ts : List Text) :
    (separated .cut ts).filter keep = separated .cut ts := by
  refine List.filter_eq_self.2 fun cue member => ?_
  rcases mem_separated member with rfl | ⟨t, rfl⟩
  · exact cuts
  · exact texts t

/-- Cues other than texts and cuts may be left out before texts are cut in pieces or behind that. -/
theorem filter_inPieces (pieces : Text → List Text) (speech : Speech) :
    (inPieces pieces speech).filter keep = inPieces pieces (speech.filter keep) := by
  induction speech with
  | nil => rfl
  | cons cue rest ih =>
    rcases cue.text_or_silent with ⟨t, rfl⟩ | silent
    · rw [inPieces_text, List.filter_append, filter_separated texts cuts, ih,
        List.filter_cons_of_pos (texts t), inPieces_text]
    · rw [inPieces_of_silent silent, List.filter_cons, List.filter_cons, ih]
      split
      · exact (inPieces_of_silent silent pieces _).symm
      · rfl

end Filters

theorem mapText_append (f : Text → Text) (p q : Speech) :
    mapText f (p ++ q) = mapText f p ++ mapText f q :=
  List.map_append

theorem mapText_separated (f : Text → Text) (ts : List Text) :
    mapText f (separated .cut ts) = separated .cut (ts.map f) := by
  induction ts with
  | nil => rfl
  | cons t rest ih =>
    cases rest with
    | nil => rfl
    | cons u rest =>
      rw [separated_cons, List.map_cons, List.map_cons, separated_cons, ← List.map_cons, ← ih]
      rfl

theorem mapText_inPieces (f : Text → Text) (pieces : Text → List Text) (speech : Speech) :
    mapText f (inPieces pieces speech) = inPieces (fun t => (pieces t).map f) speech := by
  induction speech with
  | nil => rfl
  | cons cue rest ih =>
    have split (ps : Text → List Text) :
        inPieces ps (cue :: rest) = inPieces ps [cue] ++ inPieces ps rest := by
      simp [inPieces]
    rw [split, split, mapText_append, ih]
    congr 1
    cases cue with
    | text t => simp [inPieces, mapText_separated]
    | _ => rfl

/-- What waits for a text goes in front of its first piece, and nothing waits behind the last. -/
theorem anchorAfter_separated {ts : List Text} (some : ts ≠ []) (held rest : Speech) :
    anchorAfter held (separated .cut ts ++ rest) =
      held ++ separated .cut ts ++ anchorAfter [] rest := by
  induction ts generalizing held with
  | nil => exact absurd rfl some
  | cons t ts ih =>
    cases ts with
    | nil => simp [separated, anchorAfter]
    | cons u ts =>
      have later : anchorAfter [.cut] (separated .cut (u :: ts) ++ rest) =
          [.cut] ++ separated .cut (u :: ts) ++ anchorAfter [] rest :=
        ih (List.cons_ne_nil u ts) [.cut]
      rw [separated_cons]
      simp [anchorAfter, later]

/-- Texts may be cut before or after the speech is anchored. -/
theorem anchor_inPieces {pieces : Text → List Text} (some : ∀ t, pieces t ≠ [])
    (speech : Speech) : anchor (inPieces pieces speech) = inPieces pieces (anchor speech) := by
  suffices whole : ∀ held : Speech, inPieces pieces held = held →
      anchorAfter held (inPieces pieces speech) = inPieces pieces (anchorAfter held speech) from
    whole [] rfl
  intro held
  have split (p q : Speech) : inPieces pieces (p ++ q) = inPieces pieces p ++ inPieces pieces q :=
    List.flatMap_append
  fun_induction anchorAfter held speech with
  | case1 held =>
    intro textless
    exact textless.symm
  | case2 held code rest ih =>
    intro textless
    exact congrArg (Cue.language code :: ·) (ih textless)
  | case3 held t rest ih =>
    intro textless
    rw [inPieces_text, anchorAfter_separated (some t), ih rfl, split, textless, inPieces_text,
      List.append_assoc]
  | case4 held cue rest language text ih =>
    intro textless
    have kept : inPieces pieces [cue] = [cue] := inPieces_of_silent text pieces []
    have stays : inPieces pieces (held ++ [cue]) = held ++ [cue] := by rw [split, textless, kept]
    rw [inPieces_of_silent text]
    cases cue with
    | text t => exact absurd rfl (text t)
    | language code => exact absurd rfl (language code)
    | _ => exact ih stays

/-- Texts may change before or after the speech is anchored. -/
theorem anchor_mapText (f : Text → Text) (speech : Speech) :
    anchor (mapText f speech) = mapText f (anchor speech) := by
  rw [← inPieces_single, ← inPieces_single]
  exact anchor_inPieces (fun t => List.cons_ne_nil (f t) []) speech

end Polyvoice.Speech
