import Polyvoice.Delivery.State
import Polyvoice.Log

/-!
# Steps of a delivery

A delivery is a machine with output: for each cue it goes on to a next state (`State.next`) and
makes calls (`State.calls`). What it notes in the log is a function of the same state and cue
(`State.notes`) and has no influence on either.
-/

namespace Polyvoice.Delivery.State

variable {H : Type} [DecidableEq H]

/-- The state after a cue. -/
def next (roster : Roster H) (s : State H) (cue : Cue) : State H :=
  let voice := roster.voice s.voice
  match cue, voice.engine with
  | .language code, _ => s.turned roster code
  | .cut, _ => s.flushed roster
  | .silence _, _ => s.flushed roster
  | .unknown _, _ => s
  | .text t, .chunk => s.addSpoken t
  | .bookmark id, .chunk => s.addChunks [.directive (.mark id)]
  | .spelling on, .chunk =>
    { s.addChunks [.directive (.spelling on)] with spelling := on, spellDue := false }
  | .rate setting, .chunk =>
    s.addChunks [.directive (.rate (Scale.ratePercentage (setting.resolve voice.rate)))]
  | .pitch setting, .chunk =>
    s.addChunks [.directive (.pitch (Scale.pitchPercentage (setting.resolve voice.pitch)))]
  | .volume setting, .chunk =>
    s.addChunks [.directive (.volume (Scale.volumeLevel (setting.resolve voice.volume)))]
  | .phonetic _ _, .chunk => s
  | .text t, .markup => (s.openElements roster).addPiece (.text t)
  | .bookmark id, .markup => s.addPiece (.bookmark id)
  | .spelling on, .markup => s.stageSpelling on
  | .pitch setting, .markup =>
    { s with staging := s.staging.stage .pitch [("absmiddle", setting.offset voice.pitch)] }
  | .volume setting, .markup => s.stageSetting .volume "level" setting voice.volume
  | .rate setting, .markup => s.stageSetting .rate "absspeed" setting voice.rate
  | .phonetic ipa fallback, .markup => s.addPhonetic roster ipa fallback
  | .text t, .plain => s.addChunks [.text (if s.spelling then t.intersperse ' ' else t)]
  | .bookmark _, .plain => s.flushed roster
  | .spelling on, .plain => { s with spelling := on }
  | .pitch _, .plain => s
  | .rate _, .plain => s
  | .volume _, .plain => s
  | .phonetic _ _, .plain => s

/-- The calls that a cue makes. -/
def calls (roster : Roster H) (s : State H) : Cue → List (Call H)
  | .language code => if s.turns roster code then s.flushCalls roster else []
  | .cut => s.flushCalls roster
  | .silence ms => s.flushCalls roster ++ [⟨s.voice, .silence ms⟩]
  | .bookmark id =>
    if roster.engine s.voice = .plain then
      s.flushCalls roster ++ [⟨s.voice, .bookmark id⟩]
    else []
  | _ => []

/-- What is noted of a language change. -/
def turnNotes (roster : Roster H) (s : State H) (code : Option String) : List Note :=
  let unresolved := match code with
    | some code =>
      if code ≠ s.language ∧ roster.voiceFor code = none then [.noVoice code] else []
    | none => []
  let (h, language) := target roster code
  unresolved ++
    if s.turns roster code then
      [.voiceChanged (roster.voice s.voice) (roster.voice h) language]
    else []

/-- What is noted of a cue. -/
def notes (roster : Roster H) (s : State H) (cue : Cue) : List Note :=
  match cue, roster.engine s.voice with
  | .language code, _ => s.turnNotes roster code
  | .unknown kind, _ => [.notUnderstood kind]
  | .phonetic _ _, .chunk => [.notForChunk cue]
  | .phonetic ipa _, .markup =>
    match Phones.ofIpa ipa with
    | .ok _ => []
    | .error fault => [.phonesNotRead fault]
  | .phonetic _ _, .plain => [.notForPlain cue]
  | .pitch _, .plain => [.notForPlain cue]
  | .rate _, .plain => [.notForPlain cue]
  | .volume _, .plain => [.notForPlain cue]
  | _, _ => []

end Polyvoice.Delivery.State
