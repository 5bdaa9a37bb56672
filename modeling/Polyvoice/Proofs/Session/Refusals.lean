import Polyvoice.Proofs.Session.CalledVoices

/-!
# Refused calls

A voice that refuses a call does not do what it is asked to do, and a warning says so. Nothing else
comes of it. A session whose voices refuse some calls is compared with the same session where they
do not: the same voices act in the same order but for the refused calls, the session concerns the
same voices behind every request, and the log has one warning for each refused call
(`refusals_contained`).
-/

namespace Polyvoice

variable {H : Type}

/-- The reasons for which voices refuse operations. -/
abbrev Refusals (H : Type) := (h : H) → (op : Op) → Option String

/-- Whether an event comes from an operation that is refused. Controls are no operations. -/
def Event.isRefused (refusals : Refusals H) (event : Event H) : Bool :=
  match event.action with
  | .op op => (refusals event.voice op).isSome
  | .control _ => false

/-- Whether a note tells that a call was refused. -/
def Note.isFailure : Note → Bool
  | .callFailed _ _ => true
  | _ => false

namespace Backend

/-- The backend whose voices refuse some operations, and answer to the others as they did. -/
def refusing (backend : Backend H) (refusals : Refusals H) : Backend H where
  answer h op :=
    match refusals h op with
    | some reason => .refused reason
    | none => backend.answer h op
  obeys := backend.obeys

/-- The warning for a call, if it is refused. It names the voice. -/
def warning? (roster : Roster H) (backend : Backend H) (call : Call H) : Option Record :=
  match backend.answer call.voice call.op with
  | .refused reason =>
    some ⟨.warning, s!"backend call failed: {reason}",
      [("voice", (roster.voice call.voice).name)]⟩
  | .done => none
  | .ignored => none

variable {backend : Backend H} {refusals : Refusals H} {roster : Roster H}

/-! ## Calls -/

theorem callEvents_refusing (call : Call H) :
    (backend.refusing refusals).callEvents call =
      (backend.callEvents call).filter (!·.isRefused refusals) := by
  cases refused : refusals call.voice call.op with
  | none =>
    have same : (backend.refusing refusals).answer call.voice call.op =
        backend.answer call.voice call.op := by simp only [refusing, refused]
    unfold callEvents
    rw [same]
    cases backend.answer call.voice call.op <;> simp [Event.isRefused, refused]
  | some reason =>
    have changed : (backend.refusing refusals).answer call.voice call.op = .refused reason := by
      simp only [refusing, refused]
    unfold callEvents
    rw [changed]
    cases backend.answer call.voice call.op <;> simp [Event.isRefused, refused]

/-- Of several calls, those that are refused leave no event, and the others leave theirs. -/
theorem events_refusing (calls : List (Call H)) :
    (backend.refusing refusals).events calls =
      (backend.events calls).filter (!·.isRefused refusals) := by
  unfold events
  rw [List.filter_flatMap, funext callEvents_refusing]

/-- What voices are told is not a matter of refusals. -/
theorem controlEvents_refusing (told : List (H × Control)) :
    (backend.refusing refusals).controlEvents told =
      (backend.controlEvents told).filter (!·.isRefused refusals) := by
  refine (List.filter_eq_self.2 fun event member => ?_).symm
  obtain ⟨entry, -, rfl⟩ := List.mem_map.1 member
  rfl

theorem isFailure_of_mem_callNotes {call : Call H} {note : Note}
    (member : note ∈ backend.callNotes roster call) : note.isFailure = true := by
  unfold callNotes at member
  split at member
  · cases List.mem_singleton.1 member
    rfl
  · cases member
  · cases member

/-- All that is noted of calls are failures. -/
theorem isFailure_of_mem_notes {calls : List (Call H)} {note : Note}
    (member : note ∈ backend.notes roster calls) : note.isFailure = true := by
  obtain ⟨call, -, noted⟩ := List.mem_flatMap.1 member
  exact isFailure_of_mem_callNotes noted

/-- The log has one warning for each refused call. -/
theorem map_record_notes (calls : List (Call H)) :
    (backend.notes roster calls).map Note.record = calls.filterMap (backend.warning? roster) := by
  unfold notes
  induction calls with
  | nil => rfl
  | cons call rest ih =>
    rw [List.flatMap_cons, List.map_append, ih, List.filterMap_cons]
    unfold callNotes warning?
    cases backend.answer call.voice call.op <;> rfl

end Backend

/-! ## Compiling -/

variable [DecidableEq H]

namespace Delivery

variable {roster : Roster H}

theorem State.filter_isFailure_notes (s : State H) (cue : Cue) :
    (s.notes roster cue).filter Note.isFailure = [] := by
  unfold notes
  split
  case h_1 =>
    -- a voice may be missing for the language, and another one may take over
    unfold turnNotes
    dsimp only
    rw [List.filter_append]
    refine List.append_eq_nil_iff.2 ⟨?_, ?_⟩
    · split
      · split <;> rfl
      · rfl
    · split <;> rfl
  all_goals first | rfl | (split <;> rfl)

theorem State.filter_isFailure_notesDuring (s : State H) (speech : Speech) :
    (s.notesDuring roster speech).filter Note.isFailure = [] := by
  induction speech generalizing s with
  | nil => rfl
  | cons cue rest ih =>
    rw [notesDuring, List.filter_append, filter_isFailure_notes, ih, List.append_nil]

end Delivery

/-- No call is made, and none fails, while a speech is compiled. -/
theorem filter_isFailure_compileNotes (settings : Settings) (roster : Roster H)
    (spelling : DigitSpelling) (speech : Speech) :
    (compileNotes settings roster spelling speech).filter Note.isFailure = [] :=
  Delivery.State.filter_isFailure_notesDuring _ _

/-! ## Sessions -/

namespace Session

variable {setup : Setup H} {refusals : Refusals H} {session : Session H}

/-- On a request, the voices do what they would do, refused operations left aside. -/
theorem events_refusing (request : Request) :
    session.events { setup with backend := setup.backend.refusing refusals } request =
      (session.events setup request).filter (!·.isRefused refusals) := by
  cases request with
  | speak speech => exact Backend.events_refusing (session.speechCalls setup speech)
  | cancel => exact Backend.controlEvents_refusing (session.told setup .cancel)
  | pause on => exact Backend.controlEvents_refusing (session.told setup (.pause on))
  | configure settings => rfl

/-- What a session remembers does not depend on the answers that it gets. -/
theorem next_refusing (request : Request) :
    session.next { setup with backend := setup.backend.refusing refusals } request =
      session.next setup request :=
  rfl

theorem after_refusing (requests : List Request) :
    session.after { setup with backend := setup.backend.refusing refusals } requests =
      session.after setup requests :=
  rfl

theorem eventsDuring_refusing (requests : List Request) :
    session.eventsDuring { setup with backend := setup.backend.refusing refusals } requests =
      (session.eventsDuring setup requests).filter (!·.isRefused refusals) := by
  induction requests generalizing session with
  | nil => rfl
  | cons request rest ih =>
    rw [eventsDuring, eventsDuring, List.filter_append, events_refusing, next_refusing, ih]

/-! ## The log -/

/-- Of a request, the log has one warning for each call that is refused. -/
theorem warnings_notes (request : Request) :
    ((session.notes setup request).filter Note.isFailure).map Note.record =
      (compiled setup session.settings [request]).filterMap
        (setup.backend.warning? setup.roster) := by
  cases request with
  | speak speech =>
    have quiet : (compileNotes session.settings setup.roster setup.spelling speech).filter
        Note.isFailure = [] := filter_isFailure_compileNotes _ _ _ _
    have loud : (setup.backend.notes setup.roster (session.speechCalls setup speech)).filter
        Note.isFailure = setup.backend.notes setup.roster (session.speechCalls setup speech) :=
      List.filter_eq_self.2 fun note member => Backend.isFailure_of_mem_notes member
    rw [notes, List.filter_append, quiet, loud, List.nil_append, Backend.map_record_notes,
      compiled, compiled, List.append_nil]
    rfl
  | cancel => simp [notes, compiled, Note.isFailure]
  | pause on => simp [notes, compiled, Note.isFailure]
  | configure settings => rfl

/-- What else is noted of a request does not depend on the answers. -/
theorem notes_refusing (request : Request) :
    (session.notes { setup with backend := setup.backend.refusing refusals } request).filter
        (!·.isFailure) =
      (session.notes setup request).filter (!·.isFailure) := by
  cases request with
  | speak speech =>
    have dropped (backend : Backend H) :
        (backend.notes setup.roster (session.speechCalls setup speech)).filter (!·.isFailure) =
          [] :=
      List.filter_eq_nil_iff.2 fun note member => by
        simp [Backend.isFailure_of_mem_notes member]
    exact (List.filter_append _ _).trans
      ((congrArg _ ((dropped _).trans (dropped _).symm)).trans (List.filter_append _ _).symm)
  | _ => rfl

theorem compiled_cons (setup : Setup H) (session : Session H) (request : Request)
    (rest : List Request) :
    compiled setup session.settings (request :: rest) =
      compiled setup session.settings [request] ++
        compiled setup (session.next setup request).settings rest := by
  cases request with
  | speak speech =>
    rw [compiled, compiled, compiled, List.append_nil]
    rfl
  | _ => rfl

theorem warnings_notesDuring (setup : Setup H) (session : Session H) (requests : List Request) :
    ((session.notesDuring setup requests).filter Note.isFailure).map Note.record =
      (compiled setup session.settings requests).filterMap
        (setup.backend.warning? setup.roster) := by
  induction requests generalizing session with
  | nil => rfl
  | cons request rest ih =>
    have split := compiled_cons setup session request rest
    rw [notesDuring, List.filter_append, List.map_append, warnings_notes, ih, split,
      List.filterMap_append]

theorem notesDuring_refusing (requests : List Request) :
    (session.notesDuring { setup with backend := setup.backend.refusing refusals }
        requests).filter (!·.isFailure) =
      (session.notesDuring setup requests).filter (!·.isFailure) := by
  induction requests generalizing session with
  | nil => rfl
  | cons request rest ih =>
    rw [notesDuring, notesDuring, List.filter_append, List.filter_append, notes_refusing,
      next_refusing, ih]

theorem compiled_refusing (settings : Settings) (requests : List Request) :
    compiled { setup with backend := setup.backend.refusing refusals } settings requests =
      compiled setup settings requests := by
  induction requests generalizing settings with
  | nil => rfl
  | cons request rest ih =>
    cases request with
    | speak speech => exact congrArg (_ ++ ·) (ih settings)
    | cancel => exact ih settings
    | pause on => exact ih settings
    | configure settings => exact ih settings

/-- **Refused calls are contained.** Whatever voices refuse, they do what they would do otherwise,
in the same order, but for the refused operations; the session concerns the same voices behind each
request; and the log is the same but for one warning for each refused call, which names the voice,
in the order of the calls. -/
theorem refusals_contained (setup : Setup H) (refusals : Refusals H) (settings : Settings)
    (requests : List Request) :
    let refused := { setup with backend := setup.backend.refusing refusals }
    let session : Session H := start settings
    session.eventsDuring refused requests =
        (session.eventsDuring setup requests).filter (!·.isRefused refusals) ∧
      (∀ n, (session.after refused (requests.take n)).voices refused =
        (session.after setup (requests.take n)).voices setup) ∧
      ((session.notesDuring refused requests).filter Note.isFailure).map Note.record =
        (compiled setup settings requests).filterMap
          (refused.backend.warning? setup.roster) ∧
      (session.notesDuring refused requests).filter (!·.isFailure) =
        (session.notesDuring setup requests).filter (!·.isFailure) := by
  intro refused session
  refine ⟨eventsDuring_refusing requests, fun n => ?_, ?_, notesDuring_refusing requests⟩
  · exact congrArg (voices setup) (after_refusing (requests.take n))
  · have warned := warnings_notesDuring refused session requests
    rw [warned]
    exact congrArg _ (compiled_refusing settings requests)

end Session

end Polyvoice
