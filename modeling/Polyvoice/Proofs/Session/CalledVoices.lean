import Mathlib.Data.List.Nodup
import Mathlib.Data.List.Induction
import Polyvoice.Session

/-!
# The voices that a session concerns

A session keeps the voices that were called in the order of their first call, none of them twice.
What it keeps is a function of the calls that were compiled so far (`called_after`), whether the
backend answered to them or not. To pause or to go on is told once to each of these voices, or to
the default voice if there are none; to stop is told once to each of them and to the default voice,
and nobody is told anything else (`voices_after`).
-/

namespace Polyvoice

variable {H : Type} [DecidableEq H]

namespace Session

variable {setup : Setup H} {session : Session H}

/-! ## Calls and voices -/

/-- The calls that are compiled for the speeches among some requests, each with the settings in
force by then. -/
def compiled (setup : Setup H) (settings : Settings) : List Request → List (Call H)
  | [] => []
  | .speak speech :: rest =>
    compileCalls settings setup.roster setup.spelling speech ++ compiled setup settings rest
  | .configure later :: rest => compiled setup later rest
  | .cancel :: rest => compiled setup settings rest
  | .pause _ :: rest => compiled setup settings rest

/-- To remember voices one after the other keeps the first of each. -/
theorem foldl_remember (voices : List H) : voices.foldl remember [] = voices.eraseDups := by
  induction voices using List.reverseRecOn with
  | nil => rfl
  | append_singleton voices h ih =>
    rw [List.foldl_append, ih, List.eraseDups_append]
    by_cases present : h ∈ voices
    · simp [remember, List.mem_eraseDups, present, List.removeAll]
    · have alone : [h].eraseDups = [h] := List.eraseDups_cons
      simp [remember, List.mem_eraseDups, present, List.removeAll, alone]

theorem nodup_foldl_remember {called : List H} (distinct : called.Nodup) (voices : List H) :
    (voices.foldl remember called).Nodup := by
  induction voices generalizing called with
  | nil => exact distinct
  | cons h rest ih => exact ih (nodup_remember distinct h)

/-- The voices of a session are those of the calls that were compiled, in their order. -/
theorem called_after (setup : Setup H) (session : Session H) (requests : List Request) :
    (session.after setup requests).called =
      ((compiled setup session.settings requests).map Call.voice).foldl remember
        session.called := by
  induction requests generalizing session with
  | nil => rfl
  | cons request rest ih =>
    refine (ih (session.next setup request)).trans ?_
    cases request with
    | speak speech =>
      rw [compiled, List.map_append, List.foldl_append]
      rfl
    | _ => rfl

theorem nodup_called_after (setup : Setup H) (settings : Settings) (requests : List Request) :
    ((start settings).after setup requests).called.Nodup := by
  rw [called_after]
  exact nodup_foldl_remember List.nodup_nil _

omit [DecidableEq H] in
theorem nodup_voices (distinct : session.called.Nodup) : (session.voices setup).Nodup := by
  unfold voices
  split
  · exact List.nodup_singleton _
  · exact distinct

/-! ## Who is told what -/

/-- On a request, each of these voices is told so once, and nobody is told anything else. The
voices that do as they are told do so once, and nothing else happens. -/
structure TellsOnce (setup : Setup H) (session : Session H) (request : Request)
    (control : Control) (voices : List H) : Prop where
  told : ∀ entry, (session.told setup request).count entry =
    if entry.2 = control ∧ entry.1 ∈ voices then 1 else 0
  events : ∀ event, (session.events setup request).count event =
    if event.action = .control control ∧ event.voice ∈ voices ∧
      setup.backend.obeys event.voice control then 1 else 0

omit [DecidableEq H] in
theorem mem_map_told {voices : List H} {control : Control} {entry : H × Control} :
    entry ∈ voices.map (·, control) ↔ entry.2 = control ∧ entry.1 ∈ voices := by
  obtain ⟨h, other⟩ := entry
  simp only [List.mem_map, Prod.mk.injEq]
  constructor
  · rintro ⟨voice, member, rfl, rfl⟩
    exact ⟨rfl, member⟩
  · rintro ⟨rfl, member⟩
    exact ⟨h, member, rfl, rfl⟩

omit [DecidableEq H] in
theorem mem_controlEvents {backend : Backend H} {told : List (H × Control)} {event : Event H} :
    event ∈ backend.controlEvents told ↔
      ∃ control, event.action = .control control ∧ (event.voice, control) ∈ told ∧
        backend.obeys event.voice control := by
  obtain ⟨voice, action⟩ := event
  simp only [Backend.controlEvents, List.mem_map, List.mem_filter, Event.mk.injEq]
  constructor
  · rintro ⟨⟨h, control⟩, ⟨member, obeys⟩, rfl, rfl⟩
    exact ⟨control, rfl, member, obeys⟩
  · rintro ⟨control, rfl, member, obeys⟩
    exact ⟨(voice, control), ⟨member, obeys⟩, rfl, rfl⟩

omit [DecidableEq H] in
/-- Voices that are told something once do it at most once. -/
theorem nodup_controlEvents {backend : Backend H} {told : List (H × Control)}
    (distinct : told.Nodup) : (backend.controlEvents told).Nodup := by
  refine (distinct.filter _).map fun entry other same => ?_
  obtain ⟨voice, action⟩ := Event.mk.inj same
  exact Prod.ext voice (Action.control.inj action)

/-- Where distinct voices are told so, each of them is told once. -/
theorem tellsOnce_of_told {request : Request} {control : Control} {voices distinct : List H}
    (told : session.told setup request = distinct.map (·, control))
    (events : session.events setup request =
      setup.backend.controlEvents (session.told setup request))
    (nodup : distinct.Nodup) (same : ∀ h, h ∈ distinct ↔ h ∈ voices) :
    TellsOnce setup session request control voices := by
  have once : (session.told setup request).Nodup := by
    rw [told]
    exact nodup.map fun h other same => (Prod.mk.inj same).1
  have member (entry : H × Control) : entry ∈ session.told setup request ↔
      entry.2 = control ∧ entry.1 ∈ voices := by
    rw [told, mem_map_told, same]
  constructor
  case told =>
    intro entry
    rw [once.count]
    exact if_congr (member entry) rfl rfl
  case events =>
    intro event
    rw [events, (nodup_controlEvents once).count]
    refine if_congr ?_ rfl rfl
    rw [mem_controlEvents]
    constructor
    · rintro ⟨other, action, entry, obeys⟩
      obtain ⟨rfl, concerned⟩ := (member _).1 entry
      exact ⟨action, concerned, obeys⟩
    · rintro ⟨action, concerned, obeys⟩
      exact ⟨control, action, (member _).2 ⟨rfl, concerned⟩, obeys⟩

/-- **The voices of a session.** They are the voices of all calls compiled so far, in the order of
their first call and none of them twice, or else the default voice. To cancel stops each of them and
the default voice once; to pause and to go on is told to each of them once. -/
theorem voices_after (setup : Setup H) (settings : Settings) (requests : List Request) :
    let session := (start settings).after setup requests
    let addressed := (compiled setup settings requests).map Call.voice
    session.voices setup =
        (if addressed = [] then [setup.roster.default] else addressed.eraseDups) ∧
      (session.voices setup).Nodup ∧
      TellsOnce setup session .cancel .stop (setup.roster.default :: session.voices setup) ∧
      ∀ on, TellsOnce setup session (.pause on) (if on then .pause else .resume)
        (session.voices setup) := by
  intro session addressed
  have called : session.called = addressed.eraseDups :=
    (called_after setup (start settings) requests).trans (foldl_remember addressed)
  have distinct : (session.voices setup).Nodup :=
    nodup_voices (nodup_called_after setup settings requests)
  refine ⟨?_, distinct, ?_, ?_⟩
  · unfold voices
    rw [called]
    cases addressed with
    | nil => rfl
    | cons h rest =>
      rw [List.eraseDups_cons]
      rfl
  · refine tellsOnce_of_told rfl rfl (nodup_remember distinct _) fun h => ?_
    rw [stoppedVoices, mem_remember, List.mem_cons, or_comm]
  · intro on
    exact tellsOnce_of_told rfl rfl distinct fun h => Iff.rfl

end Session

end Polyvoice
