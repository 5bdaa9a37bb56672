import Polyvoice.Session

/-!
# Which voices stay paused

To pause a session and to let it go on concerns the voices that were called so far; the default
voice stands in as long as there are none. So the voices that are told to pause need not be those
that are told to resume: a default voice that is paused before the first call, and is not among the
voices that are called from then on, is never told to resume. `leftPaused_iff` says that this is the
only way for a voice to stay paused.
-/

namespace Polyvoice

/-! ## What voices were told -/

section Told

variable {H : Type} {told more : List (H × Control)} {h : H}

/-- A voice was told to pause, and not to resume since then. -/
def LeftPaused (told : List (H × Control)) (h : H) : Prop :=
  ∃ before after, told = before ++ (h, .pause) :: after ∧ (h, .resume) ∉ after

/-- What a voice was told first counts as long as it was not told otherwise. -/
theorem leftPaused_append :
    LeftPaused (told ++ more) h ↔ LeftPaused more h ∨ LeftPaused told h ∧ (h, .resume) ∉ more := by
  constructor
  · rintro ⟨before, after, split, last⟩
    rcases List.append_eq_append_iff.1 split with ⟨between, -, rest⟩ | ⟨between, first, rest⟩
    · exact Or.inl ⟨between, after, rest, last⟩
    · cases between with
      | nil => exact Or.inl ⟨[], after, rest.symm, last⟩
      | cons entry between =>
        obtain ⟨rfl, rfl⟩ := List.cons.inj rest
        have notBetween : (h, .resume) ∉ between :=
          fun member => last (List.mem_append_left more member)
        have notMore : (h, .resume) ∉ more := fun member => last (List.mem_append_right _ member)
        exact Or.inr ⟨⟨before, between, first, notBetween⟩, notMore⟩
  · rintro (⟨before, after, rfl, last⟩ | ⟨⟨before, after, rfl, last⟩, notMore⟩)
    · exact ⟨told ++ before, after, (List.append_assoc _ _ _).symm, last⟩
    · refine ⟨before, after ++ more, List.append_assoc _ _ _, fun member => ?_⟩
      rcases List.mem_append.1 member with early | late
      · exact last early
      · exact notMore late

theorem LeftPaused.mem (left : LeftPaused told h) : (h, .pause) ∈ told := by
  obtain ⟨before, after, rfl, -⟩ := left
  exact List.mem_append_right before List.mem_cons_self

/-- Nothing changes for a voice that is told neither to pause nor to resume. -/
theorem leftPaused_append_of_notMem (pause : (h, .pause) ∉ more) (resume : (h, .resume) ∉ more) :
    LeftPaused (told ++ more) h ↔ LeftPaused told h := by
  rw [leftPaused_append]
  constructor
  · rintro (late | ⟨early, -⟩)
    · exact absurd late.mem pause
    · exact early
  · exact fun early => Or.inr ⟨early, resume⟩

/-- To be told to pause or to go on settles it for the voice that is told. -/
theorem leftPaused_append_single {voice : H} {on : Bool} :
    LeftPaused (told ++ [(voice, if on then .pause else .resume)]) h ↔
      h = voice ∧ on = true ∨ h ≠ voice ∧ LeftPaused told h := by
  by_cases same : h = voice
  · subst same
    rw [leftPaused_append]
    cases on with
    | true => exact iff_of_true (Or.inl ⟨[], [], rfl, List.not_mem_nil⟩) (Or.inl ⟨rfl, rfl⟩)
    | false =>
      refine iff_of_false ?_ ?_
      · rintro (now | ⟨-, absent⟩)
        · cases List.mem_singleton.1 now.mem
        · exact absent List.mem_cons_self
      · rintro (⟨-, wrong⟩ | ⟨other, -⟩)
        · cases wrong
        · exact other rfl
  · have untold (control : Control) :
        (h, control) ∉ [(voice, if on then Control.pause else Control.resume)] :=
      fun member => same (Prod.mk.inj (List.mem_singleton.1 member)).1
    rw [leftPaused_append_of_notMem (untold .pause) (untold .resume)]
    constructor
    · exact fun early => Or.inr ⟨same, early⟩
    · rintro (⟨here, -⟩ | ⟨-, early⟩)
      · exact absurd here same
      · exact early

end Told

namespace Session

variable {H : Type} [DecidableEq H] {setup : Setup H} {session : Session H} {h : H}

/-! ## The voices that were called -/

theorem mem_foldl_remember {called more : List H} :
    h ∈ more.foldl remember called ↔ h ∈ called ∨ h ∈ more := by
  induction more generalizing called with
  | nil => simp
  | cons first rest ih =>
    rw [List.foldl_cons, ih, mem_remember, List.mem_cons, or_assoc]

theorem mem_called_next (member : h ∈ session.called) (request : Request) :
    h ∈ (session.next setup request).called := by
  cases request with
  | speak speech => exact mem_foldl_remember.2 (Or.inl member)
  | _ => exact member

theorem mem_called_after (member : h ∈ session.called) (requests : List Request) :
    h ∈ (session.after setup requests).called := by
  induction requests generalizing session with
  | nil => exact member
  | cons request rest ih => exact ih (mem_called_next member request)

/-- A session without calls had none before. -/
theorem called_of_after {requests : List Request}
    (none : (session.after setup requests).called = []) : session.called = [] :=
  List.eq_nil_iff_forall_not_mem.2 fun voice member => by
    have stays : voice ∈ (session.after setup requests).called := mem_called_after member requests
    rw [none] at stays
    cases stays

/-! ## Before the first call -/

/-- Whether the last request to pause or to go on was to pause; the given answer if there was no such
request. -/
def lastPause (last : Option Bool) : List Request → Option Bool
  | [] => last
  | .pause on :: rest => lastPause (some on) rest
  | _ :: rest => lastPause last rest

theorem called_next_ne_nil (spoken : session.called ≠ []) (request : Request) :
    (session.next setup request).called ≠ [] := by
  obtain ⟨voice, member⟩ := List.exists_mem_of_ne_nil _ spoken
  exact List.ne_nil_of_mem (mem_called_next member request)

omit [DecidableEq H] in
theorem voices_of_silent (silent : session.called = []) :
    session.voices setup = [setup.roster.default] := by
  rw [voices, silent]
  rfl

omit [DecidableEq H] in
theorem leftPaused_nil :
    LeftPaused [] h ↔ h = setup.roster.default ∧ none = some true := by
  constructor
  · exact fun left => nomatch left.mem
  · exact fun both => nomatch both.2

/-- As long as no voice was called, the default voice is the only one that is paused, and it is if
that was the last request. -/
theorem leftPaused_silent {requests : List Request} {told : List (H × Control)}
    {last : Option Bool} (silent : (session.after setup requests).called = [])
    (before : LeftPaused told h ↔ h = setup.roster.default ∧ last = some true) :
    LeftPaused (told ++ session.toldDuring setup requests) h ↔
      h = setup.roster.default ∧ lastPause last requests = some true := by
  -- `told` takes up what each request tells, so that the last request to pause decides
  induction requests generalizing session told last with
  | nil => rwa [toldDuring, List.append_nil, lastPause]
  | cons request rest ih =>
    have here : session.called = [] := called_of_after silent
    have later (new : Option Bool)
        (step : LeftPaused (told ++ session.told setup request) h ↔
          h = setup.roster.default ∧ new = some true) :
        LeftPaused (told ++ session.toldDuring setup (request :: rest)) h ↔
          h = setup.roster.default ∧ lastPause new rest = some true := by
      rw [toldDuring, ← List.append_assoc]
      exact ih silent step
    cases request with
    | pause on =>
      refine later (some on) ?_
      have only : session.told setup (.pause on) =
          [(setup.roster.default, if on then .pause else .resume)] := by
        rw [Session.told, voices_of_silent here]
        rfl
      rw [only, leftPaused_append_single, before]
      constructor
      · rintro (⟨default, paused⟩ | ⟨other, default, -⟩)
        · exact ⟨default, congrArg some paused⟩
        · exact absurd default other
      · rintro ⟨default, paused⟩
        exact Or.inl ⟨default, Option.some.inj paused⟩
    | cancel =>
      refine later last ?_
      rw [leftPaused_append_of_notMem]
      · exact before
      · simp [Session.told]
      · simp [Session.told]
    | speak speech =>
      refine later last ?_
      rwa [Session.told, List.append_nil]
    | configure settings =>
      refine later last ?_
      rwa [Session.told, List.append_nil]

/-! ## From the first call on -/

/-- A voice that is never called is told neither to pause nor to resume, once another one was
called. -/
theorem notMem_toldDuring {requests : List Request} (spoken : session.called ≠ [])
    (absent : h ∉ (session.after setup requests).called) :
    (h, .pause) ∉ session.toldDuring setup requests ∧
      (h, .resume) ∉ session.toldDuring setup requests := by
  induction requests generalizing session with
  | nil => exact ⟨List.not_mem_nil, List.not_mem_nil⟩
  | cons request rest ih =>
    have uncalled : h ∉ session.called :=
      fun member => absent (mem_called_after (mem_called_next member request) rest)
    obtain ⟨pauseLater, resumeLater⟩ := ih (called_next_ne_nil spoken request) absent
    have now (on : Bool) : (h, if on then .pause else .resume) ∉ session.told setup request := by
      intro member
      cases request with
      | pause other =>
        obtain ⟨voice, called, same⟩ := List.mem_map.1 member
        rw [voices, if_neg (by simpa using spoken)] at called
        exact uncalled ((Prod.mk.inj same).1 ▸ called)
      | cancel =>
        obtain ⟨voice, -, same⟩ := List.mem_map.1 member
        cases on <;> cases same
      | speak speech => cases member
      | configure settings => cases member
    rw [toldDuring, List.mem_append, List.mem_append]
    exact ⟨fun either => either.elim (now true) pauseLater,
      fun either => either.elim (now false) resumeLater⟩

/-- The requests before the one on which a voice is called for the first time. -/
def BeforeFirstCall (setup : Setup H) (session : Session H) (requests silent : List Request) :
    Prop :=
  ∃ speech later, requests = silent ++ .speak speech :: later ∧
    (session.after setup silent).called = [] ∧
      (session.after setup (silent ++ [.speak speech])).called ≠ []

theorem BeforeFirstCall.called_ne_nil {requests silent : List Request}
    (first : BeforeFirstCall setup session requests silent) :
    (session.after setup requests).called ≠ [] := by
  obtain ⟨speech, later, rfl, -, spoken⟩ := first
  rw [List.append_cons, after_append]
  exact fun none => spoken (called_of_after none)

/-- Where a voice is called at all, there is a first call. -/
theorem exists_beforeFirstCall {requests : List Request} (silent : session.called = [])
    (spoken : (session.after setup requests).called ≠ []) :
    ∃ silent, BeforeFirstCall setup session requests silent := by
  induction requests generalizing session with
  | nil => exact absurd silent spoken
  | cons request rest ih =>
    by_cases still : (session.next setup request).called = []
    · obtain ⟨before, speech, later, split, uncalled, called⟩ := ih still spoken
      exact ⟨request :: before, speech, later, congrArg (request :: ·) split, uncalled, called⟩
    · cases request with
      | speak speech => exact ⟨[], speech, rest, rfl, silent, still⟩
      | _ => exact absurd silent still

/-- Where a voice that was never called is left paused, it was paused before the first call. -/
theorem leftPaused_of_uncalled {settings : Settings} {requests silent : List Request}
    (first : BeforeFirstCall setup (start settings) requests silent)
    (absent : h ∉ ((start settings).after setup requests).called) :
    LeftPaused ((start settings).toldDuring setup requests) h ↔
      h = setup.roster.default ∧ lastPause none silent = some true := by
  obtain ⟨speech, later, rfl, uncalled, called⟩ := first
  let begun := (start settings).after setup (silent ++ [.speak speech])
  have ends : (start settings).after setup (silent ++ .speak speech :: later) =
      begun.after setup later := by
    rw [List.append_cons, after_append]
  have told : (start settings).toldDuring setup (silent ++ .speak speech :: later) =
      (start settings).toldDuring setup silent ++ begun.toldDuring setup later := by
    rw [toldDuring_append, toldDuring, Session.told, List.nil_append]
    simp only [begun, after_append]
    rfl
  rw [ends] at absent
  obtain ⟨pause, resume⟩ := notMem_toldDuring called absent
  rw [told, leftPaused_append_of_notMem pause resume]
  exact leftPaused_silent uncalled leftPaused_nil

/-- A session that is told to go on tells so the voices that were called by then. -/
theorem leftPaused_resumed {requests : List Request} :
    LeftPaused (session.toldDuring setup (requests ++ [.pause false])) h ↔
      LeftPaused (session.toldDuring setup requests) h ∧
        h ∉ (session.after setup requests).voices setup := by
  have last : session.toldDuring setup (requests ++ [.pause false]) =
      session.toldDuring setup requests ++
        ((session.after setup requests).voices setup).map (·, .resume) := by
    rw [toldDuring_append, toldDuring, toldDuring, List.append_nil]
    rfl
  rw [last, leftPaused_append]
  constructor
  · rintro (now | ⟨early, absent⟩)
    · obtain ⟨voice, -, same⟩ := List.mem_map.1 now.mem
      cases same
    · exact ⟨early, fun member => absent (List.mem_map_of_mem member)⟩
  · rintro ⟨early, absent⟩
    refine Or.inr ⟨early, fun member => ?_⟩
    obtain ⟨voice, told, same⟩ := List.mem_map.1 member
    exact absent ((Prod.mk.inj same).1 ▸ told)

/-- A session that is told to go on leaves the default voice paused if it was paused before the
first call and is not called until the end, and otherwise no voice. -/
theorem leftPaused_iff (setup : Setup H) (settings : Settings) (requests : List Request) (h : H) :
    LeftPaused ((start settings).toldDuring setup (requests ++ [.pause false])) h ↔
      h = setup.roster.default ∧ h ∉ ((start settings).after setup requests).called ∧
        ∃ silent, BeforeFirstCall setup (start settings) requests silent ∧
          lastPause none silent = some true := by
  rw [leftPaused_resumed]
  by_cases silent : ((start settings).after setup requests).called = []
  · -- the default voice is told to go on, and no other one was paused
    rw [voices_of_silent silent]
    constructor
    · rintro ⟨left, absent⟩
      obtain ⟨rfl, -⟩ := (leftPaused_silent silent leftPaused_nil).1 left
      exact absurd List.mem_cons_self absent
    · rintro ⟨-, -, before, first, -⟩
      exact absurd silent first.called_ne_nil
  · have called : ((start settings).after setup requests).voices setup =
        ((start settings).after setup requests).called :=
      if_neg (by simpa using silent)
    rw [called]
    constructor
    · rintro ⟨left, absent⟩
      obtain ⟨before, first⟩ := exists_beforeFirstCall rfl silent
      obtain ⟨default, paused⟩ := (leftPaused_of_uncalled first absent).1 left
      exact ⟨default, absent, before, first, paused⟩
    · rintro ⟨default, absent, before, first, paused⟩
      exact ⟨(leftPaused_of_uncalled first absent).2 ⟨default, paused⟩, absent⟩

/-- An English voice, the default, and a German one, neither of them with a protocol of its own. -/
def bilingual : Setup Bool where
  roster :=
    { voice := fun german =>
        { name := if german then "de" else "en"
          engine := .plain
          language := if german then "de" else "en"
          pitch := 50
          rate := 50
          volume := 50 }
      default := false
      defaultLanguage := "en"
      voiceFor := fun code => if code = "de" then some true else none }
  spelling := fun _ _ => none
  backend := { answer := fun _ _ => .done, obeys := fun _ _ => true }

/-- The default voice is paused, the German one speaks, and only the German one is told to go on. -/
theorem leftPaused_bilingual :
    LeftPaused ((start .default).toldDuring bilingual
      ([.pause true, .speak [.language (some "de"), .text ['x']]] ++ [.pause false])) false := by
  refine ⟨[], [(true, .resume)], ?_, by decide⟩
  decide +kernel

end Session

end Polyvoice
