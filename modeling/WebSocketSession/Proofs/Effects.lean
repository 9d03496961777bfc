import WebSocketSession.Proofs.Outline

/-!
# What becomes visible of a frame

Visible are the callbacks other than the frame observer, the closes by the session and the
terminations counted. One failure shows the same whatever came to it (`FailsOnce`), and a callback
that is run for a frame shows its call and, if it does not end well, one failure after it
(`frame_answered`).
-/

set_option autoImplicit false
set_option relaxedAutoImplicit false

namespace WebSocketSession

variable {σ ν τ ε : Type}

/-- An occurrence that becomes visible: any callback but the frame observer, a close by the
session, or a termination counted. -/
def Occurrence.visible : Occurrence ν → Bool
  | .called (.frame _) => false
  | x => x.essential

private theorem Occurrence.essential_of_visible (x : Occurrence ν) (h : x.visible = true) :
    x.essential = true := by
  unfold visible at h
  split at h
  · cases h
  · exact h

def effects (trace : List (Occurrence ν)) : List (Occurrence ν) :=
  trace.filter Occurrence.visible

@[simp] theorem effects_append (first second : List (Occurrence ν)) :
    effects (first ++ second) = effects first ++ effects second :=
  List.filter_append ..

theorem effects_eq_filter_outline (trace : List (Occurrence ν)) :
    effects trace = (outline trace).filter Occurrence.visible :=
  (filter_outline trace Occurrence.essential_of_visible).symm

@[simp] theorem effects_of_outline_nil {trace : List (Occurrence ν)} (silent : outline trace = []) :
    effects trace = [] := by
  rw [effects_eq_filter_outline, silent, List.filter_nil]

@[simp] theorem effects_returnedTrace (loan : Loan) :
    effects (Assembly.returnedTrace loan : List (Occurrence ν)) = [] := rfl

namespace Session

/-- What becomes visible of one failure: one count, one close if there is a connection, and one
call of the error callback if there is a handler. Only a connection that panics at the close keeps
the application from being told. -/
def FailsOnce (host : Host σ ν τ) (fault : Fault) (session : Session σ τ)
    (seen : List (Occurrence ν)) : Prop :=
  ∃ told, seen =
      .counted (.termination (session.closingCode fault)) ::
        ((if session.connection.isSome then
            [.closed .session (session.closingCode fault) (session.closingReason fault)] else []) ++
          told) ∧
    ((told = if session.handlers.error then [.called (.error fault)] else []) ∨
      (told = [] ∧ ∃ connection payload,
        (host.transport.close (session.closingCode fault) (session.closingReason fault)
          connection).1 = .panicked payload))

theorem FailsOnce.of_steady {host : Host σ ν τ} {fault : Fault} {session later : Session σ τ}
    {seen : List (Occurrence ν)} (kept : session.Steady later)
    (fails : FailsOnce host fault later seen) : FailsOnce host fault session seen := by
  unfold FailsOnce closingCode closingReason at fails ⊢
  rw [kept.handlers, kept.policy, kept.attached] at fails
  exact fails

private theorem closeDown_failsOnce (host : Host σ ν τ) (fault : Fault) (session : Session σ τ) :
    FailsOnce host fault session
      (effects ((closeDown host fault : Step σ τ ν ε Unit) session).trace) := by
  rw [effects_eq_filter_outline]
  rcases session.calm_or_panics host fault with calm | ⟨payload, panics⟩
  · rw [outline_closeDown calm]
    refine ⟨_, ?_, .inl rfl⟩
    split <;> split <;> simp [Occurrence.visible, Occurrence.essential]
  · obtain ⟨connection, attached, answered⟩ := Option.map_eq_some_iff.mp panics
    rw [closeDown_of_panic panics, outline_closedTrace]
    refine ⟨[], ?_, .inr ⟨rfl, connection, payload, answered⟩⟩
    split <;> simp [Occurrence.visible, Occurrence.essential]

def callFault? (host : Host σ ν τ) (event : Event) (session : Session σ τ) : Option Fault :=
  ((call host event session).ending.mapFault Fault.ofFailure).fault?

/-- What becomes visible of a callback that runs in the session `asked`: one call, and if it does
not end well, one failure after it. -/
def AnsweredOnce (host : Host σ ν τ) (event : Event) (asked session : Session σ τ)
    (seen : List (Occurrence ν)) : Prop :=
  match callFault? host event asked with
  | none => seen = [.called event]
  | some fault => ∃ failure, FailsOnce host fault session failure ∧ seen = .called event :: failure

theorem AnsweredOnce.of_steady {host : Host σ ν τ} {event : Event}
    {asked session later : Session σ τ} {seen : List (Occurrence ν)}
    (kept : session.Steady later) (answered : AnsweredOnce host event asked later seen) :
    AnsweredOnce host event asked session seen := by
  unfold AnsweredOnce at answered ⊢
  cases comes : callFault? host event asked with
  | none =>
    rw [comes] at answered
    exact answered
  | some fault =>
    rw [comes] at answered
    obtain ⟨failure, fails, rfl⟩ := answered
    exact ⟨failure, fails.of_steady kept, rfl⟩

def handled (host : Host σ ν τ) (frame : Frame) (session : Session σ τ) :
    Outcome (Session σ τ) (Occurrence ν) Empty Unit :=
  (Input.frame frame).handle host session

private theorem effects_observer (host : Host σ ν τ) (frame : Frame) (session : Session σ τ) :
    effects (call host (.frame frame) session).trace = [] := by
  rw [effects_eq_filter_outline, outline_call]
  split <;> rfl

theorem frame_of_none {host : Host σ ν τ} {frame : Frame} {session : Session σ τ}
    {done : Outcome (Session σ τ) (Occurrence ν) Fault Unit} (passes : session.Passes host frame)
    (followed : follow host frame (route session.handlers session.inFlight frame)
      (session.observed host frame) = done)
    (sound : done.ending.fault? = none) :
    (session.handled host frame).state = done.state ∧
      effects (session.handled host frame).trace = effects done.trace := by
  have attempted := attempt_of_passes passes
  rw [followed] at attempted
  have ends : ((Input.frame frame).attempt host session).ending.fault? = none := by
    rw [attempted]
    exact sound
  rw [handled, handle_of_none ends, attempted]
  refine ⟨rfl, ?_⟩
  rw [Outcome.trace_after, effects_append, effects_append, effects_observer,
    effects_of_outline_nil (outline_arrivalTrace _), List.nil_append, List.nil_append]

theorem frame_of_some {host : Host σ ν τ} {frame : Frame} {session : Session σ τ} {fault : Fault}
    {done : Outcome (Session σ τ) (Occurrence ν) Fault Unit} (passes : session.Passes host frame)
    (followed : follow host frame (route session.handlers session.inFlight frame)
      (session.observed host frame) = done)
    (faulty : done.ending.fault? = some fault) (kept : session.Steady done.state) :
    (session.handled host frame).state.inFlight = none ∧
      ∃ failure, FailsOnce host fault session failure ∧
        effects (session.handled host frame).trace = effects done.trace ++ failure := by
  have attempted := attempt_of_passes passes
  rw [followed] at attempted
  have ends : ((Input.frame frame).attempt host session).ending.fault? = some fault := by
    rw [attempted]
    exact faulty
  have settled : session.Steady done.state.settled := ⟨kept.handlers, kept.policy, kept.attached⟩
  rw [handled, handle_of_some ends, attempted]
  refine ⟨?_, _, (closeDown_failsOnce (ε := Empty) host fault _).of_steady settled, ?_⟩
  · rw [Outcome.state_after, (closeDown_reacted host fault _).inFlight, inFlight_settled]
  · have outside : effects (session.faultTrace host fault (.frame frame)) = effects done.trace := by
      have reported : effects [(.logged (reportRecord fault) : Occurrence ν)] = [] := rfl
      simp [faultTrace, attempted, effects_observer, reported]
    rw [Outcome.trace_after, effects_append, effects_append, outside,
      effects_of_outline_nil (outline_abandonTrace _), List.append_nil]
    rfl

theorem frame_answered {host : Host σ ν τ} {frame : Frame} {event : Event}
    {asked session : Session σ τ} {done : Outcome (Session σ τ) (Occurrence ν) Fault Unit}
    (passes : session.Passes host frame)
    (followed : follow host frame (route session.handlers session.inFlight frame)
      (session.observed host frame) = done)
    (ends : done.ending.fault? = callFault? host event asked)
    (called : effects done.trace = [.called event]) (kept : session.Steady done.state) :
    ((session.handled host frame).state.inFlight = none ∨
      (session.handled host frame).state.inFlight = done.state.inFlight) ∧
      AnsweredOnce host event asked session (effects (session.handled host frame).trace) := by
  unfold AnsweredOnce
  cases comes : callFault? host event asked with
  | none =>
    obtain ⟨state, seen⟩ := frame_of_none passes followed (ends.trans comes)
    rw [state, seen, called]
    exact ⟨.inr rfl, rfl⟩
  | some fault =>
    obtain ⟨idle, failure, fails, seen⟩ := frame_of_some passes followed (ends.trans comes) kept
    rw [seen, called]
    exact ⟨.inl idle, failure, fails, rfl⟩

end Session

end WebSocketSession
