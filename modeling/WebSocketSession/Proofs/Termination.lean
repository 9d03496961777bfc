import WebSocketSession.Proofs.Assembly
import WebSocketSession.Proofs.Callback
import WebSocketSession.Session.Termination

/-!
# Termination, step by step

What a session does about a fault, as equations: `settled` is the session once the message in
flight is given up, `terminate_run` closes the connection, `notifyError_run` tells the application,
and `fail_run` puts the three in order. `guarded_of_none` and
`guarded_of_some` say which work comes to that.
-/

set_option autoImplicit false
set_option relaxedAutoImplicit false

namespace WebSocketSession

variable {σ ν τ ε : Type}

def Ending.fault? {α : Type} : Ending Fault α → Option Fault
  | .value _ => none
  | .fault e => some e
  | .panic payload => some (.callbackPanicked payload.message)

def Ending.panicTrace {α : Type} : Ending Fault α → List (Occurrence ν)
  | .panic payload => [.logged (.callbackPanicked payload.message)]
  | _ => []

namespace Session

@[simp] theorem assembling_run {α : Type} (work : Assembly.Step ν ε α) (session : Session σ τ) :
    assembling work session =
      ⟨(work session.assembly).ending, { session with assembly := (work session.assembly).state },
        (work session.assembly).trace⟩ := rfl

def reportRecord : Fault → LogRecord
  | .closeRequested request => .closingOnRequest request
  | fault => .unhandled fault

@[simp] theorem report_run (fault : Fault) (session : Session σ τ) :
    (report fault : Step σ τ ν ε Unit) session =
      ⟨.value (), session, [.logged (reportRecord fault)]⟩ := by
  cases fault <;> rfl

def settled (session : Session σ τ) : Session σ τ :=
  { session with assembly := session.assembly.abandoned }

@[simp] theorem inFlight_settled (session : Session σ τ) : session.settled.inFlight = none := by
  simp [settled, inFlight, Assembly.inFlight, Slot.inFlight]

def hungUp (host : Host σ ν τ) (code : CloseCode) (reason : String) (session : Session σ τ) :
    Session σ τ :=
  { session with
    connection := session.connection.map fun connection =>
      (host.transport.close code reason connection).2 }

def answer? (host : Host σ ν τ) (code : CloseCode) (reason : String) (session : Session σ τ) :
    Option Answer :=
  session.connection.map fun connection => (host.transport.close code reason connection).1

/-- What closing comes to, by the answer to it: there may be nobody to ask, and a refusal is only
logged. -/
def closeTrace (code : CloseCode) (reason : String) : Option Answer → List (Occurrence ν)
  | none => [.logged (.closeNotSent code reason)]
  | some answer =>
    .logged (.terminating code reason) :: .closed .session code reason ::
      match answer with
      | .refused error => [.logged (.closeFailed code error)]
      | _ => []

def closeEnding : Option Answer → Ending ε Unit
  | some (.panicked payload) => .panic payload
  | _ => .value ()

/-- A termination is counted, and then the connection is asked to close if there is one. -/
theorem terminate_run (host : Host σ ν τ) (code : CloseCode) (reason : String)
    (session : Session σ τ) :
    (terminate host code reason : Step σ τ ν ε Unit) session =
      ⟨closeEnding (session.answer? host code (trimReason reason)),
        session.hungUp host code (trimReason reason),
        .counted (.termination code) ::
          closeTrace code (trimReason reason)
            (session.answer? host code (trimReason reason))⟩ := by
  cases attached : session.connection with
  | none =>
    have unchanged : session.hungUp host code (trimReason reason) = session := by
      cases session
      cases attached
      rfl
    simp [terminate, attached, answer?, closeEnding, closeTrace, unchanged]
  | some connection =>
    cases answer : (host.transport.close code (trimReason reason) connection).1 <;>
      simp [terminate, reach, attached, answer, answer?, closeEnding, closeTrace, hungUp]

def complaintTrace : Ending Failure Unit → List (Occurrence ν)
  | .value _ => []
  | .fault failure => [.logged (.errorCallbackFailed failure)]
  | .panic payload => [.logged (.errorCallbackPanicked payload.message)]

@[simp] theorem notifyError_run (host : Host σ ν τ) (fault : Fault) (session : Session σ τ) :
    (notifyError host fault : Step σ τ ν ε Unit) session =
      ⟨.value (), (call host (.error fault) session).state,
        (call host (.error fault) session).trace ++
          complaintTrace (call host (.error fault) session).ending⟩ := by
  simp only [notifyError, Work.bind_run, Work.attempt_run, Outcome.andThen_value]
  cases (call host (.error fault) session).ending <;> simp [complaintTrace]

def closingCode (fault : Fault) (session : Session σ τ) : CloseCode :=
  (fault.closing session.policy.role).1

def closingReason (fault : Fault) (session : Session σ τ) : String :=
  trimReason (fault.closing session.policy.role).2

def closeDown (host : Host σ ν τ) (fault : Fault) : Step σ τ ν ε Unit := do
  let (code, reason) := fault.closing (← Work.state).policy.role
  terminate host code reason
  notifyError host fault

/-- A fault is logged, the message in flight is given up, and then the session closes down. -/
theorem fail_run (host : Host σ ν τ) (fault : Fault) (session : Session σ τ) :
    (fail host fault : Step σ τ ν ε Unit) session =
      (closeDown host fault session.settled).after
        (.logged (reportRecord fault) :: session.assembly.abandonTrace) := by
  simp [fail, closeDown, settled]

def closed (host : Host σ ν τ) (fault : Fault) (session : Session σ τ) : Session σ τ :=
  session.hungUp host (session.closingCode fault) (session.closingReason fault)

def closedTrace (host : Host σ ν τ) (fault : Fault) (session : Session σ τ) :
    List (Occurrence ν) :=
  .counted (.termination (session.closingCode fault)) ::
    closeTrace (session.closingCode fault) (session.closingReason fault)
      (session.answer? host (session.closingCode fault) (session.closingReason fault))

/-- The connection of the session, if there is one, does not panic at the close for a fault. -/
def Calm (host : Host σ ν τ) (fault : Fault) (session : Session σ τ) : Prop :=
  ∀ payload, session.answer? host (session.closingCode fault) (session.closingReason fault) ≠
    some (.panicked payload)

theorem calm_or_panics (host : Host σ ν τ) (fault : Fault) (session : Session σ τ) :
    session.Calm host fault ∨ ∃ payload, session.answer? host (session.closingCode fault)
      (session.closingReason fault) = some (.panicked payload) := by
  by_cases calm : session.Calm host fault
  · exact .inl calm
  · exact .inr (Classical.not_forall_not.mp calm)

/-- Unless the connection panics at it, the close is followed by the error callback. -/
theorem closeDown_of_calm {host : Host σ ν τ} {fault : Fault} {session : Session σ τ}
    (calm : session.Calm host fault) :
    (closeDown host fault : Step σ τ ν ε Unit) session =
      ⟨.value (), (call host (.error fault) (session.closed host fault)).state,
        session.closedTrace host fault ++
          ((call host (.error fault) (session.closed host fault)).trace ++
            complaintTrace (call host (.error fault) (session.closed host fault)).ending)⟩ := by
  have ends : (closeEnding (session.answer? host (session.closingCode fault)
      (session.closingReason fault)) : Ending ε Unit) = .value () := by
    unfold closeEnding
    split
    · rename_i payload panics
      exact absurd panics (calm payload)
    · rfl
  simp only [closingCode, closingReason] at ends
  simp [closeDown, terminate_run, ends, closed, closedTrace, closingCode, closingReason]

theorem closeDown_of_panic {host : Host σ ν τ} {fault : Fault} {session : Session σ τ}
    {payload : PanicPayload}
    (panics : session.answer? host (session.closingCode fault) (session.closingReason fault) =
      some (.panicked payload)) :
    (closeDown host fault : Step σ τ ν ε Unit) session =
      ⟨.panic payload, session.closed host fault, session.closedTrace host fault⟩ := by
  have ends : (closeEnding (session.answer? host (session.closingCode fault)
      (session.closingReason fault)) : Ending ε Unit) = .panic payload := by
    rw [panics, closeEnding]
  simp only [closingCode, closingReason] at ends
  simp [closeDown, terminate_run, ends, closed, closedTrace, closingCode, closingReason]

private theorem closed_reacted (host : Host σ ν τ) (fault : Fault) (session : Session σ τ) :
    session.Reacted (session.closed host fault) :=
  ⟨rfl, rfl, by simp [closed, hungUp], rfl, rfl, rfl, fun _ => .refl⟩

theorem closeDown_reacted (host : Host σ ν τ) (fault : Fault) (session : Session σ τ) :
    session.Reacted ((closeDown host fault : Step σ τ ν ε Unit) session).state := by
  rcases session.calm_or_panics host fault with calm | ⟨payload, panics⟩
  · rw [closeDown_of_calm calm]
    exact (session.closed_reacted host fault).trans (call_reacted host _ _)
  · rw [closeDown_of_panic panics]
    exact session.closed_reacted host fault

theorem guarded_of_none {host : Host σ ν τ} {work : Step σ τ ν Fault Unit} {session : Session σ τ}
    (sound : (work session).ending.fault? = none) :
    (guarded host work : Step σ τ ν ε Unit) session =
      ⟨.value (), (work session).state, (work session).trace⟩ := by
  simp only [guarded, Work.bind_run, Work.attempt_run, Outcome.andThen_value]
  cases ending : (work session).ending <;> simp_all [Ending.fault?]

theorem guarded_of_some {host : Host σ ν τ} {work : Step σ τ ν Fault Unit} {session : Session σ τ}
    {fault : Fault} (faulty : (work session).ending.fault? = some fault) :
    (guarded host work : Step σ τ ν ε Unit) session =
      (closeDown host fault (work session).state.settled).after
        ((work session).trace ++ ((work session).ending.panicTrace ++
          .logged (reportRecord fault) :: (work session).state.assembly.abandonTrace)) := by
  simp only [guarded, Work.bind_run, Work.attempt_run, Outcome.andThen_value]
  cases ending : (work session).ending with
  | value a => simp [ending, Ending.fault?] at faulty
  | fault e =>
    obtain rfl : e = fault := by simpa [ending, Ending.fault?] using faulty
    simp [Ending.panicTrace, fail_run]
  | panic payload =>
    obtain rfl : .callbackPanicked payload.message = fault := by
      simpa [ending, Ending.fault?] using faulty
    simp [Ending.panicTrace, fail_run]

end Session

end WebSocketSession
