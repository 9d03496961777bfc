import WebSocketSession.Proofs.Outline
import WebSocketSession.Script

/-!
# Failures are dealt with once

Whatever goes wrong with an input, the session gives up the message in flight, counts one
termination, closes the connection once and calls the error callback once, in this order; and it
does none of that when nothing goes wrong (`failure_handled_once`).
-/

set_option autoImplicit false
set_option relaxedAutoImplicit false

namespace WebSocketSession

variable {σ ν τ ε : Type}

/-- The status of the failures that have none of their own, by the side that an endpoint is on. -/
def Role.generalStatus : Role → CloseCode
  | .server => ⟨1011⟩
  | .client => ⟨1008⟩

/-- The status and the reason, before it is trimmed, that a cause of failure calls for. -/
def Fault.prescribed (role : Role) : Fault → CloseCode × String
  | .closeRequested request => (request.code, request.reason)
  | .invalidText _ => (⟨1007⟩, "InvalidUtf8")
  | .malformedClose .invalidReason => (⟨1007⟩, "InvalidClosePayload")
  | .malformedClose .truncatedStatus => (⟨1002⟩, "InvalidClosePayload")
  | .interleaved .. => (⟨1002⟩, "UnexpectedDataFrame")
  | .messageTooLarge .. => (role.generalStatus, "MessageTooLarge")
  | .callbackFailed failure => (role.generalStatus, failure.typeName)
  | .callbackPanicked _ => (role.generalStatus, "HandlerPanic")

private theorem Fault.closing_eq_prescribed (role : Role) (fault : Fault) :
    fault.closing role = fault.prescribed role := by
  cases fault with
  | malformedClose defect => cases defect <;> rfl
  | messageTooLarge => cases role <;> rfl
  | callbackFailed => cases role <;> rfl
  | callbackPanicked => cases role <;> rfl
  | _ => rfl

def Transport.ReturnsFromClose (transport : Transport τ) (connection : τ) : Prop :=
  ∀ code reason payload, (transport.close code reason connection).1 ≠ .panicked payload

theorem Recorder.returnsFromClose_of_refusesClose {recorder : Recorder}
    (refuses : recorder.trouble = .refusesClose) :
    transport.ReturnsFromClose recorder := by
  intro code reason payload
  simp [transport, refuses]

/-- What a session does to terminate: it counts, closes the connection, and tells the
application. -/
def Occurrence.terminates : Occurrence ν → Bool
  | .counted (.termination _) | .closed .session _ _ | .called (.error _) => true
  | _ => false

private theorem Occurrence.essential_of_terminates (x : Occurrence ν) (h : x.terminates = true) :
    x.essential = true := by
  cases x with
  | closed origin _ _ => cases origin <;> simp_all [terminates, essential]
  | counted metric => cases metric <;> simp_all [terminates, essential]
  | _ => simp_all [terminates, essential]

namespace Session

theorem calm_of_returns {host : Host σ ν τ} {session : Session σ τ} (fault : Fault)
    (returns : ∀ connection ∈ session.connection, host.transport.ReturnsFromClose connection) :
    session.Calm host fault := by
  intro payload panics
  obtain ⟨connection, attached, answered⟩ := Option.map_eq_some_iff.mp panics
  exact returns connection attached _ _ payload answered

/-- A fault that has been dealt with, after `worked` came to it: with the status and the reason
given, and with nobody else terminating before or after. -/
structure HandledOnce (host : Host σ ν τ) (fault : Fault) (code : CloseCode) (reason : String)
    (worked : Outcome (Session σ τ) (Occurrence ν) Fault Unit)
    (done : Outcome (Session σ τ) (Occurrence ν) ε Unit) : Prop where
  idle : done.state.inFlight = none
  /-- The message in flight is given up before anything else is done. -/
  settles : ∃ before later,
    done.trace =
      before ++ worked.state.assembly.abandonTrace ++ .counted (.termination code) :: later ∧
    (before ++ worked.state.assembly.abandonTrace).filter Occurrence.terminates = []
  /-- One count, one close if there is a connection, and one call if there is a handler. -/
  once : done.trace.filter Occurrence.terminates =
    [.counted (.termination code)] ++
      (if worked.state.connection.isSome then [.closed .session code reason] else []) ++
        (if worked.state.handlers.error then [.called (.error fault)] else [])
  /-- The connection that is attached then is closed, and the application told after it. -/
  told : done.state =
    (call host (.error fault) (worked.state.settled.hungUp host code reason)).state

private theorem filter_terminates_attempt (host : Host σ ν τ) (input : Input)
    {session : Session σ τ}
    (coherent : session.Coherent) :
    (input.attempt host session).trace.filter Occurrence.terminates = [] := by
  rw [← filter_outline _ Occurrence.essential_of_terminates, outline_attempt host input coherent,
    List.filter_eq_nil_iff]
  intro x member
  obtain ⟨event, called, rfl⟩ := List.mem_map.mp member
  cases event with
  | error fault => exact absurd called (session.error_not_mem_attemptCalls host input fault)
  | _ => simp [Occurrence.terminates]

private theorem filter_terminates_closeDown {host : Host σ ν τ} {fault : Fault}
    {session : Session σ τ}
    (calm : session.Calm host fault) :
    ((closeDown host fault : Step σ τ ν ε Unit) session).trace.filter Occurrence.terminates =
      .counted (.termination (session.closingCode fault)) ::
        ((if session.connection.isSome then
            [.closed .session (session.closingCode fault) (session.closingReason fault)] else []) ++
          if session.handlers.error then [.called (.error fault)] else []) := by
  rw [← filter_outline _ Occurrence.essential_of_terminates, outline_closeDown calm]
  split <;> split <;> simp [Occurrence.terminates]

private theorem handledOnce_of_some {host : Host σ ν τ} {input : Input} {session : Session σ τ}
    {fault : Fault} (coherent : session.Coherent)
    (returns : ∀ connection ∈ (input.attempt host session).state.connection,
      host.transport.ReturnsFromClose connection)
    (faulty : (input.attempt host session).ending.fault? = some fault) :
    ((input.handle host : Step σ τ ν ε Unit) session).ending = .value () ∧
      HandledOnce host fault (fault.prescribed session.policy.role).1
        (trimReason (fault.prescribed session.policy.role).2) (input.attempt host session)
        ((input.handle host : Step σ τ ν ε Unit) session) := by
  have kept := attempt_steady host input coherent
  have code : (input.attempt host session).state.settled.closingCode fault =
      (fault.prescribed session.policy.role).1 := by
    rw [closingCode, ← Fault.closing_eq_prescribed, ← kept.policy]
    rfl
  have reason : (input.attempt host session).state.settled.closingReason fault =
      trimReason (fault.prescribed session.policy.role).2 := by
    rw [closingReason, ← Fault.closing_eq_prescribed, ← kept.policy]
    rfl
  have calm : (input.attempt host session).state.settled.Calm host fault :=
    calm_of_returns fault returns
  have before : (session.faultTrace host fault input ++
      (input.attempt host session).state.assembly.abandonTrace).filter
        Occurrence.terminates = [] := by
    have attempted := filter_terminates_attempt host input coherent
    have outside : outline (session.faultTrace host fault input) =
        outline (input.attempt host session).trace := by
      simp [faultTrace, outline_cons, Occurrence.essential]
    rw [← filter_outline _ Occurrence.essential_of_terminates, outline_append,
      outline_abandonTrace, outside, List.append_nil,
      filter_outline _ Occurrence.essential_of_terminates, attempted]
  have closes := closeDown_of_calm (ε := ε) calm
  have counted := filter_terminates_closeDown (ε := ε) calm
  obtain ⟨later, shape⟩ : ∃ later, ((closeDown host fault : Step σ τ ν ε Unit)
      (input.attempt host session).state.settled).trace =
        .counted (.termination (fault.prescribed session.policy.role).1) :: later := by
    rw [closes, closedTrace, code]
    exact ⟨_, rfl⟩
  rw [handle_of_some faulty]
  refine ⟨by rw [Outcome.ending_after, closes], ?_, ?_, ?_, ?_⟩
  · rw [Outcome.state_after, (closeDown_reacted host fault _).inFlight, inFlight_settled]
  · refine ⟨session.faultTrace host fault input, later, ?_, before⟩
    rw [Outcome.trace_after, shape]
  · rw [Outcome.trace_after, List.filter_append, before, counted, code, reason]
    rfl
  · rw [Outcome.state_after, closes, closed, code, reason]

end Session

/-- In every session reached, an input is either without a fault, and then nothing is terminated,
or its fault is handled once, with the status and the reason that the fault calls for. -/
theorem failure_handled_once (host : Host σ ν τ) (app : σ) (handlers : Handlers) (policy : Policy)
    (pool : Pool) (operations : List (Operation σ τ)) (input : Input) {session : Session σ τ}
    (reached : session = (Session.start app handlers policy pool).run host operations)
    (returns : ∀ connection ∈ (input.attempt host session).state.connection,
      host.transport.ReturnsFromClose connection) :
    ((input.handle host : Session.Step σ τ ν ε Unit) session).ending = .value () ∧
      match (input.attempt host session).ending.fault? with
      | none =>
        ((input.handle host : Session.Step σ τ ν ε Unit) session).state =
            (input.attempt host session).state ∧
          ((input.handle host : Session.Step σ τ ν ε Unit) session).trace.filter
            Occurrence.terminates = []
      | some fault =>
        Session.HandledOnce host fault (fault.prescribed session.policy.role).1
          (trimReason (fault.prescribed session.policy.role).2) (input.attempt host session)
          ((input.handle host : Session.Step σ τ ν ε Unit) session) := by
  have coherent : session.Coherent := by
    rw [reached]
    exact Session.run_coherent host operations (Session.coherent_of_idle rfl)
  cases ending : (input.attempt host session).ending.fault? with
  | none =>
    have attempted := Session.filter_terminates_attempt host input coherent
    have arrival : (input.arrivalTrace : List (Occurrence ν)).filter Occurrence.terminates =
        [] := by
      cases input <;> rfl
    rw [Session.handle_of_none ending]
    exact ⟨rfl, rfl, by rw [List.filter_append, arrival, attempted, List.append_nil]⟩
  | some fault => exact Session.handledOnce_of_some coherent returns ending

/-- A binary frame in the middle of a text message, on a connection that refuses to close and with
an error callback that fails, is handled once all the same. -/
theorem interleaved_frame_handled_once :
    let session : Session Script Recorder :=
      (Session.start ⟨[("error", [[.fail (.ofMessage "no")]])]⟩
          (.ofRegistrations [.message .text .streaming, .message .binary .buffered, .error])
          .default (.empty 4)).run Script.host
        [.attach (.fresh .refusesClose), .input (.frame ⟨.text, false, [72]⟩)]
    let input := Input.frame ⟨.binary, true, [1]⟩
    session.inFlight = some .text ∧
      Session.HandledOnce Script.host (.interleaved .text .binary) ⟨1002⟩ "UnexpectedDataFrame"
        (input.attempt Script.host session)
        (input.handle Script.host session : Outcome _ _ Empty Unit) := by
  intro session input
  have flight : session.inFlight = some .text := by decide +kernel
  have attached : (input.attempt Script.host session).state.connection =
      some (.fresh .refusesClose) := by decide +kernel
  have returns : ∀ connection ∈ (input.attempt Script.host session).state.connection,
      Script.host.transport.ReturnsFromClose connection := by
    intro connection member
    rw [attached] at member
    cases member
    exact Recorder.returnsFromClose_of_refusesClose rfl
  have handled := failure_handled_once (ε := Empty) Script.host _ _ _ _ _ input rfl returns
  have fault : (input.attempt Script.host session).ending.fault? =
      some (.interleaved .text .binary) := by decide +kernel
  have trimmed : trimReason "UnexpectedDataFrame" = "UnexpectedDataFrame" := by decide +kernel
  rw [fault] at handled
  rw [← trimmed]
  exact ⟨flight, handled.2⟩

end WebSocketSession
