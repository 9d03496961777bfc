import WebSocketSession.Proofs.BufferLending
import WebSocketSession.Proofs.FailureHandling

/-!
# What the log says of failures

Nothing that goes wrong is passed over in silence. `Session.failureLog` is what the log has to say
of a fault, line by line: that it was a panic if it was one, what it was, which message was given up
for it, how the close went, and what went wrong in the error callback. In every session reached an
input with a fault writes these lines, in this order and once each, and an input without one writes
none of them (`failures_logged`). Neither does anything else, but that a session which is released
says which message it gives up (`release_logs_abandonment`).
-/

set_option autoImplicit false
set_option relaxedAutoImplicit false

namespace WebSocketSession

variable {σ ν τ ε : Type}

structure LogLine where
  level : LogLevel
  message : String
  fields : List (String × LogField)
  deriving DecidableEq

namespace LogRecord

def line (record : LogRecord) : LogLine := ⟨record.level, record.message, record.fields⟩

def aboutFailure : LogRecord → Bool
  | .callbackPanicked _ | .closingOnRequest _ | .unhandled _ => true
  | .abandonedBuffered .. | .abandonedStreaming .. => true
  | .closeNotSent .. | .terminating .. | .closeFailed .. => true
  | .errorCallbackFailed _ | .errorCallbackPanicked _ => true
  | _ => false

end LogRecord

/-- The lines of a trace that are about failures. -/
def failureLines (trace : List (Occurrence ν)) : List LogLine :=
  ((trace.filterMap Occurrence.record?).filter LogRecord.aboutFailure).map LogRecord.line

def Fault.panicLines : Fault → List LogLine
  | .callbackPanicked message => [⟨.error, "event handler panicked", [("panic", .text message)]⟩]
  | _ => []

/-- A close that was asked for is no more than worth noting; any other fault is a warning that
names its kind. -/
def Fault.reportLine : Fault → LogLine
  | .closeRequested request =>
    ⟨.debug, "closing connection on request", [("error", .text request.message)]⟩
  | fault =>
    ⟨.warn, "unhandled error (closing connection)",
      [("kind", .text fault.kind), ("error", .text fault.message)]⟩

def Slot.abandonLines : Slot → List LogLine
  | .idle => []
  | .buffered family loan =>
    [⟨.debug, "abandoning buffered message",
      [("family", .text family.label), ("bytes", .number loan.length)]⟩]
  | .streaming family _ feed =>
    [⟨.debug, "abandoning streaming message",
      [("family", .text family.label), ("bytes", .number feed.appended)]⟩]

/-- Having no connection to close is a warning; a connection that is closed may refuse. -/
def closeLines (code : CloseCode) (reason : String) : Option Answer → List LogLine
  | none =>
    [⟨.warn, "no connection attached; close not sent",
      [("code", .text code.label), ("reason", .text reason)]⟩]
  | some (.refused error) =>
    [⟨.debug, "terminating connection", [("code", .text code.label), ("reason", .text reason)]⟩,
      ⟨.debug, "failed to send close frame",
        [("code", .text code.label), ("error", .text error.message)]⟩]
  | some _ =>
    [⟨.debug, "terminating connection", [("code", .text code.label), ("reason", .text reason)]⟩]

def complaintLines : Ending Failure Unit → List LogLine
  | .value _ => []
  | .fault failure => [⟨.warn, "error callback failed", [("failure", .text failure.message)]⟩]
  | .panic payload => [⟨.error, "error callback panicked", [("panic", .text payload.message)]⟩]

/-- A session that is released gives up its message; one that is let go of does not say so. -/
def Farewell.lines (slot : Slot) : Farewell → List LogLine
  | .release => slot.abandonLines
  | .keep | .dispose => []

/-- What is to be said of a fault that a session has come to. -/
def Session.failureLog (host : Host σ ν τ) (session : Session σ τ) (fault : Fault) :
    List LogLine :=
  let code := session.closingCode fault
  let reason := session.closingReason fault
  fault.panicLines ++ fault.reportLine :: (session.assembly.slot.abandonLines ++
    (closeLines code reason (session.answer? host code reason) ++
      complaintLines (call host (.error fault) (session.settled.closed host fault)).ending))

@[simp] theorem failureLines_nil : failureLines ([] : List (Occurrence ν)) = [] := rfl

@[simp] theorem failureLines_append (first second : List (Occurrence ν)) :
    failureLines (first ++ second) = failureLines first ++ failureLines second := by
  simp only [failureLines, List.filterMap_append, List.filter_append, List.map_append]

@[simp] theorem failureLines_counted (metric : Metric) (trace : List (Occurrence ν)) :
    failureLines (.counted metric :: trace) = failureLines trace := rfl

private theorem failureLines_logged {records : List LogRecord}
    (others : ∀ record ∈ records, record.aboutFailure = false) :
    failureLines (records.map .logged : List (Occurrence ν)) = [] := by
  have none : records.filter LogRecord.aboutFailure = [] := by
    rw [List.filter_eq_nil_iff]
    intro record member
    rw [others record member]
    exact Bool.false_ne_true
  rw [failureLines, Occurrence.filterMap_record?_logged, none, List.map_nil]

@[simp] theorem failureLines_arrivalTrace (input : Input) :
    failureLines (input.arrivalTrace : List (Occurrence ν)) = [] := by
  cases input <;> rfl

@[simp] theorem failureLines_returnedTrace (loan : Loan) :
    failureLines (Assembly.returnedTrace loan : List (Occurrence ν)) = [] := rfl

@[simp] theorem failureLines_report (fault : Fault) (rest : List (Occurrence ν)) :
    failureLines (.logged (Session.reportRecord fault) :: rest) =
      fault.reportLine :: failureLines rest := by
  cases fault <;> rfl

@[simp] theorem failureLines_abandonTrace (assembly : Assembly) :
    failureLines (assembly.abandonTrace : List (Occurrence ν)) = assembly.slot.abandonLines := by
  unfold Assembly.abandonTrace Feed.abort
  cases assembly.slot with
  | idle => rfl
  | buffered family loan => rfl
  | streaming family stream feed =>
    dsimp only
    split <;> rfl

@[simp] theorem failureLines_complaintTrace (ending : Ending Failure Unit) :
    failureLines (Session.complaintTrace ending : List (Occurrence ν)) =
      complaintLines ending := by
  cases ending <;> rfl

namespace Session

private theorem failureLines_closedTrace (host : Host σ ν τ) (fault : Fault)
    (session : Session σ τ) :
    failureLines (session.closedTrace host fault) =
      closeLines (session.closingCode fault) (session.closingReason fault)
        (session.answer? host (session.closingCode fault) (session.closingReason fault)) := by
  rw [closedTrace, failureLines_counted]
  cases session.answer? host _ _ with
  | none => rfl
  | some answer => cases answer <;> rfl

@[simp] theorem failureLines_call (host : Host σ ν τ) (event : Event) (session : Session σ τ) :
    failureLines (call host event session).trace = [] := by
  rw [failureLines, filterMap_record?_call]
  rfl

@[simp] theorem failureLines_loanTrace (family : Family) (session : Session σ τ) :
    failureLines (session.loanTrace family : List (Occurrence ν)) = [] := by
  unfold loanTrace Assembly.lendingTrace
  split <;> rfl

@[simp] theorem failureLines_feedTrace (family : Family) (frame : Frame) (session : Session σ τ) :
    failureLines (session.feedTrace family frame : List (Occurrence ν)) = [] := by
  unfold feedTrace Assembly.written Feed.append
  dsimp only
  split <;> split <;> try split
  all_goals rfl

/-- Work whose fault, if it comes to one, is still to be told: nothing is written about a failure,
and a fault is not called a panic where none was. -/
structure Untold (done : Outcome (Session σ τ) (Occurrence ν) Fault Unit) : Prop where
  silent : failureLines done.trace = []
  returned : ∀ message, done.ending ≠ .fault (.callbackPanicked message)

private theorem Untold.after {done : Outcome (Session σ τ) (Occurrence ν) Fault Unit}
    {trace : List (Occurrence ν)} (untold : Untold done) (silent : failureLines trace = []) :
    Untold (done.after trace) := by
  constructor
  · rw [Outcome.trace_after, failureLines_append, silent, untold.silent, List.append_nil]
  · rw [Outcome.ending_after]
    exact untold.returned

private theorem invoke_untold (host : Host σ ν τ) (event : Event) (session : Session σ τ) :
    Untold (invoke host event session) := by
  rw [invoke_run]
  constructor
  · exact failureLines_call host event session
  · intro message
    cases (call host event session).ending with
    | value _ => nofun
    | panic payload => nofun
    | fault failure =>
      intro same
      have told : Fault.ofFailure failure = .callbackPanicked message := Ending.fault.inj same
      unfold Fault.ofFailure at told
      split at told <;> cases told

private theorem deliverMessage_untold (host : Host σ ν τ) (family : Family) (message : Bytes)
    (session : Session σ τ) : Untold (deliverMessage host family message session) := by
  rw [deliverMessage_run]
  apply Untold.after
  · cases messageEvent family message with
    | none => exact ⟨rfl, nofun⟩
    | some event => exact invoke_untold host event session
  · rfl

private theorem Fate.untold {host : Host σ ν τ} {frame : Frame} {session : Session σ τ}
    {done : Outcome (Session σ τ) (Occurrence ν) Fault Unit}
    (fate : Fate host frame session done) : Untold done := by
  cases fate with
  | passed records routed =>
    refine ⟨failureLines_logged ?_, nofun⟩
    rcases records_of_pass routed with rfl | ⟨family, rfl⟩ | rfl <;>
      simp [LogRecord.aboutFailure]
  | wrong fault routed =>
    refine ⟨rfl, ?_⟩
    rcases fault_of_wrong routed with ⟨current, received, rfl⟩ | ⟨defect, rfl⟩ <;> nofun
  | noticed notice routed => exact invoke_untold host (.close notice) session
  | overflowed family overflow routed takes appended => exact ⟨by simp, nofun⟩
  | kept family extended routed takes appended unfinished => exact ⟨by simp, nofun⟩
  | completed family extended delivered routed takes appended finished delivery =>
    subst delivery
    obtain ⟨silent, returned⟩ :=
      deliverMessage_untold host family extended.bytes (session.onLoan family)
    exact ⟨by simp [silent], returned⟩
  | opened family routed idle =>
    rw [deliverStream_run]
    exact ((invoke_untold host _ _).after rfl).after (failureLines_feedTrace family frame session)
  | continued family stream feed routed held => exact ⟨by simp, nofun⟩

private theorem attempt_untold (host : Host σ ν τ) (input : Input) {session : Session σ τ}
    (coherent : session.Coherent) : Untold (input.attempt host session) := by
  cases input with
  | connect => exact invoke_untold host .connect session
  | protocolError request => exact ⟨rfl, nofun⟩
  | frame frame =>
    have dispatched := dispatch_dispatched host frame coherent
    change Untold (dispatch host frame session)
    generalize dispatch host frame session = done at dispatched ⊢
    cases dispatched with
    | stopped fails =>
      rw [← invoke_run]
      exact invoke_untold host (.frame frame) session
    | followed done passes fate =>
      exact fate.untold.after (failureLines_call host (.frame frame) session)

private theorem failureLines_panicTrace {ending : Ending Fault Unit} {fault : Fault}
    (returned : ∀ message, ending ≠ .fault (.callbackPanicked message))
    (faulty : ending.fault? = some fault) :
    failureLines (ending.panicTrace : List (Occurrence ν)) = fault.panicLines := by
  cases ending with
  | value a => cases faulty
  | panic payload =>
    cases faulty
    rfl
  | fault cause =>
    obtain rfl : cause = fault := Option.some.inj faulty
    cases cause with
    | callbackPanicked message => exact absurd rfl (returned message)
    | _ => rfl

private theorem failureLines_of_sound {host : Host σ ν τ} {input : Input} {session : Session σ τ}
    (coherent : session.Coherent) (sound : (input.attempt host session).ending.fault? = none) :
    failureLines ((input.handle host : Step σ τ ν ε Unit) session).trace = [] := by
  rw [handle_of_none sound, failureLines_append, failureLines_arrivalTrace,
    (attempt_untold host input coherent).silent, List.append_nil]

private theorem failureLines_of_fault {host : Host σ ν τ} {input : Input} {session : Session σ τ}
    {fault : Fault} (coherent : session.Coherent)
    (returns : ∀ connection ∈ (input.attempt host session).state.connection,
      host.transport.ReturnsFromClose connection)
    (faulty : (input.attempt host session).ending.fault? = some fault) :
    failureLines ((input.handle host : Step σ τ ν ε Unit) session).trace =
      (input.attempt host session).state.failureLog host fault := by
  have calm : (input.attempt host session).state.settled.Calm host fault :=
    calm_of_returns fault returns
  obtain ⟨silent, returned⟩ := attempt_untold host input coherent
  rw [handle_of_some faulty, Outcome.trace_after, closeDown_of_calm calm]
  simp only [faultTrace, failureLines_append, failureLines_arrivalTrace,
    silent, failureLines_panicTrace returned faulty, failureLines_report,
    failureLines_abandonTrace, failureLines_closedTrace, failureLines_call,
    failureLines_complaintTrace, List.nil_append, List.append_assoc, List.cons_append]
  rfl

end Session

private theorem Farewell.failureLines_apply (farewell : Farewell) (session : Session σ τ) :
    failureLines ((farewell.apply : Session.Step σ τ ν ε Unit) session).trace =
      farewell.lines session.assembly.slot := by
  cases farewell with
  | keep => rfl
  | release =>
    simp only [apply, Session.release, Session.assembling_run, Assembly.abandon_run,
      failureLines_abandonTrace, lines]
  | dispose =>
    simp only [apply, Session.dispose, Session.assembling_run, Assembly.dispose_run]
    split <;> rfl

/-- In every session reached, an input with a fault writes what there is to say of it, in order and
once each, on a connection that may refuse to close; an input without one writes nothing about
failures. Neither does what the owner does with the session, but that to release it tells of the
message in flight. -/
theorem failures_logged (host : Host σ ν τ) (app : σ) (handlers : Handlers) (policy : Policy)
    (pool : Pool) (operations : List (Operation σ τ)) {session : Session σ τ}
    (reached : session = (Session.start app handlers policy pool).run host operations) :
    (∀ input : Input,
      (∀ connection ∈ (input.attempt host session).state.connection,
        host.transport.ReturnsFromClose connection) →
      failureLines ((input.handle host : Session.Step σ τ ν ε Unit) session).trace =
        match (input.attempt host session).ending.fault? with
        | none => []
        | some fault => (input.attempt host session).state.failureLog host fault) ∧
    (∀ operation : Operation σ τ, (∀ input, operation ≠ .input input) →
      failureLines (operation.apply host session).trace = []) ∧
    ∀ farewell : Farewell,
      failureLines ((farewell.apply : Session.Step σ τ ν ε Unit) session).trace =
        farewell.lines session.assembly.slot := by
  have coherent : session.Coherent := by
    rw [reached]
    exact Session.run_coherent host operations (Session.coherent_of_idle rfl)
  refine ⟨fun input returns => ?_, fun operation other => ?_, fun farewell => ?_⟩
  · cases faulty : (input.attempt host session).ending.fault? with
    | none => exact Session.failureLines_of_sound coherent faulty
    | some fault => exact Session.failureLines_of_fault coherent returns faulty
  · cases operation with
    | input input => exact absurd rfl (other input)
    | attach | read | become => rfl
  · exact farewell.failureLines_apply session

/-- A frame observer that panics in the middle of a message, on a connection that refuses to close
and with an error callback that fails: all of it is in the log. -/
theorem panicking_observer_logged :
    let session : Session Script Recorder :=
      (Session.start ⟨[("frame", [[], [.panic (.text "boom")]]),
          ("error", [[.fail (.ofMessage "no")]])]⟩
          (.ofRegistrations [.message .binary .buffered, .error, .frame])
          .default (.empty 4)).run Script.host
        [.attach (.fresh .refusesClose), .input (.frame ⟨.binary, false, [1, 2]⟩)]
    failureLines (Input.handle Script.host (.frame ⟨.continuation, true, [3]⟩) session :
        Outcome _ _ Empty Unit).trace =
      [⟨.error, "event handler panicked", [("panic", .text "boom")]⟩,
        ⟨.warn, "unhandled error (closing connection)",
          [("kind", .text "HandlerPanic"), ("error", .text "handler panicked: boom")]⟩,
        ⟨.debug, "abandoning buffered message", [("family", .text "binary"), ("bytes", .number 2)]⟩,
        ⟨.debug, "terminating connection",
          [("code", .text "1011"), ("reason", .text "HandlerPanic")]⟩,
        ⟨.debug, "failed to send close frame",
          [("code", .text "1011"), ("error", .text "peer went away")]⟩,
        ⟨.warn, "error callback failed", [("failure", .text "HandlerFailure: no")]⟩] := by
  intro session
  have attached : (Input.attempt Script.host (.frame ⟨.continuation, true, [3]⟩)
      session).state.connection = some (.fresh .refusesClose) := by decide +kernel
  have fault : (Input.attempt Script.host (.frame ⟨.continuation, true, [3]⟩)
      session).ending.fault? = some (.callbackPanicked "boom") := by decide +kernel
  have reached : session = Session.run Script.host _ _ := rfl
  obtain ⟨inputs, -, -⟩ := failures_logged (ε := Empty) Script.host _ _ _ _ _ reached
  have logged := inputs (.frame ⟨.continuation, true, [3]⟩) fun connection member => by
    rw [attached] at member
    cases member
    exact Recorder.returnsFromClose_of_refusesClose rfl
  rw [fault] at logged
  rw [logged]
  decide +kernel

/-- A session that is released in the middle of a message does so without a failure, and it says
that it gives the message up. -/
theorem release_logs_abandonment :
    let session : Session Script Recorder :=
      (Session.start ⟨[]⟩ (.ofRegistrations [.message .binary .buffered]) .default
        (.empty 4)).run Script.host
        [.attach (.fresh .none), .input (.frame ⟨.binary, false, [97, 98]⟩)]
    let done := (Session.release session : Outcome _ (Occurrence Remark) Empty Unit)
    done.ending = .value () ∧
      failureLines done.trace = [⟨.debug, "abandoning buffered message",
        [("family", .text "binary"), ("bytes", .number 2)]⟩] := by
  intro session done
  exact ⟨rfl, by decide +kernel⟩

end WebSocketSession
