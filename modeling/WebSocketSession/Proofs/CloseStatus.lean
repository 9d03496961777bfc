import WebSocketSession.Proofs.FrameCallbacks

/-!
# The status of a close

A session closes its connection with a status that may be sent, unless it was asked for another
one: by its owner, who reports a violation of the protocol, or by a callback, which returns the
request. Then it passes on the status that it was asked for, whichever that is
(`close_status_sendable_unless_requested`). A callback that sends back the status of an empty CLOSE
frame has its connection closed with the status that stands for none
(`absent_status_sent_back`).
-/

set_option autoImplicit false
set_option relaxedAutoImplicit false

namespace WebSocketSession

variable {σ ν τ ε : Type}

private theorem CloseCode.ne_of_isSendable {code : CloseCode} (sendable : code.isSendable = true) :
    code ≠ .noStatus ∧ code ≠ .abnormal := by
  constructor <;> rintro rfl <;> cases sendable

private theorem Role.isSendable_failureCode (role : Role) : role.failureCode.isSendable = true := by
  cases role <;> rfl

private theorem CloseDefect.isSendable_closeCode (defect : CloseDefect) :
    defect.closeCode.isSendable = true := by
  cases defect <;> rfl

private theorem Fault.isSendable_closing (role : Role) {fault : Fault}
    (unasked : ∀ request, fault ≠ .closeRequested request) :
    (fault.closing role).1.isSendable = true := by
  cases fault with
  | closeRequested request => exact absurd rfl (unasked request)
  | invalidText family => rfl
  | interleaved inFlight received => rfl
  | malformedClose defect => exact defect.isSendable_closeCode
  | messageTooLarge family attempted limit => exact role.isSendable_failureCode
  | callbackFailed failure => exact role.isSendable_failureCode
  | callbackPanicked message => exact role.isSendable_failureCode

namespace Session

/-- A callback of the trace returns the request; it runs in a session with the same table and
policy as the given one. -/
def Returns (host : Host σ ν τ) (session : Session σ τ) (trace : List (Occurrence ν))
    (request : CloseRequest) : Prop :=
  ∃ event later failure, .called event ∈ trace ∧ session.Steady later ∧
    (call host event later).ending = .fault failure ∧ failure.request = some request

private theorem Returns.mono {host : Host σ ν τ} {session earlier : Session σ τ}
    {trace whole : List (Occurrence ν)} {request : CloseRequest}
    (returns : session.Returns host trace request) (steady : earlier.Steady session)
    (part : trace ⊆ whole) : earlier.Returns host whole request := by
  obtain ⟨event, later, failure, called, same, ends, asks⟩ := returns
  exact ⟨event, later, failure, part called, steady.trans same, ends, asks⟩

private theorem invoke_returns {host : Host σ ν τ} {event : Event} {session : Session σ τ}
    {request : CloseRequest}
    (asked : (invoke host event session).ending.fault? = some (.closeRequested request)) :
    session.Returns host (call host event session).trace request := by
  rw [invoke_run] at asked
  cases ending : (call host event session).ending with
  | value _ =>
    rw [ending] at asked
    cases asked
  | panic payload =>
    rw [ending] at asked
    cases asked
  | fault failure =>
    rw [ending] at asked
    have same : Fault.ofFailure failure = .closeRequested request := Option.some.inj asked
    have asks : failure.request = some request := by
      unfold Fault.ofFailure at same
      split at same
      · rename_i given
        cases same
        exact given
      · cases same
    have called : .called event ∈ (call host event session).trace := by
      rw [call_run] at ending ⊢
      split
      · exact List.mem_cons_self
      · rename_i unhandled
        rw [if_neg unhandled] at ending
        cases ending
    exact ⟨event, session, failure, called, .refl session, ending, asks⟩

private theorem deliverMessage_returns {host : Host σ ν τ} {family : Family} {message : Bytes}
    {session : Session σ τ} {request : CloseRequest}
    (asked : (deliverMessage host family message session).ending.fault? =
      some (.closeRequested request)) :
    session.Returns host (deliverMessage host family message session).trace request := by
  rw [deliverMessage_run, Outcome.ending_after] at asked
  rw [deliverMessage_run, Outcome.trace_after]
  cases decoded : messageEvent family message with
  | none =>
    rw [decoded] at asked
    cases asked
  | some event =>
    rw [decoded] at asked
    simp only [invoke_run]
    exact (invoke_returns asked).mono (.refl session) (List.subset_append_right _ _)

private theorem deliverStream_returns {host : Host σ ν τ} {family : Family} {stream : Nat}
    {session : Session σ τ} {request : CloseRequest}
    (asked : (deliverStream host family stream session).ending.fault? =
      some (.closeRequested request)) :
    session.Returns host (deliverStream host family stream session).trace request := by
  rw [deliverStream_run, Outcome.ending_after] at asked
  rw [deliverStream_run, Outcome.trace_after, invoke_run]
  exact (invoke_returns asked).mono (session.presented_reacted family stream).steady
    (List.subset_append_right _ _)

private theorem route_wrong {handlers : Handlers} {inFlight : Option Family} {frame : Frame}
    {fault : Fault}
    (routed : route handlers inFlight frame = .wrong fault) (request : CloseRequest) :
    fault ≠ .closeRequested request := by
  rcases fault_of_wrong routed with ⟨current, received, rfl⟩ | ⟨defect, rfl⟩ <;> nofun

private theorem Fate.returns {host : Host σ ν τ} {frame : Frame} {session : Session σ τ}
    {done : Outcome (Session σ τ) (Occurrence ν) Fault Unit} {request : CloseRequest}
    (fate : Fate host frame session done)
    (asked : done.ending.fault? = some (.closeRequested request)) :
    session.Returns host done.trace request := by
  cases fate with
  | passed | overflowed | kept | continued => cases asked
  | wrong fault routed => exact absurd (Option.some.inj asked) (route_wrong routed request)
  | noticed notice routed =>
    rw [invoke_run]
    exact invoke_returns asked
  | completed family extended delivered routed takes appended finished delivery =>
    subst delivery
    have lent : session.Steady (session.onLoan family) := ⟨rfl, rfl, rfl⟩
    exact (deliverMessage_returns asked).mono lent fun x member =>
      List.mem_append_right _ (List.mem_append_left _ member)
  | opened family routed idle =>
    have fed : session.Steady (session.fed family frame) := ⟨rfl, rfl, rfl⟩
    exact (deliverStream_returns asked).mono fed (List.subset_append_right _ _)

private theorem attempt_returns {host : Host σ ν τ} {input : Input} {session : Session σ τ}
    {request : CloseRequest} (coherent : session.Coherent)
    (asked : (input.attempt host session).ending.fault? = some (.closeRequested request)) :
    input = .protocolError request ∨
      session.Returns host (input.attempt host session).trace request := by
  cases input with
  | protocolError own =>
    cases asked
    exact .inl rfl
  | connect =>
    refine .inr ?_
    simp only [Input.attempt, invoke_run]
    exact invoke_returns asked
  | frame frame =>
    refine .inr ?_
    have dispatched := dispatch_dispatched host frame coherent
    change (dispatch host frame session).ending.fault? = _ at asked
    change session.Returns host (dispatch host frame session).trace request
    generalize dispatch host frame session = done at dispatched asked ⊢
    cases dispatched with
    | stopped fails =>
      refine invoke_returns ?_
      rw [invoke_run]
      exact asked
    | followed done passes fate =>
      exact (fate.returns asked).mono (call_reacted host (.frame frame) session).steady
        (List.subset_append_right _ _)

end Session

namespace Entry

def fault? (host : Host σ ν τ) (entry : Entry σ ν τ) : Option Fault :=
  match entry.operation with
  | .input given => (given.attempt host entry.before).ending.fault?
  | _ => none

/-- The session was asked to close so in this operation, by its owner or by a callback. -/
def Asked (host : Host σ ν τ) (entry : Entry σ ν τ) (request : CloseRequest) : Prop :=
  entry.operation = .input (.protocolError request) ∨
    entry.before.Returns host entry.outcome.trace request

/-- The status is right for a fault: the one asked for if it is a request, and else one that may be
sent. -/
def Suits (host : Host σ ν τ) (entry : Entry σ ν τ) (code : CloseCode) : Fault → Prop
  | .closeRequested request => code = request.code ∧ entry.Asked host request
  | _ => code.isSendable = true ∧ code ≠ .noStatus ∧ code ≠ .abnormal

private theorem suits_of_unasked {host : Host σ ν τ} {entry : Entry σ ν τ} {code : CloseCode}
    {fault : Fault} (unasked : ∀ request, fault ≠ .closeRequested request)
    (sendable : code.isSendable = true) : entry.Suits host code fault := by
  cases fault with
  | closeRequested request => exact absurd rfl (unasked request)
  | _ => exact ⟨sendable, CloseCode.ne_of_isSendable sendable⟩

end Entry

namespace Session

private theorem closings_of_sound {host : Host σ ν τ} {input : Input} {session : Session σ τ}
    (coherent : session.Coherent) (sound : (input.attempt host session).ending.fault? = none) :
    closings ((input.handle host : Step σ τ ν ε Unit) session).trace = [] := by
  have arrival : closings (input.arrivalTrace : List (Occurrence ν)) = [] := by
    cases input <;> rfl
  rw [handle_of_none sound, closings_append, arrival, closings_attempt host input coherent]
  rfl

/-- A close by the session is for the fault of the operation, with the status of the fault and as
much of its reason as fits. -/
theorem closed_for_fault {host : Host σ ν τ} {operation : Operation σ τ} {session : Session σ τ}
    {code : CloseCode} {reason : String} (coherent : session.Coherent)
    (closed : .closed .session code reason ∈ (session.entry host operation).outcome.trace) :
    ∃ fault, (session.entry host operation).fault? host = some fault ∧
      code = session.closingCode fault ∧ reason = session.closingReason fault := by
  have member : .closed .session code reason ∈
      closings (session.entry host operation).outcome.trace := List.mem_filter.mpr ⟨closed, rfl⟩
  cases operation with
  | attach connection => cases member
  | read stream style => cases member
  | become app => cases member
  | input given =>
    change _ ∈ closings (given.handle host session).trace at member
    cases failed : (given.attempt host session).ending.fault? with
    | none =>
      rw [closings_of_sound coherent failed] at member
      cases member
    | some fault =>
      refine ⟨fault, failed, ?_⟩
      rw [closings_handle host given coherent failed] at member
      rcases List.mem_cons.mp member with counted | member
      · cases counted
      · split at member
        · obtain ⟨-, status, told⟩ := Occurrence.closed.inj (List.mem_singleton.mp member)
          exact ⟨status, told⟩
        · cases member

private theorem entry_suits {host : Host σ ν τ} {operation : Operation σ τ} {session : Session σ τ}
    {code : CloseCode} {reason : String} (coherent : session.Coherent)
    (closed : .closed .session code reason ∈ (session.entry host operation).outcome.trace) :
    ∃ fault, (session.entry host operation).fault? host = some fault ∧
      (session.entry host operation).Suits host code fault := by
  obtain ⟨fault, failed, status, -⟩ := closed_for_fault coherent closed
  refine ⟨fault, failed, ?_⟩
  cases operation with
  | attach connection => cases failed
  | read stream style => cases failed
  | become app => cases failed
  | input given =>
    change (given.attempt host session).ending.fault? = some fault at failed
    by_cases asked : ∃ request, fault = .closeRequested request
    · obtain ⟨request, rfl⟩ := asked
      refine ⟨status, (attempt_returns coherent failed).imp (congrArg _) fun returns => ?_⟩
      refine returns.mono (.refl session) fun x seen => ?_
      change x ∈ (given.handle host session).trace
      rw [handle_of_some failed]
      simp [faultTrace, seen]
    · rw [status]
      have unasked := not_exists.mp asked
      exact Entry.suits_of_unasked unasked (fault.isSendable_closing _ unasked)

end Session

/-- Whenever a session closes its connection for a failure, in any run, the status is one that may
be sent, and not one of the two that stand for something else; only a requested close has the status
that was asked for, and somebody has asked for it in the same operation. -/
theorem close_status_sendable_unless_requested (host : Host σ ν τ) (app : σ) (handlers : Handlers)
    (policy : Policy) (pool : Pool) (operations : List (Operation σ τ)) :
    ∀ entry ∈ (Session.start app handlers policy pool).history host operations,
      ∀ code reason, .closed .session code reason ∈ entry.outcome.trace →
        ∃ fault, entry.fault? host = some fault ∧ entry.Suits host code fault := by
  intro entry member code reason closed
  have coherent : (Session.start app handlers policy pool : Session σ τ).Coherent :=
    Session.coherent_of_idle rfl
  obtain ⟨reached, operation, sound, -, rfl⟩ := Session.entry_of_mem_history coherent member
  exact Session.entry_suits sound closed

/-- An application that answers a CLOSE frame with a close of the same status and reason. -/
def echoing : Host Unit Empty Recorder where
  react event _ _ :=
    match event with
    | .close notice => .fail (.ofRequest ⟨notice.code, notice.reason.getD ""⟩)
    | _ => .succeed
  transport := Recorder.transport

/-- A CLOSE frame of one byte is refused with a status that may be sent, before the close callback
could send anything back. -/
theorem defective_close_status :
    let start : Session Unit Recorder := .start () (.ofRegistrations [.close]) .default (.empty 4)
    let session := start.attach (.fresh .none)
    let entry := session.entry echoing (.input (.frame ⟨.close, true, [3]⟩))
    let operations := [.attach (.fresh .none), .input (.frame ⟨.close, true, [3]⟩)]
    entry ∈ start.history echoing operations ∧
      .closed .session .protocolError "InvalidClosePayload" ∈ entry.outcome.trace ∧
      ∃ fault, entry.fault? echoing = some fault ∧ entry.Suits echoing .protocolError fault := by
  intro start session entry operations
  have member : entry ∈ start.history echoing operations := .tail _ (.head _)
  have closings : closings entry.outcome.trace = [.counted (.termination .protocolError),
      .closed .session .protocolError "InvalidClosePayload"] := by rfl
  have closed : .closed .session .protocolError "InvalidClosePayload" ∈ entry.outcome.trace := by
    have last : .closed .session .protocolError "InvalidClosePayload" ∈
        WebSocketSession.closings entry.outcome.trace := by
      rw [closings]
      exact .tail _ (.head _)
    exact (List.mem_filter.mp last).1
  exact ⟨member, closed, close_status_sendable_unless_requested echoing () _ _ _ operations entry
    member _ _ closed⟩

/-- A peer's CLOSE frame is empty, and the close callback sends its status back: the session closes
with the status that stands for none. So does one whose owner asks for the status of a connection
that broke. -/
theorem absent_status_sent_back :
    let start : Session Unit Recorder := .start () (.ofRegistrations [.close]) .default (.empty 4)
    let closingsAfter (input : Input) :=
      closings (start.runTrace echoing [.attach (.fresh .none), .input input])
    closingsAfter (.frame ⟨.close, true, []⟩) =
        [.counted (.termination .noStatus), .closed .session .noStatus ""] ∧
      closingsAfter (.protocolError ⟨.abnormal, "gone"⟩) =
        [.counted (.termination .abnormal), .closed .session .abnormal "gone"] ∧
      CloseCode.noStatus.isSendable = false ∧ CloseCode.abnormal.isSendable = false :=
  ⟨by rfl, by rfl, rfl, rfl⟩

end WebSocketSession
