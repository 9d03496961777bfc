import WebSocketSession.Proofs.Run
import WebSocketSession.Proofs.SingleSlot

/-!
# The slot agrees with the table

The delivery of a message is written down twice, in the table of handlers and in the slot of the
message in flight, and a fragment is checked against both. In every session reached the two agree
(`slot_agrees_with_table`). So the assembly refuses no fragment that a dispatch gives it, no
continuation of a message in flight is without a handler, and a message is only ever interrupted by
a frame that would open one of the other family.
-/

set_option autoImplicit false
set_option relaxedAutoImplicit false

namespace WebSocketSession

variable {σ ν τ ε : Type}

def LogRecord.unhandled? : LogRecord → Option Family
  | .noHandler family => some family
  | _ => none

/-- The families of the frames that a trace shows as discarded for lack of a handler. -/
def unhandled (trace : List (Occurrence ν)) : List Family :=
  (trace.filterMap Occurrence.record?).filterMap LogRecord.unhandled?

private theorem mem_unhandled {family : Family} {trace : List (Occurrence ν)} :
    family ∈ unhandled trace ↔ .logged (.noHandler family) ∈ trace := by
  simp only [unhandled, List.mem_filterMap]
  constructor
  · rintro ⟨record, ⟨x, member, recorded⟩, kind⟩
    cases x with
    | logged =>
      cases recorded
      cases record <;> cases kind
      exact member
    | _ => cases recorded
  · intro member
    exact ⟨_, ⟨_, member, rfl⟩, rfl⟩

@[simp] theorem unhandled_append (first second : List (Occurrence ν)) :
    unhandled (first ++ second) = unhandled first ++ unhandled second := by
  simp only [unhandled, List.filterMap_append]

@[simp] theorem unhandled_counted (metric : Metric) (trace : List (Occurrence ν)) :
    unhandled (.counted metric :: trace) = unhandled trace := rfl

@[simp] theorem unhandled_logged (records : List LogRecord) :
    unhandled (records.map .logged : List (Occurrence ν)) =
      records.filterMap LogRecord.unhandled? := by
  rw [unhandled, Occurrence.filterMap_record?_logged]

@[simp] theorem unhandled_arrivalTrace (input : Input) :
    unhandled (input.arrivalTrace : List (Occurrence ν)) = [] := by
  cases input <;> rfl

@[simp] theorem unhandled_panicTrace {α : Type} (ending : Ending Fault α) :
    unhandled (ending.panicTrace : List (Occurrence ν)) = [] := by
  cases ending <;> rfl

@[simp] theorem unhandled_returnedTrace (loan : Loan) :
    unhandled (Assembly.returnedTrace loan : List (Occurrence ν)) = [] := rfl

@[simp] theorem unhandled_abandonTrace (assembly : Assembly) :
    unhandled (assembly.abandonTrace : List (Occurrence ν)) = [] := by
  unfold Assembly.abandonTrace Feed.abort
  split
  · rfl
  · rfl
  · dsimp only
    split <;> rfl

def Route.unhandled : Route → List Family
  | .pass records => records.filterMap LogRecord.unhandled?
  | _ => []

namespace Session

@[simp] theorem unhandled_call (host : Host σ ν τ) (event : Event) (session : Session σ τ) :
    WebSocketSession.unhandled (call host event session).trace = [] := by
  rw [WebSocketSession.unhandled, filterMap_record?_call]
  rfl

@[simp] theorem unhandled_loanTrace (family : Family) (session : Session σ τ) :
    WebSocketSession.unhandled (session.loanTrace family : List (Occurrence ν)) = [] := by
  unfold loanTrace Assembly.lendingTrace
  split <;> rfl

@[simp] theorem unhandled_feedTrace (family : Family) (frame : Frame) (session : Session σ τ) :
    WebSocketSession.unhandled (session.feedTrace family frame : List (Occurrence ν)) = [] := by
  unfold feedTrace Assembly.written Feed.append
  dsimp only
  split <;> split <;> try split
  all_goals rfl

private theorem Fate.unhandled {host : Host σ ν τ} {frame : Frame} {session : Session σ τ}
    {done : Outcome (Session σ τ) (Occurrence ν) Fault Unit}
    (fate : Fate host frame session done) :
    WebSocketSession.unhandled done.trace =
      (route session.handlers session.inFlight frame).unhandled := by
  cases fate with
  | passed records routed => simp [routed, Route.unhandled]
  | wrong fault routed =>
    rw [routed]
    rfl
  | noticed notice routed => simp [routed, Route.unhandled]
  | overflowed family overflow routed takes appended => simp [routed, Route.unhandled]
  | kept family extended routed takes appended unfinished => simp [routed, Route.unhandled]
  | completed family extended delivered routed takes appended finished delivery =>
    subst delivery
    rw [deliverMessage_run, routed]
    cases messageEvent family extended.bytes <;> simp [Route.unhandled]
  | opened family routed idle => simp [deliverStream_run, routed, Route.unhandled]
  | continued family stream feed routed held => simp [routed, Route.unhandled]

private theorem unhandled_closeDown (host : Host σ ν τ) (fault : Fault) (session : Session σ τ) :
    WebSocketSession.unhandled ((closeDown host fault : Step σ τ ν ε Unit) session).trace = [] := by
  have closing : WebSocketSession.unhandled (session.closedTrace host fault) = [] := by
    unfold closedTrace closeTrace
    cases session.answer? host _ _ with
    | none => rfl
    | some answer => cases answer <;> rfl
  have complaining (ending : Ending Failure Unit) :
      WebSocketSession.unhandled (complaintTrace ending : List (Occurrence ν)) = [] := by
    cases ending <;> rfl
  rcases session.calm_or_panics host fault with calm | ⟨payload, panics⟩
  · rw [closeDown_of_calm calm]
    simp [closing, complaining]
  · rw [closeDown_of_panic panics]
    exact closing

private theorem unhandled_attempt (host : Host σ ν τ) (frame : Frame) {session : Session σ τ}
    (coherent : session.Coherent) :
    WebSocketSession.unhandled ((Input.frame frame).attempt host session).trace =
      match (call host (.frame frame) session).ending with
      | .value _ => (route session.handlers session.inFlight frame).unhandled
      | _ => [] := by
  have seen := call_reacted host (.frame frame) session
  have dispatched := dispatch_dispatched host frame coherent
  change WebSocketSession.unhandled (dispatch host frame session).trace = _
  generalize dispatch host frame session = done at dispatched ⊢
  cases dispatched with
  | stopped fails =>
    rw [unhandled_call]
    cases ending : (call host (.frame frame) session).ending with
    | value _ => exact absurd ending fails
    | fault failure => rfl
    | panic payload => rfl
  | followed done passes fate =>
    rw [Outcome.trace_after, unhandled_append, unhandled_call, fate.unhandled, passes,
      seen.handlers, seen.inFlight]
    rfl

private theorem unhandled_handle (host : Host σ ν τ) (input : Input) (session : Session σ τ) :
    WebSocketSession.unhandled ((input.handle host : Step σ τ ν ε Unit) session).trace =
      WebSocketSession.unhandled (input.attempt host session).trace := by
  cases ending : (input.attempt host session).ending.fault? with
  | none => simp [handle_of_none ending]
  | some fault =>
    have reported : WebSocketSession.unhandled
        [(.logged (reportRecord fault) : Occurrence ν)] = [] := by
      cases fault <;> rfl
    simp only [handle_of_some ending, Outcome.trace_after, faultTrace, unhandled_append, reported,
      unhandled_arrivalTrace, unhandled_panicTrace, unhandled_abandonTrace, unhandled_closeDown,
      List.nil_append, List.append_nil]

private theorem mem_unhandled_routeData {handlers : Handlers} {inFlight : Option Family}
    {asked family : Family} {opcode : Opcode} :
    family ∈ (routeData handlers inFlight asked opcode).unhandled ↔
      asked = family ∧ handlers.delivery asked = none := by
  unfold routeData
  split
  · rename_i unwanted
    simp [Route.unhandled, LogRecord.unhandled?, unwanted, eq_comm]
  · rename_i wanted
    split
    · simp [Route.unhandled, wanted]
    · split <;> simp [Route.unhandled, wanted]

/-- A frame goes past a missing handler if it is of such a family by itself, or continues a message
of such a family. -/
private theorem mem_unhandled_route {handlers : Handlers} {inFlight : Option Family} {frame : Frame}
    {family : Family} :
    family ∈ (route handlers inFlight frame).unhandled ↔
      (frame.opcode = .ofFamily family ∨
        (frame.opcode = .continuation ∧ inFlight = some family)) ∧
      handlers.delivery family = none := by
  unfold route
  cases kind : frame.opcode with
  | ping => cases family <;> simp [Route.unhandled, Opcode.ofFamily]
  | pong => cases family <;> simp [Route.unhandled, Opcode.ofFamily]
  | text => cases family <;> simp [mem_unhandled_routeData, Opcode.ofFamily]
  | binary => cases family <;> simp [mem_unhandled_routeData, Opcode.ofFamily]
  | continuation =>
    cases inFlight with
    | none => cases family <;> simp [Route.unhandled, LogRecord.unhandled?, Opcode.ofFamily]
    | some current =>
      cases family <;> cases current <;> simp [mem_unhandled_routeData, Opcode.ofFamily]
  | close =>
    by_cases wanted : handlers.close
    · cases CloseNotice.ofPayload frame.payload <;> cases family <;>
        simp [wanted, Route.unhandled, Opcode.ofFamily]
    · cases family <;> simp [wanted, Route.unhandled, Opcode.ofFamily]

/-- A frame is discarded for lack of a handler exactly if the observer lets it pass and it is a data
frame of a family that the table has no handler for. -/
private theorem Coherent.noHandler_iff {session : Session σ τ} (coherent : session.Coherent)
    (host : Host σ ν τ) (frame : Frame) (family : Family) :
    .logged (.noHandler family) ∈
        (((Input.frame frame).handle host : Step σ τ ν ε Unit) session).trace ↔
      session.Passes host frame ∧ frame.opcode = .ofFamily family ∧
        session.handlers.delivery family = none := by
  have continued : ¬ (session.inFlight = some family ∧
      session.handlers.delivery family = none) := by
    rintro ⟨current, unwanted⟩
    exact coherent.wanted current unwanted
  rw [← mem_unhandled, unhandled_handle, unhandled_attempt host frame coherent, Passes]
  cases (call host (.frame frame) session).ending with
  | value _ =>
    rw [mem_unhandled_route]
    simp only [true_and]
    tauto
  | fault failure => simp
  | panic payload => simp

private theorem route_interleaved {handlers : Handlers} {inFlight : Option Family} {frame : Frame}
    {current : Family} {opcode : Opcode}
    (routed : route handlers inFlight frame = .wrong (.interleaved current opcode)) :
    inFlight = some current ∧ frame.opcode = opcode ∧
      ∃ family, opcode = .ofFamily family ∧ current ≠ family := by
  have crossed {asked : Family} {received : Opcode}
      (wrong : routeData handlers inFlight asked received = .wrong (.interleaved current opcode)) :
      inFlight = some current ∧ received = opcode ∧ current ≠ asked := by
    unfold routeData at wrong
    split at wrong
    · cases wrong
    · split at wrong
      · cases wrong
      · split at wrong
        · cases wrong
        · rename_i other
          cases wrong
          exact ⟨rfl, rfl, other⟩
  unfold route at routed
  split at routed
  · cases routed
  · cases routed
  · rename_i kind
    obtain ⟨flight, rfl, other⟩ := crossed routed
    exact ⟨flight, kind, .text, rfl, other⟩
  · rename_i kind
    obtain ⟨flight, rfl, other⟩ := crossed routed
    exact ⟨flight, kind, .binary, rfl, other⟩
  · split at routed
    · cases routed
    · -- A continuation is asked for by the message in flight itself.
      obtain ⟨flight, -, other⟩ := crossed routed
      exact absurd (Option.some.inj flight).symm other
  · split at routed
    · split at routed <;> cases routed
    · cases routed

private theorem not_interleaved_of_call {host : Host σ ν τ} {event : Event} {session : Session σ τ}
    {inFlight : Family} {received : Opcode} :
    ((call host event session).ending.mapFault Fault.ofFailure).fault? ≠
      some (.interleaved inFlight received) := by
  cases (call host event session).ending with
  | value _ => simp [Ending.mapFault, Ending.fault?]
  | fault failure =>
    simp only [Ending.mapFault, Ending.fault?, Fault.ofFailure]
    split <;> simp
  | panic payload => simp [Ending.mapFault, Ending.fault?]

private theorem Fate.interleaved {host : Host σ ν τ} {frame : Frame} {session : Session σ τ}
    {done : Outcome (Session σ τ) (Occurrence ν) Fault Unit} {inFlight : Family}
    {received : Opcode} (fate : Fate host frame session done)
    (faulty : done.ending.fault? = some (.interleaved inFlight received)) :
    route session.handlers session.inFlight frame = .wrong (.interleaved inFlight received) := by
  cases fate with
  | passed | overflowed | kept | continued => cases faulty
  | wrong fault routed =>
    cases faulty
    exact routed
  | noticed notice routed =>
    rw [invoke_run] at faulty
    exact absurd faulty not_interleaved_of_call
  | completed family extended delivered routed takes appended finished delivery =>
    subst delivery
    rw [deliverMessage_run] at faulty
    cases event : messageEvent family extended.bytes with
    | none =>
      rw [event] at faulty
      cases faulty
    | some event' =>
      rw [event] at faulty
      simp only [invoke_run, Outcome.ending_after] at faulty
      exact absurd faulty not_interleaved_of_call
  | opened family routed idle =>
    rw [Outcome.ending_after, deliverStream_run, Outcome.ending_after, invoke_run] at faulty
    exact absurd faulty not_interleaved_of_call

private theorem Coherent.interrupted {session : Session σ τ} (coherent : session.Coherent)
    {host : Host σ ν τ} {input : Input} {inFlight : Family} {received : Opcode}
    (faulty : (input.attempt host session).ending.fault? =
      some (.interleaved inFlight received)) :
    session.inFlight = some inFlight ∧ ∃ frame family,
      input = .frame frame ∧ frame.opcode = received ∧ received = .ofFamily family ∧
        inFlight ≠ family := by
  cases input with
  | connect =>
    simp only [Input.attempt, invoke_run] at faulty
    exact absurd faulty not_interleaved_of_call
  | protocolError request => cases faulty
  | frame frame =>
    have seen := call_reacted host (.frame frame) session
    have dispatched := dispatch_dispatched host frame coherent
    change (dispatch host frame session).ending.fault? = _ at faulty
    generalize dispatch host frame session = done at dispatched faulty
    cases dispatched with
    | stopped fails => exact absurd faulty not_interleaved_of_call
    | followed done passes fate =>
      have routed := fate.interleaved faulty
      rw [seen.inFlight] at routed
      obtain ⟨flight, kind, family, opens, other⟩ := route_interleaved routed
      exact ⟨flight, frame, family, rfl, kind, opens, other⟩

/-- The call of its assembly that a fragment of a family makes, with the limit for a new message. -/
def assemblyCall (family : Family) (frame : Frame) (limit : Nat) : Delivery → Call
  | .buffered => .buffered family frame.payload frame.fin limit
  | .streaming => .streamed family frame.payload frame.fin

/-- The slot of a session agrees with a table and a policy. -/
structure Agreement (host : Host σ ν τ) (handlers : Handlers) (policy : Policy)
    (session : Session σ τ) : Prop where
  /-- The message in flight has a handler, and is taken in as that one asks for. -/
  delivery : ∀ family, session.inFlight = some family → ∃ delivery,
    handlers.delivery family = some delivery ∧ session.assembly.slot.delivery = some delivery
  /-- A buffered message has the limit of its family and keeps within it. -/
  within : ∀ family loan, session.assembly.slot = .buffered family loan →
    loan.limit = policy.bufferedLimit family ∧ loan.bytes.length ≤ loan.limit
  /-- A continuation of the message in flight is not discarded for lack of a handler: once the
  observer has let it pass, it goes into the message. -/
  continued : ∀ frame family, frame.opcode = .continuation → session.inFlight = some family →
    (∀ other, .logged (.noHandler other) ∉
      (((Input.frame frame).handle host : Step σ τ ν Empty Unit) session).trace) ∧
    (session.Passes host frame → ∃ delivery, session.assembly.slot.delivery = some delivery ∧
      (Input.frame frame).attempt host session =
        (follow host frame (.fragment family delivery) (session.observed host frame)).after
          (call host (.frame frame) session).trace)
  /-- Where a dispatch finds a handler and no message of the other family, it goes on to the
  assembly, and that does not refuse the fragment. -/
  accepted : ∀ frame family delivery, handlers.delivery family = some delivery →
    session.inFlight = none ∨ session.inFlight = some family →
    let seen := session.observed host frame
    dispatchData host family frame seen = follow host frame (.fragment family delivery) seen ∧
      ((assemblyCall family frame (seen.policy.bufferedLimit family) delivery).work
        seen.assembly).ending.isRefusal = false
  /-- What interrupts a message is a frame that would open one of the other family. -/
  interrupted : ∀ (input : Input) inFlight received,
    (input.attempt host session).ending.fault? = some (.interleaved inFlight received) →
    session.inFlight = some inFlight ∧ ∃ frame family,
      input = .frame frame ∧ frame.opcode = received ∧ received = .ofFamily family ∧
        inFlight ≠ family

private theorem Coherent.fits {session : Session σ τ} (coherent : session.Coherent)
    {family : Family}
    {delivery : Delivery} (wanted : session.handlers.delivery family = some delivery)
    (flight : session.inFlight = none ∨ session.inFlight = some family) (frame : Frame)
    (limit : Nat) : (assemblyCall family frame limit delivery).Fits session.assembly.slot := by
  have takes : session.assembly.slot.Takes family delivery := by
    rcases flight with idle | current
    · exact .inl (Slot.inFlight_eq_none.mp idle)
    · exact .inr ⟨current, (coherent.delivery current).1.trans wanted⟩
  cases delivery <;> exact takes

private theorem Coherent.agreement {session : Session σ τ} (coherent : session.Coherent)
    (host : Host σ ν τ) : session.Agreement host session.handlers session.policy where
  delivery family current := by
    obtain ⟨same, handled⟩ := coherent.delivery current
    obtain ⟨delivery, wanted⟩ := Option.isSome_iff_exists.mp handled
    exact ⟨delivery, wanted, same.trans wanted⟩
  within family loan held := by
    unfold Coherent at coherent
    rw [held] at coherent
    rw [loan.length_bytes]
    exact coherent.2
  continued frame family kind current := by
    obtain ⟨same, handled⟩ := coherent.delivery current
    obtain ⟨delivery, wanted⟩ := Option.isSome_iff_exists.mp handled
    constructor
    · intro other discarded
      have opens := ((coherent.noHandler_iff host frame other).mp discarded).2.1
      cases other <;> cases kind.symm.trans opens
    · intro passes
      have routed : route session.handlers session.inFlight frame = .fragment family delivery := by
        simp [route, kind, current, routeData, wanted]
      refine ⟨delivery, same.trans wanted, ?_⟩
      rw [attempt_of_passes passes, routed]
  accepted frame family delivery wanted flight := by
    intro seen
    have reacted : session.Reacted seen := session.observed_reacted host frame
    have wanted' : seen.handlers.delivery family = some delivery := by
      rw [reacted.handlers]
      exact wanted
    have flight' : seen.inFlight = none ∨ seen.inFlight = some family := by
      rw [reacted.inFlight]
      exact flight
    constructor
    · have routed : routeData seen.handlers seen.inFlight family frame.opcode =
          .fragment family delivery := by
        rcases flight' with idle | current
        · simp [routeData, wanted', idle]
        · simp [routeData, wanted', current]
      rw [dispatchData_run, routed]
    · rw [← Bool.not_eq_true, Call.isRefusal_iff, not_not]
      exact (reacted.coherent coherent).fits wanted' flight' frame _
  interrupted input inFlight received := coherent.interrupted

end Session

/-- In every session reached, the slot agrees with the table and the policy that the session was
started with. -/
theorem slot_agrees_with_table (host : Host σ ν τ) (app : σ) (handlers : Handlers)
    (policy : Policy) (pool : Pool) (operations : List (Operation σ τ)) :
    ((Session.start app handlers policy pool).run host operations).Agreement host handlers
      (policy.effective handlers) := by
  have begun : (Session.start app handlers policy pool : Session σ τ).Coherent :=
    Session.coherent_of_idle rfl
  have agreement := (Session.run_coherent host operations begun).agreement host
  rw [Session.run_handlers host operations begun, Session.run_policy host operations begun]
    at agreement
  exact agreement

end WebSocketSession
