import WebSocketSession.Proofs.Termination
import WebSocketSession.Session.Dispatch

/-!
# Routing of frames

Where a frame goes depends on the table of handlers, on the family in flight and on the frame
itself; `route` is that choice, apart from what is done about it. `dispatch_run` splits a dispatch
into the frame observer and the following of a route.
-/

set_option autoImplicit false
set_option relaxedAutoImplicit false

namespace WebSocketSession

variable {σ ν τ ε : Type}

/-- What becomes of a frame: it passes, it is a fault, it is a notice for the close callback, or it
is a fragment of a message. -/
inductive Route where
  | pass (records : List LogRecord)
  | wrong (fault : Fault)
  | notice (notice : CloseNotice)
  | fragment (family : Family) (delivery : Delivery)
  deriving DecidableEq

namespace Session

def routeData (handlers : Handlers) (inFlight : Option Family) (family : Family)
    (opcode : Opcode) : Route :=
  match handlers.delivery family with
  | none => .pass [.noHandler family]
  | some delivery =>
    match inFlight with
    | none => .fragment family delivery
    | some current =>
      if current = family then .fragment family delivery else .wrong (.interleaved current opcode)

def route (handlers : Handlers) (inFlight : Option Family) (frame : Frame) : Route :=
  match frame.opcode with
  | .ping | .pong => .pass []
  | .text => routeData handlers inFlight .text .text
  | .binary => routeData handlers inFlight .binary .binary
  | .continuation =>
    match inFlight with
    | none => .pass [.strayContinuation]
    | some family => routeData handlers inFlight family .continuation
  | .close =>
    if handlers.close then
      match CloseNotice.ofPayload frame.payload with
      | .ok notice => .notice notice
      | .error defect => .wrong (.malformedClose defect)
    else .pass []

theorem route_of_unwanted {handlers : Handlers} {inFlight : Option Family} {family : Family}
    {frame : Frame} (kind : frame.opcode = .ofFamily family)
    (unwanted : handlers.delivery family = none) :
    route handlers inFlight frame = .pass [.noHandler family] := by
  cases family <;> simp [route, kind, Opcode.ofFamily, routeData, unwanted]

theorem route_of_opens {handlers : Handlers} {family : Family} {delivery : Delivery}
    {frame : Frame} (wanted : handlers.delivery family = some delivery)
    (opens : frame.opcode = .ofFamily family) :
    route handlers none frame = .fragment family delivery := by
  cases family <;> simp [route, opens, Opcode.ofFamily, routeData, wanted]

section Inversion

variable {handlers : Handlers} {inFlight : Option Family} {asked : Family} {opcode : Opcode}
  {frame : Frame} {records : List LogRecord} {fault : Fault}

private theorem records_of_data_pass
    (routed : routeData handlers inFlight asked opcode = .pass records) :
    records = [.noHandler asked] := by
  unfold routeData at routed
  split at routed
  · cases routed
    rfl
  · split at routed
    · cases routed
    · split at routed <;> cases routed

/-- A frame passes without a word, or for lack of a handler or of a message to go on with. -/
theorem records_of_pass (routed : route handlers inFlight frame = .pass records) :
    records = [] ∨ (∃ family, records = [.noHandler family]) ∨ records = [.strayContinuation] := by
  have data {family : Family} {received : Opcode}
      (passes : routeData handlers inFlight family received = .pass records) :
      ∃ family, records = [.noHandler family] := ⟨family, records_of_data_pass passes⟩
  unfold route at routed
  split at routed
  · cases routed
    exact .inl rfl
  · cases routed
    exact .inl rfl
  · exact .inr (.inl (data routed))
  · exact .inr (.inl (data routed))
  · split at routed
    · cases routed
      exact .inr (.inr rfl)
    · exact .inr (.inl (data routed))
  · split at routed
    · split at routed <;> cases routed
    · cases routed
      exact .inl rfl

private theorem fault_of_data_wrong
    (routed : routeData handlers inFlight asked opcode = .wrong fault) :
    ∃ current, fault = .interleaved current opcode := by
  unfold routeData at routed
  split at routed
  · cases routed
  · split at routed
    · cases routed
    · split at routed
      · cases routed
      · cases routed
        exact ⟨_, rfl⟩

theorem fault_of_wrong (routed : route handlers inFlight frame = .wrong fault) :
    (∃ current received, fault = .interleaved current received) ∨
      ∃ defect, fault = .malformedClose defect := by
  have data {family : Family} {received : Opcode}
      (wrong : routeData handlers inFlight family received = .wrong fault) :
      ∃ current received, fault = .interleaved current received :=
    (fault_of_data_wrong wrong).imp fun _ same => ⟨received, same⟩
  unfold route at routed
  split at routed
  · cases routed
  · cases routed
  · exact .inl (data routed)
  · exact .inl (data routed)
  · split at routed
    · cases routed
    · exact .inl (data routed)
  · split at routed
    · split at routed
      · cases routed
      · cases routed
        exact .inr ⟨_, rfl⟩
    · cases routed

end Inversion

def follow (host : Host σ ν τ) (frame : Frame) : Route → Step σ τ ν Fault Unit
  | .pass records => Work.tell (records.map .logged)
  | .wrong fault => Work.raise fault
  | .notice notice => invoke host (.close notice)
  | .fragment family .buffered => acceptBuffered host family frame
  | .fragment family .streaming => acceptStreaming host family frame

theorem dispatchData_run (host : Host σ ν τ) (family : Family) (frame : Frame)
    (session : Session σ τ) :
    dispatchData host family frame session =
      follow host frame (routeData session.handlers session.inFlight family frame.opcode)
        session := by
  simp only [dispatchData, routeData, Work.bind_run, Work.state_run, Outcome.andThen_value,
    Outcome.after_nil]
  cases session.handlers.delivery family with
  | none => rfl
  | some delivery =>
    cases session.inFlight with
    | none => cases delivery <;> rfl
    | some current =>
      by_cases same : current = family
      · cases delivery <;> simp [same, follow]
      · simp [same, follow]

theorem dispatch_run (host : Host σ ν τ) (frame : Frame) (session : Session σ τ) :
    dispatch host frame session =
      (invoke host (.frame frame) session).andThen fun _ seen =>
        follow host frame (route seen.handlers seen.inFlight frame) seen := by
  simp only [dispatch, Work.bind_run]
  congr 1
  funext _ seen
  cases kind : frame.opcode with
  | continuation =>
    cases inFlight : seen.inFlight with
    | none => simp [route, kind, inFlight, follow]
    | some family => simp [route, kind, inFlight, dispatchData_run]
  | text => simp [route, kind, dispatchData_run]
  | binary => simp [route, kind, dispatchData_run]
  | close =>
    by_cases wanted : seen.handlers.close
    · cases read : CloseNotice.ofPayload frame.payload <;>
        simp [route, kind, dispatchClose, wanted, read, follow]
    · simp [route, kind, dispatchClose, wanted, follow]
  | ping => simp [route, kind, follow]
  | pong => simp [route, kind, follow]

@[simp] theorem invoke_run (host : Host σ ν τ) (event : Event) (session : Session σ τ) :
    invoke host event session =
      ⟨(call host event session).ending.mapFault Fault.ofFailure, (call host event session).state,
        (call host event session).trace⟩ := by
  simp [invoke]

/-- The event that delivers a complete message, unless its bytes are not of its family. -/
def messageEvent (family : Family) (message : Bytes) : Option Event :=
  match family with
  | .text => (Utf8.decode message).map .text
  | .binary => some (.binary message)

def streamEvent (family : Family) (stream : Nat) : Event :=
  match family with
  | .text => .textStream stream
  | .binary => .binaryStream stream

/-- A complete message is counted, and delivered if its bytes are of its family. -/
theorem deliverMessage_run (host : Host σ ν τ) (family : Family) (message : Bytes)
    (session : Session σ τ) :
    deliverMessage host family message session =
      (match messageEvent family message with
        | some event => invoke host event session
        | none => ⟨.fault (.invalidText family), session, []⟩).after
        [.counted (.message family .buffered)] := by
  cases family with
  | binary => simp [deliverMessage, messageEvent]
  | text => cases valid : Utf8.decode message <;> simp [deliverMessage, messageEvent, valid]

theorem deliverMessage_reacted (host : Host σ ν τ) (family : Family) (message : Bytes)
    (session : Session σ τ) :
    session.Reacted (deliverMessage host family message session).state := by
  rw [deliverMessage_run, Outcome.state_after]
  cases messageEvent family message with
  | none => exact .refl session
  | some event => simpa using call_reacted host event session

def presented (family : Family) (stream : Nat) (session : Session σ τ) : Session σ τ :=
  match family with
  | .text => (session.read stream .intoText).2
  | .binary => session

theorem presented_reacted (family : Family) (stream : Nat) (session : Session σ τ) :
    session.Reacted (session.presented family stream) := by
  cases family with
  | text => exact session.read_reacted stream .intoText
  | binary => exact .refl session

theorem deliverStream_run (host : Host σ ν τ) (family : Family) (stream : Nat)
    (session : Session σ τ) :
    deliverStream host family stream session =
      (invoke host (streamEvent family stream) (session.presented family stream)).after
        [.counted (.message family .streaming)] := by
  cases family <;> simp [deliverStream, streamEvent, presented]

theorem deliverStream_reacted (host : Host σ ν τ) (family : Family) (stream : Nat)
    (session : Session σ τ) :
    session.Reacted (deliverStream host family stream session).state := by
  rw [deliverStream_run, Outcome.state_after, invoke_run]
  exact (session.presented_reacted family stream).trans (call_reacted host _ _)

def repaid (loan : Loan) (session : Session σ τ) : Session σ τ :=
  { session with
    assembly :=
      { session.assembly with pool := session.assembly.pool.release loan.buffer } }

private theorem giveBack_run (loan : Loan) (session : Session σ τ) :
    (assembling (Assembly.giveBack loan) : Step σ τ ν ε Unit) session =
      ⟨.value (), session.repaid loan, Assembly.returnedTrace loan⟩ := by
  simp only [assembling_run, Assembly.giveBack_run, repaid]

def loan (family : Family) (session : Session σ τ) : Loan :=
  (session.assembly.lending (session.policy.bufferedLimit family)).1

theorem Reacted.loan {session later : Session σ τ} (h : session.Reacted later) (family : Family) :
    later.loan family = session.loan family := by
  simp only [Session.loan, Assembly.lending, h.slot, h.pool, h.policy]

def onLoan (family : Family) (session : Session σ τ) : Session σ τ :=
  { session with
    assembly :=
      ⟨.idle, (session.assembly.lending (session.policy.bufferedLimit family)).2,
        session.assembly.streams⟩ }

def loanTrace (family : Family) (session : Session σ τ) : List (Occurrence ν) :=
  session.assembly.lendingTrace (session.policy.bufferedLimit family)

def keeping (family : Family) (loan : Loan) (session : Session σ τ) : Session σ τ :=
  { session with assembly := { session.assembly with slot := .buffered family loan } }

/-- A fragment of a buffered message overflows it, is kept with it, or completes it; the loan of a
complete message is returned once its delivery is over. -/
theorem acceptBuffered_run (host : Host σ ν τ) {family : Family} (frame : Frame)
    {session : Session σ τ} (takes : session.assembly.slot.Takes family .buffered) :
    acceptBuffered host family frame session =
      match (session.loan family).append frame.payload with
      | .error overflow =>
        ⟨.fault (.messageTooLarge family overflow.attempted overflow.limit),
          (session.onLoan family).repaid (session.loan family),
          session.loanTrace family ++ Assembly.returnedTrace (session.loan family)⟩
      | .ok extended =>
        if frame.fin then
          let delivered := deliverMessage host family extended.bytes (session.onLoan family)
          ⟨delivered.ending, delivered.state.repaid extended,
            session.loanTrace family ++ (delivered.trace ++ Assembly.returnedTrace extended)⟩
        else
          ⟨.value (), (session.onLoan family).keeping family extended,
            session.loanTrace family⟩ := by
  simp only [acceptBuffered, Work.bind_run, Work.state_run, Outcome.andThen_value,
    Outcome.after_nil, assembling_run, Assembly.acceptBuffered_run takes, loan, loanTrace]
  cases Loan.append _ frame.payload with
  | error overflow => simp [onLoan, repaid]
  | ok extended =>
    cases frame.fin with
    | false => simp [onLoan, keeping]
    | true =>
      simp only [if_true, Outcome.andThen_value]
      rw [Work.ensuring_run _ _ _ _ _ (giveBack_run extended _)]
      rfl

def fed (family : Family) (frame : Frame) (session : Session σ τ) : Session σ τ :=
  { session with
    assembly := (session.assembly.written family frame.payload frame.fin).assembly }

def feedTrace (family : Family) (frame : Frame) (session : Session σ τ) : List (Occurrence ν) :=
  (session.assembly.written family frame.payload frame.fin).records.map .logged

/-- A fragment of a streamed message is written to its stream, and the first one delivers it. -/
theorem acceptStreaming_run (host : Host σ ν τ) {family : Family} (frame : Frame)
    {session : Session σ τ} (takes : session.assembly.slot.Takes family .streaming) :
    acceptStreaming host family frame session =
      if session.inFlight.isNone then
        (deliverStream host family session.assembly.channel.stream
          (session.fed family frame)).after (session.feedTrace family frame)
      else ⟨.value (), session.fed family frame, session.feedTrace family frame⟩ := by
  simp only [acceptStreaming, Work.bind_run, assembling_run, Assembly.acceptStreaming_run takes,
    Assembly.isIdle, inFlight, fed, feedTrace]
  by_cases idle : session.assembly.inFlight.isNone <;> simp [idle]

/-- What a frame can come to, once the frame observer has seen it in a session whose slot takes the
fragments that are routed to it. -/
inductive Fate (host : Host σ ν τ) (frame : Frame) (session : Session σ τ) :
    Outcome (Session σ τ) (Occurrence ν) Fault Unit → Prop where
  | passed (records : List LogRecord)
    (routed : route session.handlers session.inFlight frame = .pass records) :
    Fate host frame session ⟨.value (), session, records.map .logged⟩
  | wrong (fault : Fault)
    (routed : route session.handlers session.inFlight frame = .wrong fault) :
    Fate host frame session ⟨.fault fault, session, []⟩
  | noticed (notice : CloseNotice)
    (routed : route session.handlers session.inFlight frame = .notice notice) :
    Fate host frame session (invoke host (.close notice) session)
  | overflowed (family : Family) (overflow : Overflow)
    (routed : route session.handlers session.inFlight frame = .fragment family .buffered)
    (takes : session.assembly.slot.Takes family .buffered)
    (appended : (session.loan family).append frame.payload = .error overflow) :
    Fate host frame session
      ⟨.fault (.messageTooLarge family overflow.attempted overflow.limit),
        (session.onLoan family).repaid (session.loan family),
        session.loanTrace family ++ Assembly.returnedTrace (session.loan family)⟩
  | kept (family : Family) (extended : Loan)
    (routed : route session.handlers session.inFlight frame = .fragment family .buffered)
    (takes : session.assembly.slot.Takes family .buffered)
    (appended : (session.loan family).append frame.payload = .ok extended)
    (unfinished : frame.fin = false) :
    Fate host frame session
      ⟨.value (), (session.onLoan family).keeping family extended, session.loanTrace family⟩
  | completed (family : Family) (extended : Loan)
    (delivered : Outcome (Session σ τ) (Occurrence ν) Fault Unit)
    (routed : route session.handlers session.inFlight frame = .fragment family .buffered)
    (takes : session.assembly.slot.Takes family .buffered)
    (appended : (session.loan family).append frame.payload = .ok extended)
    (finished : frame.fin = true)
    (delivery : deliverMessage host family extended.bytes (session.onLoan family) = delivered) :
    Fate host frame session
      ⟨delivered.ending, delivered.state.repaid extended,
        session.loanTrace family ++ (delivered.trace ++ Assembly.returnedTrace extended)⟩
  | opened (family : Family)
    (routed : route session.handlers session.inFlight frame = .fragment family .streaming)
    (idle : session.assembly.slot = .idle) :
    Fate host frame session
      ((deliverStream host family session.assembly.streams.length
        (session.fed family frame)).after (session.feedTrace family frame))
  | continued (family : Family) (stream : Nat) (feed : Feed)
    (routed : route session.handlers session.inFlight frame = .fragment family .streaming)
    (held : session.assembly.slot = .streaming family stream feed) :
    Fate host frame session
      ⟨.value (), session.fed family frame, session.feedTrace family frame⟩

theorem follow_fate (host : Host σ ν τ) (frame : Frame) {session : Session σ τ}
    (takes : ∀ family delivery,
      route session.handlers session.inFlight frame = .fragment family delivery →
        session.assembly.slot.Takes family delivery) :
    Fate host frame session
      (follow host frame (route session.handlers session.inFlight frame) session) := by
  cases routed : route session.handlers session.inFlight frame with
  | pass records => exact .passed records routed
  | wrong fault => exact .wrong fault routed
  | notice notice => exact .noticed notice routed
  | fragment family delivery =>
    have taken := takes family delivery routed
    cases delivery with
    | buffered =>
      rw [follow, acceptBuffered_run host frame taken]
      cases appended : (session.loan family).append frame.payload with
      | error overflow => exact .overflowed family overflow routed taken appended
      | ok extended =>
        cases fin : frame.fin with
        | false => exact .kept family extended routed taken appended fin
        | true => exact .completed family extended _ routed taken appended fin rfl
    | streaming =>
      rw [follow, acceptStreaming_run host frame taken]
      cases held : session.assembly.slot with
      | idle =>
        have number : session.assembly.channel.stream = session.assembly.streams.length := by
          simp [Assembly.channel, held]
        have opened : Fate host frame session _ := .opened family routed held
        simpa [inFlight, Assembly.inFlight, held, Slot.inFlight, number] using opened
      | buffered current loan => simp [held] at taken
      | streaming current stream feed =>
        have same : current = family := by simpa [held] using taken
        subst same
        have continued : Fate host frame session _ := .continued current stream feed routed held
        simpa [inFlight, Assembly.inFlight, held, Slot.inFlight] using continued

end Session

end WebSocketSession
