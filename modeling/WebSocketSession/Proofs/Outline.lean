import WebSocketSession.Proofs.Run
import WebSocketSession.Proofs.Utf8

/-!
# Outlines

The outline of a trace keeps the callbacks, the closes by the session and the terminations
counted, in order; it leaves out the pool, the log, and what applications do by themselves. A
frame has at most one callback besides the observer, and which one is a function of the session
and the frame (`callsFor`).
-/

set_option autoImplicit false
set_option relaxedAutoImplicit false

namespace WebSocketSession

variable {σ ν τ ε : Type}

def Occurrence.essential : Occurrence ν → Bool
  | .called _ | .closed .session _ _ | .counted (.termination _) => true
  | _ => false

private theorem Occurrence.not_essential_of_byApplication (x : Occurrence ν)
    (own : x.byApplication = true) : x.essential = false := by
  cases x with
  | closed origin _ _ => cases origin <;> simp_all [byApplication, essential]
  | _ => simp_all [byApplication, essential]

def outline (trace : List (Occurrence ν)) : List (Occurrence ν) :=
  trace.filter Occurrence.essential

@[simp] theorem outline_nil : outline ([] : List (Occurrence ν)) = [] := rfl

theorem outline_cons (x : Occurrence ν) (trace : List (Occurrence ν)) :
    outline (x :: trace) = if x.essential then x :: outline trace else outline trace := by
  unfold outline
  rw [List.filter_cons]

@[simp] theorem outline_append (first second : List (Occurrence ν)) :
    outline (first ++ second) = outline first ++ outline second :=
  List.filter_append ..

@[simp] theorem outline_logged (records : List LogRecord) :
    outline (records.map Occurrence.logged : List (Occurrence ν)) = [] := by
  simp [outline, Occurrence.essential]

@[simp] theorem outline_returnedTrace (loan : Loan) :
    outline (Assembly.returnedTrace loan : List (Occurrence ν)) = [] := rfl

@[simp] theorem outline_abandonTrace (assembly : Assembly) :
    outline (assembly.abandonTrace : List (Occurrence ν)) = [] := by
  unfold Assembly.abandonTrace
  split
  · rfl
  · rfl
  · exact outline_logged (_ :: _)

@[simp] theorem outline_arrivalTrace (input : Input) :
    outline (input.arrivalTrace : List (Occurrence ν)) = [] := by
  cases input <;> rfl

@[simp] theorem outline_panicTrace {α : Type} (ending : Ending Fault α) :
    outline (ending.panicTrace : List (Occurrence ν)) = [] := by
  cases ending <;> rfl

theorem filter_outline {sees : Occurrence ν → Bool} (trace : List (Occurrence ν))
    (essential : ∀ x, sees x = true → x.essential = true) :
    (outline trace).filter sees = trace.filter sees := by
  rw [outline, List.filter_filter]
  congr 1
  funext x
  cases seen : sees x with
  | false => rfl
  | true => simp [essential x seen]

def Event.content? : Event → Option (Family × Bytes)
  | .text message => some (.text, Utf8.encode message)
  | .binary message => some (.binary, message)
  | _ => none

namespace Session

@[simp] theorem outline_loanTrace (family : Family) (session : Session σ τ) :
    outline (session.loanTrace family : List (Occurrence ν)) = [] := by
  unfold loanTrace Assembly.lendingTrace
  split <;> rfl

@[simp] theorem outline_call (host : Host σ ν τ) (event : Event) (session : Session σ τ) :
    outline (call host event session).trace =
      if session.handlers.handles event.registration then [.called event] else [] := by
  obtain ⟨own, byApplication, trace⟩ := call_trace host event session
  have unseen : outline own = [] := List.filter_eq_nil_iff.mpr fun x member => by
    simp [Occurrence.not_essential_of_byApplication x (byApplication x member)]
  rw [trace]
  split
  · change .called event :: outline own = _
    rw [unseen]
  · rfl

def callsFor (frame : Frame) (session : Session σ τ) : List Event :=
  match route session.handlers session.inFlight frame with
  | .pass _ | .wrong _ => []
  | .notice notice => [.close notice]
  | .fragment family .buffered =>
    match (session.loan family).append frame.payload with
    | .error _ => []
    | .ok extended => if frame.fin then (messageEvent family extended.bytes).toList else []
  | .fragment family .streaming =>
    if session.inFlight.isNone then [streamEvent family session.assembly.streams.length] else []

/-- A complete message becomes the event that delivers it, and if there is none, its bytes are not
of its family. -/
theorem messageEvent_eq_some_iff {family : Family} {message : Bytes} {event : Event} :
    messageEvent family message = some event ↔ event.content? = some (family, message) := by
  cases family with
  | text =>
    rw [messageEvent, Option.map_eq_some_iff]
    constructor
    · rintro ⟨text, decoded, rfl⟩
      rw [Event.content?, Utf8.decode_eq_some_iff.mp decoded]
    · intro content
      cases event with
      | text text =>
        simp only [Event.content?, Option.some.injEq, Prod.mk.injEq, true_and] at content
        exact ⟨text, Utf8.decode_eq_some_iff.mpr content, rfl⟩
      | _ => simp [Event.content?] at content
  | binary =>
    cases event <;> simp [messageEvent, Event.content?, eq_comm]

theorem messageEvent_text_eq_none_iff {message : Bytes} :
    messageEvent .text message = none ↔ ∀ text, Utf8.encode text ≠ message := by
  rw [messageEvent, Option.map_eq_none_iff, Option.eq_none_iff_forall_ne_some]
  exact forall_congr' fun text => not_congr Utf8.decode_eq_some_iff

theorem registration_messageEvent {family : Family} {message : Bytes} {event : Event}
    (decoded : messageEvent family message = some event) :
    event.registration = .message family .buffered := by
  cases family with
  | text =>
    obtain ⟨text, -, rfl⟩ := Option.map_eq_some_iff.mp decoded
    rfl
  | binary =>
    cases decoded
    rfl

theorem registration_streamEvent (family : Family) (stream : Nat) :
    (streamEvent family stream).registration = .message family .streaming := by
  cases family <;> rfl

theorem outline_deliverMessage (host : Host σ ν τ) {family : Family} (message : Bytes)
    {session : Session σ τ} (wanted : session.handlers.delivery family = some .buffered) :
    outline (deliverMessage host family message session).trace =
      (messageEvent family message).toList.map .called := by
  rw [deliverMessage_run, Outcome.trace_after]
  cases decoded : messageEvent family message with
  | none => rfl
  | some event =>
    have handled : session.handlers.handles event.registration = true := by
      simp [registration_messageEvent decoded, Handlers.handles, wanted]
    simp [outline_cons, Occurrence.essential, handled]

theorem outline_deliverStream (host : Host σ ν τ) {family : Family} (stream : Nat)
    {session : Session σ τ} (wanted : session.handlers.delivery family = some .streaming) :
    outline (deliverStream host family stream session).trace =
      [.called (streamEvent family stream)] := by
  have handled : (session.presented family stream).handlers.handles
      (streamEvent family stream).registration = true := by
    rw [(session.presented_reacted family stream).handlers]
    simp [registration_streamEvent, Handlers.handles, wanted]
  simp [deliverStream_run, outline_cons, Occurrence.essential, handled]

theorem route_notice {handlers : Handlers} {inFlight : Option Family} {frame : Frame}
    {notice : CloseNotice} (routed : route handlers inFlight frame = .notice notice) :
    handlers.close = true ∧ frame.opcode = .close ∧
      CloseNotice.ofPayload frame.payload = .ok notice := by
  have noData (asked : Family) (opcode : Opcode) :
      routeData handlers inFlight asked opcode ≠ .notice notice := by
    unfold routeData
    split
    · nofun
    · split
      · nofun
      · split <;> nofun
  unfold route at routed
  split at routed
  · cases routed
  · cases routed
  · exact absurd routed (noData .text .text)
  · exact absurd routed (noData .binary .binary)
  · split at routed
    · cases routed
    · exact absurd routed (noData _ .continuation)
  · rename_i kind
    split at routed
    · rename_i wanted
      split at routed
      · rename_i read
        cases routed
        exact ⟨wanted, kind, read⟩
      · cases routed
    · cases routed

private theorem registration_of_mem_callsFor {frame : Frame} {session : Session σ τ} {event : Event}
    (called : event ∈ session.callsFor frame) :
    event.registration = .close ∨
      ∃ family delivery, event.registration = .message family delivery := by
  unfold callsFor at called
  split at called
  · simp at called
  · simp at called
  · obtain rfl := List.mem_singleton.mp called
    exact .inl rfl
  · split at called
    · simp at called
    · split at called
      · exact .inr ⟨_, .buffered, registration_messageEvent (Option.mem_toList.mp called)⟩
      · simp at called
  · split at called
    · obtain rfl := List.mem_singleton.mp called
      exact .inr ⟨_, .streaming, registration_streamEvent _ _⟩
    · simp at called

private theorem Fate.outline {host : Host σ ν τ} {frame : Frame} {session : Session σ τ}
    {done : Outcome (Session σ τ) (Occurrence ν) Fault Unit}
    (fate : Fate host frame session done) :
    WebSocketSession.outline done.trace = (session.callsFor frame).map .called := by
  cases fate with
  | passed records routed => simp [callsFor, routed]
  | wrong fault routed => simp [callsFor, routed]
  | noticed notice routed =>
    have handled : session.handlers.handles (Event.close notice).registration = true :=
      (route_notice routed).1
    simp [callsFor, routed, handled]
  | overflowed family overflow routed takes appended => simp [callsFor, routed, appended]
  | kept family extended routed takes appended unfinished =>
    simp [callsFor, routed, appended, unfinished]
  | completed family extended delivered routed takes appended finished delivery =>
    subst delivery
    have wanted : (session.onLoan family).handlers.delivery family = some .buffered :=
      (route_fragment routed).1
    simp [callsFor, routed, appended, finished, outline_deliverMessage host _ wanted]
  | opened family routed idle =>
    have wanted : (session.fed family frame).handlers.delivery family = some .streaming :=
      (route_fragment routed).1
    have nothing : session.inFlight = none := Slot.inFlight_eq_none.mpr idle
    rw [callsFor, routed]
    simp [nothing, feedTrace, outline_deliverStream host _ wanted]
  | continued family stream feed routed held =>
    have current : session.inFlight = some family := congrArg Slot.inFlight held
    rw [callsFor, routed]
    simp [current, feedTrace]

/-- The events that an input causes before anything goes wrong: the frame observer has its say
first. -/
def attemptCalls (host : Host σ ν τ) (session : Session σ τ) : Input → List Event
  | .connect => if session.handlers.connect then [.connect] else []
  | .protocolError _ => []
  | .frame frame =>
    (if session.handlers.frame then [.frame frame] else []) ++
      match (call host (.frame frame) session).ending with
      | .value _ => (call host (.frame frame) session).state.callsFor frame
      | _ => []

theorem error_not_mem_attemptCalls (host : Host σ ν τ) (session : Session σ τ) (input : Input)
    (fault : Fault) : .error fault ∉ session.attemptCalls host input := by
  intro called
  cases input with
  | connect =>
    rw [attemptCalls] at called
    split at called <;> simp at called
  | protocolError request => simp [attemptCalls] at called
  | frame frame =>
    rcases List.mem_append.mp called with called | called
    · split at called <;> simp at called
    · cases ending : (call host (.frame frame) session).ending with
      | value _ =>
        rw [ending] at called
        obtain closing | ⟨_, _, delivering⟩ := registration_of_mem_callsFor called
        · cases closing
        · cases delivering
      | fault failure => simp [ending] at called
      | panic payload => simp [ending] at called

theorem outline_attempt (host : Host σ ν τ) (input : Input) {session : Session σ τ}
    (coherent : session.Coherent) :
    WebSocketSession.outline (input.attempt host session).trace =
      (session.attemptCalls host input).map .called := by
  cases input with
  | connect =>
    have observed := outline_call host .connect session
    simp only [Input.attempt, invoke_run, observed, attemptCalls]
    by_cases wanted : session.handlers.connect <;>
      simp [wanted, Event.registration, Handlers.handles]
  | protocolError request => rfl
  | frame frame =>
    have observed : WebSocketSession.outline (call host (.frame frame) session).trace =
        (if session.handlers.frame then [Event.frame frame] else []).map .called := by
      rw [outline_call]
      by_cases wanted : session.handlers.frame <;>
        simp [wanted, Event.registration, Handlers.handles]
    have dispatched := dispatch_dispatched host frame coherent
    change WebSocketSession.outline (dispatch host frame session).trace = _
    generalize dispatch host frame session = done at dispatched ⊢
    cases dispatched with
    | stopped fails =>
      rw [attemptCalls]
      cases ending : (call host (.frame frame) session).ending with
      | value _ => exact absurd ending fails
      | fault failure => simp [observed]
      | panic payload => simp [observed]
    | followed done passes fate => simp [attemptCalls, passes, observed, fate.outline]

@[simp] theorem outline_complaintTrace (ending : Ending Failure Unit) :
    WebSocketSession.outline (complaintTrace ending : List (Occurrence ν)) = [] := by
  cases ending <;> rfl

theorem outline_closedTrace (host : Host σ ν τ) (fault : Fault) (session : Session σ τ) :
    WebSocketSession.outline (session.closedTrace host fault) =
      .counted (.termination (session.closingCode fault)) ::
        if session.connection.isSome then
          [.closed .session (session.closingCode fault) (session.closingReason fault)]
        else [] := by
  unfold closedTrace answer?
  cases session.connection with
  | none => rfl
  | some connection =>
    simp only [Option.map_some, closeTrace]
    cases (host.transport.close _ _ connection).1 <;> rfl

/-- Closing down for a fault is one count, one close if there is a connection, and one call of the
error callback if there is a handler. -/
theorem outline_closeDown {host : Host σ ν τ} {fault : Fault} {session : Session σ τ}
    (calm : session.Calm host fault) :
    WebSocketSession.outline ((closeDown host fault : Step σ τ ν ε Unit) session).trace =
      .counted (.termination (session.closingCode fault)) ::
        ((if session.connection.isSome then
            [.closed .session (session.closingCode fault) (session.closingReason fault)] else []) ++
          if session.handlers.error then [.called (.error fault)] else []) := by
  have handled : (session.closed host fault).handlers.handles (Event.error fault).registration =
      session.handlers.error := rfl
  rw [closeDown_of_calm calm]
  simp only [outline_append, outline_closedTrace, outline_call, outline_complaintTrace, handled,
    List.append_nil, List.cons_append]

end Session

end WebSocketSession
