import WebSocketSession.Proofs.BufferLending
import WebSocketSession.Proofs.Coupling
import WebSocketSession.Proofs.FailureHandling

/-!
# The callbacks of one frame

A frame runs its callbacks in a fixed order: the observer, then at most one that the frame is for,
then the error callback if something failed (`frame_callbacks_in_turn`). The one way past the error
callback is a connection that panics when it is asked to close (`error_callback_lost`). An observer
that fails cuts off everything a frame could do by itself, so that all frames it stops in the same
way come to the same.
-/

set_option autoImplicit false
set_option relaxedAutoImplicit false

namespace WebSocketSession

variable {σ ν τ ε : Type}

def Occurrence.event? : Occurrence ν → Option Event
  | .called event => some event
  | _ => none

def calls (trace : List (Occurrence ν)) : List Event := trace.filterMap Occurrence.event?

def Occurrence.hangsUp : Occurrence ν → Bool
  | .closed .session _ _ | .counted (.termination _) => true
  | _ => false

def closings (trace : List (Occurrence ν)) : List (Occurrence ν) :=
  trace.filter Occurrence.hangsUp

@[simp] theorem calls_append (first second : List (Occurrence ν)) :
    calls (first ++ second) = calls first ++ calls second :=
  List.filterMap_append ..

@[simp] theorem calls_called (events : List Event) :
    calls (events.map .called : List (Occurrence ν)) = events := by
  rw [calls, List.filterMap_map]
  exact List.filterMap_some

private theorem calls_outline (trace : List (Occurrence ν)) :
    calls (outline trace) = calls trace := by
  induction trace with
  | nil => rfl
  | cons x rest ih =>
    rw [outline_cons]
    cases x with
    | called event => exact congrArg (event :: ·) ih
    | closed origin code reason => cases origin <;> exact ih
    | counted metric => cases metric <;> exact ih
    | _ => exact ih

@[simp] theorem closings_append (first second : List (Occurrence ν)) :
    closings (first ++ second) = closings first ++ closings second :=
  List.filter_append ..

private theorem closings_outline (trace : List (Occurrence ν)) :
    closings (outline trace) = closings trace := by
  refine filter_outline trace fun x hangsUp => ?_
  cases x with
  | closed origin code reason =>
    cases origin <;> simp_all [Occurrence.hangsUp, Occurrence.essential]
  | counted metric => cases metric <;> simp_all [Occurrence.hangsUp, Occurrence.essential]
  | _ => simp [Occurrence.hangsUp] at hangsUp

private theorem closings_called (events : List Event) :
    closings (events.map .called : List (Occurrence ν)) = [] := by
  rw [closings, List.filter_eq_nil_iff]
  intro x member
  obtain ⟨event, -, rfl⟩ := List.mem_map.mp member
  simp [Occurrence.hangsUp]

/-- The error callback, if something failed and the session came as far as telling it. -/
def Handlers.errorCalls (handlers : Handlers) : Option Fault → Ending ε Unit → List Event
  | some fault, .value _ => if handlers.error then [.error fault] else []
  | _, _ => []

namespace Session

private theorem calls_attempt (host : Host σ ν τ) (input : Input) {session : Session σ τ}
    (coherent : session.Coherent) :
    calls (input.attempt host session).trace = session.attemptCalls host input := by
  rw [← calls_outline, outline_attempt host input coherent, calls_called]

theorem closings_attempt (host : Host σ ν τ) (input : Input) {session : Session σ τ}
    (coherent : session.Coherent) : closings (input.attempt host session).trace = [] := by
  rw [← closings_outline, outline_attempt host input coherent, closings_called]

private theorem calls_call (host : Host σ ν τ) (event : Event) (session : Session σ τ) :
    calls (call host event session).trace =
      if session.handlers.handles event.registration then [event] else [] := by
  rw [← calls_outline, outline_call]
  split <;> rfl

private theorem calls_closedTrace (host : Host σ ν τ) (fault : Fault) (session : Session σ τ) :
    calls (session.closedTrace host fault) = [] := by
  rw [← calls_outline, outline_closedTrace]
  split <;> rfl

private theorem calls_complaintTrace (ending : Ending Failure Unit) :
    calls (complaintTrace ending : List (Occurrence ν)) = [] := by
  cases ending <;> rfl

private theorem ending_closeDown (host : Host σ ν τ) (fault : Fault) (session : Session σ τ) :
    ((closeDown host fault : Step σ τ ν ε Unit) session).ending =
      closeEnding (session.answer? host (session.closingCode fault)
        (session.closingReason fault)) := by
  rcases session.calm_or_panics host fault with calm | ⟨payload, panics⟩
  · rw [closeDown_of_calm calm]
    unfold closeEnding
    split
    · rename_i payload panics
      exact absurd panics (calm payload)
    · rfl
  · rw [closeDown_of_panic panics, panics]
    rfl

private theorem calls_closeDown (host : Host σ ν τ) (fault : Fault) (session : Session σ τ) :
    calls ((closeDown host fault : Step σ τ ν ε Unit) session).trace =
      session.handlers.errorCalls (some fault)
        ((closeDown host fault : Step σ τ ν ε Unit) session).ending := by
  rcases session.calm_or_panics host fault with calm | ⟨payload, panics⟩
  · have same : (session.closed host fault).handlers = session.handlers := rfl
    rw [closeDown_of_calm calm, calls_append, calls_append, calls_closedTrace, calls_call,
      calls_complaintTrace, List.append_nil, List.nil_append, same]
    rfl
  · rw [closeDown_of_panic panics, calls_closedTrace]
    rfl

private theorem closings_closeDown (host : Host σ ν τ) (fault : Fault) (session : Session σ τ) :
    closings ((closeDown host fault : Step σ τ ν ε Unit) session).trace =
      .counted (.termination (session.closingCode fault)) ::
        if session.connection.isSome then
          [.closed .session (session.closingCode fault) (session.closingReason fault)]
        else [] := by
  have closing : closings (session.closedTrace host fault) =
      .counted (.termination (session.closingCode fault)) ::
        if session.connection.isSome then
          [.closed .session (session.closingCode fault) (session.closingReason fault)]
        else [] := by
    rw [← closings_outline, outline_closedTrace]
    split <;> rfl
  rcases session.calm_or_panics host fault with calm | ⟨payload, panics⟩
  · have telling : closings (call host (.error fault) (session.closed host fault)).trace = [] := by
      rw [← closings_outline, outline_call]
      split <;> rfl
    have complaining (ending : Ending Failure Unit) :
        closings (complaintTrace ending : List (Occurrence ν)) = [] := by
      cases ending <;> rfl
    rw [closeDown_of_calm calm, closings_append, closings_append, closing, telling, complaining,
      List.append_nil, List.append_nil]
  · rw [closeDown_of_panic panics, closing]

/-- What an input with a fault leaves behind before it closes down, besides what came to the
fault, is for the log. -/
private theorem outline_faultTrace (host : Host σ ν τ) (fault : Fault) (input : Input)
    (session : Session σ τ) :
    WebSocketSession.outline (session.faultTrace host fault input) =
      WebSocketSession.outline (input.attempt host session).trace := by
  simp [faultTrace, outline_cons, Occurrence.essential]

private theorem calls_handle (host : Host σ ν τ) (input : Input) {session : Session σ τ}
    (coherent : session.Coherent) :
    calls ((input.handle host : Step σ τ ν ε Unit) session).trace =
      session.attemptCalls host input ++
        session.handlers.errorCalls (input.attempt host session).ending.fault?
          ((input.handle host : Step σ τ ν ε Unit) session).ending := by
  have attempted := calls_attempt host input coherent
  cases failed : (input.attempt host session).ending.fault? with
  | none =>
    have arrival : calls (input.arrivalTrace : List (Occurrence ν)) = [] := by
      cases input <;> rfl
    rw [handle_of_none failed, calls_append, arrival, attempted, List.nil_append,
      Handlers.errorCalls, List.append_nil]
    rintro fault a ⟨⟩
  | some fault =>
    -- Before the session closes down, only what came to the fault has run callbacks.
    have before : calls (session.faultTrace host fault input) =
        session.attemptCalls host input := by
      rw [← calls_outline, outline_faultTrace, calls_outline, attempted]
    have abandoning (assembly : Assembly) :
        calls (assembly.abandonTrace : List (Occurrence ν)) = [] := by
      rw [← calls_outline, outline_abandonTrace]
      rfl
    have table : (input.attempt host session).state.settled.handlers = session.handlers :=
      (attempt_steady host input coherent).handlers
    rw [handle_of_some failed, Outcome.trace_after, Outcome.ending_after, calls_append,
      calls_append, before, abandoning, List.append_nil, calls_closeDown, table]

/-- A fault has the connection closed once, if there is one, with the status for the fault. -/
theorem closings_handle (host : Host σ ν τ) (input : Input) {session : Session σ τ} {fault : Fault}
    (coherent : session.Coherent)
    (failed : (input.attempt host session).ending.fault? = some fault) :
    closings ((input.handle host : Step σ τ ν ε Unit) session).trace =
      .counted (.termination (session.closingCode fault)) ::
        if session.connection.isSome then
          [.closed .session (session.closingCode fault) (session.closingReason fault)]
        else [] := by
  have kept := attempt_steady host input coherent
  have before : closings (session.faultTrace host fault input) = [] := by
    rw [← closings_outline, outline_faultTrace, closings_outline,
      closings_attempt host input coherent]
  have abandoning (assembly : Assembly) :
      closings (assembly.abandonTrace : List (Occurrence ν)) = [] := by
    rw [← closings_outline, outline_abandonTrace]
    rfl
  have attached : (input.attempt host session).state.settled.connection.isSome =
      session.connection.isSome := kept.attached
  have code : (input.attempt host session).state.settled.closingCode fault =
      session.closingCode fault := by
    rw [closingCode, closingCode, ← kept.policy]
    rfl
  have reason : (input.attempt host session).state.settled.closingReason fault =
      session.closingReason fault := by
    rw [closingReason, closingReason, ← kept.policy]
    rfl
  rw [handle_of_some failed, Outcome.trace_after, closings_append, closings_append, before,
    abandoning, closings_closeDown, attached, code, reason]
  rfl

private theorem unwinds_of_panic {host : Host σ ν τ} {input : Input} {session : Session σ τ}
    {payload : PanicPayload}
    (unwinds : ((input.handle host : Step σ τ ν ε Unit) session).ending = .panic payload) :
    ∃ fault connection, (input.attempt host session).ending.fault? = some fault ∧
      (input.attempt host session).state.connection = some connection ∧
      ∃ code reason, (host.transport.close code reason connection).1 = .panicked payload := by
  cases failed : (input.attempt host session).ending.fault? with
  | none =>
    rw [handle_of_none failed] at unwinds
    cases unwinds
  | some fault =>
    rw [handle_of_some failed, Outcome.ending_after, ending_closeDown] at unwinds
    unfold closeEnding at unwinds
    split at unwinds
    · rename_i payload' panics
      cases unwinds
      obtain ⟨connection, attached, answered⟩ := Option.map_eq_some_iff.mp panics
      exact ⟨fault, connection, rfl, attached, _, _, answered⟩
    · cases unwinds

/-- A frame is for the callback of an event: the close callback if it is a CLOSE frame, or one of
its family, which for a continuation is the family in flight. -/
def Concerns (session : Session σ τ) (frame : Frame) (event : Event) : Prop :=
  (event.registration = .close ∧ frame.opcode = .close) ∨
    ∃ family delivery, event.registration = .message family delivery ∧
      (frame.opcode = .ofFamily family ∨
        (frame.opcode = .continuation ∧ session.inFlight = some family))

private theorem concerns_of_fragment {session : Session σ τ} {frame : Frame} {family : Family}
    {delivery : Delivery} {event : Event}
    (routed : route session.handlers session.inFlight frame = .fragment family delivery)
    (delivers : event.registration = .message family delivery) :
    session.handlers.handles event.registration = true ∧ session.Concerns frame event := by
  obtain ⟨wanted, asked⟩ := route_fragment routed
  have handled : session.handlers.handles event.registration = true := by
    rw [delivers]
    simp [Handlers.handles, wanted]
  refine ⟨handled, .inr ⟨family, delivery, delivers, ?_⟩⟩
  rcases asked with ⟨-, opens⟩ | ⟨current, continues | opens⟩
  · exact .inl opens
  · exact .inr ⟨continues, current⟩
  · exact .inl opens

private theorem callsFor_of_concern (frame : Frame) (session : Session σ τ) :
    ∃ event? : Option Event, session.callsFor frame = event?.toList ∧
      ∀ event ∈ event?, session.handlers.handles event.registration = true ∧
        session.Concerns frame event := by
  unfold callsFor
  cases routed : route session.handlers session.inFlight frame with
  | pass records => exact ⟨none, rfl, nofun⟩
  | wrong fault => exact ⟨none, rfl, nofun⟩
  | notice notice =>
    obtain ⟨wanted, closing, -⟩ := route_notice routed
    refine ⟨some (.close notice), rfl, fun event same => ?_⟩
    cases same
    exact ⟨wanted, .inl ⟨rfl, closing⟩⟩
  | fragment family delivery =>
    cases delivery with
    | buffered =>
      cases appended : (session.loan family).append frame.payload with
      | error overflow => exact ⟨none, by simp [appended], nofun⟩
      | ok extended =>
        cases fin : frame.fin with
        | false => exact ⟨none, by simp [appended], nofun⟩
        | true =>
          refine ⟨messageEvent family extended.bytes, by simp [appended],
            fun event delivered => ?_⟩
          exact concerns_of_fragment routed (registration_messageEvent delivered)
    | streaming =>
      by_cases idle : session.inFlight.isNone = true
      · refine ⟨some (streamEvent family session.assembly.streams.length), by simp [idle],
          fun event same => ?_⟩
        cases same
        exact concerns_of_fragment routed (registration_streamEvent _ _)
      · exact ⟨none, by simp [idle], nofun⟩

private theorem attemptCalls_of_concern (host : Host σ ν τ) (frame : Frame)
    (session : Session σ τ) :
    ∃ event? : Option Event,
      session.attemptCalls host (.frame frame) =
        (if session.handlers.frame then [.frame frame] else []) ++ event?.toList ∧
      ∀ event ∈ event?, session.handlers.handles event.registration = true ∧
        session.Concerns frame event := by
  have seen := call_reacted host (.frame frame) session
  rw [attemptCalls]
  cases (call host (.frame frame) session).ending with
  | value _ =>
    obtain ⟨event?, called, concern⟩ :=
      callsFor_of_concern frame (call host (.frame frame) session).state
    refine ⟨event?, by rw [called], fun event same => ?_⟩
    obtain ⟨handled, concerns⟩ := concern event same
    rw [seen.handlers] at handled
    rw [Concerns, seen.inFlight] at concerns
    exact ⟨handled, concerns⟩
  | fault failure => exact ⟨none, rfl, by simp⟩
  | panic payload => exact ⟨none, rfl, by simp⟩

private theorem ending_of_stopped {host : Host σ ν τ} {frame : Frame} {session : Session σ τ}
    (stopped : ¬ session.Passes host frame) :
    (∃ failure, (call host (.frame frame) session).ending = .fault failure) ∨
      ∃ payload, (call host (.frame frame) session).ending = .panic payload := by
  unfold Passes at stopped
  cases ending : (call host (.frame frame) session).ending with
  | value _ => exact absurd ending stopped
  | fault failure => exact .inl ⟨failure, rfl⟩
  | panic payload => exact .inr ⟨payload, rfl⟩

private theorem attempt_of_stopped {host : Host σ ν τ} {frame : Frame} {session : Session σ τ}
    (stopped : ¬ session.Passes host frame) :
    (Input.frame frame).attempt host session =
      ⟨(call host (.frame frame) session).ending.mapFault Fault.ofFailure,
        session.observed host frame, (call host (.frame frame) session).trace⟩ := by
  rw [Input.attempt, dispatch_run, invoke_run]
  rcases ending_of_stopped stopped with ⟨failure, ending⟩ | ⟨payload, ending⟩
  · rw [ending]
    rfl
  · rw [ending]
    rfl

private theorem fault_of_stopped {host : Host σ ν τ} {frame : Frame} {session : Session σ τ}
    (stopped : ¬ session.Passes host frame) :
    ∃ fault, ((Input.frame frame).attempt host session).ending.fault? = some fault := by
  rw [attempt_of_stopped stopped]
  rcases ending_of_stopped stopped with ⟨failure, ending⟩ | ⟨payload, ending⟩
  · rw [ending]
    exact ⟨_, rfl⟩
  · rw [ending]
    exact ⟨_, rfl⟩

private theorem attemptCalls_of_stopped {host : Host σ ν τ} {frame : Frame} {session : Session σ τ}
    (stopped : ¬ session.Passes host frame) :
    session.attemptCalls host (.frame frame) = [.frame frame] := by
  have registered : session.handlers.frame = true := by
    cases registered : session.handlers.frame with
    | true => rfl
    | false =>
      have unseen : session.Passes host frame := by
        simp [Passes, call_run, Event.registration, Handlers.handles, registered]
      exact absurd unseen stopped
  rw [attemptCalls, if_pos registered]
  rcases ending_of_stopped stopped with ⟨failure, ending⟩ | ⟨payload, ending⟩
  · rw [ending]
    rfl
  · rw [ending]
    rfl

/-- The message in flight is given up as the observer found it; after that the application alone
does anything, in the error callback. -/
private theorem handle_of_stopped {host : Host σ ν τ} {frame : Frame} {session : Session σ τ}
    {fault : Fault}
    (stopped : ¬ session.Passes host frame)
    (failed : ((Input.frame frame).attempt host session).ending.fault? = some fault) :
    (((Input.frame frame).handle host : Step σ τ ν ε Unit) session).state =
        ((closeDown host fault : Step σ τ ν ε Unit) (session.observed host frame).settled).state ∧
      (((Input.frame frame).handle host : Step σ τ ν ε Unit) session).ending =
        ((closeDown host fault : Step σ τ ν ε Unit)
          (session.observed host frame).settled).ending := by
  rw [handle_of_some failed, attempt_of_stopped stopped]
  exact ⟨rfl, rfl⟩

private theorem Reacted.abandoned {session later : Session σ τ} (h : session.Reacted later) :
    session.assembly.abandoned.Alike later.assembly.abandoned := by
  have slot := h.slot
  unfold Assembly.abandoned
  cases held : session.assembly.slot with
  | idle =>
    rw [held] at slot
    simp only [slot]
    exact ⟨slot.trans held.symm, h.pool, h.opened⟩
  | buffered family loan =>
    rw [held] at slot
    simp only [slot, h.pool]
    exact ⟨rfl, rfl, h.opened⟩
  | streaming family stream feed =>
    rw [held] at slot
    simp only [slot]
    exact ⟨rfl, h.pool, by simpa using h.opened⟩

private theorem abandoned_of_stopped {host : Host σ ν τ} {frame : Frame} {session : Session σ τ}
    (stopped : ¬ session.Passes host frame) :
    session.assembly.abandoned.Alike
      (((Input.frame frame).handle host : Step σ τ ν ε Unit) session).state.assembly := by
  obtain ⟨fault, failed⟩ := fault_of_stopped stopped
  have given := (session.observed_reacted host frame).abandoned
  have told := closeDown_reacted (ε := ε) host fault (session.observed host frame).settled
  rw [(handle_of_stopped stopped failed).1]
  exact ⟨told.slot.trans given.slot, told.pool.trans given.pool, told.opened.trans given.opened⟩

structure CutOff (host : Host σ ν τ) (session : Session σ τ) (frame : Frame)
    (done : Outcome (Session σ τ) (Occurrence ν) ε Unit) : Prop where
  /-- After the observer there is only the error callback. -/
  calls : calls done.trace = .frame frame :: session.handlers.errorCalls
    ((Input.frame frame).attempt host session).ending.fault? done.ending
  lends : acquisitions done.trace = 0
  /-- Nothing is written to a stream: that in flight is cut short, as the observer left it, and
  the error callback may read. -/
  state : (session.observed host frame).settled.Reacted done.state

/-- What two frames come to alike that the observer stops in the same way. -/
structure SameCut (host : Host σ ν τ) (session : Session σ τ) (frame other : Frame)
    (done done' : Outcome (Session σ τ) (Occurrence ν) ε Unit) : Prop where
  /-- The state of the session is the same, apart from the application and the streams it reads. -/
  steady : done.state.Steady done'.state
  assembly : done.state.assembly.Alike done'.state.assembly
  closings : closings done'.trace = closings done.trace
  /-- The same error is told, if the close comes back from one as from the other. -/
  told : done'.ending = done.ending →
    (WebSocketSession.calls done'.trace).tail = (WebSocketSession.calls done.trace).tail
  /-- If the observer left the connection the same, the close is answered the same. -/
  answered : (session.observed host other).connection = (session.observed host frame).connection →
    done'.ending = done.ending
  /-- If the observer left everything the same, everything is. -/
  same : session.observed host other = session.observed host frame → done'.state = done.state

private theorem Coherent.cutOff {session : Session σ τ} (coherent : session.Coherent)
    {host : Host σ ν τ}
    {frame : Frame} (stopped : ¬ session.Passes host frame) :
    session.CutOff host frame
      (((Input.frame frame).handle host : Step σ τ ν ε Unit) session) := by
  obtain ⟨fault, failed⟩ := fault_of_stopped stopped
  refine ⟨?_, ?_, ?_⟩
  · rw [calls_handle host (.frame frame) coherent, attemptCalls_of_stopped stopped]
    rfl
  · have unopened : (Input.frame frame).opensBuffer host session = false := by
      rw [Input.opensBuffer]
      rcases ending_of_stopped stopped with ⟨failure, ending⟩ | ⟨payload, ending⟩
      · rw [ending]
        rfl
      · rw [ending]
        rfl
    rw [(handle_leads host (.frame frame) coherent).takes, unopened]
    rfl
  · rw [(handle_of_stopped stopped failed).1]
    exact closeDown_reacted host fault _

private theorem Coherent.sameCut {session : Session σ τ} (coherent : session.Coherent)
    {host : Host σ ν τ}
    {frame other : Frame} (stopped : ¬ session.Passes host frame)
    (alike : (call host (.frame other) session).ending =
      (call host (.frame frame) session).ending) :
    session.SameCut host frame other
      (((Input.frame frame).handle host : Step σ τ ν ε Unit) session)
      (((Input.frame other).handle host : Step σ τ ν ε Unit) session) := by
  have stopped' : ¬ session.Passes host other := by
    rw [Passes, alike]
    exact stopped
  obtain ⟨fault, failed⟩ := fault_of_stopped stopped
  have failed' : ((Input.frame other).attempt host session).ending.fault? = some fault := by
    rw [← failed, attempt_of_stopped stopped, attempt_of_stopped stopped', alike]
  have kept := handle_steady (ε := ε) host (.frame frame) coherent
  have kept' := handle_steady (ε := ε) host (.frame other) coherent
  have left := abandoned_of_stopped (ε := ε) stopped
  have left' := abandoned_of_stopped (ε := ε) stopped'
  obtain ⟨state, ending⟩ := handle_of_stopped (ε := ε) stopped failed
  obtain ⟨state', ending'⟩ := handle_of_stopped (ε := ε) stopped' failed'
  refine ⟨?_, ?_, ?_, ?_, ?_, ?_⟩
  · exact ⟨kept'.handlers.trans kept.handlers.symm, kept'.policy.trans kept.policy.symm,
      kept'.attached.trans kept.attached.symm⟩
  · exact ⟨left'.slot.trans left.slot.symm, left'.pool.trans left.pool.symm,
      left'.opened.trans left.opened.symm⟩
  · rw [closings_handle host (.frame other) coherent failed',
      closings_handle host (.frame frame) coherent failed]
  · intro answers
    rw [calls_handle host (.frame other) coherent, calls_handle host (.frame frame) coherent,
      attemptCalls_of_stopped stopped, attemptCalls_of_stopped stopped', failed, failed', answers]
    rfl
  · intro connected
    have policy : (session.observed host other).policy = (session.observed host frame).policy :=
      (session.observed_reacted host other).policy.trans
        (session.observed_reacted host frame).policy.symm
    rw [ending, ending', ending_closeDown, ending_closeDown]
    simp only [answer?, settled, closingCode, closingReason, connected, policy]
  · intro same
    rw [state, state', same]

/-- The callbacks of one frame. -/
structure CallbacksInTurn (host : Host σ ν τ) (session : Session σ τ) (frame : Frame)
    (done : Outcome (Session σ τ) (Occurrence ν) ε Unit) : Prop where
  /-- The observer comes first, then at most one callback that the frame is for, and the error
  callback last, if something failed. -/
  calls : ∃ event? : Option Event,
    calls done.trace = (if session.handlers.frame then [.frame frame] else []) ++ event?.toList ++
      session.handlers.errorCalls ((Input.frame frame).attempt host session).ending.fault?
        done.ending ∧
    ∀ event ∈ event?, session.handlers.handles event.registration = true ∧
      session.Concerns frame event
  /-- Only a connection that panics when it is closed keeps the error callback from running. -/
  unwinds : ∀ payload, done.ending = .panic payload → ∃ fault connection,
    ((Input.frame frame).attempt host session).ending.fault? = some fault ∧
    ((Input.frame frame).attempt host session).state.connection = some connection ∧
    ∃ code reason, (host.transport.close code reason connection).1 = .panicked payload
  /-- An observer that fails cuts everything else off. -/
  cutOff : ¬ session.Passes host frame → session.CutOff host frame done
  /-- What then is left is the same for every frame. -/
  sameCut : ¬ session.Passes host frame → ∀ other,
    (call host (.frame other) session).ending = (call host (.frame frame) session).ending →
    session.SameCut host frame other done ((Input.frame other).handle host session)

end Session

/-- In every session reached, each frame runs its callbacks in turn. -/
theorem frame_callbacks_in_turn (host : Host σ ν τ) (app : σ) (handlers : Handlers)
    (policy : Policy) (pool : Pool) (operations : List (Operation σ τ)) (frame : Frame) :
    let session := (Session.start app handlers policy pool).run host operations
    session.CallbacksInTurn host frame
      ((Input.frame frame).handle host session : Outcome _ _ Empty Unit) := by
  intro session
  have coherent : session.Coherent :=
    Session.run_coherent host operations (Session.coherent_of_idle rfl)
  refine ⟨?_, fun payload => Session.unwinds_of_panic, coherent.cutOff,
    fun stopped other => coherent.sameCut stopped⟩
  obtain ⟨event?, called, concern⟩ := Session.attemptCalls_of_concern host frame session
  refine ⟨event?, ?_, concern⟩
  rw [Session.calls_handle host (.frame frame) coherent, called]

/-- A text callback fails, and the connection panics when the session closes it: the error callback
is never told, and the panic goes on to the caller. -/
theorem error_callback_lost :
    let session : Session Script Recorder :=
      (Session.start ⟨[("text", [[.fail (.ofMessage "no")]])]⟩
          (.ofRegistrations [.message .text .buffered, .error]) .default (.empty 4)).run
        Script.host [.attach (.fresh .panicsOnClose)]
    let frame : Frame := ⟨.text, true, [72]⟩
    let done : Outcome (Session Script Recorder) (Occurrence Remark) Empty Unit :=
      (Input.frame frame).handle Script.host session
    session.handlers.error = true ∧
      ((Input.frame frame).attempt Script.host session).ending.fault? =
        some (.callbackFailed (.ofMessage "no")) ∧
      calls done.trace = [.text "H"] ∧ done.ending.value? = none := by
  decide +kernel

end WebSocketSession
