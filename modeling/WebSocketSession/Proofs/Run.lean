import WebSocketSession.Proofs.Routing

/-!
# Runs of a session

A run is a list of operations: inputs from the connection in any order, and between them whatever
the owner of the session does with it. An operation that unwinds leaves a session like any other,
and the run goes on with that. `history` keeps every operation with the session before it and its
outcome. `Coherent` is what holds of every session reached: the message in flight is of a family
and delivery that the table asks for, and within its limit.
-/

set_option autoImplicit false
set_option relaxedAutoImplicit false

namespace WebSocketSession

variable {σ ν τ ε : Type}

inductive Input where
  | connect
  | frame (frame : Frame)
  | protocolError (request : CloseRequest)
  deriving DecidableEq

namespace Input

def handle (host : Host σ ν τ) : Input → Session.Step σ τ ν ε Unit
  | .connect => Session.onConnect host
  | .frame received => Session.onFrame host received
  | .protocolError request => Session.onProtocolError host request

def attempt (host : Host σ ν τ) : Input → Session.Step σ τ ν Fault Unit
  | .connect => Session.invoke host .connect
  | .frame received => Session.dispatch host received
  | .protocolError request => Work.raise (.closeRequested request)

def arrivalTrace : Input → List (Occurrence ν)
  | .connect => [.logged .connected]
  | .frame received => [.counted .frame, .logged (.frameReceived received)]
  | .protocolError request => [.logged (.protocolErrorReported request)]

theorem handle_run (host : Host σ ν τ) (input : Input) (session : Session σ τ) :
    (input.handle host : Session.Step σ τ ν ε Unit) session =
      (Session.guarded host (input.attempt host) session).after input.arrivalTrace := by
  cases input with
  | connect => simp [handle, Session.onConnect, attempt, arrivalTrace]
  | frame received => simp [handle, Session.onFrame, attempt, arrivalTrace]
  | protocolError request =>
    rw [Session.guarded_of_some rfl]
    simp [handle, Session.onProtocolError, attempt, arrivalTrace, Session.fail_run,
      Ending.panicTrace]

end Input

namespace Session

theorem handle_of_none {host : Host σ ν τ} {input : Input} {session : Session σ τ}
    (sound : (input.attempt host session).ending.fault? = none) :
    (input.handle host : Step σ τ ν ε Unit) session =
      ⟨.value (), (input.attempt host session).state,
        input.arrivalTrace ++ (input.attempt host session).trace⟩ := by
  rw [Input.handle_run, guarded_of_none sound, Outcome.after_mk]

def faultTrace (host : Host σ ν τ) (fault : Fault) (input : Input) (session : Session σ τ) :
    List (Occurrence ν) :=
  input.arrivalTrace ++ (input.attempt host session).trace ++
    (input.attempt host session).ending.panicTrace ++ [.logged (reportRecord fault)]

theorem handle_of_some {host : Host σ ν τ} {input : Input} {session : Session σ τ} {fault : Fault}
    (faulty : (input.attempt host session).ending.fault? = some fault) :
    (input.handle host : Step σ τ ν ε Unit) session =
      (closeDown host fault (input.attempt host session).state.settled).after
        (session.faultTrace host fault input ++
          (input.attempt host session).state.assembly.abandonTrace) := by
  rw [Input.handle_run, guarded_of_some faulty, Outcome.after_after]
  simp [faultTrace]

def observed (host : Host σ ν τ) (frame : Frame) (session : Session σ τ) : Session σ τ :=
  (call host (.frame frame) session).state

theorem observed_reacted (host : Host σ ν τ) (frame : Frame) (session : Session σ τ) :
    session.Reacted (session.observed host frame) :=
  call_reacted host _ session

def Passes (host : Host σ ν τ) (frame : Frame) (session : Session σ τ) : Prop :=
  (call host (.frame frame) session).ending = .value ()

theorem attempt_of_passes {host : Host σ ν τ} {frame : Frame} {session : Session σ τ}
    (passes : session.Passes host frame) :
    (Input.frame frame).attempt host session =
      (follow host frame (route session.handlers session.inFlight frame)
        (session.observed host frame)).after (call host (.frame frame) session).trace := by
  have seen := session.observed_reacted host frame
  unfold Passes at passes
  rw [← seen.handlers, ← seen.inFlight, Input.attempt, dispatch_run, invoke_run, passes]
  rfl

end Session

/-- One operation on a session: an input, or something that its owner does. -/
inductive Operation (σ τ : Type) where
  | input (input : Input)
  | attach (connection : τ)
  | read (stream : Nat) (style : ReadStyle)
  | become (app : σ)

namespace Operation

def apply (host : Host σ ν τ) : Operation σ τ → Session.Step σ τ ν Empty Unit
  | .input given => given.handle host
  | .attach connection => Work.modify fun session => session.attach connection
  | .read stream style => Work.modify fun session => (session.read stream style).2
  | .become app => Work.modify fun session => { session with app := app }

def frame? : Operation σ τ → Option Frame
  | .input (.frame received) => some received
  | _ => none

end Operation

/-- One operation of a run, with the session before it and its outcome. -/
structure Entry (σ ν τ : Type) where
  operation : Operation σ τ
  before : Session σ τ
  outcome : Outcome (Session σ τ) (Occurrence ν) Empty Unit

def Entry.frame? (entry : Entry σ ν τ) : Option Frame := entry.operation.frame?

namespace Session

def entry (host : Host σ ν τ) (session : Session σ τ) (operation : Operation σ τ) :
    Entry σ ν τ :=
  ⟨operation, session, operation.apply host session⟩

def run (host : Host σ ν τ) (session : Session σ τ) (operations : List (Operation σ τ)) :
    Session σ τ :=
  operations.foldl (fun session operation => (operation.apply host session).state) session

def history (host : Host σ ν τ) (session : Session σ τ) :
    List (Operation σ τ) → List (Entry σ ν τ)
  | [] => []
  | operation :: rest =>
    session.entry host operation :: history host (operation.apply host session).state rest

def runTrace (host : Host σ ν τ) (session : Session σ τ) (operations : List (Operation σ τ)) :
    List (Occurrence ν) :=
  (session.history host operations).flatMap fun entry => entry.outcome.trace

@[simp] theorem run_nil (host : Host σ ν τ) (session : Session σ τ) :
    session.run host [] = session := rfl

@[simp] theorem run_cons (host : Host σ ν τ) (session : Session σ τ) (operation : Operation σ τ)
    (rest : List (Operation σ τ)) :
    session.run host (operation :: rest) = (operation.apply host session).state.run host rest := rfl

theorem run_append (host : Host σ ν τ) (session : Session σ τ)
    (first second : List (Operation σ τ)) :
    session.run host (first ++ second) = (session.run host first).run host second :=
  List.foldl_append ..

theorem history_append (host : Host σ ν τ) (session : Session σ τ)
    (first second : List (Operation σ τ)) :
    session.history host (first ++ second) =
      session.history host first ++ (session.run host first).history host second := by
  induction first generalizing session with
  | nil => rfl
  | cons operation rest ih => simp [history, ih]

theorem runTrace_cons (host : Host σ ν τ) (session : Session σ τ) (operation : Operation σ τ)
    (rest : List (Operation σ τ)) :
    session.runTrace host (operation :: rest) = (operation.apply host session).trace ++
      (operation.apply host session).state.runTrace host rest := by
  simp [runTrace, history, entry]

/-- The message in flight has a handler for its delivery, and keeps within its limit. -/
def Coherent (session : Session σ τ) : Prop :=
  match session.assembly.slot with
  | .idle => True
  | .buffered family loan =>
    session.handlers.delivery family = some .buffered ∧
      loan.limit = session.policy.bufferedLimit family ∧ loan.length ≤ loan.limit
  | .streaming family stream _ =>
    session.handlers.delivery family = some .streaming ∧
      stream < session.assembly.streams.length

theorem coherent_of_idle {session : Session σ τ} (idle : session.assembly.slot = .idle) :
    session.Coherent := by
  simp [Coherent, idle]

theorem Reacted.coherent {session later : Session σ τ} (h : session.Reacted later)
    (coherent : session.Coherent) : later.Coherent := by
  unfold Coherent at coherent ⊢
  rw [h.slot, h.handlers, h.policy, h.opened]
  exact coherent

private theorem routeData_fragment {handlers : Handlers} {inFlight : Option Family}
    {asked family : Family}
    {opcode : Opcode} {delivery : Delivery}
    (routed : routeData handlers inFlight asked opcode = .fragment family delivery) :
    asked = family ∧ handlers.delivery family = some delivery ∧
      (inFlight = none ∨ inFlight = some family) := by
  unfold routeData at routed
  split at routed
  · cases routed
  · rename_i wanted
    split at routed
    · cases routed
      exact ⟨rfl, wanted, .inl rfl⟩
    · split at routed
      · rename_i same
        cases routed
        exact ⟨rfl, wanted, .inr (congrArg some same)⟩
      · cases routed

/-- A fragment is routed by the handler of its family, into the message in flight or a new one. -/
theorem route_fragment {handlers : Handlers} {inFlight : Option Family} {frame : Frame}
    {family : Family} {delivery : Delivery}
    (routed : route handlers inFlight frame = .fragment family delivery) :
    handlers.delivery family = some delivery ∧
      ((inFlight = none ∧ frame.opcode = .ofFamily family) ∨
        (inFlight = some family ∧
          (frame.opcode = .continuation ∨ frame.opcode = .ofFamily family))) := by
  unfold route at routed
  split at routed
  · cases routed
  · cases routed
  · rename_i kind
    obtain ⟨rfl, wanted, flight⟩ := routeData_fragment routed
    exact ⟨wanted, flight.imp (⟨·, kind⟩) (⟨·, .inr kind⟩)⟩
  · rename_i kind
    obtain ⟨rfl, wanted, flight⟩ := routeData_fragment routed
    exact ⟨wanted, flight.imp (⟨·, kind⟩) (⟨·, .inr kind⟩)⟩
  · rename_i kind
    split at routed
    · cases routed
    · obtain ⟨rfl, wanted, -⟩ := routeData_fragment routed
      exact ⟨wanted, .inr ⟨rfl, .inl kind⟩⟩
  · split at routed
    · split at routed <;> cases routed
    · cases routed

theorem Coherent.delivery {session : Session σ τ} (coherent : session.Coherent) {family : Family}
    (current : session.inFlight = some family) :
    session.assembly.slot.delivery = session.handlers.delivery family ∧
      (session.handlers.delivery family).isSome := by
  unfold Coherent at coherent
  cases held : session.assembly.slot with
  | idle => simp [inFlight, Assembly.inFlight, held, Slot.inFlight] at current
  | buffered other loan =>
    have same : other = family := by
      simpa [inFlight, Assembly.inFlight, held, Slot.inFlight] using current
    simp only [held, same] at coherent
    simp [Slot.delivery, coherent.1]
  | streaming other stream feed =>
    have same : other = family := by
      simpa [inFlight, Assembly.inFlight, held, Slot.inFlight] using current
    simp only [held, same] at coherent
    simp [Slot.delivery, coherent.1]

theorem Coherent.wanted {session : Session σ τ} (coherent : session.Coherent) {family : Family}
    (current : session.inFlight = some family) : session.handlers.delivery family ≠ none := by
  intro unwanted
  have handled := (coherent.delivery current).2
  rw [unwanted] at handled
  cases handled

/-- The slot of a coherent session takes every fragment that is routed to it. -/
theorem Coherent.takes {session : Session σ τ} (coherent : session.Coherent) {frame : Frame}
    {family : Family} {delivery : Delivery}
    (routed : route session.handlers session.inFlight frame = .fragment family delivery) :
    session.assembly.slot.Takes family delivery := by
  obtain ⟨wanted, ⟨idle, -⟩ | ⟨current, -⟩⟩ := route_fragment routed
  · exact .inl (Slot.inFlight_eq_none.mp idle)
  · exact .inr ⟨current, (coherent.delivery current).1.trans wanted⟩

theorem Coherent.loan_within {session : Session σ τ} (coherent : session.Coherent)
    {family : Family} (takes : session.assembly.slot.Takes family .buffered) :
    (session.loan family).limit = session.policy.bufferedLimit family ∧
      (session.loan family).length ≤ (session.loan family).limit := by
  unfold Coherent at coherent
  cases held : session.assembly.slot with
  | idle => simp [loan, Assembly.lending, held, Loan.lend, Loan.length, Buffer.clear,
      Buffer.ofCapacity]
  | buffered current kept =>
    have same : current = family := by simpa [held] using takes
    simp only [held, same] at coherent
    simpa [loan, Assembly.lending, held] using coherent.2
  | streaming current stream feed => simp [held] at takes

private theorem Coherent.fed {session : Session σ τ} (coherent : session.Coherent) {frame : Frame}
    {family : Family} (takes : session.assembly.slot.Takes family .streaming)
    (wanted : session.handlers.delivery family = some .streaming) :
    (session.fed family frame).Coherent := by
  cases fin : frame.fin with
  | true => exact coherent_of_idle (by simp [Session.fed, Assembly.written, fin])
  | false =>
    unfold Coherent at coherent
    cases held : session.assembly.slot with
    | idle => simp [Coherent, Session.fed, Assembly.written, Assembly.channel, fin, held, wanted]
    | buffered current loan => simp [held] at takes
    | streaming current stream feed =>
      simp only [held] at coherent
      simpa [Coherent, Session.fed, Assembly.written, Assembly.channel, fin, held, wanted]
        using coherent.2

private theorem Fate.coherent {host : Host σ ν τ} {frame : Frame} {session : Session σ τ}
    {done : Outcome (Session σ τ) (Occurrence ν) Fault Unit} (fate : Fate host frame session done)
    (coherent : session.Coherent) : done.state.Coherent := by
  cases fate with
  | passed records routed => exact coherent
  | wrong fault routed => exact coherent
  | noticed notice routed =>
    rw [invoke_run]
    exact (call_reacted host _ session).coherent coherent
  | overflowed family overflow routed takes appended => exact coherent_of_idle rfl
  | kept family extended routed takes appended unfinished =>
    obtain ⟨limit, within⟩ := coherent.loan_within takes
    obtain ⟨length, same, fits⟩ := Loan.append_ok appended within
    exact ⟨(route_fragment routed).1, same.trans limit, fits⟩
  | completed family extended delivered routed takes appended finished delivery =>
    subst delivery
    exact coherent_of_idle (deliverMessage_reacted host family _ (session.onLoan family)).slot
  | opened family routed idle =>
    have fed : (session.fed family frame).Coherent :=
      coherent.fed (coherent.takes routed) (route_fragment routed).1
    exact (deliverStream_reacted host family _ _).coherent fed
  | continued family stream feed routed held =>
    exact coherent.fed (coherent.takes routed) (route_fragment routed).1

/-- What a dispatch comes to: the frame observer stops it, or the frame meets its fate. -/
inductive Dispatched (host : Host σ ν τ) (frame : Frame) (session : Session σ τ) :
    Outcome (Session σ τ) (Occurrence ν) Fault Unit → Prop where
  | stopped (fails : (call host (.frame frame) session).ending ≠ .value ()) :
    Dispatched host frame session
      ⟨(call host (.frame frame) session).ending.mapFault Fault.ofFailure,
        (call host (.frame frame) session).state, (call host (.frame frame) session).trace⟩
  | followed (done : Outcome (Session σ τ) (Occurrence ν) Fault Unit)
    (passes : (call host (.frame frame) session).ending = .value ())
    (fate : Fate host frame (call host (.frame frame) session).state done) :
    Dispatched host frame session (done.after (call host (.frame frame) session).trace)

theorem dispatch_dispatched (host : Host σ ν τ) (frame : Frame) {session : Session σ τ}
    (coherent : session.Coherent) :
    Dispatched host frame session (dispatch host frame session) := by
  have seen := (call_reacted host (.frame frame) session).coherent coherent
  have stopped (fails : (call host (.frame frame) session).ending ≠ .value ()) :=
    Dispatched.stopped fails
  rw [dispatch_run, invoke_run]
  cases ending : (call host (.frame frame) session).ending with
  | value _ => exact .followed _ ending (follow_fate host frame fun _ _ => seen.takes)
  | fault failure =>
    rw [ending] at stopped
    exact stopped nofun
  | panic payload =>
    rw [ending] at stopped
    exact stopped nofun

/-- What inputs leave as it is: the table, the policy, and whether there is a connection. -/
structure Steady (session later : Session σ τ) : Prop where
  handlers : later.handlers = session.handlers
  policy : later.policy = session.policy
  attached : later.connection.isSome = session.connection.isSome

theorem Steady.refl (session : Session σ τ) : session.Steady session := ⟨rfl, rfl, rfl⟩

theorem Reacted.steady {session later : Session σ τ} (h : session.Reacted later) :
    session.Steady later :=
  ⟨h.handlers, h.policy, h.attached⟩

theorem Steady.trans {session later last : Session σ τ} (first : session.Steady later)
    (second : later.Steady last) : session.Steady last :=
  ⟨second.handlers.trans first.handlers, second.policy.trans first.policy,
    second.attached.trans first.attached⟩

private theorem Fate.steady {host : Host σ ν τ} {frame : Frame} {session : Session σ τ}
    {done : Outcome (Session σ τ) (Occurrence ν) Fault Unit}
    (fate : Fate host frame session done) : session.Steady done.state := by
  cases fate with
  | passed | wrong | overflowed | kept | continued => exact ⟨rfl, rfl, rfl⟩
  | noticed notice routed =>
    rw [invoke_run]
    exact (call_reacted host _ session).steady
  | completed family extended delivered routed takes appended finished delivery =>
    subst delivery
    have reacted := deliverMessage_reacted host family extended.bytes (session.onLoan family)
    exact ⟨reacted.handlers, reacted.policy, reacted.attached⟩
  | opened family routed idle =>
    have reacted := deliverStream_reacted host family session.assembly.streams.length
      (session.fed family frame)
    exact ⟨reacted.handlers, reacted.policy, reacted.attached⟩

theorem attempt_steady (host : Host σ ν τ) (input : Input) {session : Session σ τ}
    (coherent : session.Coherent) : session.Steady (input.attempt host session).state := by
  cases input with
  | connect => simpa [Input.attempt] using (call_reacted host .connect session).steady
  | protocolError request => exact ⟨rfl, rfl, rfl⟩
  | frame frame =>
    have seen := (call_reacted host (.frame frame) session).steady
    have dispatched := dispatch_dispatched host frame coherent
    change session.Steady (dispatch host frame session).state
    generalize dispatch host frame session = done at dispatched ⊢
    cases dispatched with
    | stopped fails => exact seen
    | followed done passes fate => exact seen.trans fate.steady

theorem handle_steady (host : Host σ ν τ) (input : Input) {session : Session σ τ}
    (coherent : session.Coherent) :
    session.Steady ((input.handle host : Step σ τ ν ε Unit) session).state := by
  have kept := attempt_steady host input coherent
  cases ending : (input.attempt host session).ending.fault? with
  | none =>
    rw [handle_of_none ending]
    exact kept
  | some fault =>
    have settled : session.Steady (input.attempt host session).state.settled :=
      ⟨kept.handlers, kept.policy, kept.attached⟩
    rw [handle_of_some ending, Outcome.state_after]
    exact settled.trans (closeDown_reacted host fault _).steady

private theorem attempt_coherent (host : Host σ ν τ) (input : Input) {session : Session σ τ}
    (coherent : session.Coherent) : (input.attempt host session).state.Coherent := by
  cases input with
  | connect => simpa [Input.attempt] using (call_reacted host _ session).coherent coherent
  | protocolError request => exact coherent
  | frame frame =>
    have seen := (call_reacted host (.frame frame) session).coherent coherent
    have dispatched := dispatch_dispatched host frame coherent
    change (dispatch host frame session).state.Coherent
    generalize dispatch host frame session = done at dispatched ⊢
    cases dispatched with
    | stopped fails => exact seen
    | followed done passes fate => exact fate.coherent seen

theorem handle_coherent (host : Host σ ν τ) (input : Input) {session : Session σ τ}
    (coherent : session.Coherent) :
    ((input.handle host : Step σ τ ν ε Unit) session).state.Coherent := by
  rw [Input.handle_run, Outcome.state_after]
  cases ending : (input.attempt host session).ending.fault? with
  | none =>
    rw [guarded_of_none ending]
    exact attempt_coherent host input coherent
  | some fault =>
    rw [guarded_of_some ending, Outcome.state_after]
    have idle : (input.attempt host session).state.settled.Coherent :=
      coherent_of_idle (Assembly.slot_abandoned _)
    exact (closeDown_reacted host fault _).coherent idle

theorem apply_coherent (host : Host σ ν τ) (operation : Operation σ τ) {session : Session σ τ}
    (coherent : session.Coherent) : (operation.apply host session).state.Coherent := by
  cases operation with
  | input input => exact handle_coherent host input coherent
  | attach connection => exact coherent
  | read stream style => exact (session.read_reacted stream style).coherent coherent
  | become app => exact coherent

theorem run_coherent (host : Host σ ν τ) (operations : List (Operation σ τ))
    {session : Session σ τ} (coherent : session.Coherent) :
    (session.run host operations).Coherent := by
  induction operations generalizing session with
  | nil => exact coherent
  | cons operation rest ih => exact ih (apply_coherent host operation coherent)

theorem apply_handlers (host : Host σ ν τ) (operation : Operation σ τ) {session : Session σ τ}
    (coherent : session.Coherent) :
    (operation.apply host session).state.handlers = session.handlers := by
  cases operation with
  | input input => exact (handle_steady host input coherent).handlers
  | attach connection => rfl
  | read stream style => exact (session.read_reacted stream style).handlers
  | become app => rfl

theorem run_handlers (host : Host σ ν τ) (operations : List (Operation σ τ))
    {session : Session σ τ} (coherent : session.Coherent) :
    (session.run host operations).handlers = session.handlers := by
  induction operations generalizing session with
  | nil => rfl
  | cons operation rest ih =>
    rw [run_cons, ih (apply_coherent host operation coherent),
      apply_handlers host operation coherent]

theorem apply_policy (host : Host σ ν τ) (operation : Operation σ τ) {session : Session σ τ}
    (coherent : session.Coherent) :
    (operation.apply host session).state.policy = session.policy := by
  cases operation with
  | input input => exact (handle_steady host input coherent).policy
  | attach connection => rfl
  | read stream style => exact (session.read_reacted stream style).policy
  | become app => rfl

theorem run_policy (host : Host σ ν τ) (operations : List (Operation σ τ))
    {session : Session σ τ} (coherent : session.Coherent) :
    (session.run host operations).policy = session.policy := by
  induction operations generalizing session with
  | nil => rfl
  | cons operation rest ih =>
    rw [run_cons, ih (apply_coherent host operation coherent),
      apply_policy host operation coherent]

theorem entry_of_mem_history {host : Host σ ν τ} {operations : List (Operation σ τ)}
    {session : Session σ τ} {entry : Entry σ ν τ} (coherent : session.Coherent)
    (member : entry ∈ session.history host operations) :
    ∃ (reached : Session σ τ) (operation : Operation σ τ), reached.Coherent ∧
      reached.handlers = session.handlers ∧ entry = reached.entry host operation := by
  induction operations generalizing session with
  | nil => simp [history] at member
  | cons operation rest ih =>
    rcases List.mem_cons.mp member with first | later
    · exact ⟨session, operation, coherent, rfl, first⟩
    · obtain ⟨reached, other, coherent', same, entered⟩ :=
        ih (apply_coherent host operation coherent) later
      exact ⟨reached, other, coherent', same.trans (apply_handlers host operation coherent),
        entered⟩

end Session

end WebSocketSession
