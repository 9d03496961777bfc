import WebSocketSession.Proofs.Loans
import WebSocketSession.Proofs.Run
import WebSocketSession.Script

/-!
# Lending and returning buffers

A session has a buffer from the pool exactly while a buffered message is in flight or being
delivered. Every operation leads from the tenure that belongs to its slot to the one that belongs
to the slot after it (`apply_leads`), and a run does the same (`run_leads`); what a trace shows of
buffers at any of its points follows from that (`lending_of_leads`).
-/

set_option autoImplicit false
set_option relaxedAutoImplicit false

namespace WebSocketSession

variable {σ ν τ ε : Type}

namespace Session

/-- A frame opens a buffered message, once the frame observer has let it pass. -/
def opensBuffer (session : Session σ τ) (frame : Frame) : Bool :=
  session.inFlight.isNone &&
    frame.opcode.family?.any fun family => session.handlers.delivery family == some .buffered

private theorem opensBuffer_of_fragment {session : Session σ τ} {frame : Frame} {family : Family}
    (routed : route session.handlers session.inFlight frame = .fragment family .buffered) :
    session.opensBuffer frame = session.inFlight.isNone := by
  obtain ⟨wanted, ⟨idle, opens⟩ | ⟨current, -⟩⟩ := route_fragment routed
  · simp [opensBuffer, idle, opens, Opcode.family?_ofFamily, wanted]
  · simp [opensBuffer, current]

private theorem route_of_opensBuffer {session : Session σ τ} {frame : Frame}
    (opens : session.opensBuffer frame = true) :
    ∃ family, route session.handlers session.inFlight frame = .fragment family .buffered := by
  obtain ⟨idle, asked⟩ := Bool.and_eq_true_iff.mp opens
  have nothing := Option.isNone_iff_eq_none.mp idle
  cases kind : frame.opcode with
  | text =>
    have wanted : session.handlers.delivery .text = some .buffered := by
      simpa [kind, Opcode.family?] using asked
    exact ⟨.text, by simp [route, kind, routeData, wanted, nothing]⟩
  | binary =>
    have wanted : session.handlers.delivery .binary = some .buffered := by
      simpa [kind, Opcode.family?] using asked
    exact ⟨.binary, by simp [route, kind, routeData, wanted, nothing]⟩
  | _ => simp [kind, Opcode.family?] at asked

theorem opensBuffer_of_other {session : Session σ τ} {frame : Frame} {other : Route}
    (routed : route session.handlers session.inFlight frame = other)
    (apart : ∀ family, other ≠ .fragment family .buffered) :
    session.opensBuffer frame = false := by
  cases opens : session.opensBuffer frame with
  | false => rfl
  | true =>
    obtain ⟨family, buffered⟩ := route_of_opensBuffer opens
    exact absurd (routed.symm.trans buffered) (apart family)

private theorem Reacted.opensBuffer {session later : Session σ τ} (h : session.Reacted later)
    (frame : Frame) : later.opensBuffer frame = session.opensBuffer frame := by
  simp only [Session.opensBuffer, h.inFlight, h.handlers]

/-- A callback that neither delivers a buffer nor reports a fault leaves the buffer where it is. -/
theorem call_leads (host : Host σ ν τ) (event : Event) (session : Session σ τ) (tenure : Tenure)
    (own : tenure.after .own = some tenure)
    (called : tenure.after (Occurrence.called event : Occurrence ν).stir = some tenure) :
    Leads tenure session.assembly.pool (call host event session).trace tenure
      (call host event session).state.assembly.pool 0 := by
  obtain ⟨acts, byApplication, trace⟩ := call_trace host event session
  rw [(call_reacted host event session).pool, trace]
  refine .still _ fun x member => ?_
  split at member
  · rcases List.mem_cons.mp member with rfl | member
    · exact called
    · rw [x.stir_of_byApplication (byApplication x member)]
      exact own
  · simp at member

theorem deliverMessage_leads (host : Host σ ν τ) (family : Family) (message : Bytes)
    (session : Session σ τ) :
    ∃ tenure, (tenure = .lent ∨ tenure = .delivering) ∧
      Leads .lent session.assembly.pool (deliverMessage host family message session).trace tenure
        (deliverMessage host family message session).state.assembly.pool 0 := by
  have counted : Leads .lent session.assembly.pool
      [(.counted (.message family .buffered) : Occurrence ν)] .lent session.assembly.pool 0 :=
    .still _ (by simp [Occurrence.stir, Tenure.after])
  rw [deliverMessage_run, Outcome.trace_after, Outcome.state_after]
  cases decoded : messageEvent family message with
  | none => exact ⟨.lent, .inl rfl, counted.trans (.nil _ _)⟩
  | some event =>
    have delivers : (Occurrence.called event : Occurrence ν).stir = .deliver := by
      cases family with
      | text =>
        obtain ⟨text, -, rfl⟩ := Option.map_eq_some_iff.mp decoded
        rfl
      | binary =>
        cases decoded
        rfl
    obtain ⟨acts, byApplication, trace⟩ := call_trace host event session
    simp only [invoke_run, (call_reacted host event session).pool, trace]
    split
    · have called : Leads .lent session.assembly.pool [(.called event : Occurrence ν)] .delivering
          session.assembly.pool 0 := by
        refine ⟨?_, ?_, ?_, ?_, ?_⟩
        all_goals simp [acquisitions, releases, delivers, Tenure.after]
      have on : Leads .delivering session.assembly.pool acts .delivering session.assembly.pool 0 :=
        .still _ fun x member => by rw [x.stir_of_byApplication (byApplication x member)]; rfl
      exact ⟨.delivering, .inr rfl, counted.trans (called.trans on)⟩
    · exact ⟨.lent, .inl rfl, counted.trans (.nil _ _)⟩

private theorem deliverStream_leads (host : Host σ ν τ) (family : Family) (stream : Nat)
    (session : Session σ τ) (slot : Slot) :
    Leads slot.tenure session.assembly.pool (deliverStream host family stream session).trace
      slot.tenure (deliverStream host family stream session).state.assembly.pool 0 := by
  obtain ⟨own, other⟩ := slot.rests_tenure
  have counted : Leads slot.tenure session.assembly.pool
      [(.counted (.message family .streaming) : Occurrence ν)] slot.tenure
      session.assembly.pool 0 := .still _ fun x member => by
    obtain rfl := List.mem_singleton.mp member
    exact other
  have called := call_leads host (streamEvent family stream) (session.presented family stream)
    slot.tenure own (by cases family <;> exact other)
  rw [(session.presented_reacted family stream).pool] at called
  rw [deliverStream_run, invoke_run]
  exact counted.trans called

private theorem closedTrace_leads (host : Host σ ν τ) (fault : Fault) (session : Session σ τ)
    (pool : Pool) :
    Leads .free pool (session.closedTrace host fault) .free pool 0 := by
  refine .still pool ?_
  unfold closedTrace closeTrace
  cases session.answer? host (session.closingCode fault) (session.closingReason fault) with
  | none => simp [Occurrence.stir, Tenure.after]
  | some answer => cases answer <;> simp [Occurrence.stir, Tenure.after]

private theorem complaintTrace_leads (ending : Ending Failure Unit) (pool : Pool) :
    Leads .free pool (complaintTrace ending : List (Occurrence ν)) .free pool 0 := by
  cases ending with
  | value _ => exact .nil .free pool
  | fault failure => exact Leads.logged pool [.errorCallbackFailed failure] rfl
  | panic payload => exact Leads.logged pool [.errorCallbackPanicked payload.message] rfl

theorem closeDown_leads (host : Host σ ν τ) (fault : Fault) (session : Session σ τ) :
    Leads .free session.assembly.pool ((closeDown host fault : Step σ τ ν ε Unit) session).trace
      .free ((closeDown host fault : Step σ τ ν ε Unit) session).state.assembly.pool 0 := by
  have closing := session.closedTrace_leads host fault session.assembly.pool
  rcases session.calm_or_panics host fault with calm | ⟨payload, panics⟩
  · have called := call_leads host (.error fault) (session.closed host fault) .free rfl rfl
    rw [closeDown_of_calm calm]
    exact closing.trans (called.trans (complaintTrace_leads _ _))
  · rw [closeDown_of_panic panics]
    exact closing

/-- Every fate of a frame leads from the tenure of the slot to that of the slot after it. -/
theorem Fate.leads {host : Host σ ν τ} {frame : Frame} {session : Session σ τ}
    {done : Outcome (Session σ τ) (Occurrence ν) Fault Unit} (fate : Fate host frame session done) :
    Leads session.assembly.slot.tenure session.assembly.pool done.trace
      done.state.assembly.slot.tenure done.state.assembly.pool
      (session.opensBuffer frame).toNat := by
  cases fate with
  | passed records routed =>
    rw [opensBuffer_of_other routed (by simp)]
    exact .logged _ records session.assembly.slot.rests_tenure.2
  | wrong fault routed =>
    rw [opensBuffer_of_other routed (by simp)]
    exact .nil _ _
  | noticed notice routed =>
    rw [opensBuffer_of_other routed (by simp), invoke_run,
      (call_reacted host (.close notice) session).slot]
    obtain ⟨own, other⟩ := session.assembly.slot.rests_tenure
    exact call_leads host _ session _ own other
  | overflowed family overflow routed takes appended =>
    rw [opensBuffer_of_fragment routed]
    exact (Assembly.lendingTrace_leads _ takes).trans
      (Assembly.returnedTrace_leads _ _ (.inl rfl))
  | kept family extended routed takes appended unfinished =>
    rw [opensBuffer_of_fragment routed]
    exact Assembly.lendingTrace_leads _ takes
  | completed family extended delivered routed takes appended finished delivery =>
    subst delivery
    have lent := Assembly.lendingTrace_leads (ν := ν) (session.policy.bufferedLimit family) takes
    obtain ⟨tenure, held, delivers⟩ :=
      deliverMessage_leads host family extended.bytes (session.onLoan family)
    have kept := (deliverMessage_reacted host family extended.bytes (session.onLoan family)).slot
    rw [opensBuffer_of_fragment routed]
    simp only [repaid, kept]
    exact lent.trans (delivers.trans (Assembly.returnedTrace_leads _ extended held))
  | opened family routed idle =>
    have taken : session.assembly.slot.Takes family .streaming := .inl idle
    have written : Leads session.assembly.slot.tenure session.assembly.pool
        (session.feedTrace family frame : List (Occurrence ν))
        (session.fed family frame).assembly.slot.tenure
        (session.fed family frame).assembly.pool 0 :=
      Assembly.written_leads frame.payload frame.fin taken
    have kept := (deliverStream_reacted host family session.assembly.streams.length
      (session.fed family frame)).slot
    rw [opensBuffer_of_other routed (by simp), Outcome.state_after, kept]
    exact written.trans (deliverStream_leads host family _ _ _)
  | continued family stream feed routed held =>
    rw [opensBuffer_of_other routed (by simp)]
    exact Assembly.written_leads frame.payload frame.fin (by simp [held])

end Session

/-- The input opens a buffered message: the frame observer lets it pass, and it is a first
fragment of a family whose messages are delivered whole. -/
def Input.opensBuffer (host : Host σ ν τ) (session : Session σ τ) : Input → Bool
  | .frame received =>
    (Session.call host (.frame received) session).ending.value?.isSome &&
      session.opensBuffer received
  | _ => false

def Operation.opensBuffer (host : Host σ ν τ) (session : Session σ τ) : Operation σ τ → Bool
  | .input given => given.opensBuffer host session
  | _ => false

namespace Session

private theorem attempt_leads (host : Host σ ν τ) (input : Input) {session : Session σ τ}
    (coherent : session.Coherent) :
    Leads session.assembly.slot.tenure session.assembly.pool (input.attempt host session).trace
      (input.attempt host session).state.assembly.slot.tenure
      (input.attempt host session).state.assembly.pool
      (input.opensBuffer host session).toNat := by
  obtain ⟨own, other⟩ := session.assembly.slot.rests_tenure
  cases input with
  | connect =>
    have called := call_leads host .connect session _ own other
    simp only [Input.attempt, invoke_run, (call_reacted host .connect session).slot]
    exact called
  | protocolError request => exact .nil _ _
  | frame frame =>
    have seen := call_leads host (.frame frame) session _ own other
    have reacted := call_reacted host (.frame frame) session
    have dispatched := dispatch_dispatched host frame coherent
    change Leads _ _ (dispatch host frame session).trace
      (dispatch host frame session).state.assembly.slot.tenure
      (dispatch host frame session).state.assembly.pool _
    generalize dispatch host frame session = done at dispatched ⊢
    cases dispatched with
    | stopped fails =>
      have stopped : Input.opensBuffer host session (.frame frame) = false := by
        rw [Input.opensBuffer]
        cases ending : (call host (.frame frame) session).ending with
        | value _ => exact absurd ending fails
        | _ => rfl
      rw [stopped]
      simp only [reacted.slot]
      exact seen
    | followed done passes fate =>
      have opens : Input.opensBuffer host session (.frame frame) = session.opensBuffer frame := by
        rw [Input.opensBuffer, passes]
        rfl
      have onwards := fate.leads
      rw [reacted.opensBuffer, reacted.slot] at onwards
      rw [opens, Outcome.trace_after, Outcome.state_after, ← Nat.zero_add (Bool.toNat _)]
      exact seen.trans onwards

theorem arrivalTrace_leads (input : Input) (slot : Slot) (pool : Pool) :
    Leads slot.tenure pool (input.arrivalTrace : List (Occurrence ν)) slot.tenure pool 0 := by
  refine .still pool fun x member => ?_
  have stir : x.stir = .other := by
    cases input <;> simp [Input.arrivalTrace] at member <;> rcases member with rfl | rfl <;> rfl
  rw [stir]
  exact slot.rests_tenure.2

theorem complaint_leads {α : Type} (ending : Ending Fault α) (fault : Fault) (slot : Slot)
    (pool : Pool) :
    Leads slot.tenure pool
      (ending.panicTrace ++ [.logged (reportRecord fault)] : List (Occurrence ν)) slot.tenure
      pool 0 := by
  have other := slot.rests_tenure.2
  cases ending with
  | panic payload =>
    exact .logged pool [.callbackPanicked payload.message, reportRecord fault] other
  | value _ => exact .logged pool [reportRecord fault] other
  | fault _ => exact .logged pool [reportRecord fault] other

/-- An input does what its attempt does, and gives the buffer back if that comes to a fault. -/
theorem handle_leads (host : Host σ ν τ) (input : Input) {session : Session σ τ}
    (coherent : session.Coherent) :
    Leads session.assembly.slot.tenure session.assembly.pool
      ((input.handle host : Step σ τ ν ε Unit) session).trace
      ((input.handle host : Step σ τ ν ε Unit) session).state.assembly.slot.tenure
      ((input.handle host : Step σ τ ν ε Unit) session).state.assembly.pool
      (input.opensBuffer host session).toNat := by
  have attempted := (arrivalTrace_leads input session.assembly.slot session.assembly.pool).trans
    (attempt_leads host input coherent)
  rw [Nat.zero_add] at attempted
  cases ending : (input.attempt host session).ending.fault? with
  | none =>
    rw [handle_of_none ending]
    exact attempted
  | some fault =>
    have complained := complaint_leads (ν := ν) (input.attempt host session).ending fault
      (input.attempt host session).state.assembly.slot
      (input.attempt host session).state.assembly.pool
    have abandoned := (input.attempt host session).state.assembly.abandonTrace_leads (ν := ν)
    have closed : Leads .free (input.attempt host session).state.settled.assembly.pool
        ((closeDown host fault : Step σ τ ν ε Unit)
          (input.attempt host session).state.settled).trace .free _ 0 :=
      closeDown_leads host fault _
    have idle : ((closeDown host fault : Step σ τ ν ε Unit)
        (input.attempt host session).state.settled).state.assembly.slot = .idle := by
      rw [(closeDown_reacted host fault _).slot]
      exact Assembly.slot_abandoned _
    have leads := (attempted.trans complained).trans (abandoned.trans closed)
    rw [handle_of_some ending, Outcome.trace_after, Outcome.state_after, idle]
    simpa only [faultTrace, List.append_assoc, Nat.add_zero, Slot.tenure] using leads

theorem apply_leads (host : Host σ ν τ) (operation : Operation σ τ) {session : Session σ τ}
    (coherent : session.Coherent) :
    Leads session.assembly.slot.tenure session.assembly.pool (operation.apply host session).trace
      (operation.apply host session).state.assembly.slot.tenure
      (operation.apply host session).state.assembly.pool
      (operation.opensBuffer host session).toNat := by
  cases operation with
  | input given => exact handle_leads host given coherent
  | attach connection => exact .nil _ _
  | become app => exact .nil _ _
  | read stream style =>
    have reacted := session.read_reacted stream style
    simp only [Operation.apply, Work.modify_run, reacted.slot, reacted.pool]
    exact .nil _ _

theorem run_leads (host : Host σ ν τ) (operations : List (Operation σ τ)) {session : Session σ τ}
    (coherent : session.Coherent) :
    ∃ taken, Leads session.assembly.slot.tenure session.assembly.pool
      (session.runTrace host operations) (session.run host operations).assembly.slot.tenure
      (session.run host operations).assembly.pool taken := by
  induction operations generalizing session with
  | nil => exact ⟨0, .nil _ _⟩
  | cons operation rest ih =>
    obtain ⟨taken, later⟩ := ih (apply_coherent host operation coherent)
    exact ⟨_, (apply_leads host operation coherent).trans later⟩

end Session

/-- What the owner does with a session at last, if anything. -/
inductive Farewell where
  | keep
  | release
  | dispose

def Farewell.apply : Farewell → Session.Step σ τ ν ε Unit
  | .keep => Work.pure ()
  | .release => Session.release
  | .dispose => Session.dispose

private theorem Farewell.slot_of_leaves {farewell : Farewell} (leaves : farewell ≠ .keep)
    (session : Session σ τ) :
    ((farewell.apply : Session.Step σ τ ν ε Unit) session).state.assembly.slot = .idle := by
  cases farewell with
  | keep => exact absurd rfl leaves
  | release => simp [apply, Session.release]
  | dispose => simp [apply, Session.dispose]

private theorem Farewell.apply_leads (farewell : Farewell) (session : Session σ τ) :
    Leads session.assembly.slot.tenure session.assembly.pool
      ((farewell.apply : Session.Step σ τ ν ε Unit) session).trace
      ((farewell.apply : Session.Step σ τ ν ε Unit) session).state.assembly.slot.tenure
      ((farewell.apply : Session.Step σ τ ν ε Unit) session).state.assembly.pool 0 := by
  cases farewell with
  | keep => exact .nil _ _
  | release =>
    have leads := session.assembly.abandonTrace_leads (ν := ν)
    rw [slot_of_leaves (by simp) session]
    simpa only [apply, Session.release, Session.assembling_run, Assembly.abandon_run, Slot.tenure]
      using leads
  | dispose =>
    have leads := session.assembly.dispose_leads (ν := ν) (ε := ε)
    rw [slot_of_leaves (by simp) session]
    exact leads

/-- What a trace shows of the buffers that a session takes from its pool: how many are out, at the
end and at every moment before. -/
structure Session.Lending (pool : Pool) (session : Session σ τ) (trace : List (Occurrence ν)) :
    Prop where
  counts : pool.Counts trace session.assembly.pool
  /-- A buffer is out for a buffered message in flight, and for nothing else. -/
  outstanding : outstanding trace = session.assembly.slot.kept
  /-- A complete message is delivered while its buffer is out. The buffer goes back when the
  callback is over, and until then the application is on its own. -/
  delivering : ∀ before event family after, trace = before ++ .called event :: after →
    event.registration = .message family .buffered →
      WebSocketSession.outstanding before = 1 ∧
        ∃ own length rest, after = own ++ .released length :: rest ∧
          ∀ x ∈ own, x.byApplication = true
  /-- No buffer is out when the session closes its connection or calls the error callback, and none
  while that callback runs. -/
  closing : ∀ before x own after, trace = before ++ x :: (own ++ after) →
    ((∃ code reason, x = .closed .session code reason) ∨ ∃ fault, x = .called (.error fault)) →
    (∀ y ∈ own, y.byApplication = true) →
      WebSocketSession.outstanding before = 0 ∧
        WebSocketSession.outstanding (before ++ x :: own) = 0
  /-- The gauge shows how many buffers are out, except where it is about to follow. -/
  shown : ∀ before after, trace = before ++ after →
    after.head? ≠ some (.counted .bufferLent) → after.head? ≠ some (.counted .bufferReturned) →
      gauge before = WebSocketSession.outstanding before

private theorem Session.lending_of_leads {pool : Pool} {session : Session σ τ}
    {trace : List (Occurrence ν)} {taken : Nat}
    (leads : Leads .free pool trace session.assembly.slot.tenure session.assembly.pool taken) :
    session.Lending pool trace where
  counts := leads.counts
  outstanding := by
    have net := (Tenure.counts_of_follow leads.follows).1
    rw [session.assembly.slot.counts_tenure.1] at net
    exact net.trans (Int.sub_zero _)
  delivering before event family after split delivers := by
    have follows := leads.follows
    rw [split] at follows
    obtain ⟨held, next, reaches, moves, rest⟩ := Tenure.split_follow follows
    have stir : (Occurrence.called event : Occurrence ν).stir = .deliver := by
      cases event <;> cases delivers <;> rfl
    rw [stir] at moves
    cases held <;> cases moves
    refine ⟨(Tenure.counts_of_follow reaches).1, Tenure.own_until_release rest ?_⟩
    cases session.assembly.slot <;> nofun
  closing before x own after split closes byApplication := by
    have follows := leads.follows
    rw [split] at follows
    obtain ⟨held, next, reaches, moves, -⟩ := Tenure.split_follow follows
    have stir : x.stir = .close := by
      rcases closes with ⟨code, reason, rfl⟩ | ⟨fault, rfl⟩ <;> rfl
    rw [stir] at moves
    cases held <;> cases moves
    have still : Tenure.free.follow own = some .free := Tenure.follow_still fun y member => by
      rw [y.stir_of_byApplication (byApplication y member)]
      rfl
    have onwards : Tenure.free.follow (before ++ x :: own) = some .free := by
      rw [Tenure.follow_append, reaches]
      change (Tenure.free.after x.stir).bind _ = _
      rw [stir]
      exact still
    exact ⟨(Tenure.counts_of_follow reaches).1, (Tenure.counts_of_follow onwards).1⟩
  shown before after split unlent unreturned := by
    have follows := leads.follows
    rw [split, Tenure.follow_append] at follows
    obtain ⟨held, reaches, onwards⟩ := Option.bind_eq_some_iff.mp follows
    obtain ⟨net, shows⟩ := Tenure.counts_of_follow reaches
    have rests : session.assembly.slot.tenure.gauge = session.assembly.slot.tenure.outstanding :=
      session.assembly.slot.counts_tenure.2.trans session.assembly.slot.counts_tenure.1.symm
    rw [net, shows, Tenure.gauge_eq_outstanding onwards rests unlent unreturned]
    rfl

structure Entry.Lends (host : Host σ ν τ) (handlers : Handlers) (entry : Entry σ ν τ) : Prop where
  /-- A buffer is taken for the first fragment of a buffered message, and for nothing else. -/
  takes : acquisitions entry.outcome.trace =
    (entry.operation.opensBuffer host entry.before).toNat
  /-- What was kept before or has been taken is returned, or kept after. -/
  balanced : entry.before.assembly.slot.kept + acquisitions entry.outcome.trace =
    releases entry.outcome.trace + entry.outcome.state.assembly.slot.kept
  /-- Without a buffered message there is nothing to return: streamed messages leave the pool
  alone. -/
  untouched : entry.before.assembly.slot.kept = 0 →
    entry.operation.opensBuffer host entry.before = false →
      releases entry.outcome.trace = 0 ∧
        entry.outcome.state.assembly.pool = entry.before.assembly.pool
  /-- So do frames of a family without a handler that the frame observer lets pass. -/
  discards : ∀ frame family, entry.operation = .input (.frame frame) →
    frame.opcode = .ofFamily family → handlers.delivery family = none →
    entry.before.Passes host frame →
      acquisitions entry.outcome.trace = 0 ∧ releases entry.outcome.trace = 0 ∧
        entry.outcome.state.assembly.pool = entry.before.assembly.pool

namespace Session

private theorem slot_of_unwanted {host : Host σ ν τ} {session : Session σ τ} {frame : Frame}
    {family : Family} (kind : frame.opcode = .ofFamily family)
    (unwanted : session.handlers.delivery family = none) (passes : session.Passes host frame) :
    (((Input.frame frame).handle host : Step σ τ ν ε Unit) session).state.assembly.slot =
      session.assembly.slot := by
  have attempted := attempt_of_passes passes
  rw [route_of_unwanted kind unwanted] at attempted
  have sound : ((Input.frame frame).attempt host session).ending.fault? = none := by
    rw [attempted]
    rfl
  rw [handle_of_none sound, attempted]
  exact (session.observed_reacted host frame).slot

private theorem entry_lends (host : Host σ ν τ) (operation : Operation σ τ) {session : Session σ τ}
    (coherent : session.Coherent) :
    (session.entry host operation).Lends host session.handlers := by
  have leads := apply_leads host operation coherent
  have balanced : session.assembly.slot.kept + acquisitions (operation.apply host session).trace =
      releases (operation.apply host session).trace +
        (operation.apply host session).state.assembly.slot.kept := by
    have net := leads.outstanding_eq.1
    rw [outstanding] at net
    omega
  refine ⟨leads.takes, balanced, fun empty unopened => ?_,
    fun frame family brings kind unwanted passes => ?_⟩
  · have taken : acquisitions (operation.apply host session).trace = 0 := by
      rw [leads.takes]
      exact congrArg Bool.toNat unopened
    have returned : releases (operation.apply host session).trace = 0 := by
      change session.assembly.slot.kept = 0 at empty
      omega
    exact ⟨returned, leads.counts.untouched taken returned⟩
  · have same : (operation.apply host session).state.assembly.slot = session.assembly.slot := by
      cases brings
      exact slot_of_unwanted kind unwanted passes
    have unopened : operation.opensBuffer host session = false := by
      cases brings
      simp [Operation.opensBuffer, Input.opensBuffer, opensBuffer, kind, Opcode.family?_ofFamily,
        unwanted]
    have taken : acquisitions (operation.apply host session).trace = 0 := by
      rw [leads.takes, unopened]
      rfl
    have returned : releases (operation.apply host session).trace = 0 := by
      rw [same] at balanced
      omega
    exact ⟨taken, returned, leads.counts.untouched taken returned⟩

end Session

/-- Every buffered message of every run has one buffer, from its first fragment until it is over,
however it ends; nothing else takes one. Nobody who uses an assembly directly has more buffers, or
fewer, than the slot and the loans of complete messages come to. -/
theorem buffers_lent_and_returned (host : Host σ ν τ) (app : σ) (handlers : Handlers)
    (policy : Policy) (pool : Pool) (operations : List (Operation σ τ)) (farewell : Farewell)
    (uses : List Use) :
    let start : Session σ τ := .start app handlers policy pool
    let done := (farewell.apply : Session.Step σ τ ν Empty Unit) (start.run host operations)
    let custody := Custody.run (ν := ν) ⟨.start pool, []⟩ uses
    (done.state.Lending pool (start.runTrace host operations ++ done.trace) ∧
      (farewell ≠ .keep → done.state.assembly.slot = .idle) ∧
      ∀ entry ∈ start.history host operations, entry.Lends host handlers) ∧
    outstanding custody.2 = custody.1.kept ∧ gauge custody.2 = custody.1.kept ∧
      pool.Counts custody.2 custody.1.assembly.pool := by
  intro start done custody
  have coherent : start.Coherent := Session.coherent_of_idle rfl
  refine ⟨⟨?_, fun leaves => ?_, fun entry member => ?_⟩, ?_⟩
  · obtain ⟨taken, leads⟩ := Session.run_leads host operations coherent
    exact Session.lending_of_leads (leads.trans (farewell.apply_leads _))
  · exact Farewell.slot_of_leaves leaves _
  · obtain ⟨reached, operation, sound, same, rfl⟩ := Session.entry_of_mem_history coherent member
    have lends := Session.entry_lends host operation sound
    rw [same] at lends
    exact lends
  · have balanced : Custody.Balanced ⟨.start pool, []⟩ custody.2 custody.1 :=
      Custody.run_balanced _ uses
    exact ⟨balanced.outstanding.trans (Int.sub_zero _), balanced.gauge.trans (Int.sub_zero _),
      balanced.counts⟩

-- The buffer of a text goes back when a binary frame comes between its fragments.
example :
    let start : Session Script Recorder :=
      .start ⟨[]⟩ (.ofRegistrations [.message .text .buffered, .message .binary .buffered])
        .default (.empty 4)
    let begun := start.runTrace Script.host [.input (.frame ⟨.text, false, [72]⟩)]
    let broken := start.runTrace Script.host
      [.input (.frame ⟨.text, false, [72]⟩), .input (.frame ⟨.binary, true, [1]⟩)]
    outstanding begun = 1 ∧ acquisitions broken = 1 ∧ releases broken = 1 := by
  decide +kernel

end WebSocketSession
