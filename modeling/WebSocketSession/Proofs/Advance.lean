import WebSocketSession.Proofs.Outline
import WebSocketSession.Proofs.Streams

/-!
# What one operation does about the message in flight

`Advance` is the case distinction that every operation falls under (`apply_advance`): it does not
concern the message in flight, loses it, keeps a fragment with it, completes it, or opens or
continues a stream. Each case says what is delivered and what becomes of the streams.
-/

set_option autoImplicit false
set_option relaxedAutoImplicit false

namespace WebSocketSession

variable {σ ν τ ε : Type}

/-- The frame is one that goes into a message of the family once that is in flight. -/
def Frame.belongs (family : Family) (frame : Frame) : Bool :=
  frame.opcode == .continuation || frame.opcode == .ofFamily family

def Frame.passesBy (handlers : Handlers) (frame : Frame) : Bool :=
  frame.opcode.isControl ||
    frame.opcode.family?.any fun family => (handlers.delivery family).isNone

theorem Frame.belongs_eq_false_of_passesBy {handlers : Handlers} {family : Family} {frame : Frame}
    (wanted : handlers.delivery family ≠ none) (passes : frame.passesBy handlers = true) :
    frame.belongs family = false := by
  obtain ⟨opcode, fin, payload⟩ := frame
  cases opcode <;> cases family <;>
    simp_all [belongs, passesBy, Opcode.isControl, Opcode.family?, Opcode.ofFamily]

def Occurrence.delivery? : Occurrence ν → Option Event
  | .called event =>
    match event.registration with
    | .message _ _ => some event
    | _ => none
  | _ => none

def deliveries (trace : List (Occurrence ν)) : List Event :=
  trace.filterMap Occurrence.delivery?

@[simp] theorem deliveries_append (first second : List (Occurrence ν)) :
    deliveries (first ++ second) = deliveries first ++ deliveries second :=
  List.filterMap_append ..

@[simp] theorem deliveries_logged (record : LogRecord) (trace : List (Occurrence ν)) :
    deliveries (.logged record :: trace) = deliveries trace := rfl

theorem deliveries_eq_of_outline (trace : List (Occurrence ν)) :
    deliveries trace = deliveries (outline trace) := by
  rw [deliveries, deliveries, outline, List.filterMap_filter]
  congr 1
  funext x
  cases x with
  | called event => rfl
  | _ => simp [Occurrence.delivery?]

theorem deliveries_of_outline_nil {trace : List (Occurrence ν)} (silent : outline trace = []) :
    deliveries trace = [] := by
  rw [deliveries_eq_of_outline, silent]
  rfl

private theorem deliveries_called_of_other {event : Event}
    (other : ∀ family delivery, event.registration ≠ .message family delivery) :
    deliveries [(.called event : Occurrence ν)] = [] := by
  cases event with
  | text _ => exact absurd rfl (other .text .buffered)
  | binary _ => exact absurd rfl (other .binary .buffered)
  | textStream _ => exact absurd rfl (other .text .streaming)
  | binaryStream _ => exact absurd rfl (other .binary .streaming)
  | _ => rfl

theorem deliveries_called_of_message {event : Event} {family : Family} {delivery : Delivery}
    (message : event.registration = .message family delivery) :
    deliveries [(.called event : Occurrence ν)] = [event] := by
  simp [deliveries, Occurrence.delivery?, message]

namespace Entry

def Failed (entry : Entry σ ν τ) : Prop :=
  ∃ code, .counted (.termination code) ∈ entry.outcome.trace

instance (entry : Entry σ ν τ) : Decidable entry.Failed :=
  decidable_of_iff
      (entry.outcome.trace.any fun | .counted (.termination _) => true | _ => false) <| by
    rw [List.any_eq_true]
    constructor
    · rintro ⟨x, member, counts⟩
      split at counts
      · exact ⟨_, member⟩
      · cases counts
    · rintro ⟨code, member⟩
      exact ⟨_, member, rfl⟩

def delivered (entry : Entry σ ν τ) : List Event := deliveries entry.outcome.trace

end Entry

def fragments (family : Family) (entries : List (Entry σ ν τ)) : List Frame :=
  (entries.filterMap Entry.frame?).filter (Frame.belongs family)

theorem fragments_append (family : Family) (first second : List (Entry σ ν τ)) :
    fragments family (first ++ second) = fragments family first ++ fragments family second := by
  simp [fragments]

theorem fragments_of_belongs {family : Family} {entry : Entry σ ν τ} {frame : Frame}
    (brings : entry.frame? = some frame) (belongs : frame.belongs family = true) :
    fragments family [entry] = [frame] := by
  simp [fragments, brings, belongs]

theorem fragments_of_other {family : Family} {entry : Entry σ ν τ}
    (other : ∀ frame, entry.frame? = some frame → frame.belongs family = false) :
    fragments family [entry] = [] := by
  cases brings : entry.frame? with
  | none => simp [fragments, brings]
  | some frame => simp [fragments, brings, other frame brings]

namespace Session

/-- The frame is a fragment that the session would open or continue a buffered message with. -/
def Awaits (session : Session σ τ) (family : Family) (frame : Frame) : Prop :=
  (session.assembly.slot = .idle ∧ frame.opcode = .ofFamily family) ∨
    ((∃ loan, session.assembly.slot = .buffered family loan) ∧ frame.belongs family = true)

inductive Advance (entry : Entry σ ν τ) (session later : Session σ τ) : Prop where
  | skipped (calm : ¬ entry.Failed) (nothing : entry.delivered = [])
    (slot : later.assembly.slot = session.assembly.slot)
    (apart : session.inFlight = none ∨
      ∀ frame, entry.frame? = some frame → frame.passesBy session.handlers = true)
    (readers : session.ReadersKept later)
    (opened : later.assembly.streams.length = session.assembly.streams.length)
  | lost (nothing : entry.delivered = []) (idle : later.assembly.slot = .idle)
    (readers : session.ReadersKept later)
    (opened : later.assembly.streams.length = session.assembly.streams.length)
  | kept (family : Family) (frame : Frame) (extended : Loan)
    (brings : entry.frame? = some frame) (awaits : session.Awaits family frame)
    (unfinished : frame.fin = false) (calm : ¬ entry.Failed) (nothing : entry.delivered = [])
    (slot : later.assembly.slot = .buffered family extended)
    (bytes : extended.bytes = (session.loan family).bytes ++ frame.payload)
    (readers : session.ReadersKept later)
    (opened : later.assembly.streams.length = session.assembly.streams.length)
  | completed (family : Family) (frame : Frame) (event : Event)
    (brings : entry.frame? = some frame) (awaits : session.Awaits family frame)
    (finished : frame.fin = true) (delivered : entry.delivered = [event])
    (content : event.content? = some (family, (session.loan family).bytes ++ frame.payload))
    (idle : later.assembly.slot = .idle) (readers : session.ReadersKept later)
    (opened : later.assembly.streams.length = session.assembly.streams.length)
  | opened (family : Family) (frame : Frame)
    (brings : entry.frame? = some frame) (idle : session.assembly.slot = .idle)
    (opens : frame.opcode = .ofFamily family)
    (delivered : entry.delivered = [streamEvent family session.assembly.streams.length])
    (slot : later.assembly.slot = .idle ∨
      (¬ entry.Failed ∧ frame.fin = false ∧
        ∃ feed, later.assembly.slot =
          .streaming family session.assembly.streams.length feed))
    (readers : session.ReadersKept later)
    (opened : later.assembly.streams.length = session.assembly.streams.length + 1)
    (fed : (later.assembly.reader session.assembly.streams.length).Fed [frame.payload])
  | continued (family : Family) (frame : Frame) (stream : Nat) (feed : Feed)
    (brings : entry.frame? = some frame)
    (held : session.assembly.slot = .streaming family stream feed)
    (belongs : frame.belongs family = true) (calm : ¬ entry.Failed)
    (nothing : entry.delivered = [])
    (slot : (frame.fin = true ∧ later.assembly.slot = .idle) ∨
      (frame.fin = false ∧ ∃ feed, later.assembly.slot = .streaming family stream feed))
    (others : ∀ other < session.assembly.streams.length, other ≠ stream → ∀ payloads,
      (session.assembly.reader other).Fed payloads → (later.assembly.reader other).Fed payloads)
    (opened : later.assembly.streams.length = session.assembly.streams.length)
    (fed : ∀ payloads, (session.assembly.reader stream).Fed payloads →
      (later.assembly.reader stream).Fed (payloads ++ [frame.payload]))

theorem deliveries_call {host : Host σ ν τ} {event : Event}
    (other : ∀ family delivery, event.registration ≠ .message family delivery)
    (session : Session σ τ) : deliveries (call host event session).trace = [] := by
  rw [deliveries_eq_of_outline, outline_call]
  split
  · exact deliveries_called_of_other other
  · rfl

private theorem deliveries_closeDown (host : Host σ ν τ) (fault : Fault) (session : Session σ τ) :
    deliveries ((closeDown host fault : Step σ τ ν ε Unit) session).trace = [] := by
  rw [deliveries_eq_of_outline]
  rcases session.calm_or_panics host fault with calm | ⟨payload, panics⟩
  · rw [outline_closeDown calm]
    split <;> split <;> rfl
  · rw [closeDown_of_panic panics, outline_closedTrace]
    split <;> rfl

/-- What an operation leaves of the outcome that its work came to: all of it if there is no fault,
and else an idle session; in either case what was delivered, and the streams. -/
structure Settles (entry : Entry σ ν τ) (done : Outcome (Session σ τ) (Occurrence ν) Fault Unit) :
    Prop where
  calm : done.ending.fault? = none →
    entry.outcome.state.assembly.slot = done.state.assembly.slot ∧ ¬ entry.Failed
  lost : done.ending.fault? ≠ none → entry.outcome.state.assembly.slot = .idle
  readers : done.state.ReadersKept entry.outcome.state
  opened : entry.outcome.state.assembly.streams.length = done.state.assembly.streams.length
  delivered : entry.delivered = deliveries done.trace

private theorem termination_not_mem_attempt {host : Host σ ν τ} {input : Input}
    {session : Session σ τ}
    (coherent : session.Coherent) (code : CloseCode) :
    .counted (.termination code) ∉ (input.attempt host session).trace := by
  intro member
  have seen : .counted (.termination code) ∈ outline (input.attempt host session).trace :=
    List.mem_filter.mpr ⟨member, rfl⟩
  rw [outline_attempt host input coherent] at seen
  simp at seen

theorem settles_attempt (host : Host σ ν τ) (input : Input) {session : Session σ τ}
    (coherent : session.Coherent) :
    Settles (session.entry host (.input input)) (input.attempt host session) := by
  have outcome : (session.entry host (.input input)).outcome = input.handle host session := rfl
  have arrives : deliveries (input.arrivalTrace : List (Occurrence ν)) = [] :=
    deliveries_of_outline_nil (outline_arrivalTrace input)
  cases ending : (input.attempt host session).ending.fault? with
  | none =>
    rw [handle_of_none ending] at outcome
    refine ⟨fun _ => ⟨by rw [outcome], ?_⟩, fun faulty => absurd ending faulty, ?_, ?_, ?_⟩
    · rintro ⟨code, member⟩
      rw [outcome] at member
      rcases List.mem_append.mp member with member | member
      · cases input <;> simp [Input.arrivalTrace] at member
      · exact termination_not_mem_attempt coherent code member
    · rw [outcome]
      exact .refl _
    · rw [outcome]
    · rw [Entry.delivered, outcome, deliveries_append, arrives, List.nil_append]
  | some fault =>
    rw [handle_of_some ending] at outcome
    have reacted := closeDown_reacted (ε := Empty) host fault
      (input.attempt host session).state.settled
    refine ⟨fun sound => ?_, fun _ => ?_, ?_, ?_, ?_⟩
    · rw [ending] at sound
      cases sound
    · rw [outcome, Outcome.state_after, reacted.slot]
      exact Assembly.slot_abandoned _
    · rw [outcome]
      exact (settled_readersKept _).trans reacted.readersKept
    · rw [outcome, Outcome.state_after, reacted.opened]
      simp only [settled, Assembly.abandoned]
      split <;> simp
    · have panics : deliveries ((input.attempt host session).ending.panicTrace :
          List (Occurrence ν)) = [] := deliveries_of_outline_nil (outline_panicTrace _)
      have abandons : deliveries ((input.attempt host session).state.assembly.abandonTrace :
          List (Occurrence ν)) = [] := deliveries_of_outline_nil (outline_abandonTrace _)
      rw [Entry.delivered, outcome]
      simp [faultTrace, arrives, panics, abandons, deliveries_closeDown]

private theorem routeData_pass {handlers : Handlers} {inFlight : Option Family} {asked : Family}
    {opcode : Opcode} {records : List LogRecord}
    (routed : routeData handlers inFlight asked opcode = .pass records) :
    handlers.delivery asked = none := by
  unfold routeData at routed
  split at routed
  · assumption
  · split at routed
    · cases routed
    · split at routed <;> cases routed

private theorem route_pass {handlers : Handlers} {inFlight : Option Family} {frame : Frame}
    {records : List LogRecord} (routed : route handlers inFlight frame = .pass records) :
    frame.passesBy handlers = true ∨ inFlight = none ∨
      ∃ family, inFlight = some family ∧ handlers.delivery family = none := by
  unfold route at routed
  split at routed
  · rename_i kind
    simp [Frame.passesBy, kind, Opcode.isControl]
  · rename_i kind
    simp [Frame.passesBy, kind, Opcode.isControl]
  · rename_i kind
    simp [Frame.passesBy, kind, Opcode.family?, routeData_pass routed]
  · rename_i kind
    simp [Frame.passesBy, kind, Opcode.family?, routeData_pass routed]
  · split at routed
    · exact .inr (.inl rfl)
    · exact .inr (.inr ⟨_, rfl, routeData_pass routed⟩)
  · rename_i kind
    simp [Frame.passesBy, kind, Opcode.isControl]

private theorem awaits_of_route {session : Session σ τ} {frame : Frame} {family : Family}
    (takes : session.assembly.slot.Takes family .buffered)
    (routed : route session.handlers session.inFlight frame = .fragment family .buffered) :
    session.Awaits family frame := by
  obtain ⟨-, ⟨idle, opens⟩ | ⟨current, belongs⟩⟩ := route_fragment routed
  · exact .inl ⟨Slot.inFlight_eq_none.mp idle, opens⟩
  · refine .inr ⟨?_, by simpa [Frame.belongs] using belongs⟩
    cases held : session.assembly.slot with
    | idle => simp [inFlight, Assembly.inFlight, held, Slot.inFlight] at current
    | buffered other loan =>
      obtain rfl : other = family := by simpa [held] using takes
      exact ⟨loan, rfl⟩
    | streaming other stream feed => simp [held] at takes

private theorem Advance.since {entry : Entry σ ν τ} {session seen later : Session σ τ}
    (reacted : session.Reacted seen) (advance : Advance entry seen later) :
    Advance entry session later := by
  have awaits {family : Family} {frame : Frame} (h : seen.Awaits family frame) :
      session.Awaits family frame := by
    unfold Awaits at h ⊢
    rw [reacted.slot] at h
    exact h
  cases advance with
  | skipped calm nothing slot apart readers opened =>
    rw [reacted.inFlight, reacted.handlers] at apart
    exact .skipped calm nothing (slot.trans reacted.slot) apart
      (reacted.readersKept.trans readers) (opened.trans reacted.opened)
  | lost nothing idle readers opened =>
    exact .lost nothing idle (reacted.readersKept.trans readers) (opened.trans reacted.opened)
  | kept family frame extended brings expects unfinished calm nothing slot bytes readers opened =>
    rw [reacted.loan] at bytes
    exact .kept family frame extended brings (awaits expects) unfinished calm nothing slot bytes
      (reacted.readersKept.trans readers) (opened.trans reacted.opened)
  | completed family frame event brings expects finished delivered content idle readers opened =>
    rw [reacted.loan] at content
    exact .completed family frame event brings (awaits expects) finished delivered content idle
      (reacted.readersKept.trans readers) (opened.trans reacted.opened)
  | opened family frame brings idle opens delivered slot readers opened fed =>
    rw [reacted.opened] at delivered slot opened fed
    exact .opened family frame brings (reacted.slot.symm.trans idle) opens delivered slot
      (reacted.readersKept.trans readers) opened fed
  | continued family frame stream feed brings held belongs calm nothing slot others opened fed =>
    refine .continued family frame stream feed brings (reacted.slot.symm.trans held) belongs calm
      nothing slot (fun other bound different payloads before => ?_)
      (opened.trans reacted.opened) fun payloads before =>
        fed payloads (before.of_used (reacted.readers stream))
    rw [← reacted.opened] at bound
    exact others other bound different payloads (before.of_used (reacted.readers other))

theorem slot_fed (family : Family) (frame : Frame) (session : Session σ τ) :
    ∃ feed, (session.fed family frame).assembly.slot =
      if frame.fin then .idle else .streaming family session.assembly.channel.stream feed := by
  unfold fed Assembly.written
  cases frame.fin with
  | true => exact ⟨.opened, rfl⟩
  | false => exact ⟨_, rfl⟩

section Fates

variable {host : Host σ ν τ} {frame : Frame} {session : Session σ τ} {entry : Entry σ ν τ}

private theorem advance_of_noticed {notice : CloseNotice} (closing : frame.opcode = .close)
    (brings : entry.frame? = some frame)
    (settles : Settles entry (invoke host (.close notice) session)) :
    Advance entry session entry.outcome.state := by
  have reacted : session.Reacted (invoke host (.close notice) session).state := by
    rw [invoke_run]
    exact call_reacted host _ session
  have nothing : entry.delivered = [] := by
    rw [settles.delivered, invoke_run]
    exact deliveries_call (fun _ _ same => by cases same) session
  have readers := reacted.readersKept.trans settles.readers
  have opened := settles.opened.trans reacted.opened
  by_cases sound : (invoke host (.close notice) session).ending.fault? = none
  · obtain ⟨slot, calm⟩ := settles.calm sound
    refine .skipped calm nothing (slot.trans reacted.slot) (.inr fun other same => ?_) readers
      opened
    rw [brings] at same
    cases same
    simp [Frame.passesBy, closing, Opcode.isControl]
  · exact .lost nothing (settles.lost sound) readers opened

private theorem advance_of_completed {family : Family} {extended : Loan}
    (takes : session.assembly.slot.Takes family .buffered)
    (routed : route session.handlers session.inFlight frame = .fragment family .buffered)
    (appended : (session.loan family).append frame.payload = .ok extended)
    (finished : frame.fin = true) (brings : entry.frame? = some frame)
    (settles : Settles entry
      ⟨(deliverMessage host family extended.bytes (session.onLoan family)).ending,
        (deliverMessage host family extended.bytes (session.onLoan family)).state.repaid extended,
        session.loanTrace family ++
          ((deliverMessage host family extended.bytes (session.onLoan family)).trace ++
            Assembly.returnedTrace extended)⟩) :
    Advance entry session entry.outcome.state := by
  have wanted : (session.onLoan family).handlers.delivery family = some .buffered :=
    (route_fragment routed).1
  have outlined := outline_deliverMessage host extended.bytes wanted
  have reacted := deliverMessage_reacted host family extended.bytes (session.onLoan family)
  have readers : session.ReadersKept entry.outcome.state := by
    refine .trans ?_ settles.readers
    exact ⟨reacted.readersKept.opened, reacted.readersKept.fed⟩
  have opened := settles.opened.trans reacted.opened
  have delivered : entry.delivered = (messageEvent family extended.bytes).toList := by
    have lent : deliveries (session.loanTrace family : List (Occurrence ν)) = [] :=
      deliveries_of_outline_nil (outline_loanTrace family session)
    have returned : deliveries (Assembly.returnedTrace extended : List (Occurrence ν)) = [] := rfl
    rw [settles.delivered, deliveries_append, deliveries_append, lent, returned,
      deliveries_eq_of_outline, outlined, List.nil_append, List.append_nil]
    cases decoded : messageEvent family extended.bytes with
    | none => rfl
    | some event => exact deliveries_called_of_message (registration_messageEvent decoded)
  have idle : entry.outcome.state.assembly.slot = .idle := by
    by_cases sound : (deliverMessage host family extended.bytes
        (session.onLoan family)).ending.fault? = none
    · exact (settles.calm sound).1.trans reacted.slot
    · exact settles.lost sound
  cases decoded : messageEvent family extended.bytes with
  | none =>
    rw [decoded] at delivered
    exact .lost delivered idle readers opened
  | some event =>
    have content := messageEvent_eq_some_iff.mp decoded
    rw [decoded] at delivered
    rw [(Loan.bytes_of_append appended).1] at content
    exact .completed family frame event brings (awaits_of_route takes routed) finished delivered
      content idle readers opened

private theorem advance_of_opened {family : Family}
    (routed : route session.handlers session.inFlight frame = .fragment family .streaming)
    (idle : session.assembly.slot = .idle) (brings : entry.frame? = some frame)
    (settles : Settles entry
      ((deliverStream host family session.assembly.streams.length
        (session.fed family frame)).after (session.feedTrace family frame))) :
    Advance entry session entry.outcome.state := by
  have wanted : (session.fed family frame).handlers.delivery family = some .streaming :=
    (route_fragment routed).1
  have outlined := outline_deliverStream host session.assembly.streams.length wanted
  have reacted := deliverStream_reacted host family session.assembly.streams.length
    (session.fed family frame)
  obtain ⟨length, readers, fed⟩ := fed_of_idle family frame idle
  have later := reacted.readersKept.trans settles.readers
  have opens : frame.opcode = .ofFamily family := by
    obtain ⟨-, ⟨-, opens⟩ | ⟨current, -⟩⟩ := route_fragment routed
    · exact opens
    · simp [inFlight, Assembly.inFlight, idle, Slot.inFlight] at current
  have delivered : entry.delivered = [streamEvent family session.assembly.streams.length] := by
    have logged : deliveries (session.feedTrace family frame : List (Occurrence ν)) = [] :=
      deliveries_of_outline_nil (outline_logged _)
    rw [settles.delivered, Outcome.trace_after, deliveries_append, logged,
      deliveries_eq_of_outline, outlined, List.nil_append]
    exact deliveries_called_of_message (registration_streamEvent family _)
  have slot : entry.outcome.state.assembly.slot = .idle ∨
      (¬ entry.Failed ∧ frame.fin = false ∧
        ∃ feed, entry.outcome.state.assembly.slot =
          .streaming family session.assembly.streams.length feed) := by
    by_cases sound : ((deliverStream host family session.assembly.streams.length
        (session.fed family frame)).after
          (session.feedTrace family frame)).ending.fault? = none
    · obtain ⟨same, calm⟩ := settles.calm sound
      obtain ⟨feed, fedSlot⟩ := session.slot_fed family frame
      have number : session.assembly.channel.stream = session.assembly.streams.length := by
        rw [Assembly.channel, idle]
      rw [Outcome.state_after, reacted.slot, fedSlot, number] at same
      cases fin : frame.fin with
      | true => exact .inl (by simpa [fin] using same)
      | false => exact .inr ⟨calm, rfl, feed, by simpa [fin] using same⟩
    · exact .inl (settles.lost sound)
  exact .opened family frame brings idle opens delivered slot (readers.trans later)
    (settles.opened.trans (reacted.opened.trans length))
    (later.fed _ (by omega) _ fed)

private theorem advance_of_continued {family : Family} {stream : Nat} {feed : Feed}
    (coherent : session.Coherent)
    (routed : route session.handlers session.inFlight frame = .fragment family .streaming)
    (held : session.assembly.slot = .streaming family stream feed)
    (brings : entry.frame? = some frame)
    (settles : Settles entry
      ⟨.value (), session.fed family frame, session.feedTrace family frame⟩) :
    Advance entry session entry.outcome.state := by
  have current : session.inFlight = some family := congrArg Slot.inFlight held
  have bound : stream < session.assembly.streams.length := by
    unfold Coherent at coherent
    rw [held] at coherent
    exact coherent.2
  have belongs : frame.belongs family = true := by
    obtain ⟨-, ⟨idle, -⟩ | ⟨-, belongs⟩⟩ := route_fragment routed
    · rw [current] at idle
      cases idle
    · simpa [Frame.belongs] using belongs
  obtain ⟨same, calm⟩ := settles.calm rfl
  obtain ⟨length, others, fed⟩ := fed_of_streaming family frame held bound
  obtain ⟨feed, fedSlot⟩ := session.slot_fed family frame
  have number : session.assembly.channel.stream = stream := by
    rw [Assembly.channel, held]
  have nothing : entry.delivered = [] :=
    settles.delivered.trans (deliveries_of_outline_nil (outline_logged _))
  rw [fedSlot, number] at same
  refine .continued family frame stream _ brings held belongs calm nothing ?_
    (fun other inside different payloads before => ?_) (settles.opened.trans length)
    fun payloads before =>
      settles.readers.fed stream (Nat.lt_of_lt_of_eq bound length.symm) _ (fed payloads before)
  · cases fin : frame.fin with
    | true => exact .inl ⟨rfl, by simpa [fin] using same⟩
    | false => exact .inr ⟨rfl, feed, by simpa [fin] using same⟩
  · refine settles.readers.fed other (Nat.lt_of_lt_of_eq inside length.symm) payloads ?_
    rw [others other different]
    exact before

private theorem Fate.advance {done : Outcome (Session σ τ) (Occurrence ν) Fault Unit}
    (fate : Fate host frame session done) (coherent : session.Coherent)
    (brings : entry.frame? = some frame) (settles : Settles entry done) :
    Advance entry session entry.outcome.state := by
  cases fate with
  | passed records routed =>
    obtain ⟨slot, calm⟩ := settles.calm rfl
    refine .skipped calm (settles.delivered.trans (deliveries_of_outline_nil
      (outline_logged records))) slot ?_ settles.readers settles.opened
    rcases route_pass routed with passes | idle | ⟨family, current, unwanted⟩
    · refine .inr fun other same => ?_
      rw [brings] at same
      cases same
      exact passes
    · exact .inl idle
    · exact absurd unwanted (coherent.wanted current)
  | wrong fault routed =>
    exact .lost settles.delivered (settles.lost nofun) settles.readers settles.opened
  | noticed notice routed => exact advance_of_noticed (route_notice routed).2.1 brings settles
  | overflowed family overflow routed takes appended =>
    have nothing : entry.delivered = [] :=
      settles.delivered.trans (deliveries_of_outline_nil (by simp))
    refine .lost nothing (settles.lost nofun) (.trans ?_ settles.readers) settles.opened
    exact readersKept_of_streams rfl
  | kept family extended routed takes appended unfinished =>
    obtain ⟨slot, calm⟩ := settles.calm rfl
    have nothing : entry.delivered = [] :=
      settles.delivered.trans (deliveries_of_outline_nil (outline_loanTrace family session))
    refine .kept family frame extended brings (awaits_of_route takes routed) unfinished calm
      nothing slot (Loan.bytes_of_append appended).1 (.trans ?_ settles.readers) settles.opened
    exact readersKept_of_streams rfl
  | completed family extended delivered routed takes appended finished delivery =>
    subst delivery
    exact advance_of_completed takes routed appended finished brings settles
  | opened family routed idle => exact advance_of_opened routed idle brings settles
  | continued family stream feed routed held =>
    exact advance_of_continued coherent routed held brings settles

end Fates

private theorem input_advance (host : Host σ ν τ) (input : Input) {session : Session σ τ}
    (coherent : session.Coherent) :
    Advance (session.entry host (.input input)) session
      (session.entry host (.input input)).outcome.state := by
  have settles := settles_attempt host input coherent
  cases input with
  | connect =>
    have reacted : session.Reacted ((Input.connect).attempt host session).state := by
      simpa [Input.attempt] using call_reacted host .connect session
    have nothing : (session.entry host (.input .connect)).delivered = [] := by
      rw [settles.delivered, Input.attempt, invoke_run]
      exact deliveries_call (fun _ _ same => by cases same) session
    have readers := reacted.readersKept.trans settles.readers
    have opened := settles.opened.trans reacted.opened
    have frameless : ∀ frame, (session.entry host (.input .connect)).frame? = some frame →
        frame.passesBy session.handlers = true := fun _ brings => by cases brings
    by_cases sound : ((Input.connect).attempt host session).ending.fault? = none
    · obtain ⟨slot, calm⟩ := settles.calm sound
      exact .skipped calm nothing (slot.trans reacted.slot) (.inr frameless) readers opened
    · exact .lost nothing (settles.lost sound) readers opened
  | protocolError request =>
    have faulty : ((Input.protocolError request).attempt host session).ending.fault? ≠ none := by
      simp [Input.attempt, Ending.fault?]
    exact .lost settles.delivered (settles.lost faulty) settles.readers settles.opened
  | frame frame =>
    have seen := call_reacted host (.frame frame) session
    have unheard : deliveries (call host (.frame frame) session).trace = [] :=
      deliveries_call (fun _ _ same => by cases same) session
    have dispatched := dispatch_dispatched host frame coherent
    change Settles _ (dispatch host frame session) at settles
    generalize dispatch host frame session = done at dispatched settles
    cases dispatched with
    | stopped fails =>
      have faulty : ((call host (.frame frame) session).ending.mapFault
          Fault.ofFailure).fault? ≠ none := by
        cases ending : (call host (.frame frame) session).ending with
        | value _ => exact absurd ending fails
        | fault failure => simp [Ending.mapFault, Ending.fault?]
        | panic payload => simp [Ending.mapFault, Ending.fault?]
      exact .lost (settles.delivered.trans unheard) (settles.lost faulty)
        (seen.readersKept.trans settles.readers) (settles.opened.trans seen.opened)
    | followed done passes fate =>
      have delivered := settles.delivered
      rw [Outcome.trace_after, deliveries_append, unheard, List.nil_append] at delivered
      exact (fate.advance (seen.coherent coherent) rfl
        ⟨settles.calm, settles.lost, settles.readers, settles.opened, delivered⟩).since seen

theorem apply_advance (host : Host σ ν τ) (operation : Operation σ τ) {session : Session σ τ}
    (coherent : session.Coherent) :
    Advance (session.entry host operation) session (operation.apply host session).state := by
  have quiet (unfailing : (operation.apply host session).trace = []) :
      ¬ (session.entry host operation).Failed ∧ (session.entry host operation).delivered = [] := by
    refine ⟨?_, ?_⟩
    · rintro ⟨code, member⟩
      change _ ∈ (operation.apply host session).trace at member
      simp [unfailing] at member
    · change deliveries (operation.apply host session).trace = []
      rw [unfailing]
      rfl
  cases operation with
  | input input => exact input_advance host input coherent
  | attach connection =>
    obtain ⟨calm, nothing⟩ := quiet rfl
    exact .skipped calm nothing rfl (.inr nofun) (readersKept_of_streams rfl) rfl
  | read stream style =>
    have reacted := session.read_reacted stream style
    obtain ⟨calm, nothing⟩ := quiet rfl
    exact .skipped calm nothing reacted.slot (.inr nofun) reacted.readersKept reacted.opened
  | become app =>
    obtain ⟨calm, nothing⟩ := quiet rfl
    exact .skipped calm nothing rfl (.inr nofun) (readersKept_of_streams rfl) rfl

end Session

end WebSocketSession
