import Mathlib.Algebra.Ring.Int.Defs
import WebSocketSession.Proofs.FrameCallbacks

/-!
# Counted deliveries

The counter of a family and a delivery goes up when a message is delivered. Each occurrence is
weighed by what it does to the difference between that counter and the callbacks run; the weights
of a whole run add up to nothing, and so the counter is the number of those callbacks
(`deliveries_counted`). The one exception is text that is delivered whole: it is counted before its
bytes are known to be UTF-8, so that those that are not are counted as well, without a callback.
-/

set_option autoImplicit false
set_option relaxedAutoImplicit false

namespace WebSocketSession

variable {σ ν τ ε : Type}

def Metric.addsTo (name : String) (labels : List (String × String)) (metric : Metric) : Bool :=
  metric.name == name && !metric.isGauge && labels.all metric.labels.contains

namespace Series

def partOf (name : String) (labels : List (String × String)) (series : Series) : Bool :=
  series.name == name && !series.isGauge && labels.all series.carries

def Sorted (series : Series) : Prop := series.isGauge = (series.name == Metric.buffersName)

private theorem sorted_of_metric (metric : Metric) (value : Int) :
    Sorted ⟨metric.name, metric.labels, metric.isGauge, value⟩ := by
  cases metric <;> simp only [Sorted, Metric.isGauge, Metric.name] <;> decide

private theorem sorted_apply (metric : Metric) {all : List Series}
    (sorted : ∀ series ∈ all, series.Sorted) :
    ∀ series ∈ metric.apply all, series.Sorted := by
  induction all with
  | nil => simpa [Metric.apply] using sorted_of_metric metric metric.amount
  | cons first rest ih =>
    obtain ⟨own, others⟩ := List.forall_mem_cons.mp sorted
    rw [Metric.apply]
    split
    · exact List.forall_mem_cons.mpr ⟨own, others⟩
    · exact List.forall_mem_cons.mpr ⟨own, ih others⟩

private theorem counterValue_cons (series : Series) (rest : List Series) (name : String)
    (labels : List (String × String)) :
    counterValue (series :: rest) name labels =
      (if series.partOf name labels then series.value else 0) + counterValue rest name labels := by
  unfold counterValue
  rw [List.filter_cons]
  by_cases part : series.partOf name labels
  · have kept := part
    unfold partOf at kept
    simp [part, kept]
  · have dropped := part
    unfold partOf at dropped
    simp [part, dropped]

private theorem counterValue_apply (metric : Metric) {all : List Series}
    (sorted : ∀ series ∈ all, series.Sorted) (name : String) (labels : List (String × String)) :
    counterValue (metric.apply all) name labels =
      counterValue all name labels + if metric.addsTo name labels then metric.amount else 0 := by
  induction all with
  | nil =>
    rw [Metric.apply, counterValue_cons, Int.add_comm]
    rfl
  | cons first rest ih =>
    obtain ⟨own, others⟩ := List.forall_mem_cons.mp sorted
    rw [Metric.apply]
    split
    · rename_i same
      have kind : first.isGauge = metric.isGauge := by
        rw [own, same.1]
        exact (sorted_of_metric metric 0).symm
      have part :
          ({ first with value := first.value + metric.amount } : Series).partOf name labels =
            first.partOf name labels := rfl
      have adds : metric.addsTo name labels = first.partOf name labels := by
        unfold Metric.addsTo partOf carries
        rw [same.1, same.2, kind]
      rw [counterValue_cons, counterValue_cons, part, adds]
      by_cases counted : first.partOf name labels
      · simp only [counted, if_true]
        omega
      · simp [counted]
    · rw [counterValue_cons, counterValue_cons, ih others, Int.add_assoc]

private theorem counterValue_ofChanges (changes : List Metric) (name : String)
    (labels : List (String × String)) :
    counterValue (ofChanges changes) name labels =
      ((changes.filter (Metric.addsTo name labels)).map Metric.amount).sum := by
  have onwards (all : List Series) (sorted : ∀ series ∈ all, series.Sorted) :
      counterValue (changes.foldl (fun all metric => metric.apply all) all) name labels =
        counterValue all name labels +
          ((changes.filter (Metric.addsTo name labels)).map Metric.amount).sum := by
    induction changes generalizing all with
    | nil => simp
    | cons metric rest ih =>
      rw [List.foldl_cons, ih _ (sorted_apply metric sorted), counterValue_apply metric sorted,
        List.filter_cons]
      by_cases adds : metric.addsTo name labels
      · simp [adds, Int.add_assoc]
      · simp [adds]
  have empty : counterValue [] name labels = 0 := rfl
  rw [ofChanges, onwards [] nofun, empty, Int.zero_add]

private theorem addsTo_message (family : Family) (delivery : Delivery) (metric : Metric) :
    metric.addsTo Metric.messagesName (Metric.message family delivery).labels =
      (metric == .message family delivery) := by
  cases metric with
  | message other how => cases family <;> cases delivery <;> cases other <;> cases how <;> decide
  | _ => cases family <;> cases delivery <;> rfl

private theorem counterValue_messages (changes : List Metric) (family : Family)
    (delivery : Delivery) :
    counterValue (ofChanges changes) Metric.messagesName (Metric.message family delivery).labels =
      changes.count (.message family delivery) := by
  have same : Metric.addsTo Metric.messagesName (Metric.message family delivery).labels =
      (· == .message family delivery) := funext (addsTo_message family delivery)
  rw [counterValue_ofChanges, same, List.filter_beq, List.map_replicate, List.sum_replicate_int]
  simp [Metric.amount]

end Series

def Fault.forfeits (family : Family) (delivery : Delivery) (fault : Fault) : Int :=
  if fault = .invalidText .text ∧ family = .text ∧ delivery = .buffered then 1 else 0

def Ending.forfeits {α : Type} (family : Family) (delivery : Delivery) (ending : Ending Fault α) :
    Int :=
  match ending.fault? with
  | some cause => cause.forfeits family delivery
  | none => 0

/-- By how much an occurrence puts the deliveries counted ahead of the callbacks run for them. A
report of invalid text makes up for a delivery that was counted before. -/
def Occurrence.excess (family : Family) (delivery : Delivery) : Occurrence ν → Int
  | .counted metric => if metric = .message family delivery then 1 else 0
  | .called event => if event.registration = .message family delivery then -1 else 0
  | .logged (.unhandled fault) => -fault.forfeits family delivery
  | _ => 0

/-- By how much a trace puts the deliveries counted ahead of the callbacks run for them. -/
def excess (family : Family) (delivery : Delivery) (trace : List (Occurrence ν)) : Int :=
  (trace.map (Occurrence.excess family delivery)).sum

section Weights

variable {family : Family} {delivery : Delivery}

@[simp] theorem excess_nil : excess family delivery ([] : List (Occurrence ν)) = 0 := rfl

@[simp] theorem excess_cons (x : Occurrence ν) (trace : List (Occurrence ν)) :
    excess family delivery (x :: trace) = x.excess family delivery + excess family delivery trace :=
  rfl

@[simp] theorem excess_append (first second : List (Occurrence ν)) :
    excess family delivery (first ++ second) =
      excess family delivery first + excess family delivery second := by
  simp [excess]

private theorem excess_eq_zero {trace : List (Occurrence ν)}
    (weightless : ∀ x ∈ trace, x.excess family delivery = 0) :
    excess family delivery trace = 0 := by
  induction trace with
  | nil => rfl
  | cons x rest ih =>
    obtain ⟨own, others⟩ := List.forall_mem_cons.mp weightless
    rw [excess_cons, own, ih others, Int.zero_add]

private theorem Occurrence.excess_of_byApplication (x : Occurrence ν)
    (own : x.byApplication = true) :
    x.excess family delivery = 0 := by
  cases x <;> simp_all [byApplication, excess]

private theorem excess_logged {records : List LogRecord}
    (unreported : ∀ fault, .unhandled fault ∉ records) :
    excess family delivery (records.map .logged : List (Occurrence ν)) = 0 := by
  refine excess_eq_zero fun x member => ?_
  obtain ⟨record, listed, rfl⟩ := List.mem_map.mp member
  cases record with
  | unhandled fault => exact absurd listed (unreported fault)
  | _ => rfl

@[simp] theorem excess_arrivalTrace (input : Input) :
    excess family delivery (input.arrivalTrace : List (Occurrence ν)) = 0 := by
  cases input <;> rfl

@[simp] theorem excess_panicTrace {α : Type} (ending : Ending Fault α) :
    excess family delivery (ending.panicTrace : List (Occurrence ν)) = 0 := by
  cases ending <;> rfl

@[simp] theorem excess_complaintTrace (ending : Ending Failure Unit) :
    excess family delivery (Session.complaintTrace ending : List (Occurrence ν)) = 0 := by
  cases ending <;> rfl

@[simp] theorem excess_returnedTrace (loan : Loan) :
    excess family delivery (Assembly.returnedTrace loan : List (Occurrence ν)) = 0 := rfl

@[simp] theorem excess_abandonTrace (assembly : Assembly) :
    excess family delivery (assembly.abandonTrace : List (Occurrence ν)) = 0 := by
  unfold Assembly.abandonTrace Feed.abort
  split
  · rfl
  · rfl
  · dsimp only
    split <;> rfl

private theorem excess_report (fault : Fault) :
    (.logged (Session.reportRecord fault) : Occurrence ν).excess family delivery =
      -fault.forfeits family delivery := by
  cases fault <;> simp [Session.reportRecord, Occurrence.excess, Fault.forfeits]

namespace Session

@[simp] theorem excess_loanTrace (asked : Family) (session : Session σ τ) :
    excess family delivery (session.loanTrace asked : List (Occurrence ν)) = 0 := by
  unfold loanTrace Assembly.lendingTrace
  split <;> rfl

@[simp] theorem excess_feedTrace (asked : Family) (frame : Frame) (session : Session σ τ) :
    excess family delivery (session.feedTrace asked frame : List (Occurrence ν)) = 0 := by
  unfold feedTrace Assembly.written Feed.append
  dsimp only
  split <;> split <;> try split
  all_goals rfl

private theorem excess_call (host : Host σ ν τ) (event : Event) (session : Session σ τ) :
    excess family delivery (call host event session).trace =
      if session.handlers.handles event.registration = true ∧
          event.registration = .message family delivery then -1 else 0 := by
  obtain ⟨own, byApplication, trace⟩ := call_trace host event session
  have unseen : excess family delivery own = 0 := excess_eq_zero fun x member =>
    x.excess_of_byApplication (byApplication x member)
  rw [trace]
  by_cases handled : session.handlers.handles event.registration = true
  · rw [if_pos handled, excess_cons, unseen, Int.add_zero]
    simp [Occurrence.excess, handled]
  · simp [handled]

private theorem excess_call_of_other {event : Event} (host : Host σ ν τ) (session : Session σ τ)
    (other : event.registration ≠ .message family delivery) :
    excess family delivery (call host event session).trace = 0 := by
  rw [excess_call, if_neg fun both => other both.2]

@[simp] theorem forfeits_call (host : Host σ ν τ) (event : Event) (session : Session σ τ) :
    ((call host event session).ending.mapFault Fault.ofFailure).forfeits family delivery = 0 := by
  cases (call host event session).ending with
  | value _ => rfl
  | panic payload => simp [Ending.mapFault, Ending.forfeits, Ending.fault?, Fault.forfeits]
  | fault failure =>
    simp only [Ending.mapFault, Ending.forfeits, Ending.fault?, Fault.ofFailure]
    split <;> simp [Fault.forfeits]

private theorem excess_delivered (host : Host σ ν τ) {event : Event} {asked : Family}
    {how : Delivery}
    {session : Session σ τ} (kind : event.registration = .message asked how)
    (wanted : session.handlers.delivery asked = some how) :
    (.counted (.message asked how) : Occurrence ν).excess family delivery +
      excess family delivery (call host event session).trace = 0 := by
  have handled : session.handlers.handles (.message asked how) = true := by
    simp [Handlers.handles, wanted]
  rw [excess_call, Occurrence.excess, kind]
  by_cases same : asked = family ∧ how = delivery
  · obtain ⟨rfl, rfl⟩ := same
    simp [handled]
  · simp [same]

private theorem excess_deliverMessage (host : Host σ ν τ) {asked : Family} (message : Bytes)
    {session : Session σ τ} (wanted : session.handlers.delivery asked = some .buffered) :
    excess family delivery (deliverMessage host asked message session).trace =
      (deliverMessage host asked message session).ending.forfeits family delivery := by
  rw [deliverMessage_run, Outcome.trace_after, Outcome.ending_after]
  cases decoded : messageEvent asked message with
  | none =>
    obtain rfl : asked = .text := by
      cases asked with
      | text => rfl
      | binary => cases decoded
    simp [Occurrence.excess, Ending.forfeits, Ending.fault?, Fault.forfeits, eq_comm]
  | some event =>
    simp only [invoke_run, forfeits_call]
    exact excess_delivered host (registration_messageEvent decoded) wanted

private theorem excess_deliverStream (host : Host σ ν τ) {asked : Family} (stream : Nat)
    {session : Session σ τ} (wanted : session.handlers.delivery asked = some .streaming) :
    excess family delivery (deliverStream host asked stream session).trace =
      (deliverStream host asked stream session).ending.forfeits family delivery := by
  have wanted' : (session.presented asked stream).handlers.delivery asked = some .streaming := by
    rw [(session.presented_reacted asked stream).handlers]
    exact wanted
  rw [deliverStream_run, Outcome.trace_after, Outcome.ending_after]
  simp only [invoke_run, forfeits_call]
  exact excess_delivered host (registration_streamEvent asked stream) wanted'

private theorem unreported_of_pass {handlers : Handlers} {inFlight : Option Family} {frame : Frame}
    {records : List LogRecord} (routed : route handlers inFlight frame = .pass records) :
    ∀ fault, .unhandled fault ∉ records := by
  rcases records_of_pass routed with rfl | ⟨family, rfl⟩ | rfl <;> simp

private theorem forfeits_of_route_wrong {handlers : Handlers} {inFlight : Option Family}
    {frame : Frame}
    {fault : Fault} (routed : route handlers inFlight frame = .wrong fault) :
    fault.forfeits family delivery = 0 := by
  rcases fault_of_wrong routed with ⟨current, received, rfl⟩ | ⟨defect, rfl⟩ <;>
    simp [Fault.forfeits]

/-- A frame is counted for a delivery as often as it runs a callback of it, but for a delivery that
its fault forfeits. -/
private theorem Fate.excess {host : Host σ ν τ} {frame : Frame} {session : Session σ τ}
    {done : Outcome (Session σ τ) (Occurrence ν) Fault Unit}
    (fate : Fate host frame session done) :
    WebSocketSession.excess family delivery done.trace = done.ending.forfeits family delivery := by
  cases fate with
  | passed records routed => exact excess_logged (unreported_of_pass routed)
  | wrong fault routed => exact (forfeits_of_route_wrong routed).symm
  | noticed notice routed =>
    rw [invoke_run, forfeits_call]
    exact excess_call_of_other host session fun same => by cases same
  | overflowed family overflow routed takes appended =>
    simp [Ending.forfeits, Ending.fault?, Fault.forfeits]
  | kept family extended routed takes appended unfinished =>
    simp [Ending.forfeits, Ending.fault?]
  | completed asked extended delivered routed takes appended finished delivery' =>
    subst delivery'
    have wanted : (session.onLoan asked).handlers.delivery asked = some .buffered :=
      (route_fragment routed).1
    simp [excess_deliverMessage host _ wanted]
  | opened asked routed idle =>
    have wanted : (session.fed asked frame).handlers.delivery asked = some .streaming :=
      (route_fragment routed).1
    simp [excess_deliverStream host _ wanted]
  | continued family stream feed routed held => simp [Ending.forfeits, Ending.fault?]

private theorem excess_attempt (host : Host σ ν τ) (input : Input) {session : Session σ τ}
    (coherent : session.Coherent) :
    WebSocketSession.excess family delivery (input.attempt host session).trace =
      (input.attempt host session).ending.forfeits family delivery := by
  cases input with
  | connect =>
    simp only [Input.attempt, invoke_run, forfeits_call]
    exact excess_call_of_other host session fun same => by cases same
  | protocolError request => simp [Input.attempt, Ending.forfeits, Ending.fault?, Fault.forfeits]
  | frame frame =>
    have observed : WebSocketSession.excess family delivery
        (call host (.frame frame) session).trace = 0 :=
      excess_call_of_other host session fun same => by cases same
    have dispatched := dispatch_dispatched host frame coherent
    change WebSocketSession.excess family delivery (dispatch host frame session).trace =
      (dispatch host frame session).ending.forfeits family delivery
    generalize dispatch host frame session = done at dispatched ⊢
    cases dispatched with
    | stopped fails => rw [observed, forfeits_call]
    | followed done passes fate =>
      rw [Outcome.trace_after, Outcome.ending_after, excess_append, observed, fate.excess,
        Int.zero_add]

private theorem excess_closeDown (host : Host σ ν τ) (fault : Fault) (session : Session σ τ) :
    WebSocketSession.excess family delivery
      ((closeDown host fault : Step σ τ ν ε Unit) session).trace = 0 := by
  have closing : WebSocketSession.excess family delivery (session.closedTrace host fault) = 0 := by
    unfold closedTrace closeTrace
    cases session.answer? host _ _ with
    | none => rfl
    | some answer => cases answer <;> rfl
  rcases session.calm_or_panics host fault with calm | ⟨payload, panics⟩
  · have telling : WebSocketSession.excess family delivery
        (call host (.error fault) (session.closed host fault)).trace = 0 :=
      excess_call_of_other host _ fun same => by cases same
    rw [closeDown_of_calm calm]
    simp [closing, telling]
  · rw [closeDown_of_panic panics]
    exact closing

private theorem excess_handle (host : Host σ ν τ) (input : Input) {session : Session σ τ}
    (coherent : session.Coherent) :
    WebSocketSession.excess family delivery
      ((input.handle host : Step σ τ ν ε Unit) session).trace = 0 := by
  have attempted : WebSocketSession.excess family delivery (input.attempt host session).trace =
      (input.attempt host session).ending.forfeits family delivery :=
    excess_attempt host input coherent
  cases ending : (input.attempt host session).ending.fault? with
  | none =>
    rw [Ending.forfeits, ending] at attempted
    rw [handle_of_none ending, excess_append, excess_arrivalTrace, attempted]
    rfl
  | some fault =>
    rw [Ending.forfeits, ending] at attempted
    simp only [handle_of_some ending, Outcome.trace_after, faultTrace, excess_append,
      excess_arrivalTrace, excess_panicTrace, excess_abandonTrace, excess_closeDown, attempted,
      excess_cons, excess_report, excess_nil]
    omega

private theorem excess_apply (host : Host σ ν τ) (operation : Operation σ τ) {session : Session σ τ}
    (coherent : session.Coherent) :
    WebSocketSession.excess family delivery (operation.apply host session).trace = 0 := by
  cases operation with
  | input input => exact excess_handle host input coherent
  | attach | read | become => rfl

private theorem excess_runTrace (host : Host σ ν τ) (operations : List (Operation σ τ))
    {session : Session σ τ} (coherent : session.Coherent) :
    WebSocketSession.excess family delivery (session.runTrace host operations) = 0 := by
  induction operations generalizing session with
  | nil => rfl
  | cons operation rest ih =>
    rw [runTrace_cons, excess_append, excess_apply host operation coherent,
      ih (apply_coherent host operation coherent)]
    rfl

end Session

private theorem Farewell.excess_apply (farewell : Farewell) (session : Session σ τ) :
    excess family delivery
      ((farewell.apply : Session.Step σ τ ν ε Unit) session).trace = 0 := by
  cases farewell with
  | keep => rfl
  | release => simp [apply, Session.release]
  | dispose =>
    simp only [apply, Session.dispose, Session.assembling_run, Assembly.dispose_run]
    split <;> rfl

end Weights

def deliveriesShown (family : Family) (delivery : Delivery) (trace : List (Occurrence ν)) : Int :=
  Series.counterValue (Series.ofChanges (trace.filterMap Occurrence.metric?)) Metric.messagesName
    (Metric.message family delivery).labels

def deliveriesMade (family : Family) (delivery : Delivery) (trace : List (Occurrence ν)) : Nat :=
  (calls trace).countP fun event => event.registration = .message family delivery

/-- The deliveries that a trace counts without a callback: a message of text that is not UTF-8 is
counted as delivered whole, and then reported. -/
def deliveriesForfeited (family : Family) (delivery : Delivery) (trace : List (Occurrence ν)) :
    Nat :=
  if family = .text ∧ delivery = .buffered then
    (trace.filterMap Occurrence.record?).count (.unhandled (.invalidText .text))
  else 0

private theorem deliveriesForfeited_reported (family : Family) (delivery : Delivery) (fault : Fault)
    (rest : List (Occurrence ν)) :
    (deliveriesForfeited family delivery (.logged (.unhandled fault) :: rest) : Int) =
      deliveriesForfeited family delivery rest + fault.forfeits family delivery := by
  unfold deliveriesForfeited Fault.forfeits
  by_cases whole : family = .text ∧ delivery = .buffered
  · by_cases invalid : fault = .invalidText .text <;>
      simp [whole, invalid, Occurrence.record?]
  · simp [whole]

private theorem excess_eq (family : Family) (delivery : Delivery) (trace : List (Occurrence ν)) :
    excess family delivery trace = deliveriesShown family delivery trace -
      deliveriesMade family delivery trace - deliveriesForfeited family delivery trace := by
  rw [deliveriesShown, Series.counterValue_messages, deliveriesMade, calls]
  induction trace with
  | nil => simp [deliveriesForfeited]
  | cons x rest ih =>
    rw [excess_cons, ih]
    cases x with
    | counted metric =>
      have unreported : deliveriesForfeited family delivery (.counted metric :: rest) =
          deliveriesForfeited family delivery rest := rfl
      simp only [Occurrence.excess, List.filterMap_cons, Occurrence.metric?, Occurrence.event?,
        List.count_cons, beq_iff_eq, unreported]
      split <;> omega
    | called event =>
      have unreported : deliveriesForfeited family delivery (.called event :: rest) =
          deliveriesForfeited family delivery rest := rfl
      simp only [Occurrence.excess, List.filterMap_cons, Occurrence.metric?, Occurrence.event?,
        List.countP_cons, decide_eq_true_eq, unreported]
      split <;> omega
    | logged record =>
      cases record with
      | unhandled fault =>
        simp only [Occurrence.excess, List.filterMap_cons, Occurrence.metric?, Occurrence.event?,
          deliveriesForfeited_reported]
        omega
      | _ => exact Int.zero_add _
    | _ => exact Int.zero_add _

/-- In every run, whatever comes of its session at last, the counter of a family's deliveries shows
the callbacks run for them and the deliveries forfeited; every operation adds to the counter what it
adds to these. -/
theorem deliveries_counted (host : Host σ ν τ) (app : σ) (handlers : Handlers) (policy : Policy)
    (pool : Pool) (operations : List (Operation σ τ)) (farewell : Farewell) (family : Family)
    (delivery : Delivery) :
    let start : Session σ τ := .start app handlers policy pool
    let left := (farewell.apply : Session.Step σ τ ν Empty Unit) (start.run host operations)
    let trace := start.runTrace host operations ++ left.trace
    deliveriesShown family delivery trace =
        deliveriesMade family delivery trace + deliveriesForfeited family delivery trace ∧
      ∀ entry ∈ start.history host operations,
        deliveriesShown family delivery entry.outcome.trace =
          deliveriesMade family delivery entry.outcome.trace +
            deliveriesForfeited family delivery entry.outcome.trace := by
  intro start left trace
  have coherent : start.Coherent := Session.coherent_of_idle rfl
  have even {trace : List (Occurrence ν)} (weightless : excess family delivery trace = 0) :
      deliveriesShown family delivery trace =
        deliveriesMade family delivery trace + deliveriesForfeited family delivery trace := by
    rw [excess_eq] at weightless
    omega
  refine ⟨even ?_, fun entry member => even ?_⟩
  · rw [excess_append, Session.excess_runTrace host operations coherent, farewell.excess_apply]
    rfl
  · obtain ⟨reached, operation, sound, -, rfl⟩ := Session.entry_of_mem_history coherent member
    exact Session.excess_apply host operation sound

/-- A message of text that is not UTF-8 is counted as delivered, and no callback is run for it. -/
theorem invalid_text_counted :
    let start : Session Script Recorder :=
      .start ⟨[]⟩ (.ofRegistrations [.message .text .buffered]) .default (.empty 4)
    let trace := start.runTrace Script.host [.input (.frame ⟨.text, true, [0xFF]⟩)]
    deliveriesShown .text .buffered trace = 1 ∧ deliveriesMade .text .buffered trace = 0 := by
  decide +kernel

-- A delivery whose callback fails counts like any other.
example :
    let start : Session Script Recorder :=
      .start ⟨[("binary", [[.fail (.ofMessage "no")]])]⟩
        (.ofRegistrations [.message .binary .buffered]) .default (.empty 4)
    let trace := start.runTrace Script.host [.input (.frame ⟨.binary, true, [1]⟩)]
    deliveriesShown .binary .buffered trace = 1 ∧ deliveriesMade .binary .buffered trace = 1 := by
  decide +kernel

end WebSocketSession
