import WebSocketSession.Frame.Fragments
import WebSocketSession.Proofs.Effects
import WebSocketSession.Script

/-!
# Every message has its own outcome

A message is sent as any number of fragments. What becomes visible while they arrive depends on
that message alone, whatever became of the messages before it, and the session is idle again after
the last fragment (`messages_have_own_outcomes`). A message that fails in the middle leaves
continuations behind; these find nothing in flight and pass (`strays_pass`).
-/

set_option autoImplicit false
set_option relaxedAutoImplicit false

namespace WebSocketSession

variable {σ ν τ : Type}

namespace Session

def receive (host : Host σ ν τ) (session : Session σ τ) (frames : List Frame) : Session σ τ :=
  session.run host (frames.map fun frame => .input (.frame frame))

def shown (host : Host σ ν τ) (session : Session σ τ) (frames : List Frame) :
    List (List (Occurrence ν)) :=
  (session.history host (frames.map fun frame => .input (.frame frame))).map fun entry =>
    effects entry.outcome.trace

@[simp] theorem receive_nil (host : Host σ ν τ) (session : Session σ τ) :
    session.receive host [] = session := rfl

@[simp] theorem receive_cons (host : Host σ ν τ) (session : Session σ τ) (frame : Frame)
    (rest : List Frame) :
    session.receive host (frame :: rest) = (session.handled host frame).state.receive host rest :=
  rfl

private theorem receive_append (host : Host σ ν τ) (session : Session σ τ)
    (first second : List Frame) :
    session.receive host (first ++ second) = (session.receive host first).receive host second := by
  rw [receive, List.map_append, run_append]
  rfl

@[simp] theorem shown_nil (host : Host σ ν τ) (session : Session σ τ) :
    session.shown host [] = [] := rfl

@[simp] theorem shown_cons (host : Host σ ν τ) (session : Session σ τ) (frame : Frame)
    (rest : List Frame) :
    session.shown host (frame :: rest) =
      effects (session.handled host frame).trace ::
        (session.handled host frame).state.shown host rest := rfl

/-- In every session with this table the frame observer, if there is one, succeeds. -/
def ObserverSucceeds (host : Host σ ν τ) (handlers : Handlers) : Prop :=
  ∀ frame (session : Session σ τ), session.handlers = handlers → session.Passes host frame

def Unseen (host : Host σ ν τ) (session : Session σ τ) (frames : List Frame) : Prop :=
  (session.receive host frames).inFlight = none ∧ session.Steady (session.receive host frames) ∧
    ∀ seen ∈ session.shown host frames, seen = []

theorem handled_steady (host : Host σ ν τ) (frame : Frame) {session : Session σ τ}
    (coherent : session.Coherent) : session.Steady (session.handled host frame).state :=
  handle_steady host (.frame frame) coherent

theorem handled_coherent (host : Host σ ν τ) (frame : Frame) {session : Session σ τ}
    (coherent : session.Coherent) : (session.handled host frame).state.Coherent :=
  handle_coherent host (.frame frame) coherent

private theorem frame_passes {host : Host σ ν τ} {frame : Frame} {session : Session σ τ}
    {records : List LogRecord} (passes : session.Passes host frame)
    (routed : route session.handlers session.inFlight frame = .pass records) :
    session.Reacted
        (session.handled host frame).state ∧
      effects (session.handled host frame).trace = [] := by
  obtain ⟨state, seen⟩ := frame_of_none passes rfl (by rw [routed]; rfl)
  rw [routed] at state seen
  rw [state, seen]
  exact ⟨session.observed_reacted host frame, effects_of_outline_nil (outline_logged records)⟩

theorem strays_pass {host : Host σ ν τ} {frames : List Frame} {session : Session σ τ}
    (succeeds : ObserverSucceeds host session.handlers) (idle : session.inFlight = none)
    (strays : ∀ frame ∈ frames, frame.opcode = .continuation) : session.Unseen host frames := by
  induction frames generalizing session with
  | nil => exact ⟨idle, .refl session, nofun⟩
  | cons frame rest ih =>
    have stray : frame.opcode = .continuation := strays frame List.mem_cons_self
    have routed : route session.handlers session.inFlight frame = .pass [.strayContinuation] := by
      rw [idle, route, stray]
    obtain ⟨reacted, nothing⟩ := frame_passes (succeeds frame session rfl) routed
    rw [← reacted.handlers] at succeeds
    obtain ⟨idle, kept, unseen⟩ := ih succeeds (reacted.inFlight.trans idle) fun frame member =>
      strays frame (List.mem_cons_of_mem _ member)
    refine ⟨idle, reacted.steady.trans kept, fun seen member => ?_⟩
    rcases List.mem_cons.mp member with rfl | member
    · exact nothing
    · exact unseen seen member

/-- A frame of this family with this opcode goes into the message in flight, or opens one. -/
def Expects (family : Family) (opcode : Opcode) (session : Session σ τ) : Prop :=
  (session.inFlight = none ∧ opcode = .ofFamily family) ∨
    (session.inFlight = some family ∧ opcode = .continuation)

theorem route_of_expects {frame : Frame} {session : Session σ τ} {family : Family}
    {delivery : Delivery} (wanted : session.handlers.delivery family = some delivery)
    (expects : session.Expects family frame.opcode) :
    route session.handlers session.inFlight frame = .fragment family delivery := by
  rcases expects with ⟨idle, opens⟩ | ⟨current, continues⟩
  · rw [idle]
    exact route_of_opens wanted opens
  · simp [route, continues, current, routeData, wanted]

private theorem Reacted.takes {session later : Session σ τ} (h : session.Reacted later)
    {family : Family}
    {delivery : Delivery} (takes : session.assembly.slot.Takes family delivery) :
    later.assembly.slot.Takes family delivery := by
  rw [h.slot]
  exact takes

/-- What becomes visible of a complete message: its callback is answered, or if the bytes are not
of its family, there is one failure. -/
def Delivered (host : Host σ ν τ) (family : Family) (message : Bytes) (asked session : Session σ τ)
    (seen : List (Occurrence ν)) : Prop :=
  match messageEvent family message with
  | none => FailsOnce host (.invalidText family) session seen
  | some event => AnsweredOnce host event asked session seen

private theorem visible_of_message {event : Event} {family : Family} {delivery : Delivery}
    (delivers : event.registration = .message family delivery) :
    (Occurrence.called event : Occurrence ν).visible = true := by
  cases event with
  | frame _ => cases delivers
  | _ => rfl

section Buffered

variable {host : Host σ ν τ} {frame : Frame} {session : Session σ τ} {family : Family}

theorem follow_buffered (host : Host σ ν τ) (coherent : session.Coherent)
    (wanted : session.handlers.delivery family = some .buffered)
    (expects : session.Expects family frame.opcode) :
    session.assembly.slot.Takes family .buffered ∧
      follow host frame (route session.handlers session.inFlight frame)
        (session.observed host frame) =
          acceptBuffered host family frame (session.observed host frame) := by
  have routed := route_of_expects wanted expects
  refine ⟨coherent.takes routed, ?_⟩
  rw [routed]
  rfl

private theorem frame_overflows {overflow : Overflow} (passes : session.Passes host frame)
    (coherent : session.Coherent) (wanted : session.handlers.delivery family = some .buffered)
    (expects : session.Expects family frame.opcode)
    (appended : (session.loan family).append frame.payload = .error overflow) :
    (session.handled host frame).state.inFlight = none ∧
      FailsOnce host (.messageTooLarge family overflow.attempted overflow.limit) session
        (effects (session.handled host frame).trace) := by
  have reacted := session.observed_reacted host frame
  obtain ⟨takes, followed⟩ := follow_buffered host coherent wanted expects
  rw [acceptBuffered_run host frame (reacted.takes takes), reacted.loan, appended] at followed
  obtain ⟨idle, failure, fails, seen⟩ := frame_of_some passes followed rfl
    ⟨reacted.handlers, reacted.policy, reacted.attached⟩
  refine ⟨idle, ?_⟩
  rw [seen]
  simpa using fails

private theorem frame_kept {extended : Loan} (passes : session.Passes host frame)
    (coherent : session.Coherent) (wanted : session.handlers.delivery family = some .buffered)
    (expects : session.Expects family frame.opcode)
    (appended : (session.loan family).append frame.payload = .ok extended)
    (unfinished : frame.fin = false) :
    (session.handled host frame).state =
        ((session.observed host frame).onLoan family).keeping family extended ∧
      effects (session.handled host frame).trace = [] := by
  have reacted := session.observed_reacted host frame
  obtain ⟨takes, followed⟩ := follow_buffered host coherent wanted expects
  rw [acceptBuffered_run host frame (reacted.takes takes), reacted.loan, appended] at followed
  simp only [unfinished, Bool.false_eq_true, if_false] at followed
  obtain ⟨state, seen⟩ := frame_of_none passes followed rfl
  refine ⟨state, ?_⟩
  rw [seen]
  simp

private theorem frame_completes {extended : Loan} (passes : session.Passes host frame)
    (coherent : session.Coherent) (wanted : session.handlers.delivery family = some .buffered)
    (expects : session.Expects family frame.opcode)
    (appended : (session.loan family).append frame.payload = .ok extended)
    (finished : frame.fin = true) :
    (session.handled host frame).state.inFlight = none ∧
      Delivered host family extended.bytes ((session.observed host frame).onLoan family) session
        (effects (session.handled host frame).trace) := by
  have reacted := session.observed_reacted host frame
  have routed := route_of_expects wanted expects
  obtain ⟨takes, followed⟩ := follow_buffered host coherent wanted expects
  rw [acceptBuffered_run host frame (reacted.takes takes), reacted.loan, appended] at followed
  simp only [finished, if_true] at followed
  have asked : session.Steady ((session.observed host frame).onLoan family) :=
    ⟨reacted.handlers, reacted.policy, reacted.attached⟩
  have idle : ((session.observed host frame).onLoan family).inFlight = none := rfl
  generalize (session.observed host frame).onLoan family = lent at followed asked idle ⊢
  have delivered := deliverMessage_reacted host family extended.bytes lent
  have outlined := outline_deliverMessage host extended.bytes (asked.handlers ▸ wanted)
  have kept := asked.trans delivered.steady
  unfold Delivered
  cases decoded : messageEvent family extended.bytes with
  | none =>
    have ends : (deliverMessage host family extended.bytes lent).ending =
        .fault (.invalidText family) := by
      rw [deliverMessage_run, decoded]
      rfl
    obtain ⟨idle, failure, fails, seen⟩ := frame_of_some passes followed
      (by rw [ends]; rfl) ⟨kept.handlers, kept.policy, kept.attached⟩
    refine ⟨idle, ?_⟩
    rw [decoded] at outlined
    rw [seen]
    simpa [effects_of_outline_nil outlined] using fails
  | some event =>
    have ends : (deliverMessage host family extended.bytes lent).ending.fault? =
        callFault? host event lent := by
      rw [deliverMessage_run, decoded]
      simp [callFault?]
    have called : effects (deliverMessage host family extended.bytes lent).trace =
        [.called event] := by
      rw [effects_eq_filter_outline, outlined, decoded]
      simp [visible_of_message (registration_messageEvent decoded)]
    obtain ⟨stays, answered⟩ := frame_answered passes followed ends
      (by simp [called]) ⟨kept.handlers, kept.policy, kept.attached⟩
    exact ⟨stays.elim id fun same => same.trans (delivered.inFlight.trans idle), answered⟩

end Buffered

/-- What becomes visible of a message of some bytes that is delivered whole: one failure if it is
too large, one failure if it is text and the bytes are not UTF-8, and else one delivery of the
bytes, asked of the session as it is once the last frame has been seen. -/
structure WholeOutcome (host : Host σ ν τ) (family : Family) (frames : List Frame)
    (message : Bytes) (session : Session σ τ) (seen : List (Occurrence ν)) : Prop where
  tooLarge : session.policy.bufferedLimit family < message.length →
    ∃ attempted, FailsOnce host
      (.messageTooLarge family attempted (session.policy.bufferedLimit family)) session seen
  notText : message.length ≤ session.policy.bufferedLimit family → family = .text →
    (∀ text, Utf8.encode text ≠ message) → FailsOnce host (.invalidText .text) session seen
  delivered : message.length ≤ session.policy.bufferedLimit family →
    ∀ event : Event, event.content? = some (family, message) →
      ∃ early last, frames = early ++ [last] ∧
        AnsweredOnce host event (((session.receive host early).observed host last).onLoan family)
          session seen

section Whole

variable {host : Host σ ν τ} {family : Family} {session : Session σ τ}

private theorem WholeOutcome.cons {frame : Frame} {frames : List Frame} {message : Bytes}
    {seen : List (Occurrence ν)}
    (kept : session.Steady (session.handled host frame).state)
    (outcome : WholeOutcome host family frames message
      (session.handled host frame).state seen) :
    WholeOutcome host family (frame :: frames) message session seen where
  tooLarge exceeds := by
    rw [← kept.policy] at exceeds ⊢
    obtain ⟨attempted, fails⟩ := outcome.tooLarge exceeds
    exact ⟨attempted, fails.of_steady kept⟩
  notText fits text invalid := by
    rw [← kept.policy] at fits
    exact (outcome.notText fits text invalid).of_steady kept
  delivered fits event content := by
    rw [← kept.policy] at fits
    obtain ⟨early, last, rfl, answered⟩ := outcome.delivered fits event content
    exact ⟨frame :: early, last, rfl, answered.of_steady kept⟩

private theorem WholeOutcome.of_tooLarge {frames : List Frame} {message : Bytes} {attempted : Nat}
    {seen : List (Occurrence ν)} (exceeds : session.policy.bufferedLimit family < message.length)
    (fails : FailsOnce host
      (.messageTooLarge family attempted (session.policy.bufferedLimit family)) session seen) :
    WholeOutcome host family frames message session seen where
  tooLarge _ := ⟨attempted, fails⟩
  notText fits := absurd exceeds (Nat.not_lt.mpr fits)
  delivered fits := absurd exceeds (Nat.not_lt.mpr fits)

private theorem WholeOutcome.of_delivered {frame : Frame} {message : Bytes}
    {seen : List (Occurrence ν)}
    (fits : message.length ≤ session.policy.bufferedLimit family)
    (delivered : Delivered host family message ((session.observed host frame).onLoan family)
      session seen) :
    WholeOutcome host family [frame] message session seen where
  tooLarge exceeds := absurd exceeds (Nat.not_lt.mpr fits)
  notText _ text invalid := by
    subst text
    unfold Delivered at delivered
    rw [messageEvent_text_eq_none_iff.mpr invalid] at delivered
    exact delivered
  delivered _ event content := by
    unfold Delivered at delivered
    rw [messageEvent_eq_some_iff.mpr content] at delivered
    exact ⟨[], frame, rfl, delivered⟩

theorem opcode_of_mem_ofParts {frame : Frame} {parts : List Bytes}
    (member : frame ∈ Fragments.ofParts .continuation parts) : frame.opcode = .continuation := by
  induction parts with
  | nil =>
    obtain rfl := List.mem_singleton.mp member
    rfl
  | cons part rest ih =>
    cases rest with
    | nil =>
      obtain rfl := List.mem_singleton.mp member
      rfl
    | cons next rest =>
      rcases List.mem_cons.mp member with rfl | member
      · rfl
      · exact ih member

private theorem receive_steady {frames : List Frame} (coherent : session.Coherent) :
    session.Steady (session.receive host frames) := by
  induction frames generalizing session with
  | nil => exact .refl session
  | cons frame rest ih =>
    have kept := handled_steady host frame coherent
    exact kept.trans (ih (handled_coherent host frame coherent))

private theorem last_frame {frame : Frame} (passes : session.Passes host frame)
    (coherent : session.Coherent) (wanted : session.handlers.delivery family = some .buffered)
    (expects : session.Expects family frame.opcode) (finished : frame.fin = true) :
    (session.receive host [frame]).inFlight = none ∧
      WholeOutcome host family [frame] ((session.loan family).bytes ++ frame.payload) session
        (session.shown host [frame]).flatten := by
  obtain ⟨limit, within⟩ := coherent.loan_within
    (coherent.takes (route_of_expects wanted expects))
  have length : ((session.loan family).bytes ++ frame.payload).length =
      (session.loan family).length + frame.payload.length := by
    rw [List.length_append, Loan.length_bytes]
  simp only [receive_cons, receive_nil, shown_cons, shown_nil, List.flatten_cons,
    List.flatten_nil, List.append_nil]
  cases appended : (session.loan family).append frame.payload with
  | error overflow =>
    obtain ⟨exceeds, same⟩ := Loan.append_error appended within
    obtain ⟨idle, fails⟩ := frame_overflows passes coherent wanted expects appended
    rw [same, limit] at fails
    exact ⟨idle, .of_tooLarge (by omega) fails⟩
  | ok extended =>
    obtain ⟨total, -, fits⟩ := Loan.append_ok appended within
    obtain ⟨bytes, same⟩ := Loan.bytes_of_append appended
    obtain ⟨idle, delivered⟩ := frame_completes passes coherent wanted expects appended
      finished
    rw [bytes] at delivered
    exact ⟨idle, .of_delivered (by omega) delivered⟩

/-- A fragment before the last of a message, given what becomes of the fragments after it in a
session that has kept it. -/
private theorem early_frame {frame : Frame} {rest : List Frame} {more : Bytes}
    (succeeds : ObserverSucceeds host session.handlers) (coherent : session.Coherent)
    (wanted : session.handlers.delivery family = some .buffered)
    (expects : session.Expects family frame.opcode) (unfinished : frame.fin = false)
    (continuations : ∀ later ∈ rest, later.opcode = .continuation)
    (goesOn : ∀ later : Session σ τ, later.handlers = session.handlers → later.Coherent →
      later.Expects family .continuation →
        (later.receive host rest).inFlight = none ∧
          WholeOutcome host family rest ((later.loan family).bytes ++ more) later
            (later.shown host rest).flatten) :
    (session.receive host (frame :: rest)).inFlight = none ∧
      WholeOutcome host family (frame :: rest)
        ((session.loan family).bytes ++ (frame.payload ++ more)) session
        (session.shown host (frame :: rest)).flatten := by
  obtain ⟨limit, within⟩ := coherent.loan_within (coherent.takes (route_of_expects wanted expects))
  have passes := succeeds frame session rfl
  have kept := handled_steady host frame coherent
  have length : ((session.loan family).bytes ++ (frame.payload ++ more)).length =
      (session.loan family).length + (frame.payload.length + more.length) := by
    rw [List.length_append, List.length_append, Loan.length_bytes]
  rw [receive_cons, shown_cons, List.flatten_cons]
  cases appended : (session.loan family).append frame.payload with
  | error overflow =>
    obtain ⟨exceeds, same⟩ := Loan.append_error appended within
    obtain ⟨idle, fails⟩ := frame_overflows passes coherent wanted expects appended
    obtain ⟨idle, -, unseen⟩ := strays_pass (kept.handlers ▸ succeeds) idle continuations
    rw [same, limit] at fails
    rw [List.flatten_eq_nil_iff.mpr unseen, List.append_nil]
    exact ⟨idle, .of_tooLarge (by omega) fails⟩
  | ok extended =>
    obtain ⟨bytes, -⟩ := Loan.bytes_of_append appended
    obtain ⟨state, nothing⟩ := frame_kept passes coherent wanted expects appended
      unfinished
    obtain ⟨idle, outcome⟩ := goesOn _ kept.handlers (handled_coherent host frame coherent)
      (by rw [state]; exact .inr ⟨rfl, rfl⟩)
    have same : ((session.handled host frame).state.loan family).bytes ++ more =
          (session.loan family).bytes ++ (frame.payload ++ more) := by
      rw [state, ← List.append_assoc, ← bytes]
      rfl
    rw [same] at outcome
    rw [nothing, List.nil_append]
    exact ⟨idle, outcome.cons kept⟩

private theorem whole_frames {opcode : Opcode} (parts : List Bytes)
    (succeeds : ObserverSucceeds host session.handlers) (coherent : session.Coherent)
    (wanted : session.handlers.delivery family = some .buffered)
    (expects : session.Expects family opcode) :
    (session.receive host (Fragments.ofParts opcode parts)).inFlight = none ∧
      WholeOutcome host family (Fragments.ofParts opcode parts)
        ((session.loan family).bytes ++ parts.flatten) session
        (session.shown host (Fragments.ofParts opcode parts)).flatten := by
  induction parts generalizing opcode session with
  | nil => exact last_frame (succeeds _ session rfl) coherent wanted expects rfl
  | cons part rest ih =>
    cases rest with
    | nil =>
      have bytes : [part].flatten = part := by simp
      rw [bytes]
      exact last_frame (succeeds _ session rfl) coherent wanted expects rfl
    | cons next rest =>
      refine early_frame succeeds coherent wanted expects rfl
        (fun frame member => opcode_of_mem_ofParts member)
        fun later same coherent continues => ?_
      rw [← same] at succeeds wanted
      exact ih succeeds coherent wanted continues

end Whole

/-- What becomes visible of a message that is read while it arrives: the delivery of the stream on
the first frame, and nothing after it. -/
def StreamOutcome (host : Host σ ν τ) (family : Family) (frames : List Frame)
    (session : Session σ τ) (seen : List (List (Occurrence ν))) : Prop :=
  ∃ first rest delivery later, frames = first :: rest ∧ seen = delivery :: later ∧
    AnsweredOnce host (streamEvent family session.assembly.streams.length)
      (((session.observed host first).fed family first).presented family
        session.assembly.streams.length) session delivery ∧
    ∀ each ∈ later, each = []

section Streamed

variable {host : Host σ ν τ} {frame : Frame} {session : Session σ τ} {family : Family}

private theorem inFlight_fed (family : Family) (frame : Frame) (session : Session σ τ) :
    (session.fed family frame).inFlight = if frame.fin then none else some family := by
  unfold inFlight fed Assembly.written Assembly.inFlight
  cases frame.fin <;> rfl

private theorem frame_continues (passes : session.Passes host frame) (coherent : session.Coherent)
    (wanted : session.handlers.delivery family = some .streaming)
    (current : session.inFlight = some family) (continues : frame.opcode = .continuation) :
    (session.handled host frame).state.inFlight = (if frame.fin then none else some family) ∧
      effects (session.handled host frame).trace = [] := by
  have reacted := session.observed_reacted host frame
  have routed := route_of_expects wanted (.inr ⟨current, continues⟩)
  have followed : follow host frame (route session.handlers session.inFlight frame)
      (session.observed host frame) = ⟨.value (), (session.observed host frame).fed family frame,
        (session.observed host frame).feedTrace family frame⟩ := by
    rw [routed, follow, acceptStreaming_run host frame (reacted.takes (coherent.takes routed)),
      reacted.inFlight, current]
    rfl
  obtain ⟨state, seen⟩ := frame_of_none passes followed rfl
  rw [state, seen]
  exact ⟨inFlight_fed family frame _, effects_of_outline_nil (outline_logged _)⟩

private theorem Unseen.cons {rest : List Frame} (coherent : session.Coherent)
    (nothing : effects (session.handled host frame).trace = [])
    (unseen : (session.handled host frame).state.Unseen host rest) :
    session.Unseen host (frame :: rest) := by
  obtain ⟨idle, kept, later⟩ := unseen
  refine ⟨idle, (handled_steady host frame coherent).trans kept, fun seen member => ?_⟩
  rcases List.mem_cons.mp member with rfl | member
  · exact nothing
  · exact later seen member

private theorem last_streamed (part : Bytes) (succeeds : ObserverSucceeds host session.handlers)
    (coherent : session.Coherent) (wanted : session.handlers.delivery family = some .streaming)
    (current : session.inFlight = some family) :
    session.Unseen host [⟨.continuation, true, part⟩] := by
  have passes := succeeds ⟨.continuation, true, part⟩ session rfl
  obtain ⟨idle, nothing⟩ := frame_continues passes coherent wanted current rfl
  exact .cons coherent nothing ⟨idle, .refl _, nofun⟩

private theorem rest_streamed (parts : List Bytes)
    (succeeds : ObserverSucceeds host session.handlers)
    (coherent : session.Coherent) (wanted : session.handlers.delivery family = some .streaming)
    (current : session.inFlight = some family) :
    session.Unseen host (Fragments.ofParts .continuation parts) := by
  induction parts generalizing session with
  | nil => exact last_streamed [] succeeds coherent wanted current
  | cons part rest ih =>
    cases rest with
    | nil => exact last_streamed part succeeds coherent wanted current
    | cons next rest =>
      have passes := succeeds ⟨.continuation, false, part⟩ session rfl
      have kept := handled_steady host ⟨.continuation, false, part⟩ coherent
      obtain ⟨current, nothing⟩ := frame_continues passes coherent wanted current rfl
      rw [← kept.handlers] at succeeds wanted
      exact .cons coherent nothing (ih succeeds (handled_coherent host _ coherent) wanted current)

private theorem frame_opens (passes : session.Passes host frame) (idle : session.inFlight = none)
    (wanted : session.handlers.delivery family = some .streaming)
    (opens : frame.opcode = .ofFamily family) :
    ((session.handled host frame).state.inFlight = none ∨
      (session.handled host frame).state.inFlight = if frame.fin then none else some family) ∧
      AnsweredOnce host (streamEvent family session.assembly.streams.length)
        (((session.observed host frame).fed family frame).presented family
          session.assembly.streams.length) session
        (effects (session.handled host frame).trace) := by
  have reacted := session.observed_reacted host frame
  have coherent : session.Coherent := coherent_of_idle (Slot.inFlight_eq_none.mp idle)
  have routed := route_of_expects wanted (.inl ⟨idle, opens⟩)
  have number : (session.observed host frame).assembly.channel.stream =
      session.assembly.streams.length := by
    rw [Assembly.channel, reacted.slot, Slot.inFlight_eq_none.mp idle, ← reacted.opened]
  have followed : follow host frame (route session.handlers session.inFlight frame)
      (session.observed host frame) = (deliverStream host family session.assembly.streams.length
        ((session.observed host frame).fed family frame)).after
          ((session.observed host frame).feedTrace family frame) := by
    rw [routed, follow, acceptStreaming_run host frame (reacted.takes (coherent.takes routed)),
      reacted.inFlight, idle, number]
    rfl
  have fed : session.Steady ((session.observed host frame).fed family frame) :=
    ⟨reacted.handlers, reacted.policy, reacted.attached⟩
  have delivered := deliverStream_reacted host family session.assembly.streams.length
    ((session.observed host frame).fed family frame)
  have ends : (deliverStream host family session.assembly.streams.length
      ((session.observed host frame).fed family frame)).ending.fault? =
        callFault? host (streamEvent family session.assembly.streams.length)
          (((session.observed host frame).fed family frame).presented family
            session.assembly.streams.length) := by
    rw [deliverStream_run]
    simp [callFault?]
  have outlined := outline_deliverStream host session.assembly.streams.length
    (fed.handlers ▸ wanted)
  have called : effects (deliverStream host family session.assembly.streams.length
      ((session.observed host frame).fed family frame)).trace =
        [.called (streamEvent family session.assembly.streams.length)] := by
    rw [effects_eq_filter_outline, outlined]
    simp [visible_of_message (registration_streamEvent family session.assembly.streams.length)]
  have logged : effects ((session.observed host frame).feedTrace family frame :
      List (Occurrence ν)) = [] :=
    effects_of_outline_nil (outline_logged _)
  obtain ⟨stays, answered⟩ := frame_answered passes followed ends
    (by rw [Outcome.trace_after, effects_append, logged, called]; rfl)
    (fed.trans delivered.steady)
  refine ⟨stays.imp id fun same => ?_, answered⟩
  rw [same, Outcome.state_after, delivered.inFlight, inFlight_fed]

theorem streamed_frames (parts : List Bytes) (succeeds : ObserverSucceeds host session.handlers)
    (idle : session.inFlight = none)
    (wanted : session.handlers.delivery family = some .streaming) :
    (session.receive host (Fragments.ofParts (.ofFamily family) parts)).inFlight = none ∧
      StreamOutcome host family (Fragments.ofParts (.ofFamily family) parts) session
        (session.shown host (Fragments.ofParts (.ofFamily family) parts)) := by
  have coherent : session.Coherent := coherent_of_idle (Slot.inFlight_eq_none.mp idle)
  have only (part : Bytes) :
      (session.receive host [⟨.ofFamily family, true, part⟩]).inFlight = none ∧
        StreamOutcome host family [⟨.ofFamily family, true, part⟩] session
          (session.shown host [⟨.ofFamily family, true, part⟩]) := by
    have passes := succeeds ⟨.ofFamily family, true, part⟩ session rfl
    obtain ⟨stays, answered⟩ := frame_opens passes idle wanted rfl
    exact ⟨stays.elim id id, _, _, _, _, rfl, rfl, answered, nofun⟩
  match parts with
  | [] => exact only []
  | [part] => exact only part
  | part :: next :: rest =>
    have passes := succeeds ⟨.ofFamily family, false, part⟩ session rfl
    obtain ⟨stays, answered⟩ := frame_opens passes idle wanted rfl
    have kept := handled_steady host ⟨.ofFamily family, false, part⟩ coherent
    rw [← kept.handlers] at succeeds wanted
    have unseen : (session.handled host ⟨.ofFamily family, false, part⟩).state.Unseen host
        (Fragments.ofParts .continuation (next :: rest)) := by
      rcases stays with failed | goesOn
      · exact strays_pass succeeds failed fun frame member => opcode_of_mem_ofParts member
      · exact rest_streamed _ succeeds (handled_coherent host _ coherent) wanted goesOn
    exact ⟨unseen.1, _, _, _, _, rfl, rfl, answered, unseen.2.2⟩

end Streamed

private theorem discarded_frames {host : Host σ ν τ} {session : Session σ τ} {family : Family}
    (parts : List Bytes) (succeeds : ObserverSucceeds host session.handlers)
    (idle : session.inFlight = none) (unwanted : session.handlers.delivery family = none) :
    session.Unseen host (Fragments.ofParts (.ofFamily family) parts) := by
  have coherent : session.Coherent := coherent_of_idle (Slot.inFlight_eq_none.mp idle)
  have first (part : Bytes) (fin : Bool) :
      session.Reacted (session.handled host ⟨.ofFamily family, fin, part⟩).state ∧
        effects (session.handled host ⟨.ofFamily family, fin, part⟩).trace = [] := by
    have routed : route session.handlers session.inFlight ⟨.ofFamily family, fin, part⟩ =
        .pass [.noHandler family] := route_of_unwanted rfl unwanted
    exact frame_passes (succeeds _ session rfl) routed
  have only (part : Bytes) : session.Unseen host [⟨.ofFamily family, true, part⟩] :=
    .cons coherent (first part true).2 ⟨(first part true).1.inFlight.trans idle, .refl _, nofun⟩
  match parts with
  | [] => exact only []
  | [part] => exact only part
  | part :: next :: rest =>
    obtain ⟨reacted, nothing⟩ := first part false
    rw [← reacted.handlers] at succeeds
    exact .cons coherent nothing (strays_pass succeeds (reacted.inFlight.trans idle)
      fun frame member => opcode_of_mem_ofParts member)

/-- What becomes visible of a message that is sent to an idle session in these parts, frame by
frame. -/
def MessageOutcome (host : Host σ ν τ) (family : Family) (parts : List Bytes)
    (session : Session σ τ) (seen : List (List (Occurrence ν))) : Prop :=
  match session.handlers.delivery family with
  | none => ∀ each ∈ seen, each = []
  | some .streaming =>
    StreamOutcome host family (Fragments.ofParts (.ofFamily family) parts) session seen
  | some .buffered =>
    WholeOutcome host family (Fragments.ofParts (.ofFamily family) parts) parts.flatten session
      seen.flatten

theorem MessageOutcome.whole {host : Host σ ν τ} {family : Family} {parts : List Bytes}
    {session : Session σ τ} {seen : List (List (Occurrence ν))}
    (outcome : MessageOutcome host family parts session seen)
    (wanted : session.handlers.delivery family = some .buffered) :
    WholeOutcome host family (Fragments.ofParts (.ofFamily family) parts) parts.flatten session
      seen.flatten := by
  unfold MessageOutcome at outcome
  rw [wanted] at outcome
  exact outcome

theorem message_outcome {host : Host σ ν τ} {session : Session σ τ} (family : Family)
    (parts : List Bytes) (succeeds : ObserverSucceeds host session.handlers)
    (idle : session.inFlight = none) :
    (session.receive host (Fragments.ofParts (.ofFamily family) parts)).inFlight = none ∧
      MessageOutcome host family parts session
        (session.shown host (Fragments.ofParts (.ofFamily family) parts)) := by
  have coherent : session.Coherent := coherent_of_idle (Slot.inFlight_eq_none.mp idle)
  unfold MessageOutcome
  cases wanted : session.handlers.delivery family with
  | none =>
    obtain ⟨idle, -, unseen⟩ := discarded_frames parts succeeds idle wanted
    exact ⟨idle, unseen⟩
  | some delivery =>
    cases delivery with
    | streaming => exact streamed_frames parts succeeds idle wanted
    | buffered =>
      have empty : (session.loan family).bytes = [] := by
        rw [loan, Assembly.lending, Slot.inFlight_eq_none.mp idle]
        rfl
      obtain ⟨idle, outcome⟩ := whole_frames parts succeeds coherent wanted (.inl ⟨idle, rfl⟩)
      rw [empty, List.nil_append] at outcome
      exact ⟨idle, outcome⟩

def framesOf (messages : List (Family × List Bytes)) : List Frame :=
  messages.flatMap fun message => Fragments.ofParts (.ofFamily message.1) message.2

private theorem messages_leave_idle {host : Host σ ν τ} {session : Session σ τ}
    (messages : List (Family × List Bytes)) (succeeds : ObserverSucceeds host session.handlers)
    (idle : session.inFlight = none) :
    (session.receive host (framesOf messages)).inFlight = none := by
  induction messages generalizing session with
  | nil => exact idle
  | cons message rest ih =>
    have coherent : session.Coherent := coherent_of_idle (Slot.inFlight_eq_none.mp idle)
    obtain ⟨idle, -⟩ := message_outcome message.1 message.2 succeeds idle
    rw [← (receive_steady coherent).handlers] at succeeds
    rw [framesOf, List.flatMap_cons, receive_append]
    exact ih succeeds idle

end Session

/-- From an idle session on, whatever messages have been sent before and whatever became of them,
the session is idle, with the same table, policy and connection or none; a message sent then has
the outcome that is its own, and leaves the session idle. -/
theorem messages_have_own_outcomes (host : Host σ ν τ) {session : Session σ τ}
    (idle : session.inFlight = none)
    (observer : session.handlers.frame = false ∨
      ∀ frame seen, seen.handlers = session.handlers →
        (Session.call host (.frame frame) seen).ending = .value ())
    (before : List (Family × List Bytes)) (family : Family) (parts : List Bytes) :
    let arrived := session.receive host (Session.framesOf before)
    let frames := Fragments.ofParts (.ofFamily family) parts
    arrived.inFlight = none ∧ session.Steady arrived ∧
      Session.MessageOutcome host family parts arrived (arrived.shown host frames) ∧
        (arrived.receive host frames).inFlight = none := by
  intro arrived frames
  have coherent : session.Coherent := Session.coherent_of_idle (Slot.inFlight_eq_none.mp idle)
  have succeeds : Session.ObserverSucceeds host session.handlers := by
    rcases observer with none | succeeds
    · intro frame seen same
      rw [Session.Passes, Session.call_run, same]
      simp [Event.registration, Handlers.handles, none]
    · exact succeeds
  have idle : arrived.inFlight = none := Session.messages_leave_idle before succeeds idle
  have kept : session.Steady arrived := Session.receive_steady coherent
  obtain ⟨after, outcome⟩ := Session.message_outcome family parts (kept.handlers ▸ succeeds) idle
  exact ⟨idle, kept, outcome, after⟩

/-- A text in two fragments is delivered after a message that was not UTF-8. -/
theorem text_delivered_after_invalid_text :
    let session : Session Script Recorder :=
      .start ⟨[]⟩ (.ofRegistrations [.message .text .buffered, .error]) .default (.empty 4)
    let arrived := session.receive Script.host (Session.framesOf [(.text, [[0xFF], [72]])])
    let frames := Fragments.ofParts (.ofFamily .text) [[72], [105]]
    arrived.inFlight = none ∧
      ∃ early last, frames = early ++ [last] ∧
        Session.AnsweredOnce Script.host (.text "Hi")
          (((arrived.receive Script.host early).observed Script.host last).onLoan .text) arrived
          (arrived.shown Script.host frames).flatten := by
  intro session arrived frames
  have idle : session.inFlight = none := rfl
  have unobserved : session.handlers.frame = false := rfl
  have wanted : session.handlers.delivery .text = some .buffered := rfl
  have fits : [[72], [105]].flatten.length ≤ session.policy.bufferedLimit .text := by decide
  -- Only these facts are used of the session; nothing has to be run.
  clear_value session
  obtain ⟨idle, kept, outcome, -⟩ := messages_have_own_outcomes Script.host idle (.inl unobserved)
    [(.text, [[0xFF], [72]])] .text [[72], [105]]
  have content : Event.content? (.text "Hi") = some (.text, [[72], [105]].flatten) := by
    decide +kernel
  rw [← kept.policy] at fits
  rw [← kept.handlers] at wanted
  exact ⟨idle, (outcome.whole wanted).delivered fits _ content⟩

end WebSocketSession
