import WebSocketSession.Proofs.Cutting
import WebSocketSession.Proofs.DeliveryAgreement

/-!
# What a session of the demonstration puts out

The application of the demonstration answers every event by a line and does nothing else, and its
connection accepts everything. So a session changes under a frame only by what the routing of the
frame does (`handled_of_none`), and a fault puts out a warning, the close and the error, in that
order (`handled_of_some`). From there the frames of one message, which is delivered whole
(`parts_yield`) or read while it arrives (`message_fills`). Records below a warning are left out.
-/

set_option autoImplicit false
set_option relaxedAutoImplicit false

namespace WebSocketSession.Demo

open Session (route follow arrivals messageEvent streamEvent)

def notable (trace : List (Occurrence String)) : List Entry :=
  (trace.filterMap entry?).filter Subscriber.standard.shows

@[simp] theorem notable_append (first second : List (Occurrence String)) :
    notable (first ++ second) = notable first ++ notable second := by
  rw [notable, List.filterMap_append, List.filter_append]
  rfl

@[simp] theorem notable_returnedTrace (loan : Loan) :
    notable (Assembly.returnedTrace loan) = [] := rfl

@[simp] theorem notable_abandonTrace (assembly : Assembly) :
    notable assembly.abandonTrace = [] := by
  unfold Assembly.abandonTrace Feed.abort
  split
  · rfl
  · rfl
  · dsimp only
    split <;> rfl

@[simp] theorem notable_loanTrace (family : Family) (session : Session Unit Unit) :
    notable (session.loanTrace family) = [] := by
  unfold Session.loanTrace Assembly.lendingTrace
  split <;> rfl

@[simp] theorem notable_feedTrace (family : Family) (frame : Frame) (session : Session Unit Unit) :
    notable (session.feedTrace family frame) = [] := by
  unfold Session.feedTrace Assembly.written Feed.append
  dsimp only
  split <;> split <;> try split
  all_goals rfl

@[simp] theorem notable_arrivalTrace (input : Input) : notable input.arrivalTrace = [] := by
  cases input <;> rfl

/-- The application prints its line if it is called, and leaves the session as it is. -/
theorem call_host (event : Event) (session : Session Unit Unit) :
    Session.call host event session =
      ⟨.value (), session,
        if session.handlers.handles event.registration then
          [.called event, .noted (line event session.policy)] else []⟩ := by
  rw [Session.call_run]
  split
  · simp [host, Session.perform]
  · rfl

@[simp] theorem observed_host (frame : Frame) (session : Session Unit Unit) :
    session.observed host frame = session := by
  rw [Session.observed, call_host]

structure Serves (delivery : Delivery) (policy : Policy) (session : Session Unit Unit) : Prop where
  handlers : session.handlers = Demo.handlers delivery
  policy : session.policy = policy
  attached : session.connection.isSome
  coherent : session.Coherent

def closeEntries (policy : Policy) (fault : Fault) : List Entry :=
  [.line ("close sent: " ++ (fault.closing policy.role).1.label ++ " " ++
      trimReason (fault.closing policy.role).2),
    .line ("error: " ++ fault.message)]

def faultEntries (policy : Policy) (fault : Fault) : List Entry :=
  notable [.logged (Session.reportRecord fault)] ++ closeEntries policy fault

section Frames

variable {delivery : Delivery} {policy : Policy} {session : Session Unit Unit} {frame : Frame}
  {done : Outcome (Session Unit Unit) (Occurrence String) Fault Unit}

theorem Serves.delivery_eq (serves : Serves delivery policy session) (family : Family) :
    session.handlers.delivery family = some delivery := by
  rw [serves.handlers]
  cases delivery <;> cases family <;> rfl

private theorem Serves.of_steady (serves : Serves delivery policy session)
    {later : Session Unit Unit}
    (steady : session.Steady later) (coherent : later.Coherent) : Serves delivery policy later where
  handlers := steady.handlers.trans serves.handlers
  policy := steady.policy.trans serves.policy
  attached := steady.attached.trans serves.attached
  coherent := coherent

private theorem Serves.handled (serves : Serves delivery policy session) (frame : Frame) :
    Serves delivery policy (session.handled host frame).state :=
  serves.of_steady (Session.handled_steady host frame serves.coherent)
    (Session.handled_coherent host frame serves.coherent)

private theorem closed_host (fault : Fault) (session : Session Unit Unit) :
    session.closed host fault = session := by
  obtain ⟨app, handlers, policy, connection, assembly⟩ := session
  cases connection <;> rfl

private theorem closeDown_host (serves : Serves delivery policy session) (fault : Fault) :
    let closedDown : Outcome _ _ Empty Unit := Session.closeDown host fault session
    closedDown.state = session ∧ notable closedDown.trace = closeEntries policy fault := by
  intro closedDown
  have answered : session.answer? host (session.closingCode fault) (session.closingReason fault) =
      some .accepted := by
    obtain ⟨connection, attached⟩ := Option.isSome_iff_exists.mp serves.attached
    rw [Session.answer?, attached]
    rfl
  have calm : session.Calm host fault := fun payload panics => by
    rw [answered] at panics
    cases panics
  have wanted : session.handlers.error = true := by
    rw [serves.handlers]
    cases delivery <;> rfl
  have closes : notable (session.closedTrace host fault) =
      [.line ("close sent: " ++ (session.closingCode fault).label ++ " " ++
        session.closingReason fault)] := by
    rw [Session.closedTrace, answered]
    rfl
  simp only [closedDown, Session.closeDown_of_calm calm, call_host, closed_host, notable_append,
    closes, Event.registration, Handlers.handles, wanted, true_and]
  rw [← serves.policy]
  rfl

private theorem attempt_host (serves : Serves delivery policy session)
    (followed : follow host frame (route session.handlers session.inFlight frame) session = done) :
    (Input.frame frame).attempt host session = done := by
  have unwanted : session.handlers.frame = false := by
    rw [serves.handlers]
    cases delivery <;> rfl
  have passes : session.Passes host frame :=
    congrArg Outcome.ending (call_host (.frame frame) session)
  rw [Session.attempt_of_passes passes, observed_host, followed, call_host]
  simp [Event.registration, Handlers.handles, unwanted]

theorem handled_of_none (serves : Serves delivery policy session)
    (followed : follow host frame (route session.handlers session.inFlight frame) session = done)
    (sound : done.ending.fault? = none) :
    (session.handled host frame).state = done.state ∧
      notable (session.handled host frame).trace = notable done.trace := by
  have attempted := attempt_host serves followed
  rw [Session.handled, Session.handle_of_none (by rw [attempted]; exact sound), attempted]
  simp

theorem handled_of_some (serves : Serves delivery policy session) {fault : Fault}
    (followed : follow host frame (route session.handlers session.inFlight frame) session = done)
    (faulty : done.ending = .fault fault) :
    (session.handled host frame).state = done.state.settled ∧
      notable (session.handled host frame).trace =
        notable done.trace ++ faultEntries policy fault := by
  have attempted := attempt_host serves followed
  have steady := Session.attempt_steady host (.frame frame) serves.coherent
  rw [attempted] at steady
  have settled : Serves delivery policy done.state.settled :=
    serves.of_steady ⟨steady.handlers, steady.policy, steady.attached⟩
      (Session.coherent_of_idle (Assembly.slot_abandoned _))
  obtain ⟨state, printed⟩ := closeDown_host settled fault
  have failed : done.ending.fault? = some fault := congrArg Ending.fault? faulty
  rw [Session.handled, Session.handle_of_some (by rw [attempted]; exact failed), attempted]
  refine ⟨state, ?_⟩
  simp only [Outcome.trace_after, Session.faultTrace, attempted, faulty, Ending.panicTrace,
    notable_append, notable_arrivalTrace, notable_abandonTrace, printed, faultEntries,
    List.nil_append, List.append_nil, List.append_assoc]

end Frames

/-- What comes of some frames: nothing is in flight after them, no stream has been opened, and these
lines are printed. -/
structure Yields (frames : List Frame) (printed : List Entry) (session : Session Unit Unit) :
    Prop where
  idle : (session.receive host frames).assembly.slot = .idle
  unopened : (session.receive host frames).assembly.streams = session.assembly.streams
  shown : notable (session.runTrace host (arrivals frames)) = printed

private theorem notable_runTrace_cons (session : Session Unit Unit) (frame : Frame)
    (rest : List Frame) :
    notable (session.runTrace host (arrivals (frame :: rest))) =
      notable (session.handled host frame).trace ++
        notable ((session.handled host frame).state.runTrace host (arrivals rest)) := by
  rw [← notable_append]
  rfl

private theorem Yields.cons {frame : Frame} {rest : List Frame} {before after : List Entry}
    {session : Session Unit Unit}
    (same : (session.handled host frame).state.assembly.streams = session.assembly.streams)
    (first : notable (session.handled host frame).trace = before)
    (later : Yields rest after (session.handled host frame).state) :
    Yields (frame :: rest) (before ++ after) session where
  idle := later.idle
  unopened := later.unopened.trans same
  shown := by rw [notable_runTrace_cons, first, later.shown]

private theorem strays_yield {delivery : Delivery} {policy : Policy} {frames : List Frame}
    (strays : ∀ frame ∈ frames, frame.opcode = .continuation) {session : Session Unit Unit}
    (serves : Serves delivery policy session) (idle : session.assembly.slot = .idle) :
    Yields frames [] session := by
  induction frames generalizing session with
  | nil => exact ⟨idle, rfl, rfl⟩
  | cons frame rest ih =>
    have stray : frame.opcode = .continuation := strays frame List.mem_cons_self
    have nothing : session.inFlight = none := Slot.inFlight_eq_none.mpr idle
    have routed : route session.handlers session.inFlight frame = .pass [.strayContinuation] := by
      rw [nothing, route, stray]
    have followed : follow host frame (route session.handlers session.inFlight frame) session =
        ⟨.value (), session, [.logged .strayContinuation]⟩ := by
      rw [routed]
      rfl
    obtain ⟨state, printed⟩ := handled_of_none serves followed rfl
    have later := ih (fun frame member => strays frame (List.mem_cons_of_mem _ member))
      (serves.handled frame) (by rw [state]; exact idle)
    exact .cons (by rw [state]) printed later

section Whole

variable {policy : Policy} {family : Family} {event : Event} {session : Session Unit Unit}

/-- The lines for a message that is delivered by an event, unless it comes past its limit. -/
def wholeEntries (policy : Policy) (family : Family) (event : Event) : Option Nat → List Entry
  | none => [.line (line event policy)]
  | some length =>
    faultEntries policy
      (.messageTooLarge family (min length Numeral.sizeMax) (policy.bufferedLimit family))

private theorem accepted_whole (serves : Serves .buffered policy session) (frame : Frame)
    (expects : session.Expects family frame.opcode) :
    session.assembly.slot.Takes family .buffered ∧
      (session.loan family).length ≤ policy.bufferedLimit family ∧
      (session.loan family).append frame.payload =
        (if policy.bufferedLimit family < (session.loan family).length + frame.payload.length then
          .error ⟨min ((session.loan family).length + frame.payload.length) Numeral.sizeMax,
            policy.bufferedLimit family⟩
        else
          .ok ⟨(session.loan family).buffer.extend frame.payload,
            policy.bufferedLimit family⟩) ∧
      follow host frame (route session.handlers session.inFlight frame) session =
        Session.acceptBuffered host family frame session := by
  obtain ⟨takes, followed⟩ :=
    Session.follow_buffered host serves.coherent (serves.delivery_eq family) expects
  obtain ⟨limit, within⟩ := serves.coherent.loan_within takes
  have appended := Loan.append_eq frame.payload within
  rw [limit, serves.policy] at within appended
  rw [observed_host] at followed
  exact ⟨takes, within, appended, followed⟩

private theorem frame_past_limit (serves : Serves .buffered policy session) (frame : Frame)
    (expects : session.Expects family frame.opcode)
    (exceeds : policy.bufferedLimit family <
      (session.loan family).length + frame.payload.length) :
    (session.handled host frame).state.assembly.slot = .idle ∧
      (session.handled host frame).state.assembly.streams = session.assembly.streams ∧
      notable (session.handled host frame).trace = faultEntries policy
        (.messageTooLarge family
          (min ((session.loan family).length + frame.payload.length) Numeral.sizeMax)
          (policy.bufferedLimit family)) := by
  obtain ⟨takes, -, appended, followed⟩ := accepted_whole serves frame expects
  rw [Session.acceptBuffered_run host frame takes, appended, if_pos exceeds] at followed
  obtain ⟨state, printed⟩ := handled_of_some serves followed rfl
  rw [state, printed]
  exact ⟨rfl, rfl, by simp⟩

private theorem deliverMessage_host {message : Bytes}
    (wanted : session.handlers.delivery family = some .buffered)
    (delivers : messageEvent family message = some event) :
    Session.deliverMessage host family message session =
      ⟨.value (), session,
        [.counted (.message family .buffered), .called event,
          .noted (line event session.policy)]⟩ := by
  have handled : session.handlers.handles event.registration = true := by
    simp [Session.registration_messageEvent delivers, Handlers.handles, wanted]
  rw [Session.deliverMessage_run, delivers]
  simp only [Session.invoke_run, call_host, handled, if_true]
  rfl

private theorem frame_completes (serves : Serves .buffered policy session) (frame : Frame)
    (expects : session.Expects family frame.opcode)
    (fits : ¬ policy.bufferedLimit family <
      (session.loan family).length + frame.payload.length) (finished : frame.fin = true)
    (delivers : messageEvent family ((session.loan family).bytes ++ frame.payload) = some event) :
    (session.handled host frame).state.assembly.slot = .idle ∧
      (session.handled host frame).state.assembly.streams = session.assembly.streams ∧
      notable (session.handled host frame).trace = [.line (line event policy)] := by
  obtain ⟨takes, -, appended, followed⟩ := accepted_whole serves frame expects
  have wanted : (session.onLoan family).handlers.delivery family = some .buffered :=
    serves.delivery_eq family
  rw [Loan.bytes, ← Buffer.bytes_extend] at delivers
  rw [Session.acceptBuffered_run host frame takes, appended, if_neg fits] at followed
  simp only [finished, if_true, Loan.bytes, deliverMessage_host wanted delivers] at followed
  obtain ⟨state, printed⟩ := handled_of_none serves followed rfl
  rw [state, printed, ← serves.policy]
  refine ⟨rfl, rfl, ?_⟩
  rw [notable_append, notable_loanTrace]
  rfl

private theorem frame_kept (serves : Serves .buffered policy session) (frame : Frame)
    (expects : session.Expects family frame.opcode)
    (fits : ¬ policy.bufferedLimit family <
      (session.loan family).length + frame.payload.length) (unfinished : frame.fin = false) :
    let later := (session.handled host frame).state
    later.Expects family .continuation ∧
      later.assembly.streams = session.assembly.streams ∧
      (later.loan family).bytes = (session.loan family).bytes ++ frame.payload ∧
      (later.loan family).length = (session.loan family).length + frame.payload.length ∧
      notable (session.handled host frame).trace = [] := by
  obtain ⟨takes, -, appended, followed⟩ := accepted_whole serves frame expects
  rw [Session.acceptBuffered_run host frame takes, appended, if_neg fits] at followed
  simp only [unfinished, Bool.false_eq_true, if_false] at followed
  obtain ⟨state, printed⟩ := handled_of_none serves followed rfl
  intro later
  have kept : later = _ := state
  rw [kept, printed]
  refine ⟨.inr ⟨rfl, rfl⟩, rfl, ?_, rfl, notable_loanTrace family session⟩
  exact Buffer.bytes_extend _ _

private theorem last_yields (serves : Serves .buffered policy session) (frame : Frame)
    (expects : session.Expects family frame.opcode) (finished : frame.fin = true)
    (delivers : messageEvent family ((session.loan family).bytes ++ frame.payload) = some event) :
    Yields [frame]
      (wholeEntries policy family event (Fragments.pastLimit? (policy.bufferedLimit family)
        (session.loan family).length [frame.payload])) session := by
  rw [Fragments.pastLimit?, Fragments.pastLimit?, ← List.append_nil (wholeEntries ..)]
  split
  · rename_i exceeds
    obtain ⟨idle, same, printed⟩ := frame_past_limit serves frame expects exceeds
    exact .cons same printed ⟨idle, rfl, rfl⟩
  · rename_i fits
    obtain ⟨idle, same, printed⟩ := frame_completes serves frame expects fits finished delivers
    exact .cons same printed ⟨idle, rfl, rfl⟩

theorem parts_yield (parts : List Bytes) {opcode : Opcode}
    (serves : Serves .buffered policy session) (expects : session.Expects family opcode)
    (delivers : messageEvent family ((session.loan family).bytes ++ parts.flatten) = some event) :
    Yields (Fragments.ofParts opcode parts)
      (wholeEntries policy family event
        (Fragments.pastLimit? (policy.bufferedLimit family) (session.loan family).length parts))
      session := by
  fun_induction Fragments.ofParts opcode parts generalizing session with
  | case1 opcode =>
    obtain ⟨-, within, -⟩ := accepted_whole serves ⟨opcode, true, []⟩ expects
    have last := last_yields serves ⟨opcode, true, []⟩ expects rfl delivers
    rw [Fragments.pastLimit?_empty within] at last
    exact last
  | case2 opcode part =>
    rw [List.flatten_singleton] at delivers
    exact last_yields serves ⟨opcode, true, part⟩ expects rfl delivers
  | case3 opcode part next rest ih =>
    rw [Fragments.pastLimit?]
    split
    · rename_i exceeds
      obtain ⟨idle, same, printed⟩ :=
        frame_past_limit serves ⟨opcode, false, part⟩ expects exceeds
      have strays : Yields (Fragments.ofParts .continuation (next :: rest)) [] _ :=
        strays_yield (fun _ member => Session.opcode_of_mem_ofParts member) (serves.handled _) idle
      rw [← List.append_nil (wholeEntries ..)]
      exact .cons same printed strays
    · rename_i fits
      obtain ⟨expects, same, bytes, length, printed⟩ :=
        frame_kept serves ⟨opcode, false, part⟩ expects fits rfl
      have later := ih (serves.handled _) expects (by
        rw [bytes, List.append_assoc]
        exact delivers)
      rw [length] at later
      exact .cons same printed later

end Whole

/-- What comes of the frames of a message that is read: its stream holds them all and has ended,
this many streams have been opened, and these lines are printed. -/
structure Fills (stream : Nat) (family : Family) (payloads : List Bytes) (opened : Nat)
    (frames : List Frame) (printed : List Entry) (session : Session Unit Unit) : Prop where
  tracks : (session.receive host frames).Tracks stream family
    (payloads ++ frames.map Frame.payload) .finished []
  opened : (session.receive host frames).assembly.streams.length = opened
  shown : notable (session.runTrace host (arrivals frames)) = printed

section Streamed

variable {policy : Policy} {family : Family} {stream opened : Nat} {payloads : List Bytes}
  {session : Session Unit Unit} {frame : Frame} {before : List Entry}

private theorem Fills.cons {rest : List Frame} {after : List Entry}
    (first : notable (session.handled host frame).trace = before)
    (later : Fills stream family (payloads ++ [frame.payload]) opened rest after
      (session.handled host frame).state) :
    Fills stream family payloads opened (frame :: rest) (before ++ after) session where
  tracks := by
    have tracks := later.tracks
    rw [List.append_assoc] at tracks
    exact tracks
  opened := later.opened
  shown := by rw [notable_runTrace_cons, first, later.shown]

private theorem Fills.last (finished : frame.fin = true)
    (tracks : (session.handled host frame).state.Tracks stream family (payloads ++ [frame.payload])
      (.ofFin frame.fin) [])
    (length : (session.handled host frame).state.assembly.streams.length = opened)
    (first : notable (session.handled host frame).trace = before) :
    Fills stream family payloads opened [frame] before session := by
  rw [finished] at tracks
  rw [← List.append_nil before]
  refine .cons first ⟨?_, length, rfl⟩
  rw [List.map_nil, List.append_nil]
  exact tracks

private theorem deliverStream_host (stream : Nat)
    (wanted : session.handlers.delivery family = some .streaming) :
    Session.deliverStream host family stream session =
      ⟨.value (), session.presented family stream,
        [.counted (.message family .streaming), .called (streamEvent family stream),
          .noted (line (streamEvent family stream) session.policy)]⟩ := by
  have reacted := session.presented_reacted family stream
  have handled : (session.presented family stream).handlers.handles
      (streamEvent family stream).registration = true := by
    simp [reacted.handlers, Session.registration_streamEvent, Handlers.handles, wanted]
  rw [Session.deliverStream_run]
  simp only [Session.invoke_run, call_host, handled, if_true, reacted.policy]
  rfl

private theorem frame_opens (serves : Serves .streaming policy session) (frame : Frame)
    (idle : session.assembly.slot = .idle) (opens : frame.opcode = .ofFamily family) :
    let later := (session.handled host frame).state
    later.Tracks session.assembly.streams.length family ([] ++ [frame.payload])
        (.ofFin frame.fin) [] ∧
      later.assembly.streams.length = session.assembly.streams.length + 1 ∧
      notable (session.handled host frame).trace =
        [.line (line (streamEvent family session.assembly.streams.length) policy)] := by
  have nothing : session.inFlight = none := Slot.inFlight_eq_none.mpr idle
  have wanted := serves.delivery_eq family
  have routed := Session.route_of_opens wanted opens
  have takes : session.assembly.slot.Takes family .streaming := .inl idle
  have followed : follow host frame (route session.handlers session.inFlight frame) session =
      (Session.deliverStream host family session.assembly.streams.length
        (session.fed family frame)).after (session.feedTrace family frame) := by
    rw [nothing, routed, follow, Session.acceptStreaming_run host frame takes, nothing,
      Session.channel_of_idle idle]
    rfl
  have fed : (session.fed family frame).handlers.delivery family = some .streaming := wanted
  rw [deliverStream_host _ fed] at followed
  obtain ⟨state, printed⟩ := handled_of_none serves followed rfl
  obtain ⟨tracks, -⟩ := Session.tracks_opened family frame idle
  have presented :=
    (session.fed family frame).presented_reacted family session.assembly.streams.length
  intro later
  have kept : later = _ := state
  rw [kept, printed, ← serves.policy]
  refine ⟨tracks, presented.opened.trans (Session.fed_of_idle family frame idle).1, ?_⟩
  rw [Outcome.trace_after, notable_append, notable_feedTrace]
  rfl

private theorem frame_continues (serves : Serves .streaming policy session) (frame : Frame)
    (continues : frame.opcode = .continuation)
    (tracks : session.Tracks stream family payloads .live []) :
    let later := (session.handled host frame).state
    later.Tracks stream family (payloads ++ [frame.payload]) (.ofFin frame.fin) [] ∧
      later.assembly.streams.length = session.assembly.streams.length ∧
      notable (session.handled host frame).trace = [] := by
  obtain ⟨feed, held⟩ := Slot.feeding_eq_some.mp (tracks.live rfl)
  have current : session.inFlight = some family := congrArg Slot.inFlight held
  have routed := Session.route_of_expects (serves.delivery_eq family) (.inr ⟨current, continues⟩)
  have takes := serves.coherent.takes routed
  have followed : follow host frame (route session.handlers session.inFlight frame) session =
      ⟨.value (), session.fed family frame, session.feedTrace family frame⟩ := by
    rw [routed, follow, Session.acceptStreaming_run host frame takes, current]
    rfl
  obtain ⟨state, printed⟩ := handled_of_none serves followed rfl
  intro later
  have kept : later = _ := state
  rw [kept, printed]
  exact ⟨tracks.fed_self frame, (Session.fed_of_streaming family frame held tracks.bound).1,
    notable_feedTrace family frame session⟩

private theorem last_fills (serves : Serves .streaming policy session) (part : Bytes)
    (tracks : session.Tracks stream family payloads .live []) :
    Fills stream family payloads session.assembly.streams.length [⟨.continuation, true, part⟩] []
      session := by
  obtain ⟨fed, length, printed⟩ :=
    frame_continues serves ⟨.continuation, true, part⟩ rfl tracks
  exact .last rfl fed length printed

private theorem continuations_fill (parts : List Bytes) (serves : Serves .streaming policy session)
    (tracks : session.Tracks stream family payloads .live []) :
    Fills stream family payloads session.assembly.streams.length
      (Fragments.ofParts .continuation parts) [] session := by
  induction parts generalizing session payloads with
  | nil => exact last_fills serves [] tracks
  | cons part rest ih =>
    cases rest with
    | nil => exact last_fills serves part tracks
    | cons next rest =>
      obtain ⟨fed, length, printed⟩ :=
        frame_continues serves ⟨.continuation, false, part⟩ rfl tracks
      have later := ih (serves.handled _) fed
      rw [length] at later
      exact .cons printed later

/-- A message opens one stream, fills it, and prints the line of its opening. -/
theorem message_fills (family : Family) (parts : List Bytes)
    (serves : Serves .streaming policy session) (idle : session.assembly.slot = .idle) :
    Fills session.assembly.streams.length family [] (session.assembly.streams.length + 1)
      (Fragments.ofParts (.ofFamily family) parts)
      [.line (line (streamEvent family session.assembly.streams.length) policy)] session := by
  have opens (fin : Bool) (part : Bytes) :=
    frame_opens serves ⟨.ofFamily family, fin, part⟩ idle rfl
  match parts with
  | [] =>
    obtain ⟨tracks, length, printed⟩ := opens true []
    exact .last rfl tracks length printed
  | [part] =>
    obtain ⟨tracks, length, printed⟩ := opens true part
    exact .last rfl tracks length printed
  | part :: next :: rest =>
    obtain ⟨tracks, length, printed⟩ := opens false part
    have later := continuations_fill (next :: rest) (serves.handled _) tracks
    rw [length] at later
    exact .cons printed later

end Streamed

end WebSocketSession.Demo
