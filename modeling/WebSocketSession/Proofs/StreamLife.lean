import WebSocketSession.Proofs.BufferLending
import WebSocketSession.Proofs.Noting
import WebSocketSession.Proofs.Provenance

/-!
# The life of a stream in its session

`Session.Tracks` ties the history of a stream to the session: the stream is fed exactly as long as
its message is in flight. Every operation moves a tracked stream on by one step of its course
(`Course.Step`): it leaves it, adds a fragment that was accepted, ends it with the last one, or cuts
it short by failing.
-/

set_option autoImplicit false
set_option relaxedAutoImplicit false

namespace WebSocketSession

variable {σ ν τ ε : Type}

def Slot.feeding : Slot → Option (Family × Nat)
  | .streaming family stream _ => some (family, stream)
  | _ => none

theorem Slot.feeding_eq_some {slot : Slot} {family : Family} {stream : Nat} :
    slot.feeding = some (family, stream) ↔ ∃ feed, slot = .streaming family stream feed := by
  cases slot <;> simp [feeding]

namespace Session

/-- A frame goes to a stream, once the frame observer has let it pass: it is the first fragment of a
streamed message, whose stream is to be opened, or it belongs to the message in flight. -/
def accepts (stream : Nat) (session : Session σ τ) (frame : Frame) : Bool :=
  match session.assembly.slot with
  | .idle =>
    stream == session.assembly.streams.length &&
      frame.opcode.family?.any fun family => session.handlers.delivery family == some .streaming
  | .streaming family current _ => stream == current && frame.belongs family
  | .buffered .. => false

private theorem Reacted.accepts {session later : Session σ τ} (h : session.Reacted later)
    (stream : Nat) :
    later.accepts stream = session.accepts stream := by
  funext frame
  simp only [Session.accepts, h.slot, h.opened, h.handlers]

private theorem route_of_belongs {handlers : Handlers} {family : Family} {delivery : Delivery}
    {frame : Frame} (wanted : handlers.delivery family = some delivery)
    (belongs : frame.belongs family = true) :
    route handlers (some family) frame = .fragment family delivery := by
  have into (opcode : Opcode) :
      routeData handlers (some family) family opcode = .fragment family delivery := by
    simp [routeData, wanted]
  rcases Bool.or_eq_true_iff.mp belongs with kind | kind
  · rw [route, beq_iff_eq.mp kind]
    exact into .continuation
  · cases family <;> rw [route, beq_iff_eq.mp kind] <;> exact into _

private theorem accepts_iff {session : Session σ τ} (coherent : session.Coherent) (stream : Nat)
    (frame : Frame) :
    session.accepts stream frame = true ↔
      session.assembly.channel.stream = stream ∧
        ∃ family, route session.handlers session.inFlight frame = .fragment family .streaming := by
  cases held : session.assembly.slot with
  | idle =>
    have nothing : session.inFlight = none := by
      rw [inFlight, Assembly.inFlight, held]
      rfl
    simp only [accepts, Assembly.channel, held, Bool.and_eq_true, beq_iff_eq, nothing]
    constructor
    · rintro ⟨number, asked⟩
      obtain ⟨family, opens, wanted⟩ := (Option.any_eq_true ..).mp asked
      have kind : frame.opcode = .ofFamily family := by
        cases opcode : frame.opcode <;> rw [opcode] at opens <;> cases opens <;> rfl
      exact ⟨number.symm, family, route_of_opens (beq_iff_eq.mp wanted) kind⟩
    · rintro ⟨number, family, routed⟩
      obtain ⟨wanted, ⟨-, opens⟩ | ⟨current, -⟩⟩ := route_fragment routed
      · refine ⟨number.symm, ?_⟩
        rw [opens, Opcode.family?_ofFamily]
        exact beq_iff_eq.mpr wanted
      · cases current
  | buffered family loan =>
    simp only [accepts, held, Bool.false_eq_true, false_iff]
    rintro ⟨-, other, routed⟩
    have taken := coherent.takes routed
    rw [held, Slot.buffered_takes] at taken
    cases taken.2
  | streaming family current feed =>
    have flight : session.inFlight = some family := by
      rw [inFlight, Assembly.inFlight, held]
      rfl
    have wanted : session.handlers.delivery family = some .streaming := by
      unfold Coherent at coherent
      rw [held] at coherent
      exact coherent.1
    simp only [accepts, Assembly.channel, held, Bool.and_eq_true, beq_iff_eq, flight]
    constructor
    · rintro ⟨number, belongs⟩
      exact ⟨number.symm, family, route_of_belongs wanted belongs⟩
    · rintro ⟨number, other, routed⟩
      obtain ⟨-, ⟨idle, -⟩ | ⟨same, kind⟩⟩ := route_fragment routed
      · cases idle
      · cases same
        refine ⟨number.symm, ?_⟩
        rcases kind with kind | kind <;> simp [Frame.belongs, kind]

end Session

def Input.accepted (host : Host σ ν τ) (stream : Nat) (session : Session σ τ) : Input → List Frame
  | .frame received =>
    if (Session.call host (.frame received) session).ending.value?.isSome &&
        session.accepts stream received then [received]
    else []
  | _ => []

def Entry.accepted (host : Host σ ν τ) (stream : Nat) (entry : Entry σ ν τ) : List Frame :=
  match entry.operation with
  | .input given => given.accepted host stream entry.before
  | _ => []

def Entry.readings (stream : Nat) (entry : Entry σ Note τ) : List Reading :=
  match entry.operation with
  | .read other style =>
    readingsOf stream ((noteOf other style (entry.before.read other style).1).map .noted)
  | _ => readingsOf stream entry.outcome.trace

/-- The history of a stream that the session has opened, which feeds it as long as its message is in
flight. -/
structure Session.Tracks (stream : Nat) (family : Family) (payloads : List Bytes) (course : Course)
    (readings : List Reading) (session : Session σ τ) : Prop where
  history : Reader.History family payloads course readings (session.assembly.reader stream)
  bound : stream < session.assembly.streams.length
  live : course = .live → session.assembly.slot.feeding = some (family, stream)
  ceased : course ≠ .live → ∀ current, session.assembly.slot.feeding ≠ some (current, stream)

/-- How an operation moves the course of a message on, by the frames that it brings to it and by
whether it fails. -/
inductive Course.Step (failed : Prop) : List Frame → Course → Course → Prop where
  | ceased {course : Course} (done : course ≠ .live) : Step failed [] course course
  | stays (calm : ¬ failed) : Step failed [] .live .live
  | cut (fails : failed) : Step failed [] .live .aborted
  | grows {frame : Frame} (calm : ¬ failed) (more : frame.fin = false) :
    Step failed [frame] .live .live
  | ends {frame : Frame} (calm : ¬ failed) (last : frame.fin = true) :
    Step failed [frame] .live .finished

/-- How the operation that brings the first fragment leaves a message. -/
inductive Course.Begins (failed : Prop) (frame : Frame) : Course → Prop where
  | grows (calm : ¬ failed) (more : frame.fin = false) : Begins failed frame .live
  | cut (fails : failed) (more : frame.fin = false) : Begins failed frame .aborted
  | ends (last : frame.fin = true) : Begins failed frame .finished

def Course.ofFin (fin : Bool) : Course := if fin then .finished else .live

def Course.endedAs (course last : Course) : Course :=
  match course with
  | .live => last
  | course => course

def Reader.written (frame : Frame) (reader : Reader) : Reader :=
  if frame.fin then (reader.mapStream (·.push frame.payload)).mapStream (·.withWriting .ended)
  else reader.mapStream (·.push frame.payload)

private theorem Reader.Reads.eq_nil_of_gone {readings : List Reading} {later : Reader}
    (reads : Reader.gone.Reads readings later) : readings = [] := by
  cases reads with
  | nil => rfl
  | cons style outcome use => cases use

private theorem Reader.History.fragment {family : Family} {payloads : List Bytes}
    {readings : List Reading}
    {reader : Reader} (history : History family payloads .live readings reader) (frame : Frame) :
    History family (payloads ++ [frame.payload]) (.ofFin frame.fin) readings
      (reader.written frame) := by
  have fed := history.written frame.payload
  unfold Reader.written Course.ofFin
  cases frame.fin with
  | true => exact fed.ended .finished nofun
  | false => exact fed

namespace Session

namespace Tracks

variable {stream : Nat} {family : Family} {payloads : List Bytes} {course : Course}
  {readings : List Reading} {session later : Session σ τ}

/-- What leaves the feeding of streams as it is, and only reads, leaves a stream tracked. -/
theorem moved (tracks : session.Tracks stream family payloads course readings)
    (same : later.assembly.slot.feeding = session.assembly.slot.feeding)
    (opened : session.assembly.streams.length ≤ later.assembly.streams.length)
    {more : List Reading}
    (reads : (session.assembly.reader stream).Reads more (later.assembly.reader stream)) :
    later.Tracks stream family payloads course (readings ++ more) where
  history := tracks.history.reads reads
  bound := Nat.lt_of_lt_of_le tracks.bound opened
  live flight := same.trans (tracks.live flight)
  ceased done current := same ▸ tracks.ceased done current

theorem eq_live (tracks : session.Tracks stream family payloads course readings) {current : Family}
    (feeding : session.assembly.slot.feeding = some (current, stream)) :
    course = .live ∧ current = family := by
  have flight : course = .live := Decidable.byContradiction fun done =>
    tracks.ceased done current feeding
  have same := feeding.symm.trans (tracks.live flight)
  cases same
  exact ⟨flight, rfl⟩

end Tracks

private theorem streams_written (family : Family) (frame : Frame) (session : Session σ τ) :
    (session.fed family frame).assembly.streams =
      session.assembly.channel.streams.set session.assembly.channel.stream
        ((session.assembly.channel.streams[session.assembly.channel.stream]?.getD .gone).written
          frame) := by
  unfold fed Assembly.written Reader.written
  cases frame.fin with
  | true => simp only [if_true, Feed.finish, Feed.append_reader]
  | false => simp only [Bool.false_eq_true, if_false, Feed.append_reader]

private theorem feeding_fed (family : Family) (frame : Frame) (session : Session σ τ) :
    (session.fed family frame).assembly.slot.feeding =
      if frame.fin then none else some (family, session.assembly.channel.stream) := by
  obtain ⟨feed, slot⟩ := slot_fed family frame session
  rw [slot]
  cases frame.fin <;> rfl

theorem channel_of_idle {session : Session σ τ} (idle : session.assembly.slot = .idle) :
    session.assembly.channel = ⟨session.assembly.streams.length, .opened,
      session.assembly.streams ++ [.bytes .opened]⟩ := by
  rw [Assembly.channel, idle]

private theorem tracks_of_fragment {stream : Nat} {family : Family} {payloads : List Bytes}
    {fin : Bool}
    {readings : List Reading} {session : Session σ τ}
    (history : Reader.History family payloads (.ofFin fin) readings
      (session.assembly.reader stream))
    (bound : stream < session.assembly.streams.length)
    (feeding : session.assembly.slot.feeding = if fin then none else some (family, stream)) :
    session.Tracks stream family payloads (.ofFin fin) readings := by
  cases fin with
  | true => exact ⟨history, bound, nofun, fun _ current => by simp [feeding]⟩
  | false => exact ⟨history, bound, fun _ => feeding, fun ceased => absurd rfl ceased⟩

private theorem reader_read_intoText {session : Session σ τ} {stream : Nat} {inner : MessageStream}
    (bound : stream < session.assembly.streams.length)
    (reader : session.assembly.reader stream = .bytes inner) :
    (session.read stream .intoText).2.assembly.reader stream = .text inner.intoText := by
  simp only [read, bound, if_true, Assembly.read, reader, Reader.use, Option.map_some]
  simp [Assembly.reader, bound]

/-- A stream that is opened is tracked from its first fragment on, and its reader is as its family
asks for. -/
theorem tracks_opened {session : Session σ τ} (family : Family) (frame : Frame)
    (idle : session.assembly.slot = .idle) :
    let asked :=
      (session.fed family frame).presented family session.assembly.streams.length
    asked.Tracks session.assembly.streams.length family [frame.payload] (.ofFin frame.fin) [] ∧
      asked.assembly.reader session.assembly.streams.length =
        (Reader.opened family).written frame := by
  intro asked
  have streams := session.streams_written family frame
  have feeding := session.feeding_fed family frame
  rw [channel_of_idle idle] at feeding
  simp only [channel_of_idle idle, List.getElem?_concat_length, Option.getD_some] at streams
  have bound : session.assembly.streams.length <
      (session.fed family frame).assembly.streams.length := by
    simp [streams]
  have fed : (session.fed family frame).assembly.reader session.assembly.streams.length =
      (Reader.bytes .opened).written frame := by
    simp [Assembly.reader, streams]
  have reader : asked.assembly.reader session.assembly.streams.length =
      (Reader.opened family).written frame := by
    cases family with
    | binary => exact fed
    | text =>
      unfold Reader.written at fed ⊢
      cases fin : frame.fin <;> rw [fin] at fed <;> exact reader_read_intoText bound fed
  have reacted :=
    (session.fed family frame).presented_reacted family session.assembly.streams.length
  refine ⟨tracks_of_fragment ?_ ?_ ((congrArg Slot.feeding reacted.slot).trans feeding), reader⟩
  · rw [reader]
    exact Reader.History.opened.fragment frame
  · rw [reacted.opened]
    exact bound

namespace Tracks

variable {stream : Nat} {family : Family} {payloads : List Bytes} {course : Course}
  {readings : List Reading} {session later : Session σ τ}

theorem fed_self (tracks : session.Tracks stream family payloads .live readings) (frame : Frame) :
    (session.fed family frame).Tracks stream family (payloads ++ [frame.payload])
      (.ofFin frame.fin) readings := by
  obtain ⟨feed, held⟩ := Slot.feeding_eq_some.mp (tracks.live rfl)
  have channel : session.assembly.channel = ⟨stream, feed, session.assembly.streams⟩ := by
    rw [Assembly.channel, held]
  have streams := session.streams_written family frame
  have feeding := session.feeding_fed family frame
  rw [channel] at streams feeding
  have reader : (session.fed family frame).assembly.reader stream =
      (session.assembly.reader stream).written frame := by
    rw [Assembly.reader, streams, List.getElem?_set_self tracks.bound]
    rfl
  refine tracks_of_fragment ?_ ?_ feeding
  · rw [reader]
    exact tracks.history.fragment frame
  · rw [streams, List.length_set]
    exact tracks.bound

private theorem fed_other (tracks : session.Tracks stream family payloads course readings)
    (other : Family) (frame : Frame)
    (apart : session.assembly.channel.stream ≠ stream) :
    (session.fed other frame).Tracks stream family payloads course readings := by
  have streams := session.streams_written other frame
  have feeding := session.feeding_fed other frame
  have kept : session.assembly.channel.streams[stream]? = session.assembly.streams[stream]? ∧
      session.assembly.streams.length ≤ session.assembly.channel.streams.length := by
    unfold Assembly.channel
    split
    · exact ⟨rfl, Nat.le_refl _⟩
    · exact ⟨List.getElem?_append_left tracks.bound, by simp⟩
  -- A message in flight keeps the slot, so that no other one is fed.
  have done : course ≠ .live := by
    intro flight
    obtain ⟨feed, held⟩ := Slot.feeding_eq_some.mp (tracks.live flight)
    rw [Assembly.channel, held] at apart
    exact apart rfl
  have reader : (session.fed other frame).assembly.reader stream =
      session.assembly.reader stream := by
    rw [Assembly.reader, streams, List.getElem?_set_ne apart, kept.1, Assembly.reader]
  refine ⟨?_, ?_, fun flight => absurd flight done, fun _ current => ?_⟩
  · rw [reader]
    exact tracks.history
  · rw [streams, List.length_set]
    exact Nat.lt_of_lt_of_le tracks.bound kept.2
  · rw [feeding]
    cases frame.fin <;> simp [apart]

/-- When the message in flight ends, its stream ends with it, and the others stay. -/
theorem left (tracks : session.Tracks stream family payloads course readings) {last : Course}
    (ends : last ≠ .live) (idle : later.assembly.slot = .idle)
    (streams : later.assembly.streams =
      match session.assembly.slot.feeding with
      | some (_, current) => session.assembly.streams.set current
          ((session.assembly.reader current).mapStream (·.withWriting last.writing))
      | none => session.assembly.streams) :
    later.Tracks stream family payloads (course.endedAs last) readings := by
  have length : later.assembly.streams.length = session.assembly.streams.length := by
    rw [streams]
    split
    · exact List.length_set
    · rfl
  have history : Reader.History family payloads (course.endedAs last) readings
      (later.assembly.reader stream) := by
    by_cases flight : course = .live
    · have reader : later.assembly.reader stream =
          (session.assembly.reader stream).mapStream (·.withWriting last.writing) := by
        rw [tracks.live flight] at streams
        rw [Assembly.reader, streams, List.getElem?_set_self tracks.bound]
        rfl
      have history := tracks.history
      rw [reader]
      rw [flight] at history ⊢
      exact history.ended last ends
    · have reader : later.assembly.reader stream = session.assembly.reader stream := by
        rw [Assembly.reader, streams]
        split
        · rename_i current feeding
          have apart : current ≠ stream := by
            rintro rfl
            exact tracks.ceased flight _ feeding
          rw [List.getElem?_set_ne apart, Assembly.reader]
        · rfl
      have same : course.endedAs last = course := by
        cases course <;> first | rfl | exact absurd rfl flight
      rw [reader, same]
      exact tracks.history
  refine ⟨history, length ▸ tracks.bound, fun flight => ?_, fun _ current => ?_⟩
  · cases course <;> first | exact absurd flight ends | cases flight
  · simp [idle, Slot.feeding]

end Tracks

theorem settled_tracks {stream : Nat} {family : Family} {payloads : List Bytes} {course : Course}
    {readings : List Reading} {session : Session σ τ}
    (tracks : session.Tracks stream family payloads course readings) :
    session.settled.Tracks stream family payloads (course.endedAs .aborted) readings := by
  refine tracks.left nofun (Assembly.slot_abandoned _) ?_
  cases held : session.assembly.slot <;>
    simp [settled, Assembly.abandoned, held, Slot.feeding, Feed.abort, Course.writing]

theorem readingsOf_logged (stream : Nat) (records : List LogRecord) :
    readingsOf stream (records.map .logged) = [] := by
  simp [readingsOf, Occurrence.reading?]

private theorem readingsOf_loanTrace (stream : Nat) (family : Family) (session : Session σ τ) :
    readingsOf stream (session.loanTrace family) = [] := by
  unfold loanTrace Assembly.lendingTrace
  split <;> rfl

@[simp] theorem readingsOf_returnedTrace (stream : Nat) (loan : Loan) :
    readingsOf stream (Assembly.returnedTrace loan) = [] := rfl

private theorem reader_presented {family : Family} {stream other : Nat} (apart : stream ≠ other)
    (session : Session σ τ) :
    (session.presented family stream).assembly.reader other = session.assembly.reader other := by
  cases family with
  | binary => rfl
  | text =>
    unfold presented read
    simp only
    split
    · cases used : session.assembly.read stream .intoText with
      | none => rfl
      | some result =>
        obtain ⟨⟨outcome, reader⟩, -, rfl⟩ := Option.map_eq_some_iff.mp used
        exact (reader_replaced _ _ _ stream other reader).trans (if_neg fun both => apart both.1)
    · rfl

private theorem feeding_of_takes_buffered {slot : Slot} {family : Family}
    (takes : slot.Takes family .buffered) : slot.feeding = none := by
  cases slot with
  | streaming current stream feed => simp at takes
  | _ => rfl

def Unopened (stream : Nat) (readings : List Reading) (session : Session σ τ) : Prop :=
  session.assembly.streams.length ≤ stream ∧ readings = []

/-- What is known of a stream, given its readings, stays true whatever happens to other streams and
whatever is read. -/
structure Watch (stream : Nat) (known : List Reading → Session σ τ → Prop) : Prop where
  moved : ∀ {readings more session later}, known readings session →
    later.assembly.slot.feeding = session.assembly.slot.feeding →
    later.assembly.streams.length = session.assembly.streams.length →
    (session.assembly.reader stream).Reads more (later.assembly.reader stream) →
      known (readings ++ more) later
  fed : ∀ {readings session}, known readings session → ∀ (family : Family) (frame : Frame),
    session.assembly.channel.stream ≠ stream → known readings (session.fed family frame)

theorem tracks_watch (stream : Nat) (family : Family) (payloads : List Bytes) (course : Course) :
    Watch (σ := σ) (τ := τ) stream
      fun readings session => session.Tracks stream family payloads course readings where
  moved tracks same opened reads := tracks.moved same (Nat.le_of_eq opened.symm) reads
  fed tracks other frame apart := tracks.fed_other other frame apart

private theorem reader_of_unopened {stream : Nat} {session : Session σ τ}
    (unopened : session.assembly.streams.length ≤ stream) :
    session.assembly.reader stream = .gone := by
  rw [Assembly.reader, List.getElem?_eq_none unopened]
  rfl

theorem unopened_watch (stream : Nat) : Watch (σ := σ) (τ := τ) stream (Unopened stream) where
  moved := by
    rintro readings more session later ⟨unopened, rfl⟩ - opened reads
    rw [reader_of_unopened unopened] at reads
    exact ⟨opened ▸ unopened, reads.eq_nil_of_gone⟩
  fed := by
    rintro readings session ⟨unopened, rfl⟩ family frame apart
    refine ⟨?_, rfl⟩
    rw [streams_written, List.length_set]
    unfold Assembly.channel at apart ⊢
    split
    · exact unopened
    · rename_i other
      have new : session.assembly.streams.length ≠ stream := by
        cases held : session.assembly.slot <;> simp_all
      simp only [List.length_append, List.length_singleton]
      omega

namespace Watch

variable {stream : Nat} {known : List Reading → Session σ τ → Prop} {readings : List Reading}
  {session later : Session σ τ} {frame : Frame}

theorem still (watch : Watch stream known) (knows : known readings session)
    (same : later.assembly.slot.feeding = session.assembly.slot.feeding)
    (streams : later.assembly.streams = session.assembly.streams) : known readings later := by
  have reads : (session.assembly.reader stream).Reads [] (later.assembly.reader stream) := by
    rw [Assembly.reader, Assembly.reader, streams]
    exact .nil _
  have moved := watch.moved knows same (congrArg List.length streams) reads
  rwa [List.append_nil] at moved

theorem called (watch : Watch stream known) (knows : known readings session) (host : Host σ ν τ)
    (event : Event) :
    known (readings ++ readingsOf stream (call host.noting event session).trace)
      (call host.noting event session).state := by
  have reacted := call_reacted host.noting event session
  exact watch.moved knows (congrArg Slot.feeding reacted.slot) reacted.opened
    (call_noted host event session stream)

private theorem presented (watch : Watch stream known) (knows : known readings session)
    (family : Family)
    {new : Nat} (apart : new ≠ stream) : known readings (session.presented family new) := by
  have reacted := session.presented_reacted family new
  have reads : (session.assembly.reader stream).Reads []
      ((session.presented family new).assembly.reader stream) := by
    rw [reader_presented apart]
    exact .nil _
  have moved := watch.moved knows (congrArg Slot.feeding reacted.slot) reacted.opened reads
  rwa [List.append_nil] at moved

private theorem completed (watch : Watch stream known) (knows : known readings session)
    (host : Host σ ν τ)
    {family : Family} (takes : session.assembly.slot.Takes family .buffered) (extended : Loan) :
    let delivered := deliverMessage host.noting family extended.bytes (session.onLoan family)
    known
      (readings ++ readingsOf stream (session.loanTrace family ++
        (delivered.trace ++ Assembly.returnedTrace extended)))
      (delivered.state.repaid extended) := by
  intro delivered
  have lent : known readings (session.onLoan family) :=
    watch.still knows (feeding_of_takes_buffered takes).symm rfl
  have after : known (readings ++ readingsOf stream delivered.trace) delivered.state := by
    have silent : readingsOf stream [.counted (.message family .buffered)] = [] := rfl
    simp only [delivered, deliverMessage_run, Outcome.state_after, Outcome.trace_after,
      readingsOf_append, silent, List.nil_append]
    cases messageEvent family extended.bytes with
    | none =>
      simp only [readingsOf_nil, List.append_nil]
      exact lent
    | some event =>
      simp only [invoke_run]
      exact watch.called lent host event
  simp only [readingsOf_append, readingsOf_loanTrace, readingsOf_returnedTrace, List.nil_append,
    List.append_nil]
  exact watch.still after rfl rfl

end Watch

section Fates

variable {stream : Nat} {known known' : List Reading → Session σ τ → Prop}
  {readings : List Reading} {session : Session σ τ} {frame : Frame}

private theorem Fate.watched {host : Host σ ν τ}
    {done : Outcome (Session σ τ) (Occurrence Note) Fault Unit}
    (fate : Fate host.noting frame session done) (coherent : session.Coherent)
    (watch : Watch stream known) (refused : session.accepts stream frame = false)
    (knows : known readings session) :
    known (readings ++ readingsOf stream done.trace) done.state := by
  have unread {later : Session σ τ} (kept : known readings later)
      {trace : List (Occurrence Note)} (silent : readingsOf stream trace = []) :
      known (readings ++ readingsOf stream trace) later := by
    rw [silent, List.append_nil]
    exact kept
  have apart (family : Family)
      (routed : route session.handlers session.inFlight frame = .fragment family .streaming) :
      session.assembly.channel.stream ≠ stream := by
    intro same
    rw [← Bool.not_eq_true, accepts_iff coherent] at refused
    exact refused ⟨same, family, routed⟩
  cases fate with
  | passed records routed => exact unread knows (readingsOf_logged stream records)
  | wrong fault routed => exact unread knows rfl
  | noticed notice routed =>
    rw [invoke_run]
    exact watch.called knows host (.close notice)
  | overflowed family overflow routed takes appended =>
    have kept : known readings ((session.onLoan family).repaid (session.loan family)) :=
      watch.still knows (feeding_of_takes_buffered takes).symm rfl
    refine unread kept ?_
    rw [readingsOf_append, readingsOf_loanTrace, readingsOf_returnedTrace, List.append_nil]
  | kept family extended routed takes appended unfinished =>
    have kept : known readings ((session.onLoan family).keeping family extended) :=
      watch.still knows (feeding_of_takes_buffered takes).symm rfl
    exact unread kept (readingsOf_loanTrace stream family session)
  | completed family extended delivered routed takes appended finished delivery =>
    subst delivery
    exact watch.completed knows host takes extended
  | opened family routed idle =>
    have other := apart family routed
    have fed := watch.fed knows family frame other
    rw [channel_of_idle idle] at other
    have called := watch.called (watch.presented fed family other) host
      (streamEvent family session.assembly.streams.length)
    have silent : readingsOf stream [.counted (.message family .streaming)] = [] := rfl
    rw [deliverStream_run, invoke_run]
    simp only [Outcome.state_after, Outcome.trace_after, readingsOf_append, silent, feedTrace,
      readingsOf_logged, List.nil_append]
    exact called
  | continued family current feed routed held =>
    exact unread (watch.fed knows family frame (apart family routed))
      (readingsOf_logged stream _)

/-- What becomes of a frame that is accepted for a stream: it opens the stream, or is written to
it. -/
inductive Accepted (host : Host σ ν τ) (stream : Nat) (frame : Frame) (session : Session σ τ)
    (done : Outcome (Session σ τ) (Occurrence ν) Fault Unit) : Prop where
  | opened (family : Family) (opens : frame.opcode = .ofFamily family)
    (wanted : session.handlers.delivery family = some .streaming)
    (idle : session.assembly.slot = .idle) (number : stream = session.assembly.streams.length)
    (delivery : done = (invoke host (streamEvent family stream)
      ((session.fed family frame).presented family stream)).after
        (session.feedTrace family frame ++ [.counted (.message family .streaming)]))
  | continued (family : Family) (feeding : session.assembly.slot.feeding = some (family, stream))
    (written : done = ⟨.value (), session.fed family frame, session.feedTrace family frame⟩)

private theorem Fate.accepted {host : Host σ ν τ}
    {done : Outcome (Session σ τ) (Occurrence ν) Fault Unit} (fate : Fate host frame session done)
    (coherent : session.Coherent) (accepts : session.accepts stream frame = true) :
    Accepted host stream frame session done := by
  obtain ⟨number, family, routed⟩ := (accepts_iff coherent stream frame).mp accepts
  cases fate with
  | opened current routed' idle =>
    cases routed.symm.trans routed'
    rw [channel_of_idle idle] at number
    cases number
    obtain ⟨wanted, ⟨-, opens⟩ | ⟨current, -⟩⟩ := route_fragment routed
    · refine .opened family opens wanted idle rfl ?_
      rw [deliverStream_run, Outcome.after_after]
    · rw [inFlight, Assembly.inFlight, idle] at current
      cases current
  | continued current stream' feed routed' held =>
    cases routed.symm.trans routed'
    rw [Assembly.channel, held] at number
    cases number
    exact .continued family (by rw [held]; rfl) rfl
  | passed records routed' => cases routed.symm.trans routed'
  | wrong fault routed' => cases routed.symm.trans routed'
  | noticed notice routed' => cases routed.symm.trans routed'
  | overflowed current overflow routed' => cases routed.symm.trans routed'
  | kept current extended routed' => cases routed.symm.trans routed'
  | completed current extended delivered routed' => cases routed.symm.trans routed'

theorem attempt_watched (host : Host σ ν τ) {input : Input} (coherent : session.Coherent)
    (watch : Watch stream known) (refused : input.accepted host.noting stream session = [])
    (knows : known readings session) :
    known (readings ++ readingsOf stream (input.attempt host.noting session).trace)
      (input.attempt host.noting session).state := by
  cases input with
  | connect =>
    rw [Input.attempt, invoke_run]
    exact watch.called knows host .connect
  | protocolError request =>
    have unread : known (readings ++ []) session := by
      rw [List.append_nil]
      exact knows
    exact unread
  | frame frame =>
    have seen := call_reacted host.noting (.frame frame) session
    have called := watch.called knows host (.frame frame)
    have dispatched := dispatch_dispatched host.noting frame coherent
    change known (readings ++ readingsOf stream (dispatch host.noting frame session).trace)
      (dispatch host.noting frame session).state
    generalize dispatch host.noting frame session = done at dispatched ⊢
    cases dispatched with
    | stopped fails => exact called
    | followed done passes fate =>
      have apart : session.accepts stream frame = false := by
        rw [Input.accepted, passes] at refused
        cases accepts : session.accepts stream frame with
        | false => rfl
        | true => simp [accepts, Ending.value?] at refused
      rw [← seen.accepts stream] at apart
      have onwards := fate.watched (seen.coherent coherent) watch apart called
      rw [Outcome.trace_after, readingsOf_append, ← List.append_assoc]
      exact onwards

theorem attempt_accepted {host : Host σ ν τ} {input : Input} (coherent : session.Coherent)
    (accepted : input.accepted host stream session = [frame]) :
    input = .frame frame ∧ ∃ done, session.Passes host frame ∧
      input.attempt host session = done.after (call host (.frame frame) session).trace ∧
      Accepted host stream frame (session.observed host frame) done := by
  cases input with
  | frame received =>
    have seen := call_reacted host (.frame received) session
    obtain ⟨both, same⟩ := ite_eq_iff.mp accepted |>.resolve_right (by simp)
    cases same
    obtain ⟨passed, accepts⟩ := Bool.and_eq_true_iff.mp both
    rw [← seen.accepts stream] at accepts
    refine ⟨rfl, ?_⟩
    have dispatched := dispatch_dispatched host frame coherent
    change ∃ done, _ ∧ dispatch host frame session = _ ∧ _
    generalize dispatch host frame session = done at dispatched ⊢
    cases dispatched with
    | stopped fails =>
      cases ending : (call host (.frame frame) session).ending with
      | value _ => exact absurd ending fails
      | _ =>
        rw [ending] at passed
        cases passed
    | followed done passes fate =>
      exact ⟨done, passes, rfl, fate.accepted (seen.coherent coherent) accepts⟩
  | _ => cases accepted

end Fates

end Session

end WebSocketSession
