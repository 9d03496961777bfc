import WebSocketSession.Proofs.Replay
import WebSocketSession.Proofs.StreamRun

/-!
# Streamed messages

A streamed message is one stream. `streams_follow_their_messages` puts together what has been shown
of it: who hands it out and when, what its reader can read and is told, until the session is
released and after, and that nothing the application does with it comes back to the session.
-/

set_option autoImplicit false
set_option relaxedAutoImplicit false

namespace WebSocketSession

variable {σ σ' ν ν' τ ε : Type}

def Event.stream? : Event → Option Nat
  | .textStream stream | .binaryStream stream => some stream
  | _ => none

def Farewell.course : Farewell → Course → Course
  | .keep, course => course
  | .release, course => course.endedAs .aborted
  | .dispose, course => course.endedAs .dropped

def readOperations (reads : List (Nat × ReadStyle)) : List (Operation σ τ) :=
  reads.map fun (stream, style) => .read stream style

namespace Session

variable {stream : Nat} {family : Family} {payloads : List Bytes} {course : Course}
  {readings : List Reading} {session : Session σ τ}

private theorem farewell_tracks (farewell : Farewell)
    (tracks : session.Tracks stream family payloads course readings) :
    ((farewell.apply : Step σ τ ν ε Unit) session).state.Tracks stream family payloads
      (farewell.course course) readings := by
  cases farewell with
  | keep => exact tracks
  | release =>
    have released : ((Farewell.release.apply : Step σ τ ν ε Unit) session).state =
        session.settled := by
      simp [Farewell.apply, release, settled]
    rw [released]
    exact settled_tracks tracks
  | dispose =>
    have disposed : ((Farewell.dispose.apply : Step σ τ ν ε Unit) session).state =
        { session with assembly := session.assembly.disposed } := by
      simp [Farewell.apply, dispose]
    rw [disposed]
    refine tracks.left (by decide) ?_ ?_ <;>
      cases held : session.assembly.slot <;>
        simp [Assembly.disposed, held, Slot.feeding, Feed.drop, Course.writing]

private theorem reads_track (host : Host σ Note τ) (reads : List (Nat × ReadStyle))
    (tracks : session.Tracks stream family payloads course readings) :
    (session.run host (readOperations reads)).Tracks stream family payloads course
      (readings ++ readingsIn stream (session.history host (readOperations reads))) := by
  induction reads generalizing session readings with
  | nil =>
    rw [readOperations, List.map_nil, history, readingsIn, List.flatMap_nil, List.append_nil]
    exact tracks
  | cons read rest ih =>
    obtain ⟨other, style⟩ := read
    have reacted := session.read_reacted other style
    have moved := tracks.moved (congrArg Slot.feeding reacted.slot)
      (Nat.le_of_eq reacted.opened.symm) (session.read_noted other style stream)
    have later := ih moved
    rw [List.append_assoc] at later
    exact later

end Session

private theorem Session.Alike.farewell {session : Session σ τ} {other : Session σ' τ}
    (alike : session.Alike other) (farewell : Farewell) :
    let done := (farewell.apply : Session.Step σ τ Note ε Unit) session
    let done' := (farewell.apply : Session.Step σ' τ ν ε Unit) other
    done.state.Alike done'.state ∧ driven done'.trace = driven done.trace := by
  have assembled {work : Assembly.Step Note ε Unit} {work' : Assembly.Step ν ε Unit}
      (agree : Assembly.Agree work work') :
      (Session.assembling work session).state.Alike (Session.assembling work' other).state ∧
        driven (Session.assembling work' other).trace =
          driven (Session.assembling work session).trace := by
    obtain ⟨-, later, -, -, seen⟩ := agree session.assembly other.assembly alike.assembly
    exact ⟨⟨alike.handlers, alike.policy, alike.connection, later⟩, seen⟩
  cases farewell with
  | keep => exact ⟨alike, rfl⟩
  | release => exact assembled Assembly.abandon_agree
  | dispose => exact assembled Assembly.dispose_agree

/-- What the course of a message says: it is in flight, it has ended, it was cut short. -/
structure Course.Means (course : Course) (live ceased short : Prop) : Prop where
  live : course = .live ↔ live
  ceased : course.writing = .ended ↔ ceased
  short : course = .aborted ↔ short

theorem Lived.course_iff {host : Host σ Note τ} {stream : Nat} {family : Family} {course : Course}
    {session : Session σ τ} {entries : List (Entry σ Note τ)}
    (lived : Lived host stream family course session entries) (farewell : Farewell) :
    ((farewell.course course).writing = .ended ↔
      (∃ frame ∈ acceptedIn host stream entries, frame.fin = true) ∨
        farewell = .dispose ∧ session.assembly.slot.stream? = some stream) ∧
    (farewell.course course = .aborted ↔
      (∃ entry ∈ entries, entry.Failed ∧ entry.Carries host stream) ∨
        farewell = .release ∧ session.assembly.slot.stream? = some stream) := by
  have kept := lived.kept
  rw [← lived.finished, ← lived.aborted, lived.tracks.stream?_iff]
  cases farewell <;> cases course <;>
    simp_all [Farewell.course, Course.endedAs, Course.writing]

/-- A stream stays tracked while its owner takes leave of the session and reads on. -/
theorem Lived.tracks_at_last {host : Host σ Note τ} {stream : Nat} {family : Family}
    {course : Course} {session : Session σ τ} {entries : List (Entry σ Note τ)}
    (lived : Lived host stream family course session entries) (farewell : Farewell)
    (reads : List (Nat × ReadStyle)) :
    let done := (farewell.apply : Session.Step σ τ Note Empty Unit) session
    (done.state.run host (readOperations reads)).Tracks stream family
      ((acceptedIn host stream entries).map Frame.payload) (farewell.course course)
      (readingsIn stream (entries ++ done.state.history host (readOperations reads))) := by
  intro done
  rw [readingsIn_append]
  exact Session.reads_track host reads (Session.farewell_tracks farewell lived.tracks)

private theorem Lived.means {host : Host σ Note τ} {stream : Nat} {family : Family}
    {course : Course}
    {session : Session σ τ} {entries : List (Entry σ Note τ)}
    (lived : Lived host stream family course session entries) (released : Bool) :
    let farewell : Farewell := if released then .release else .keep
    let left := ((farewell.apply : Session.Step σ τ Note ε Unit) session).state
    (farewell.course course).Means (left.assembly.slot.stream? = some stream)
      (∃ frame ∈ acceptedIn host stream entries, frame.fin = true)
      ((∃ entry ∈ entries, entry.Failed ∧ entry.Carries host stream) ∨
        released = true ∧ session.assembly.slot.stream? = some stream) := by
  intro farewell left
  obtain ⟨ceased, short⟩ := lived.course_iff farewell
  refine ⟨(Session.farewell_tracks farewell lived.tracks).stream?_iff.symm, ceased.trans ?_,
    short.trans ?_⟩
  · cases released <;> simp [farewell]
  · cases released <;> simp [farewell]

/-- A reader has followed a message that is in flight, has ended or was cut short. -/
structure Reader.Follows (family : Family) (payloads : List Bytes) (live ceased short : Prop)
    (readings : List Reading) (reader : Reader) : Prop where
  /-- Every reading was told how the message stood at its time. -/
  told : ∃ course : Course, course.Means live ceased short ∧
    History family payloads course readings reader ∧
    ∀ earlier reading more, readings = earlier ++ reading :: more →
      ∃ before stood asked later, History family before stood earlier asked ∧
        History.Earlier payloads course before stood ∧
        Answers stood (reported earlier) asked reading later
  /-- The payloads that are not empty have been handed out or wait, in order. -/
  line : InLine payloads readings reader
  /-- Once they are read, the next reading tells how the message stands. -/
  signals : reader.unread = [] → reported readings = false → ∀ style outcome later,
    style.probes = true → reader.use style = some (outcome, later) →
      Signals live ceased short reader.carried outcome

private theorem Reader.History.follows {family : Family} {payloads : List Bytes} {course : Course}
    {readings : List Reading} {reader : Reader} {live ceased short : Prop}
    (history : History family payloads course readings reader)
    (means : course.Means live ceased short) :
    Follows family payloads live ceased short readings reader where
  told := by
    refine ⟨course, means, history, fun earlier reading more split => ?_⟩
    obtain ⟨before, stood, asked, later, past, early, -, answers⟩ := history.answered split
    exact ⟨before, stood, asked, later, past, early, answers⟩
  line := history.inLine
  signals := by
    intro drained unreported style outcome later probes use
    have stands := history.stands
    rw [unreported] at stands
    have signals := signals_of_use stands drained probes use
    rwa [means.live, means.ceased, means.short] at signals

private theorem stream?_eq_bind_event? (segment : Segment σ ν τ) :
    segment.stream? = segment.event?.bind Event.stream? := by
  cases segment with
  | gap entry => rfl
  | message event span => cases event <;> rfl

/-- Every streamed message is one stream, handed out in the callback of its first fragment, which
can be read there. What its reader can read is the payloads of the fragments accepted, whatever the
policy, and then it is told how the message stands. All that the application does comes back to the
session in its answers alone. -/
theorem streams_follow_their_messages (host : Host σ ν τ) (app : σ) (handlers : Handlers)
    (policy : Policy) (pool : Pool) (operations : List (Operation σ τ)) (released : Bool)
    (reads : List (Nat × ReadStyle)) (host' : Host σ' ν' τ) (app' : σ')
    (operations' : List (Operation σ' τ)) :
    let start : Session σ τ := .start app handlers policy pool
    let start' : Session σ' τ := .start app' handlers policy pool
    let reached := start.run host.noting operations
    let entries := start.history host.noting operations
    let farewell : Farewell := if released then .release else .keep
    let done := (farewell.apply : Session.Step σ τ Note Empty Unit) reached
    let done' := (farewell.apply : Session.Step σ' τ ν' Empty Unit) (start'.run host' operations')
    let last := done.state.run host.noting (readOperations reads)
    ((deliveries (start.runTrace host.noting operations)).filterMap Event.stream? =
        List.range reached.assembly.streams.length ∧
      (∀ stream < reached.assembly.streams.length, ∃ family course,
        Lived host.noting stream family course reached entries ∧
        Reader.Follows family ((acceptedIn host.noting stream entries).map Frame.payload)
          (done.state.assembly.slot.stream? = some stream)
          (∃ frame ∈ acceptedIn host.noting stream entries, frame.fin = true)
          ((∃ entry ∈ entries, entry.Failed ∧ entry.Carries host.noting stream) ∨
            released = true ∧ reached.assembly.slot.stream? = some stream)
          (readingsIn stream
            (entries ++ done.state.history host.noting (readOperations reads)))
          (last.assembly.reader stream)) ∧
      ∀ stream, reached.assembly.streams.length ≤ stream →
        Awaited host.noting stream reached entries) ∧
    (start.run host operations = reached ∧
      driven (start.runTrace host operations) = driven (start.runTrace host.noting operations)) ∧
    (host'.transport = host.transport →
      operations'.filterMap Operation.drive? = operations.filterMap Operation.drive? →
      verdicts (start'.runTrace host'.noting operations') =
        verdicts (start.runTrace host.noting operations) →
          done.state.Alike done'.state ∧
            driven (start'.runTrace host' operations' ++ done'.trace) =
              driven (start.runTrace host.noting operations ++ done.trace)) := by
  intro start start' reached entries farewell done done' last
  have noting := start.run_noting host operations
  have lives (stream : Nat) := start.run_lived host operations rfl rfl stream
  refine ⟨⟨?_, fun stream opened => ?_, fun stream unopened => ?_⟩, noting,
    fun transport drives answers => ?_⟩
  · obtain ⟨segments, -, delivered, -, streams⟩ :=
      deliveries_accounted host.noting app handlers policy pool operations
    rw [delivered, ← streams, List.filterMap_filterMap]
    exact congrArg segments.filterMap
      (funext fun segment => (stream?_eq_bind_event? segment).symm)
  · rcases lives stream with
      ⟨-, family, course, lived⟩ | awaited
    · have tracks := lived.tracks_at_last farewell reads
      exact ⟨family, course, lived, tracks.history.follows (lived.means released)⟩
    · exact absurd awaited.unopened (Nat.not_le_of_lt opened)
  · rcases lives stream with ⟨opened, -⟩ | awaited
    · exact absurd unopened (Nat.not_le_of_lt opened)
    · exact awaited
  · have started : start.Alike start' := ⟨rfl, rfl, rfl, rfl, rfl, rfl⟩
    obtain ⟨alike, seen⟩ := Session.run_alike transport started drives answers
    rw [noting.1] at alike
    obtain ⟨left, shown⟩ := alike.farewell (ν := ν') (ε := Empty) farewell
    refine ⟨left, ?_⟩
    rw [driven_append, driven_append, seen, noting.2]
    exact congrArg _ shown

end WebSocketSession
