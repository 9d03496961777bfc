import WebSocketSession.Proofs.StreamMessages
import WebSocketSession.Script

/-!
# Messages that were cut short

How the end of a message shows to its reader. A reader takes a message for complete only if its last
fragment has been accepted, or if its session was let go of without a word (`first_end_signal`).
Once an abort has been reported, the rest of the message is read as nothing, without an error
(`whole_read_after_abort`).
-/

set_option autoImplicit false
set_option relaxedAutoImplicit false

namespace WebSocketSession

variable {σ ν τ : Type}

inductive EndSignal where
  | clean
  | aborted
  | malformed
  deriving DecidableEq

/-- The end signal of a reading: the end of the chunks, a whole message, or an error. -/
def Reading.signal? (reading : Reading) : Option EndSignal :=
  match reading.outcome with
  | .finished | .atEnd => some .clean
  | .ready _ => if reading.style = .readAll then some .clean else none
  | .aborted | .failed .aborted => some .aborted
  | .failed _ => some .malformed
  | .empty | .pending | .quiet => none

def firstSignal (readings : List Reading) : Option EndSignal :=
  readings.findSome? Reading.signal?

private theorem Reading.reportsAbort_of_no_signal {reading : Reading}
    (none : reading.signal? = none) :
    reading.reportsAbort = false := by
  obtain ⟨style, outcome⟩ := reading
  cases outcome with
  | failed error => cases error <;> cases none
  | aborted => cases none
  | _ => rfl

namespace Reader

private theorem History.text {family : Family} {payloads : List Bytes} {course : Course}
    {readings : List Reading} {reader : Reader}
    (history : History family payloads course readings reader) (text : reader.isText = true) :
    family = .text ∨ ∃ reading ∈ readings, reading.style = .intoText := by
  induction history with
  | opened =>
    cases family with
    | text => exact .inl rfl
    | binary => cases text
  | written payload before ih =>
    rw [isText_mapStream] at text
    exact ih text
  | ended course before ceased ih =>
    rw [isText_mapStream] at text
    exact ih text
  | @used payloads course readings reader later style outcome before use ih =>
    by_cases made : style = .intoText
    · exact .inr ⟨⟨style, outcome⟩, by simp, made⟩
    · have already : reader.isText = true := by
        cases reader with
        | gone => cases use
        | text stream => rfl
        | bytes stream =>
          cases style <;> cases use <;> first | exact absurd rfl made | cases text
      exact (ih already).imp id fun ⟨reading, member, reads⟩ =>
        ⟨reading, List.mem_append_left _ member, reads⟩

end Reader

/-- What an end signal says of the message and its reader. -/
def EndSignal.Means (ceased short text : Prop) : EndSignal → Prop
  | .clean => ceased
  | .aborted => short
  | .malformed => text

namespace Reader

private theorem Answers.means {course : Course} {reader later : Reader} {reading : Reading}
    {signal : EndSignal} (answers : Answers course false reader reading later)
    (signals : reading.signal? = some signal) :
    signal.Means (course.writing = .ended) (course = .aborted) (reader.isText = true) := by
  cases answers with
  | chunk style piece => simp [Reading.signal?, piece] at signals
  | text style piece => simp [Reading.signal?, piece] at signals
  | whole chunk ceased =>
    cases signals
    exact ceased
  | waits style outcome later nothing => rcases nothing with rfl | rfl <;> cases signals
  | ends style outcome later signal ceased =>
    rcases signal with rfl | rfl <;> cases signals <;> exact ceased
  | cut style outcome later signal short =>
    rcases signal with rfl | rfl <;> cases signals <;> exact short
  | again style outcome later before => cases before
  | malformed style used later line invalid reads =>
    cases signals
    exact reads
  | truncated style later ceased part still reads =>
    cases signals
    exact reads
  | quiet style unread => cases signals

private theorem History.means {family : Family} {payloads : List Bytes} {course : Course}
    {readings : List Reading} {reader : Reader} {signal : EndSignal}
    (history : History family payloads course readings reader)
    (first : firstSignal readings = some signal) :
    signal.Means (course.writing = .ended) (course = .aborted)
      (family = .text ∨ ∃ reading ∈ readings, reading.style = .intoText) := by
  obtain ⟨earlier, reading, more, split, signals, silent⟩ := List.findSome?_eq_some_iff.mp first
  obtain ⟨before, stood, asked, later, past, early, -, answers⟩ := history.answered split
  -- A reading that reports an abort is an end signal itself, so none came before the first one.
  have unreported : reported earlier = false := List.any_eq_false.mpr fun other member => by
    simp [Reading.reportsAbort_of_no_signal (silent other member)]
  rw [unreported] at answers
  have means := answers.means signals
  cases signal with
  | clean =>
    rcases early.stood with rfl | ⟨rfl, -⟩
    · cases means
    · exact means
  | aborted =>
    rcases early.stood with rfl | ⟨rfl, -⟩
    · cases means
    · exact means
  | malformed =>
    exact (past.text means).imp id fun ⟨other, member, reads⟩ =>
      ⟨other, by rw [split]; exact List.mem_append_left _ member, reads⟩

end Reader

/-- If the first end signal that a reader sees is a clean one, the last fragment has been accepted,
or the session was let go of with the message in flight. If it is an abort, an operation failed
while the message was in flight, or the session was released. Any other error is one of text. -/
theorem first_end_signal (host : Host σ ν τ) (app : σ) (handlers : Handlers) (policy : Policy)
    (pool : Pool) (operations : List (Operation σ τ)) (farewell : Farewell)
    (reads : List (Nat × ReadStyle)) :
    let start : Session σ τ := .start app handlers policy pool
    let reached := start.run host.noting operations
    let entries := start.history host.noting operations
    let done := (farewell.apply : Session.Step σ τ Note Empty Unit) reached
    let later := done.state.history host.noting (readOperations reads)
    ∀ stream < reached.assembly.streams.length, ∀ signal,
      firstSignal (readingsIn stream (entries ++ later)) = some signal →
        signal.Means
          ((∃ frame ∈ acceptedIn host.noting stream entries, frame.fin = true) ∨
            farewell = .dispose ∧ reached.assembly.slot.stream? = some stream)
          ((∃ entry ∈ entries, entry.Failed ∧ entry.Carries host.noting stream) ∨
            farewell = .release ∧ reached.assembly.slot.stream? = some stream)
          ((∃ entry ∈ entries, entry.delivered = [.textStream stream]) ∨
            ∃ reading ∈ readingsIn stream (entries ++ later), reading.style = .intoText) := by
  intro start reached entries done later stream opened signal first
  rcases start.run_lived host operations rfl rfl stream with
    ⟨-, family, course, lived⟩ | awaited
  · have means := (lived.tracks_at_last farewell reads).history.means first
    obtain ⟨ceased, short⟩ := lived.course_iff farewell
    cases signal with
    | clean => exact ceased.mp means
    | aborted => exact short.mp means
    | malformed =>
      refine means.imp (fun text => ?_) id
      obtain ⟨before, entry, after, frame, split, -, -, handsOut, -⟩ := lived.opening
      have delivered := handsOut.delivered
      rw [text] at delivered
      have member : entry ∈ start.history host.noting operations := by
        rw [split]
        simp
      exact ⟨entry, member, delivered⟩
  · exact absurd awaited.unopened (Nat.not_le_of_lt opened)

/-- A message of one fragment is read to its end, and one whose session comes to a close after its
first fragment is read as aborted. -/
theorem end_and_abort_are_signalled :
    let start : Session Script Recorder :=
      .start ⟨[]⟩ (.ofRegistrations [.message .binary .streaming]) .default (.empty 4)
    let complete : List (Operation Script Recorder) := [.input (.frame ⟨.binary, true, [1]⟩)]
    let cut : List (Operation Script Recorder) :=
      [.input (.frame ⟨.binary, false, [1]⟩), .input (.protocolError ⟨.protocolError, "torn"⟩)]
    let entriesOf (operations : List (Operation Script Recorder)) :=
      start.history Script.host.noting operations
    let readingsAfter (operations : List (Operation Script Recorder)) :=
      readingsIn 0 (entriesOf operations ++ (start.run Script.host.noting operations).history
        Script.host.noting (readOperations [(0, .take), (0, .take)]))
    (0 < (start.run Script.host.noting complete).assembly.streams.length ∧
      firstSignal (readingsAfter complete) = some .clean ∧
      ((∃ frame ∈ acceptedIn Script.host.noting 0 (entriesOf complete), frame.fin = true) ∨
        Farewell.keep = .dispose ∧
          (start.run Script.host.noting complete).assembly.slot.stream? = some 0)) ∧
    0 < (start.run Script.host.noting cut).assembly.streams.length ∧
      firstSignal (readingsAfter cut) = some .aborted ∧
      ((∃ entry ∈ entriesOf cut, entry.Failed ∧ entry.Carries Script.host.noting 0) ∨
        Farewell.keep = .release ∧
          (start.run Script.host.noting cut).assembly.slot.stream? = some 0) := by
  intro start complete cut entriesOf readingsAfter
  have signals (operations : List (Operation Script Recorder)) :=
    first_end_signal Script.host ⟨[]⟩ (.ofRegistrations [.message .binary .streaming]) .default
      (.empty 4) operations .keep [(0, .take), (0, .take)] 0
  have completed : 0 < (start.run Script.host.noting complete).assembly.streams.length := by
    decide +kernel
  have ended : firstSignal (readingsAfter complete) = some .clean := by decide +kernel
  have opened : 0 < (start.run Script.host.noting cut).assembly.streams.length := by
    decide +kernel
  have aborted : firstSignal (readingsAfter cut) = some .aborted := by decide +kernel
  exact ⟨⟨completed, ended, signals complete completed .clean ended⟩,
    opened, aborted, signals cut opened .aborted aborted⟩

/-- A session that is let go of in the middle of a message: its reader gets what has arrived, and
then the end of a message whose last fragment never came. -/
theorem disposed_in_flight_reads_as_complete :
    let start : Session Script Recorder :=
      .start ⟨[]⟩ (.ofRegistrations [.message .binary .streaming]) .default (.empty 4)
    let operations : List (Operation Script Recorder) :=
      [.input (.frame ⟨.binary, false, [1]⟩)]
    let entries := start.history Script.host.noting operations
    let done := (Farewell.dispose.apply : Session.Step Script Recorder Note Empty Unit)
      (start.run Script.host.noting operations)
    let later := done.state.history Script.host.noting (readOperations [(0, .take), (0, .take)])
    firstSignal (readingsIn 0 (entries ++ later)) = some .clean ∧
      ∀ frame ∈ acceptedIn Script.host.noting 0 entries, frame.fin = false := by
  decide +kernel

/-- The rest of a message that was cut short cannot be read, unless an abort has been reported
already: then it is read as nothing. -/
theorem whole_read_after_abort {family : Family} {payloads : List Bytes} {readings : List Reading}
    {reader : Reader} (history : Reader.History family payloads .aborted readings reader)
    (there : reader ≠ .gone) :
    ∃ outcome, reader.use .readAll = some (outcome, .gone) ∧
      if Reader.reported readings then ∃ chunk, outcome = .ready chunk ∧ chunk.content = []
      else outcome = .failed .aborted ∨ outcome = .failed .invalidUtf8 ∧ reader.isText = true := by
  have stands := history.stands
  generalize Reader.reported readings = reported at stands ⊢
  cases reader with
  | gone => exact absurd rfl there
  | bytes stream =>
    refine ⟨_, rfl, ?_⟩
    have seen : stream.abortSeen = reported := stands.seen
    have writes : stream.writing = .aborted := stands.writing
    cases reported with
    | true =>
      simp only [MessageStream.readAll, seen, if_true]
      exact ⟨_, rfl, rfl⟩
    | false =>
      simp only [MessageStream.readAll, seen, Reader.gather_eq, writes, Bool.false_eq_true,
        if_false]
      exact .inl rfl
  | text stream =>
    refine ⟨_, rfl, ?_⟩
    obtain ⟨inner, carriable, uncarried⟩ := stands
    have writes : stream.inner.writing = .aborted := inner.writing
    cases reported with
    | true =>
      simp only [TextStream.readAll, inner.seen, uncarried rfl, if_true]
      exact ⟨_, rfl, rfl⟩
    | false =>
      simp only [TextStream.readAll, inner.seen, TextStream.gather_eq carriable, writes,
        Bool.false_eq_true, if_false]
      split
      · exact .inr ⟨rfl, rfl⟩
      · exact .inl rfl

private theorem abort_read : Reader.History .binary [[1]] .aborted
    [⟨.take, .ready (.bytes [1])⟩, ⟨.take, .aborted⟩] (.bytes ⟨[], .aborted, true⟩) :=
  have written := (Reader.History.opened : Reader.History .binary ..).written [1]
  have ended := written.ended .aborted nofun
  (ended.used .take (.ready (.bytes [1])) rfl).used .take .aborted rfl

/-- What is left of a message of one byte after its abort has been read. -/
theorem nothing_left_after_abort :
    Reader.History .binary [[1]] .aborted [⟨.take, .ready (.bytes [1])⟩, ⟨.take, .aborted⟩]
        (.bytes ⟨[], .aborted, true⟩) ∧
      Reader.bytes ⟨[], .aborted, true⟩ ≠ .gone ∧
      ∃ outcome, (Reader.bytes ⟨[], .aborted, true⟩).use .readAll = some (outcome, .gone) ∧
        ∃ chunk, outcome = .ready chunk ∧ chunk.content = [] :=
  ⟨abort_read, nofun, whole_read_after_abort abort_read nofun⟩

/-- A whole message can be read from a stream that was cut short. -/
theorem cut_short_reads_as_whole :
    ¬ ∀ (family : Family) (payloads : List Bytes) (readings : List Reading) (reader : Reader),
      Reader.History family payloads .aborted readings reader →
        ∀ chunk later, reader.use .readAll ≠ some (.ready chunk, later) :=
  fun fails => fails .binary [[1]] _ _ abort_read (.bytes []) .gone rfl

end WebSocketSession
