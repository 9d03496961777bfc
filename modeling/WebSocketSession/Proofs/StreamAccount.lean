import WebSocketSession.Proofs.ReadingStyles

/-!
# The account of a stream of bytes

Both sides of a stream move in any turns, and the reader looks for its next chunk in any of the
three ways. What it finds is settled by what is unread, by how the message stands and by whether an
abort has been reported (`probeAnswer`). So nothing is lost, repeated, merged or put in another
order, every end comes after the last chunk, and a stream that was cut short is never at its end
before that has been reported (`stream_account`).
-/

set_option autoImplicit false
set_option relaxedAutoImplicit false

namespace WebSocketSession

/-- How a message that has been read as far as it goes shows to a read without waiting. -/
def Course.signal : Course → ReadOutcome
  | .live => .empty
  | .finished | .dropped => .finished
  | .aborted => .aborted

def probeAnswer (unread : List Bytes) (course : Course) (reported : Bool) (style : ReadStyle) :
    ReadOutcome :=
  match unread with
  | chunk :: _ => .ready (.bytes chunk)
  | [] =>
    if style = .take then course.signal
    else if reported then .atEnd else course.signal.waiting

def Reading.raises (reading : Reading) : Bool := reading.outcome == .failed .aborted

namespace Reader

private theorem use_bytes_take {course : Course} {reported : Bool} {stream : MessageStream}
    (stands : stream.Stands course reported) :
    ∃ later, (Reader.bytes stream).use .take =
      some (probeAnswer stream.unread course reported .take, .bytes later) := by
  obtain ⟨writes, seen, ceased⟩ := stands
  simp only [use, MessageStream.take, seen]
  cases reported with
  | true =>
    obtain ⟨rfl, drained⟩ := ceased rfl
    exact ⟨stream, by simp [drained, probeAnswer, Course.signal, ReadOutcome.ofTaken]⟩
  | false =>
    cases stream.unread with
    | cons chunk rest => exact ⟨_, rfl⟩
    | nil => cases course <;> exact ⟨_, by simp only [writes]; rfl⟩

private theorem use_bytes_probe {course : Course} {reported : Bool} {stream : MessageStream}
    (stands : stream.Stands course reported) {style : ReadStyle} (probes : style.probes = true) :
    ∃ later, (Reader.bytes stream).use style =
      some (probeAnswer stream.unread course reported style, .bytes later) := by
  have next : ∃ later, (Reader.bytes stream).use .next =
      some (probeAnswer stream.unread course reported .next, .bytes later) := by
    cases reported with
    | true =>
      have after : (Reader.bytes stream).AfterAbort := stands.seen
      refine ⟨stream, (after.use rfl).trans ?_⟩
      rw [(stands.ceased rfl).2]
      rfl
    | false =>
      have fresh : (Reader.bytes stream).abortSeen = false := stands.seen
      obtain ⟨later, take⟩ := use_bytes_take stands
      refine ⟨later, ?_⟩
      rw [← use_take fresh, take]
      cases stream.unread <;> rfl
  cases style with
  | take => exact use_bytes_take stands
  | next => exact next
  | poll =>
    obtain ⟨later, same⟩ := next
    refine ⟨later, (use_poll _).trans (same.trans ?_)⟩
    cases stream.unread <;> rfl
  | _ => cases probes

private theorem use_bytes_readAll {course : Course} {stream : MessageStream}
    (stands : stream.Stands course false) :
    (Reader.bytes stream).use .readAll = some
      (match course.writing with
        | .live => .pending
        | .ended => .ready (.bytes stream.unread.flatten)
        | .aborted => .failed .aborted, .gone) := by
  simp only [use, MessageStream.readAll, stands.seen, Bool.false_eq_true, if_false, gather_eq,
    stands.writing]
  cases course <;> rfl

end Reader

/-- How often an abort is raised: once if it was raised before it was reported otherwise. -/
def raisedOnce (readings : List Reading) : Nat :=
  match readings.find? Reading.reportsAbort with
  | some first => if first.style = .take then 0 else 1
  | none => 0

/-- After the report of an abort none is raised; before it, a look for the next chunk that reports
the abort raises it, unless it does not wait. -/
private theorem raised_concat {readings : List Reading} {unread : List Bytes} {course : Course}
    {last : Reading} (raised : readings.countP Reading.raises = raisedOnce readings)
    (drained : Reader.reported readings = true → course = .aborted ∧ unread = [])
    (answer : last.outcome = probeAnswer unread course (Reader.reported readings) last.style) :
    (readings ++ [last]).countP Reading.raises = raisedOnce (readings ++ [last]) := by
  obtain ⟨style, outcome⟩ := last
  rw [List.countP_append, raised, List.countP_singleton, raisedOnce, raisedOnce,
    List.find?_append]
  cases reported : Reader.reported readings with
  | true =>
    obtain ⟨rfl, rfl⟩ := drained reported
    rw [reported] at answer
    cases found : readings.find? Reading.reportsAbort with
    | none =>
      have unreported := List.any_eq_false.mpr (List.find?_eq_none.mp found)
      rw [Reader.reported, unreported] at reported
      cases reported
    | some first =>
      have silent : Reading.raises ⟨style, outcome⟩ = false := by
        obtain rfl : outcome = probeAnswer [] .aborted true style := answer
        by_cases waits : style = .take <;> simp [probeAnswer, waits, Course.signal, Reading.raises]
      rw [silent]
      rfl
  | false =>
    have none := List.find?_eq_none.mpr (List.any_eq_false.mp reported)
    obtain rfl : outcome = probeAnswer unread course false style := by rwa [reported] at answer
    rw [none, Option.none_or, List.find?_singleton, Nat.zero_add]
    cases unread with
    | cons chunk rest => rfl
    | nil =>
      by_cases waits : style = .take <;> cases course <;>
        simp [probeAnswer, waits, Course.signal, ReadOutcome.waiting, Reading.raises,
          Reading.reportsAbort]

/-- What is known of both sides of a stream of bytes whose reader only ever looked for its next
chunk. -/
structure StreamAccount (payloads : List Bytes) (course : Course) (pair : StreamPair) : Prop where
  /-- The chunks handed out are the first payloads written, empty ones apart, and the unread ones
  are the others. -/
  chunks : pair.readings.filterMap Reading.chunk? ++ pair.reader.unread.map .bytes =
    (Reader.filled payloads).map .bytes
  /-- The writing side has counted the bytes, as far as a machine word does, and is used up by the
  end. -/
  appended : pair.feed.map Feed.appended =
    if course = .live then some (min (payloads.map List.length).sum Numeral.sizeMax) else none
  next : ∀ style, style.probes = true →
    (pair.move (.read style)).readings = pair.readings ++
      [⟨style, probeAnswer pair.reader.unread course (Reader.reported pair.readings) style⟩]
  /-- An abort is reported if the message was cut short, and after the last chunk. -/
  drained : Reader.reported pair.readings = true → course = .aborted ∧ pair.reader.unread = []
  /-- An abort is raised at most once: by the reading that reported it first, if that waits. -/
  raised : pair.readings.countP Reading.raises = raisedOnce pair.readings
  whole : Reader.reported pair.readings = false → pair.reader.use .readAll = some
    (match course.writing with
      | .live => .pending
      | .ended => .ready (.bytes pair.reader.unread.flatten)
      | .aborted => .failed .aborted, .gone)

namespace StreamPair

private theorem stands_run {moves : List StreamMove} (probes : ∀ move ∈ moves, move.probes = true) :
    ∃ stream, ((opened .binary).run moves).reader = .bytes stream ∧
      stream.Stands (courseOf moves) (Reader.reported ((opened .binary).run moves).readings) := by
  have stands := (recorded_run .binary moves).history.stands
  obtain ⟨there, kind⟩ := kind_of_run .binary probes
  cases reader : ((opened .binary).run moves).reader with
  | gone => exact absurd reader there
  | text stream =>
    rw [reader] at kind
    cases kind.mp rfl
  | bytes stream =>
    rw [reader] at stands
    exact ⟨stream, rfl, stands⟩

private theorem readings_probe {pair : StreamPair} {course : Course} {stream : MessageStream}
    (reader : pair.reader = .bytes stream)
    (stands : stream.Stands course (Reader.reported pair.readings)) {style : ReadStyle}
    (probes : style.probes = true) :
    (pair.move (.read style)).readings = pair.readings ++
      [⟨style, probeAnswer stream.unread course (Reader.reported pair.readings) style⟩] := by
  obtain ⟨later, use⟩ := Reader.use_bytes_probe stands probes
  rw [← reader] at use
  rw [move_read use]

private theorem raised_run {moves : List StreamMove} (probes : ∀ move ∈ moves, move.probes = true) :
    ((opened .binary).run moves).readings.countP Reading.raises =
      raisedOnce ((opened .binary).run moves).readings := by
  induction moves using List.reverseRecOn with
  | nil => rfl
  | append_singleton moves last ih =>
    obtain ⟨earlier, now⟩ := List.forall_mem_append.mp probes
    obtain ⟨stream, reader, stands⟩ := stands_run earlier
    rw [run_concat]
    rcases ((opened .binary).run moves).move_cases last with ⟨style, rfl⟩ | ⟨same, -⟩
    · rw [readings_probe reader stands (now _ (List.mem_singleton_self _))]
      exact raised_concat (ih earlier) stands.ceased rfl
    · rw [same]
      exact ih earlier

end StreamPair

/-- However both sides of a stream take turns, the account of what was written holds of what was
read. -/
theorem stream_account {moves : List StreamMove} (probes : ∀ move ∈ moves, move.probes = true) :
    StreamAccount (payloadsOf moves) (courseOf moves) ((StreamPair.opened .binary).run moves) := by
  have recorded := StreamPair.recorded_run .binary moves
  have raised := StreamPair.raised_run probes
  obtain ⟨stream, reader, stands⟩ := StreamPair.stands_run probes
  generalize (StreamPair.opened .binary).run moves = pair at recorded raised reader stands ⊢
  have unread : pair.reader.unread = stream.unread := by rw [reader, Reader.unread]
  constructor
  case chunks =>
    have chunks := recorded.history.inLine.chunks
    rw [reader] at chunks ⊢
    apply chunks rfl
    intro gone
    cases gone
  case appended =>
    rw [recorded.feed]
    split <;> rfl
  case next =>
    intro style probes
    rw [unread]
    exact StreamPair.readings_probe reader stands probes
  case drained =>
    rw [unread]
    exact stands.ceased
  case raised => exact raised
  case whole =>
    intro unreported
    rw [unreported] at stands
    rw [unread, reader]
    exact Reader.use_bytes_readAll stands

/-- A stream that is cut short with a payload unread, read in every way: waiting after the last
payload raises the abort, and a read without waiting is told of it again. -/
theorem cut_stream_account :
    let moves : List StreamMove := [.append [1], .append [], .read .take, .append [2, 3], .abort,
      .append [4], .read .poll, .read .next, .read .take, .read .next]
    (∀ move ∈ moves, move.probes = true) ∧
      StreamAccount [[1], [], [2, 3]] .aborted ((StreamPair.opened .binary).run moves) ∧
      ((StreamPair.opened .binary).run moves).readings =
        [⟨.take, .ready (.bytes [1])⟩, ⟨.poll, .ready (.bytes [2, 3])⟩, ⟨.next, .failed .aborted⟩,
          ⟨.take, .aborted⟩, ⟨.next, .atEnd⟩] := by
  intro moves
  have probes : ∀ move ∈ moves, move.probes = true := by decide
  exact ⟨probes, stream_account probes, by decide +kernel⟩

end WebSocketSession
