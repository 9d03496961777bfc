import Mathlib.Algebra.GroupWithZero.Nat
import Mathlib.Data.List.Induction
import Mathlib.Data.List.TakeWhile
import WebSocketSession.Proofs.StreamHistory

/-!
# Both sides of one stream

The two sides of a stream move in any turns (`StreamMove`): the writing side appends, until one of
three ends uses it up, and the reader is used in any of the ways. `StreamPair.run` makes the moves
and keeps the readings; what the moves come to is told by the payloads appended before the end and
by the end (`Recorded`), and every run is a history of its stream (`recorded_run`).
-/

set_option autoImplicit false
set_option relaxedAutoImplicit false

namespace WebSocketSession

/-- A move of one side of a stream: a payload is appended, the stream is ended cleanly, cut short or
let go of, or its reader is used. -/
inductive StreamMove where
  | append (payload : Bytes)
  | finish
  | abort
  | letGo
  | read (style : ReadStyle)
  deriving DecidableEq

namespace StreamMove

def payload? : StreamMove → Option Bytes
  | .append payload => some payload
  | _ => none

def end? : StreamMove → Option Course
  | .finish => some .finished
  | .abort => some .aborted
  | .letGo => some .dropped
  | .append _ | .read _ => none

def probes : StreamMove → Bool
  | .read style => style.probes
  | _ => true

private theorem live_ne_of_end {move : StreamMove} {course : Course}
    (ends : move.end? = some course) :
    course ≠ .live := by
  cases move <;> cases ends <;> nofun

end StreamMove

def payloadsOf (moves : List StreamMove) : List Bytes :=
  (moves.takeWhile (·.end?.isNone)).filterMap StreamMove.payload?

def courseOf (moves : List StreamMove) : Course :=
  (moves.findSome? StreamMove.end?).getD .live

private theorem courseOf_eq_live_iff {moves : List StreamMove} :
    courseOf moves = .live ↔ ∀ move ∈ moves, move.end? = none := by
  rw [← List.findSome?_eq_none_iff, courseOf]
  constructor
  · intro live
    cases found : moves.findSome? StreamMove.end? with
    | none => rfl
    | some course =>
      rw [found] at live
      obtain ⟨move, -, ends⟩ := List.exists_of_findSome?_eq_some found
      exact absurd live (StreamMove.live_ne_of_end ends)
  · intro none
    rw [none]
    rfl

private theorem courseOf_concat (moves : List StreamMove) (move : StreamMove) :
    courseOf (moves ++ [move]) =
      if courseOf moves = .live then move.end?.getD .live else courseOf moves := by
  split
  · rename_i live
    have none := List.findSome?_eq_none_iff.mpr (courseOf_eq_live_iff.mp live)
    rw [courseOf, List.findSome?_append, none]
    cases ends : move.end? <;> simp [ends]
  · rename_i ended
    cases found : moves.findSome? StreamMove.end? with
    | none => exact absurd (by rw [courseOf, found]; rfl) ended
    | some course => rw [courseOf, courseOf, List.findSome?_append, found, Option.some_or]

private theorem payloadsOf_concat (moves : List StreamMove) (move : StreamMove) :
    payloadsOf (moves ++ [move]) =
      if courseOf moves = .live then payloadsOf moves ++ move.payload?.toList
      else payloadsOf moves := by
  split
  · rename_i live
    have all : ∀ earlier ∈ moves, earlier.end?.isNone = true := fun earlier member => by
      rw [courseOf_eq_live_iff.mp live earlier member]
      rfl
    rw [payloadsOf, payloadsOf, List.takeWhile_append_of_pos all,
      List.takeWhile_eq_self_iff.mpr all, List.filterMap_append]
    cases move <;> rfl
  · rename_i ended
    have some : ¬ ∀ earlier ∈ moves, earlier.end?.isNone = true := fun all =>
      ended (courseOf_eq_live_iff.mpr fun earlier member =>
        Option.isNone_iff_eq_none.mp (all earlier member))
    have shorter : (moves.takeWhile (·.end?.isNone)).length ≠ moves.length := fun same =>
      some (List.takeWhile_eq_self_iff.mp
        ((List.takeWhile_prefix _).eq_of_length same))
    rw [payloadsOf, payloadsOf, List.takeWhile_append, if_neg shorter]

namespace Reader

theorem kind_of_use {reader later : Reader} {style : ReadStyle} {outcome : ReadOutcome}
    (probes : style.probes = true) (use : reader.use style = some (outcome, later)) :
    later ≠ .gone ∧ later.isText = reader.isText := by
  cases reader <;> cases style <;> cases probes <;> cases use <;> exact ⟨nofun, rfl⟩

/-- As long as a reader only looks for the next piece, it stays of the kind of its family. -/
theorem History.kind {family : Family} {payloads : List Bytes} {course : Course}
    {readings : List Reading} {reader : Reader}
    (history : History family payloads course readings reader)
    (probes : ∀ reading ∈ readings, reading.style.probes = true) :
    reader ≠ .gone ∧ (reader.isText = true ↔ family = .text) := by
  induction history with
  | opened => cases family <;> simp [Reader.opened, isText]
  | written payload before ih => simpa using ih probes
  | ended course before ceased ih => simpa using ih probes
  | used style outcome before use ih =>
    obtain ⟨earlier, last⟩ := List.forall_mem_append.mp probes
    obtain ⟨stays, same⟩ := kind_of_use (last _ (List.mem_singleton_self _)) use
    rw [same]
    exact ⟨stays, (ih earlier).2⟩

end Reader

/-- Both sides of a stream, and the readings made. An end uses up the writing side. -/
structure StreamPair where
  feed : Option Feed
  reader : Reader
  readings : List Reading
  deriving DecidableEq

namespace StreamPair

def opened (family : Family) : StreamPair := ⟨some .opened, .opened family, []⟩

def endBy (pair : StreamPair) (last : Feed → Reader) : StreamPair :=
  match pair.feed with
  | some feed => { pair with feed := none, reader := last feed }
  | none => pair

def move (pair : StreamPair) : StreamMove → StreamPair
  | .append payload =>
    match pair.feed with
    | some feed =>
      let (fed, reader, _) := feed.append payload pair.reader
      { pair with feed := some fed, reader := reader }
    | none => pair
  | .finish => pair.endBy fun feed => (feed.finish pair.reader).1
  | .abort => pair.endBy fun feed => (feed.abort pair.reader).1
  | .letGo => pair.endBy fun _ => Feed.drop pair.reader
  | .read style =>
    match pair.reader.use style with
    | some (outcome, reader) =>
      { pair with reader := reader, readings := pair.readings ++ [⟨style, outcome⟩] }
    | none => pair

def run (pair : StreamPair) (moves : List StreamMove) : StreamPair :=
  moves.foldl move pair

theorem run_concat (pair : StreamPair) (moves : List StreamMove) (last : StreamMove) :
    pair.run (moves ++ [last]) = (pair.run moves).move last := by
  simp only [run, List.foldl_append, List.foldl_cons, List.foldl_nil]

theorem move_read {pair : StreamPair} {style : ReadStyle} {outcome : ReadOutcome} {later : Reader}
    (use : pair.reader.use style = some (outcome, later)) :
    pair.move (.read style) = ⟨pair.feed, later, pair.readings ++ [⟨style, outcome⟩]⟩ := by
  simp only [move, use]

private theorem read_cases (pair : StreamPair) (style : ReadStyle) :
    (∃ outcome later, pair.reader.use style = some (outcome, later) ∧
      pair.move (.read style) = ⟨pair.feed, later, pair.readings ++ [⟨style, outcome⟩]⟩) ∨
    pair.reader = .gone ∧ pair.move (.read style) = pair := by
  cases used : pair.reader.use style with
  | some answer => exact .inl ⟨answer.1, answer.2, rfl, move_read used⟩
  | none =>
    refine .inr ⟨?_, by simp only [move, used]⟩
    cases reader : pair.reader with
    | gone => rfl
    | _ =>
      rw [reader] at used
      cases style <;> cases used

private theorem mapStream_id (reader : Reader) : reader.mapStream id = reader := by
  cases reader <;> rfl

/-- A move of the writing side changes the stream, if anything, and makes no reading. -/
theorem move_cases (pair : StreamPair) (move : StreamMove) :
    (∃ style, move = .read style) ∨
      (pair.move move).readings = pair.readings ∧
        ∃ change, (pair.move move).reader = pair.reader.mapStream change := by
  cases move with
  | read style => exact .inl ⟨style, rfl⟩
  | append payload =>
    refine .inr ?_
    rw [StreamPair.move]
    cases pair.feed with
    | none => exact ⟨rfl, id, (mapStream_id _).symm⟩
    | some feed => exact ⟨rfl, _, feed.append_reader payload pair.reader⟩
  | _ =>
    refine .inr ?_
    rw [StreamPair.move, endBy]
    cases pair.feed with
    | none => exact ⟨rfl, id, (mapStream_id _).symm⟩
    | some feed => exact ⟨rfl, _, rfl⟩

theorem probes_run (family : Family) {moves : List StreamMove}
    (probes : ∀ move ∈ moves, move.probes = true) :
    ∀ reading ∈ ((opened family).run moves).readings, reading.style.probes = true := by
  induction moves using List.reverseRecOn with
  | nil => nofun
  | append_singleton moves last ih =>
    obtain ⟨earlier, now⟩ := List.forall_mem_append.mp probes
    have before := ih earlier
    rw [run_concat]
    generalize (opened family).run moves = pair at before
    rcases pair.move_cases last with ⟨style, rfl⟩ | ⟨same, -⟩
    · rcases pair.read_cases style with ⟨outcome, later, -, moved⟩ | ⟨-, moved⟩
      · rw [moved]
        refine List.forall_mem_append.mpr ⟨before, List.forall_mem_singleton.mpr ?_⟩
        exact now (.read style) (List.mem_singleton_self _)
      · rw [moved]
        exact before
    · rw [same]
      exact before

def count (payloads : List Bytes) : Nat := min (payloads.map List.length).sum Numeral.sizeMax

private theorem count_concat (payloads : List Bytes) (payload : Bytes) :
    count (payloads ++ [payload]) = min (count payloads + payload.length) Numeral.sizeMax := by
  simp only [count, List.map_append, List.sum_append, List.map_cons, List.map_nil, List.sum_cons,
    List.sum_nil]
  omega

/-- The pair stands where these payloads and this course of the message have brought it: its
readings are a history of the stream, and the writing side is there as long as the message is in
flight. -/
structure Recorded (family : Family) (payloads : List Bytes) (course : Course)
    (pair : StreamPair) : Prop where
  history : Reader.History family payloads course pair.readings pair.reader
  feed : pair.feed = if course = .live then some ⟨count payloads⟩ else none

namespace Recorded

variable {family : Family} {payloads : List Bytes} {course : Course} {pair : StreamPair}

private theorem opened (family : Family) : (StreamPair.opened family).Recorded family [] .live :=
  ⟨.opened, rfl⟩

private theorem append (recorded : pair.Recorded family payloads .live) (payload : Bytes) :
    (pair.move (.append payload)).Recorded family (payloads ++ [payload]) .live := by
  obtain ⟨history, feed⟩ := recorded
  rw [if_pos rfl] at feed
  have reader := Feed.append_reader ⟨count payloads⟩ payload pair.reader
  have fed : ((⟨count payloads⟩ : Feed).append payload pair.reader).1 =
      ⟨count (payloads ++ [payload])⟩ := by
    rw [count_concat, Feed.append]
    split
    · rename_i nothing
      have within : count payloads ≤ Numeral.sizeMax := Nat.min_le_right ..
      simp only [List.isEmpty_iff.mp nothing, List.length_nil, Nat.add_zero, Nat.min_eq_left within]
    · rfl
  simp only [move, feed]
  refine ⟨?_, by rw [if_pos rfl, fed]⟩
  simp only [reader]
  exact history.written payload

private theorem endBy (recorded : pair.Recorded family payloads .live) {last : Feed → Reader}
    {course : Course} (ceased : course ≠ .live)
    (ends : ∀ feed, last feed = pair.reader.mapStream (·.withWriting course.writing)) :
    (pair.endBy last).Recorded family payloads course := by
  obtain ⟨history, feed⟩ := recorded
  rw [if_pos rfl] at feed
  simp only [StreamPair.endBy, feed]
  refine ⟨?_, by rw [if_neg ceased]⟩
  simp only [ends]
  exact history.ended course ceased

private theorem read (recorded : pair.Recorded family payloads course) (style : ReadStyle) :
    (pair.move (.read style)).Recorded family payloads course := by
  rcases pair.read_cases style with ⟨outcome, later, use, moved⟩ | ⟨-, moved⟩
  · rw [moved]
    exact ⟨recorded.history.used style outcome use, recorded.feed⟩
  · rwa [moved]

private theorem move_of_ended (recorded : pair.Recorded family payloads course)
    (ended : course ≠ .live)
    (last : StreamMove) : (pair.move last).Recorded family payloads course := by
  have none : pair.feed = none := recorded.feed.trans (if_neg ended)
  cases last with
  | read style => exact recorded.read style
  | _ => simpa only [move, StreamPair.endBy, none] using recorded

private theorem move_of_live (recorded : pair.Recorded family payloads .live) (last : StreamMove) :
    (pair.move last).Recorded family (payloads ++ last.payload?.toList) (last.end?.getD .live) := by
  have unwritten : payloads ++ [] = payloads := List.append_nil payloads
  cases last with
  | append payload => exact recorded.append payload
  | read style => exact unwritten.symm ▸ recorded.read style
  | finish => exact unwritten.symm ▸ recorded.endBy nofun fun feed => rfl
  | abort => exact unwritten.symm ▸ recorded.endBy nofun fun feed => rfl
  | letGo => exact unwritten.symm ▸ recorded.endBy nofun fun feed => rfl

end Recorded

theorem recorded_run (family : Family) (moves : List StreamMove) :
    ((opened family).run moves).Recorded family (payloadsOf moves) (courseOf moves) := by
  induction moves using List.reverseRecOn with
  | nil => exact .opened family
  | append_singleton moves last ih =>
    rw [run_concat, payloadsOf_concat, courseOf_concat]
    by_cases live : courseOf moves = .live
    · rw [if_pos live, if_pos live]
      rw [live] at ih
      exact ih.move_of_live last
    · rw [if_neg live, if_neg live]
      exact ih.move_of_ended live last

/-- As long as the reader only looks for the next piece, it stays of its kind. -/
theorem kind_of_run (family : Family) {moves : List StreamMove}
    (probes : ∀ move ∈ moves, move.probes = true) :
    ((opened family).run moves).reader ≠ .gone ∧
      (((opened family).run moves).reader.isText = true ↔ family = .text) :=
  (recorded_run family moves).history.kind (probes_run family probes)

end StreamPair

end WebSocketSession
