import Mathlib.Data.List.Forall2
import WebSocketSession.Proofs.Loans
import WebSocketSession.Proofs.StreamHistory

/-!
# An assembly is a single slot

The rules of an assembly, written down apart from it. A `Reference` has neither buffers nor queues:
it keeps the payloads of the message in flight and of every stream, and compares their length with
the limit of the first one. An assembly answers every call as the reference does and makes the same
calls of its pool, whatever others do with that pool and with the readers in between
(`assembly_refines_reference`). A call that meets another message might as well not have been made.
-/

set_option autoImplicit false
set_option relaxedAutoImplicit false

namespace WebSocketSession

inductive Call where
  | buffered (family : Family) (payload : Bytes) (fin : Bool) (limit : Nat)
  | streamed (family : Family) (payload : Bytes) (fin : Bool)
  | abandon
  deriving DecidableEq

def Call.Fits : Call → Slot → Prop
  | .buffered family _ _ _, slot => slot.Takes family .buffered
  | .streamed family _ _, slot => slot.Takes family .streaming
  | .abandon, _ => True

/-- What a call hands out: nothing, a complete message with the limit of its loan, or a stream. -/
inductive Reply where
  | nothing
  | message (bytes : Bytes) (limit : Nat)
  | stream (number : Nat)

inductive PoolCall where
  | acquire (size : Nat)
  | release (length : Nat)
  deriving DecidableEq

def Occurrence.poolCall? {ν : Type} : Occurrence ν → Option PoolCall
  | .acquired size => some (.acquire size)
  | .released length => some (.release length)
  | _ => none

def poolCalls {ν : Type} (trace : List (Occurrence ν)) : List PoolCall :=
  trace.filterMap Occurrence.poolCall?

/-- One turn in the life of an assembly: a call of it, or something that happens around it. Others
use the pool, which they share, and the application uses its readers. -/
inductive Turn where
  | call (call : Call)
  | others (pool : Pool)
  | read (stream : Nat) (style : ReadStyle)

abbrev CallEnding : Type := Ending Fault Reply

def Ending.isRefusal : CallEnding → Bool
  | .fault (.interleaved _ _) => true
  | _ => false

/-- What some turns come to: the state after them, the endings of the calls, and the calls that
were made of the pool. -/
structure Played (S : Type) where
  state : S
  endings : List CallEnding
  poolCalls : List PoolCall

namespace Played

variable {S : Type}

def play (turn : S → Turn → Played S) (state : S) : List Turn → Played S
  | [] => ⟨state, [], []⟩
  | first :: rest =>
    let done := turn state first
    let later := play turn done.state rest
    ⟨later.state, done.endings ++ later.endings, done.poolCalls ++ later.poolCalls⟩

def heeded (turn : S → Turn → Played S) (state : S) : List Turn → List Turn
  | [] => []
  | first :: rest =>
    let done := turn state first
    let later := heeded turn done.state rest
    if done.endings.any Ending.isRefusal then later else first :: later

end Played

namespace Call

def work : Call → Assembly.Step Empty Fault Reply
  | .buffered family payload fin limit => do
    match ← Assembly.acceptBuffered family payload fin limit with
    | some loan => return .message loan.bytes loan.limit
    | none => return .nothing
  | .streamed family payload fin => do
    match ← Assembly.acceptStreaming family payload fin with
    | some stream => return .stream stream
    | none => return .nothing
  | .abandon => do
    Assembly.abandon
    return .nothing

end Call

def Assembly.turn (assembly : Assembly) : Turn → Played Assembly
  | .call call =>
    let done := call.work assembly
    ⟨done.state, [done.ending], poolCalls done.trace⟩
  | .others pool => ⟨{ assembly with pool := pool }, [], []⟩
  | .read stream style => ⟨((assembly.read stream style).map Prod.snd).getD assembly, [], []⟩

inductive Held where
  | none
  | whole (family : Family) (limit : Nat) (payloads : List Bytes)
  | streamed (family : Family) (stream : Nat)

/-- What has been written to a stream, and how far its message has come. -/
structure Line where
  payloads : List Bytes
  course : Course

structure Reference where
  held : Held
  lines : List Line

namespace Reference

def start : Reference := ⟨.none, []⟩

def refuse (reference : Reference) (inFlight received : Family) : Played Reference :=
  ⟨reference, [.fault (.interleaved inFlight (.ofFamily received))], []⟩

/-- A payload after the earlier ones of a buffered message: together they pass the limit, and the
message is over, or they are complete, or they are kept. The length that a fault tells is that of
the message so far with the payload, as far as sizes go. -/
def collect (reference : Reference) (family : Family) (limit : Nat) (earlier : List Bytes)
    (payload : Bytes) (fin : Bool) : Played Reference :=
  let payloads := earlier ++ [payload]
  let total := payloads.flatten.length
  if limit < total then
    ⟨{ reference with held := .none },
      [.fault (.messageTooLarge family (min total Numeral.sizeMax) limit)],
      [.release earlier.flatten.length]⟩
  else if fin then
    ⟨{ reference with held := .none }, [.value (.message payloads.flatten limit)], []⟩
  else ⟨{ reference with held := .whole family limit payloads }, [.value .nothing], []⟩

def buffered (reference : Reference) (family : Family) (payload : Bytes) (fin : Bool)
    (limit : Nat) : Played Reference :=
  match reference.held with
  | .none =>
    let done := reference.collect family limit [] payload fin
    { done with poolCalls := .acquire limit :: done.poolCalls }
  | .whole current first earlier =>
    if current = family then reference.collect family first earlier payload fin
    else reference.refuse current family
  | .streamed current _ => reference.refuse current family

def write (reference : Reference) (family : Family) (stream : Nat) (payload : Bytes) (fin : Bool) :
    Reference where
  held := if fin then .none else .streamed family stream
  lines := reference.lines.modify stream fun line =>
    ⟨line.payloads ++ [payload], if fin then .finished else line.course⟩

def streamed (reference : Reference) (family : Family) (payload : Bytes) (fin : Bool) :
    Played Reference :=
  match reference.held with
  | .none =>
    let opened : Reference := { reference with lines := reference.lines ++ [⟨[], .live⟩] }
    let stream := reference.lines.length
    ⟨opened.write family stream payload fin, [.value (.stream stream)], []⟩
  | .streamed current stream =>
    if current = family then
      ⟨reference.write family stream payload fin, [.value .nothing], []⟩
    else reference.refuse current family
  | .whole current _ _ => reference.refuse current family

def abandon (reference : Reference) : Played Reference :=
  match reference.held with
  | .none => ⟨reference, [.value .nothing], []⟩
  | .whole _ _ payloads =>
    ⟨{ reference with held := .none }, [.value .nothing], [.release payloads.flatten.length]⟩
  | .streamed _ stream =>
    ⟨⟨.none, reference.lines.modify stream fun line => { line with course := .aborted }⟩,
      [.value .nothing], []⟩

def turn (reference : Reference) : Turn → Played Reference
  | .call (.buffered family payload fin limit) => reference.buffered family payload fin limit
  | .call (.streamed family payload fin) => reference.streamed family payload fin
  | .call .abandon => reference.abandon
  | .others _ | .read .. => ⟨reference, [], []⟩

end Reference

/-- The slot has the message that the reference holds; a loan keeps within its limit. -/
inductive Held.Fills : Held → Slot → Prop where
  | idle : Fills .none .idle
  | whole (family : Family) (loan : Loan) (limit : Nat) (payloads : List Bytes)
    (bounded : loan.limit = limit) (bytes : loan.bytes = payloads.flatten)
    (within : loan.length ≤ loan.limit) :
    Fills (.whole family limit payloads) (.buffered family loan)
  | streamed (family : Family) (stream : Nat) (feed : Feed) :
    Fills (.streamed family stream) (.streaming family stream feed)

/-- The reader has come from a new stream by what is written on the line and by being used. -/
def Line.Feeds (line : Line) (reader : Reader) : Prop :=
  ∃ readings, Reader.History .binary line.payloads line.course readings reader

structure Reference.Represents (reference : Reference) (assembly : Assembly) : Prop where
  held : reference.held.Fills assembly.slot
  lines : List.Forall₂ Line.Feeds reference.lines assembly.streams
  live : ∀ family stream, reference.held = .streamed family stream →
    ∃ payloads, reference.lines[stream]? = some ⟨payloads, .live⟩

structure Played.Matches (done : Played Assembly) (expected : Played Reference) : Prop where
  endings : done.endings = expected.endings
  poolCalls : done.poolCalls = expected.poolCalls
  represents : expected.state.Represents done.state

private theorem Reference.represents_start (pool : Pool) :
    Reference.start.Represents (Assembly.start pool) where
  held := .idle
  lines := .nil
  live := nofun

@[simp] theorem poolCalls_append {ν : Type} (first second : List (Occurrence ν)) :
    poolCalls (first ++ second) = poolCalls first ++ poolCalls second :=
  List.filterMap_append ..

@[simp] theorem poolCalls_logged {ν : Type} (records : List LogRecord) :
    poolCalls (records.map .logged : List (Occurrence ν)) = [] := by
  simp [poolCalls, Occurrence.poolCall?]

private theorem Loan.append_of_exceeds {loan : Loan} {payload : Bytes}
    (within : loan.length ≤ loan.limit)
    (exceeds : loan.limit < (loan.bytes ++ payload).length) :
    loan.append payload =
      .error ⟨min (loan.bytes ++ payload).length Numeral.sizeMax, loan.limit⟩ := by
  rw [List.length_append, loan.length_bytes] at exceeds ⊢
  rw [append_eq payload within, if_pos exceeds]

private theorem Loan.append_of_fits {loan : Loan} {payload : Bytes}
    (fits : (loan.bytes ++ payload).length ≤ loan.limit) :
    loan.append payload = .ok { loan with buffer := loan.buffer.extend payload } := by
  rw [List.length_append, loan.length_bytes] at fits
  rw [append_eq payload (by omega), if_neg (by omega)]

namespace Call

private theorem buffered_run {family : Family} {payload : Bytes} {fin : Bool} {limit : Nat}
    {assembly : Assembly} (takes : assembly.slot.Takes family .buffered) :
    (buffered family payload fin limit).work assembly =
      let (loan, pool) := assembly.lending limit
      match loan.append payload with
      | .error overflow =>
        ⟨.fault (.messageTooLarge family overflow.attempted overflow.limit),
          ⟨.idle, pool.release loan.buffer, assembly.streams⟩,
          assembly.lendingTrace limit ++ Assembly.returnedTrace loan⟩
      | .ok extended =>
        if fin then
          ⟨.value (.message extended.bytes extended.limit), ⟨.idle, pool, assembly.streams⟩,
            assembly.lendingTrace limit⟩
        else
          ⟨.value .nothing, ⟨.buffered family extended, pool, assembly.streams⟩,
            assembly.lendingTrace limit⟩ := by
  simp only [work, Work.bind_run, Assembly.acceptBuffered_run takes]
  cases (assembly.lending limit).1.append payload with
  | error overflow => rfl
  | ok extended => cases fin <;> simp

private theorem streamed_run {family : Family} {payload : Bytes} {fin : Bool} {assembly : Assembly}
    (takes : assembly.slot.Takes family .streaming) :
    (streamed family payload fin).work assembly =
      let result := assembly.written family payload fin
      ⟨.value (if assembly.isIdle then .stream assembly.channel.stream else .nothing),
        result.assembly, result.records.map .logged⟩ := by
  simp only [work, Work.bind_run, Assembly.acceptStreaming_run takes]
  by_cases idle : assembly.isIdle <;> simp [idle]

private theorem buffered_refused {family : Family} {payload : Bytes} {fin : Bool} {limit : Nat}
    {assembly : Assembly} (refused : ¬ assembly.slot.Takes family .buffered) :
    (buffered family payload fin limit).work assembly =
      ⟨.fault (.interleaved (assembly.inFlight.getD family) (.ofFamily family)), assembly, []⟩ := by
  simp [work, Assembly.acceptBuffered_refused refused]

private theorem streamed_refused {family : Family} {payload : Bytes} {fin : Bool}
    {assembly : Assembly}
    (refused : ¬ assembly.slot.Takes family .streaming) :
    (streamed family payload fin).work assembly =
      ⟨.fault (.interleaved (assembly.inFlight.getD family) (.ofFamily family)), assembly, []⟩ := by
  simp [work, Assembly.acceptStreaming_refused refused]

@[simp] theorem abandon_run (assembly : Assembly) :
    abandon.work assembly = ⟨.value .nothing, assembly.abandoned, assembly.abandonTrace⟩ := by
  simp [work]

private theorem work_counts (call : Call) (assembly : Assembly) :
    assembly.pool.Counts (call.work assembly).trace (call.work assembly).state.pool := by
  have used (use : Use) := (Custody.step_balanced (ν := Empty) ⟨assembly, []⟩ use).counts
  cases call with
  | buffered family payload fin limit =>
    have counted := used (.acceptBuffered family payload fin limit)
    simp only [Custody.step] at counted
    simp only [work, Work.bind_run]
    generalize Assembly.acceptBuffered family payload fin limit assembly = done at counted ⊢
    obtain ⟨(_ | _) | _ | _, later, trace⟩ := done <;> simpa using counted
  | streamed family payload fin =>
    have counted := used (.acceptStreaming family payload fin)
    simp only [Custody.step] at counted
    simp only [work, Work.bind_run]
    generalize Assembly.acceptStreaming family payload fin assembly = done at counted ⊢
    obtain ⟨(_ | _) | _ | _, later, trace⟩ := done <;> simpa using counted
  | abandon => simpa [Custody.step] using used .abandon

end Call

namespace Reference

variable {reference : Reference} {assembly : Assembly}

private theorem Represents.refill (represents : reference.Represents assembly) {held : Held}
    {slot : Slot}
    (fills : held.Fills slot) (unstreamed : ∀ family stream, held ≠ .streamed family stream)
    (pool : Pool) :
    ({ reference with held := held } : Reference).Represents ⟨slot, pool, assembly.streams⟩ where
  held := fills
  lines := represents.lines
  live family stream streams := absurd streams (unstreamed family stream)

private theorem refuse_matches (represents : reference.Represents assembly) {call : Call}
    {current family : Family} (inFlight : assembly.inFlight = some current)
    (refused : call.work assembly =
      ⟨.fault (.interleaved (assembly.inFlight.getD family) (.ofFamily family)), assembly, []⟩) :
    (assembly.turn (.call call)).Matches (reference.refuse current family) := by
  have done : assembly.turn (.call call) =
      ⟨assembly, [.fault (.interleaved current (.ofFamily family))], []⟩ := by
    simp only [Assembly.turn, refused, inFlight, Option.getD_some]
    rfl
  rw [done]
  exact ⟨rfl, rfl, represents⟩

private theorem collect_matches (represents : reference.Represents assembly) {family : Family}
    {limit : Nat} {loan : Loan} {pool : Pool} {earlier : List Bytes}
    (takes : assembly.slot.Takes family .buffered) (lent : assembly.lending limit = (loan, pool))
    (bytes : loan.bytes = earlier.flatten) (within : loan.length ≤ loan.limit) (payload : Bytes)
    (fin : Bool) :
    let expected := reference.collect family loan.limit earlier payload fin
    (assembly.turn (.call (.buffered family payload fin limit))).Matches
      ⟨expected.state, expected.endings,
        poolCalls (assembly.lendingTrace limit : List (Occurrence Empty)) ++
          expected.poolCalls⟩ := by
  intro expected
  have whole : (earlier ++ [payload]).flatten = loan.bytes ++ payload := by
    rw [List.flatten_append, bytes, List.flatten_singleton]
  have idle (pool : Pool) :
      ({ reference with held := .none } : Reference).Represents
        ⟨.idle, pool, assembly.streams⟩ :=
    represents.refill .idle (by simp) pool
  by_cases exceeds : loan.limit < (loan.bytes ++ payload).length
  · have overflows : expected = ⟨{ reference with held := .none },
        [.fault (.messageTooLarge family (min (loan.bytes ++ payload).length Numeral.sizeMax)
          loan.limit)], [.release loan.length]⟩ := by
      simp only [expected, collect, whole, if_pos exceeds, ← bytes, loan.length_bytes]
    rw [overflows]
    simp only [Assembly.turn, Call.buffered_run takes, lent, Loan.append_of_exceeds within exceeds,
      poolCalls_append]
    exact ⟨rfl, rfl, idle _⟩
  · have fits : (loan.bytes ++ payload).length ≤ loan.limit := Nat.le_of_not_lt exceeds
    have extended := Loan.append_of_fits fits
    have held := Loan.bytes_of_append extended
    simp only [Assembly.turn, Call.buffered_run takes, lent, extended]
    cases fin with
    | true =>
      have complete : expected = ⟨{ reference with held := .none },
          [.value (.message (loan.bytes ++ payload) loan.limit)], []⟩ := by
        simp only [expected, collect, whole, if_neg exceeds, if_true]
      rw [complete]
      simp only [if_true, held.1, List.append_nil]
      exact ⟨rfl, rfl, idle _⟩
    | false =>
      have kept : expected = ⟨{ reference with
          held := .whole family loan.limit (earlier ++ [payload]) }, [.value .nothing], []⟩ := by
        simp only [expected, collect, whole, if_neg exceeds, Bool.false_eq_true, if_false]
      rw [kept]
      simp only [Bool.false_eq_true, if_false, List.append_nil]
      have fills : Held.Fills (.whole family loan.limit (earlier ++ [payload]))
          (.buffered family { loan with buffer := loan.buffer.extend payload }) := by
        refine .whole _ _ _ _ rfl (held.1.trans whole.symm) ?_
        rw [← Loan.length_bytes, held.1]
        exact fits
      exact ⟨rfl, rfl, represents.refill fills (by simp) _⟩

private theorem buffered_matches (represents : reference.Represents assembly) (family : Family)
    (payload : Bytes) (fin : Bool) (limit : Nat) :
    (assembly.turn (.call (.buffered family payload fin limit))).Matches
      (reference.buffered family payload fin limit) := by
  have fills := represents.held
  generalize reached : reference.held = held at fills
  generalize slot : assembly.slot = contents at fills
  unfold buffered
  cases fills with
  | idle =>
    have lent : assembly.lending limit =
        (.lend (assembly.pool.acquire limit).1 limit, (assembly.pool.acquire limit).2) := by
      simp only [Assembly.lending, slot]
    have calls : poolCalls (assembly.lendingTrace limit : List (Occurrence Empty)) =
        [.acquire limit] := by
      simp only [Assembly.lendingTrace, slot]
      rfl
    have takes : assembly.slot.Takes family .buffered := .inl slot
    have empty : (Loan.lend (assembly.pool.acquire limit).1 limit).bytes = [].flatten := rfl
    -- The loan is new, so the payload is the first that goes into it.
    have collected := collect_matches represents takes lent empty (Nat.zero_le _) payload fin
    rw [calls] at collected
    simp only [reached]
    exact collected
  | whole current loan first earlier bounded bytes within =>
    simp only [reached]
    by_cases same : current = family
    · have takes : assembly.slot.Takes family .buffered := by simp [slot, same]
      have lent : assembly.lending limit = (loan, assembly.pool) := by
        simp only [Assembly.lending, slot]
      have calls : poolCalls (assembly.lendingTrace limit : List (Occurrence Empty)) = [] := by
        simp only [Assembly.lendingTrace, slot]
        rfl
      have collected := collect_matches represents takes lent bytes within payload fin
      rw [calls, bounded] at collected
      rw [if_pos same]
      exact collected
    · have inFlight : assembly.inFlight = some current := by rw [Assembly.inFlight, slot]; rfl
      have other : ¬ assembly.slot.Takes family .buffered := by simp [slot, same]
      rw [if_neg same]
      exact refuse_matches represents inFlight (Call.buffered_refused other)
  | streamed current stream feed =>
    have inFlight : assembly.inFlight = some current := by rw [Assembly.inFlight, slot]; rfl
    have other : ¬ assembly.slot.Takes family .buffered := by simp [slot]
    simp only [reached]
    exact refuse_matches represents inFlight (Call.buffered_refused other)

private theorem feeds_modify {lines : List Line} {streams : List Reader}
    (feeds : List.Forall₂ Line.Feeds lines streams) (stream : Nat) {change : Line → Line}
    {reader : Reader}
    (changed : ∀ line, lines[stream]? = some line → line.Feeds (streams[stream]?.getD .gone) →
      (change line).Feeds reader) :
    List.Forall₂ Line.Feeds (lines.modify stream change) (streams.set stream reader) := by
  induction feeds generalizing stream with
  | nil =>
    rw [List.modify_nil, List.set_nil]
    exact .nil
  | cons first rest ih =>
    cases stream with
    | zero => exact .cons (changed _ rfl first) rest
    | succ stream => exact .cons first (ih stream changed)

private theorem write_represents {stream : Nat} {feed : Feed} {streams : List Reader}
    (channel : assembly.channel = ⟨stream, feed, streams⟩)
    (lines : List.Forall₂ Line.Feeds reference.lines streams)
    (live : ∃ payloads, reference.lines[stream]? = some ⟨payloads, .live⟩) (family : Family)
    (payload : Bytes) (fin : Bool) :
    (reference.write family stream payload fin).Represents
      (assembly.written family payload fin).assembly := by
  -- The message is still live, so its history can go on, and can end.
  obtain ⟨payloads, before⟩ := live
  have appended := Feed.append_reader feed payload (streams[stream]?.getD .gone)
  cases fin with
  | true =>
    have fed : List.Forall₂ Line.Feeds (reference.write family stream payload true).lines
        (assembly.written family payload true).assembly.streams := by
      simp only [write, Assembly.written, channel, if_true, Feed.finish, appended]
      refine feeds_modify lines stream fun line found feeds => ?_
      obtain rfl : line = ⟨payloads, .live⟩ := by simpa using found.symm.trans before
      obtain ⟨readings, history⟩ := feeds
      exact ⟨readings, (history.written payload).ended .finished (by decide)⟩
    have slot : (assembly.written family payload true).assembly.slot = .idle := rfl
    refine ⟨?_, fed, by simp [write]⟩
    rw [slot]
    exact .idle
  | false =>
    have fed : List.Forall₂ Line.Feeds (reference.write family stream payload false).lines
        (assembly.written family payload false).assembly.streams := by
      simp only [write, Assembly.written, channel, Bool.false_eq_true, if_false, appended]
      refine feeds_modify lines stream fun line found feeds => ?_
      obtain rfl : line = ⟨payloads, .live⟩ := by simpa using found.symm.trans before
      obtain ⟨readings, history⟩ := feeds
      exact ⟨readings, history.written payload⟩
    have slot : (assembly.written family payload false).assembly.slot =
        .streaming family stream (feed.append payload (streams[stream]?.getD .gone)).1 := by
      simp only [Assembly.written, channel, Bool.false_eq_true, if_false]
    refine ⟨?_, fed, ?_⟩
    · rw [slot]
      exact .streamed family stream _
    · intro current number streamed
      obtain ⟨rfl, rfl⟩ : family = current ∧ stream = number := by simpa [write] using streamed
      exact ⟨payloads ++ [payload], by simp [write, before]⟩

private theorem streamed_matches (represents : reference.Represents assembly) (family : Family)
    (payload : Bytes) (fin : Bool) :
    (assembly.turn (.call (.streamed family payload fin))).Matches
      (reference.streamed family payload fin) := by
  have fills := represents.held
  generalize reached : reference.held = held at fills
  generalize slot : assembly.slot = contents at fills
  unfold streamed
  cases fills with
  | idle =>
    have channel : assembly.channel = ⟨assembly.streams.length, .opened,
        assembly.streams ++ [.bytes .opened]⟩ := by
      simp only [Assembly.channel, slot]
    have isIdle : assembly.isIdle = true := by
      simp only [Assembly.isIdle, Assembly.inFlight, slot]
      rfl
    have number : reference.lines.length = assembly.streams.length := represents.lines.length_eq
    have opened : Line.Feeds ⟨[], .live⟩ (.bytes .opened) := ⟨[], .opened⟩
    have lines : List.Forall₂ Line.Feeds (reference.lines ++ [⟨[], .live⟩])
        (assembly.streams ++ [.bytes .opened]) :=
      List.rel_append represents.lines (.cons opened .nil)
    have last : ∃ payloads, (reference.lines ++ [⟨[], .live⟩])[assembly.streams.length]? =
        some ⟨payloads, .live⟩ := by
      rw [← number]
      exact ⟨[], List.getElem?_concat_length⟩
    have takes : assembly.slot.Takes family .streaming := .inl slot
    have written : (write ⟨reference.held, reference.lines ++ [⟨[], .live⟩]⟩ family
        assembly.streams.length payload fin).Represents
          (assembly.written family payload fin).assembly :=
      write_represents channel lines last family payload fin
    simp only [reached, Assembly.turn, Call.streamed_run takes, isIdle, if_true, channel, number]
    exact ⟨rfl, poolCalls_logged _, written⟩
  | streamed current stream feed =>
    simp only [reached]
    by_cases same : current = family
    · have channel : assembly.channel = ⟨stream, feed, assembly.streams⟩ := by
        simp only [Assembly.channel, slot]
      have isIdle : assembly.isIdle = false := by
        simp only [Assembly.isIdle, Assembly.inFlight, slot]
        rfl
      have takes : assembly.slot.Takes family .streaming := by simp [slot, same]
      have written := write_represents channel represents.lines
        (represents.live current stream reached) family payload fin
      rw [if_pos same]
      simp only [Assembly.turn, Call.streamed_run takes, isIdle, Bool.false_eq_true, if_false]
      exact ⟨rfl, poolCalls_logged _, written⟩
    · have inFlight : assembly.inFlight = some current := by rw [Assembly.inFlight, slot]; rfl
      have other : ¬ assembly.slot.Takes family .streaming := by simp [slot, same]
      rw [if_neg same]
      exact refuse_matches represents inFlight (Call.streamed_refused other)
  | whole current loan first earlier bounded bytes within =>
    have inFlight : assembly.inFlight = some current := by rw [Assembly.inFlight, slot]; rfl
    have other : ¬ assembly.slot.Takes family .streaming := by simp [slot]
    simp only [reached]
    exact refuse_matches represents inFlight (Call.streamed_refused other)

private theorem abandon_matches (represents : reference.Represents assembly) :
    (assembly.turn (.call .abandon)).Matches reference.abandon := by
  have fills := represents.held
  generalize reached : reference.held = held at fills
  generalize slot : assembly.slot = contents at fills
  unfold abandon
  simp only [Assembly.turn, Call.abandon_run]
  cases fills with
  | idle =>
    simp only [reached, Assembly.abandoned, Assembly.abandonTrace, slot]
    exact ⟨rfl, rfl, represents⟩
  | whole current loan first earlier bounded bytes within =>
    simp only [reached, Assembly.abandoned, Assembly.abandonTrace, slot]
    have released : loan.length = earlier.flatten.length := by
      rw [← bytes, loan.length_bytes]
    rw [← released]
    exact ⟨rfl, rfl, represents.refill .idle (by simp) _⟩
  | streamed current stream feed =>
    simp only [reached, Assembly.abandoned, Assembly.abandonTrace, slot]
    obtain ⟨payloads, before⟩ := represents.live current stream reached
    have cut : List.Forall₂ Line.Feeds
        (reference.lines.modify stream fun line => { line with course := .aborted })
        (assembly.streams.set stream (feed.abort (assembly.reader stream)).1) := by
      refine feeds_modify represents.lines stream fun line found feeds => ?_
      obtain rfl : line = ⟨payloads, .live⟩ := by simpa using found.symm.trans before
      obtain ⟨readings, history⟩ := feeds
      exact ⟨readings, history.ended .aborted (by decide)⟩
    refine ⟨rfl, ?_, .idle, cut, by simp⟩
    exact poolCalls_logged (.abandonedStreaming current feed.appended ::
      (feed.abort (assembly.reader stream)).2)

private theorem read_represents (represents : reference.Represents assembly) (stream : Nat)
    (style : ReadStyle) :
    reference.Represents (((assembly.read stream style).map Prod.snd).getD assembly) := by
  unfold Assembly.read
  cases use : (assembly.reader stream).use style with
  | none => exact represents
  | some result =>
    obtain ⟨outcome, later⟩ := result
    have used : List.Forall₂ Line.Feeds (reference.lines.modify stream id)
        (assembly.streams.set stream later) := by
      refine feeds_modify represents.lines stream fun line found feeds => ?_
      obtain ⟨readings, history⟩ := feeds
      exact ⟨_, history.used style outcome use⟩
    rw [List.modify_id] at used
    exact ⟨represents.held, used, represents.live⟩

private theorem turn_matches (represents : reference.Represents assembly) (turn : Turn) :
    (assembly.turn turn).Matches (reference.turn turn) := by
  cases turn with
  | call call =>
    cases call with
    | buffered family payload fin limit =>
      exact buffered_matches represents family payload fin limit
    | streamed family payload fin => exact streamed_matches represents family payload fin
    | abandon => exact abandon_matches represents
  | others pool => exact ⟨rfl, rfl, represents.held, represents.lines, represents.live⟩
  | read stream style => exact ⟨rfl, rfl, read_represents represents stream style⟩

private theorem play_matches (represents : reference.Represents assembly) (turns : List Turn) :
    (Played.play Assembly.turn assembly turns).Matches
      (Played.play Reference.turn reference turns) := by
  induction turns generalizing reference assembly with
  | nil => exact ⟨rfl, rfl, represents⟩
  | cons first rest ih =>
    have now := turn_matches represents first
    have later := ih now.represents
    refine ⟨?_, ?_, later.represents⟩
    · simp only [Played.play, now.endings, later.endings]
    · simp only [Played.play, now.poolCalls, later.poolCalls]

end Reference

namespace Call

/-- A call is refused if the slot has a message of another family or delivery, and never else. -/
theorem isRefusal_iff (call : Call) (assembly : Assembly) :
    (call.work assembly).ending.isRefusal = true ↔ ¬ call.Fits assembly.slot := by
  cases call with
  | buffered family payload fin limit =>
    by_cases takes : assembly.slot.Takes family .buffered
    · rw [buffered_run takes]
      cases appended : (assembly.lending limit).1.append payload with
      | error overflow => simp [appended, Ending.isRefusal, Fits, takes]
      | ok extended => cases fin <;> simp [appended, Ending.isRefusal, Fits, takes]
    · simp [buffered_refused takes, Ending.isRefusal, Fits, takes]
  | streamed family payload fin =>
    by_cases takes : assembly.slot.Takes family .streaming
    · simp [streamed_run takes, Ending.isRefusal, Fits, takes]
    · simp [streamed_refused takes, Ending.isRefusal, Fits, takes]
  | abandon => simp [Ending.isRefusal, Fits]

private theorem work_of_refusal {call : Call} {assembly : Assembly}
    (refusal : (call.work assembly).ending.isRefusal = true) :
    ∃ inFlight received,
      call.work assembly = ⟨.fault (.interleaved inFlight received), assembly, []⟩ := by
  have unfit := (call.isRefusal_iff assembly).mp refusal
  cases call with
  | buffered family payload fin limit => exact ⟨_, _, buffered_refused unfit⟩
  | streamed family payload fin => exact ⟨_, _, streamed_refused unfit⟩
  | abandon => exact absurd trivial unfit

end Call

private theorem Assembly.turn_of_refused {assembly : Assembly} {turn : Turn}
    (refused : (assembly.turn turn).endings.any Ending.isRefusal = true) :
    ∃ inFlight received,
      assembly.turn turn = ⟨assembly, [.fault (.interleaved inFlight received)], []⟩ := by
  cases turn with
  | others pool => cases refused
  | read stream style => cases refused
  | call call =>
    have refusal : (call.work assembly).ending.isRefusal = true := by
      simpa [Assembly.turn] using refused
    obtain ⟨inFlight, received, unchanged⟩ := Call.work_of_refusal refusal
    refine ⟨inFlight, received, ?_⟩
    simp only [Assembly.turn, unchanged]
    rfl

private theorem Assembly.play_heeded (assembly : Assembly) (turns : List Turn) :
    let done := Played.play Assembly.turn assembly turns
    Played.play Assembly.turn assembly (Played.heeded Assembly.turn assembly turns) =
      ⟨done.state, done.endings.filter (!·.isRefusal), done.poolCalls⟩ := by
  induction turns generalizing assembly with
  | nil => rfl
  | cons first rest ih =>
    simp only [Played.heeded, Played.play]
    by_cases refused : (assembly.turn first).endings.any Ending.isRefusal = true
    · obtain ⟨inFlight, received, inert⟩ := turn_of_refused refused
      rw [if_pos refused, inert, List.filter_append]
      exact ih assembly
    · have heard : (assembly.turn first).endings.filter (!·.isRefusal) =
          (assembly.turn first).endings := by
        rw [List.filter_eq_self]
        intro ending member
        by_contra refusal
        exact refused (List.any_eq_true.mpr ⟨ending, member, by simpa using refusal⟩)
      rw [if_neg refused, Played.play, List.filter_append, heard, ih]

/-- Whatever is called, with whatever happens in between, an assembly answers as the reference does,
makes the same calls of its pool and is in the state that the reference describes. The pool counts
these calls. A call that meets another message leaves everything as it was, and the other calls come
to the same without it. -/
theorem assembly_refines_reference (pool : Pool) (turns : List Turn) :
    let done := Played.play Assembly.turn (.start pool) turns
    let expected := Played.play Reference.turn .start turns
    done.endings = expected.endings ∧ done.poolCalls = expected.poolCalls ∧
      expected.state.Represents done.state ∧
      (∀ call : Call,
        let next := call.work done.state
        done.state.pool.Counts next.trace next.state.pool ∧
          (¬ call.Fits done.state.slot → next.ending.isRefusal = true ∧
            next.state = done.state ∧ poolCalls next.trace = [])) ∧
      Played.play Assembly.turn (.start pool) (Played.heeded Assembly.turn (.start pool) turns) =
        ⟨done.state, done.endings.filter (!·.isRefusal), done.poolCalls⟩ := by
  intro done expected
  have matched : done.Matches expected :=
    Reference.play_matches (Reference.represents_start pool) turns
  refine ⟨matched.endings, matched.poolCalls, matched.represents, ?_,
    Assembly.play_heeded (.start pool) turns⟩
  intro call next
  refine ⟨call.work_counts done.state, fun unfit => ?_⟩
  have refusal := (call.isRefusal_iff done.state).mpr unfit
  obtain ⟨inFlight, received, unchanged⟩ := Call.work_of_refusal refusal
  exact ⟨refusal, congrArg Outcome.state unchanged,
    congrArg (fun done => poolCalls done.trace) unchanged⟩

/-- A binary fragment in between is refused, and the limit is that of the first fragment. -/
example :
    (Played.play Reference.turn .start
      [.call (.buffered .text [72] false 4), .call (.buffered .binary [9] true 8),
        .call (.buffered .text [105] true 1)]).endings =
      [.value .nothing, .fault (.interleaved .text .binary), .value (.message [72, 105] 4)] :=
  rfl

end WebSocketSession
