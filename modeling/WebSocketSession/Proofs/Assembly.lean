import WebSocketSession.Assembly
import WebSocketSession.Proofs.Work

/-!
# Assembly, operation by operation

One equation for each operation on an assembly, giving its ending, the assembly after it and its
trace. A fragment is taken if the slot is free or holds a message of the same family and delivery
(`Slot.Takes`); otherwise it is refused and nothing changes.
-/

set_option autoImplicit false
set_option relaxedAutoImplicit false

namespace WebSocketSession

variable {ν ε : Type}

def Slot.Takes (slot : Slot) (family : Family) (delivery : Delivery) : Prop :=
  slot = .idle ∨ (slot.inFlight = some family ∧ slot.delivery = some delivery)

@[simp] theorem Slot.takes_idle (family : Family) (delivery : Delivery) :
    Slot.idle.Takes family delivery := .inl rfl

@[simp] theorem Slot.buffered_takes (current family : Family) (loan : Loan) (delivery : Delivery) :
    (Slot.buffered current loan).Takes family delivery ↔
      current = family ∧ .buffered = delivery := by
  simp [Takes, inFlight, Slot.delivery]

@[simp] theorem Slot.streaming_takes (current family : Family) (stream : Nat) (feed : Feed)
    (delivery : Delivery) :
    (Slot.streaming current stream feed).Takes family delivery ↔
      current = family ∧ .streaming = delivery := by
  simp [Takes, inFlight, Slot.delivery]

theorem Slot.inFlight_eq_none {slot : Slot} : slot.inFlight = none ↔ slot = .idle := by
  cases slot <;> simp [inFlight]

theorem Loan.append_ok {loan extended : Loan} {payload : Bytes}
    (appended : loan.append payload = .ok extended) (within : loan.length ≤ loan.limit) :
    extended.length = loan.length + payload.length ∧ extended.limit = loan.limit ∧
      extended.length ≤ extended.limit := by
  unfold append at appended
  split at appended
  · cases appended
  · rename_i fits
    cases appended
    refine ⟨rfl, rfl, ?_⟩
    have total : (loan.buffer.extend payload).length = loan.length + payload.length := rfl
    simp only [remaining, length] at *
    omega

theorem Loan.append_error {loan : Loan} {payload : Bytes} {overflow : Overflow}
    (refused : loan.append payload = .error overflow) (within : loan.length ≤ loan.limit) :
    loan.limit < loan.length + payload.length ∧ overflow.limit = loan.limit := by
  unfold append at refused
  split at refused
  · rename_i exceeds
    cases refused
    simp only [remaining] at exceeds
    exact ⟨by omega, rfl⟩
  · cases refused

theorem Loan.append_eq {loan : Loan} (payload : Bytes) (within : loan.length ≤ loan.limit) :
    loan.append payload =
      if loan.limit < loan.length + payload.length then
        .error ⟨min (loan.length + payload.length) Numeral.sizeMax, loan.limit⟩
      else .ok { loan with buffer := loan.buffer.extend payload } := by
  have exceeds : loan.remaining < payload.length ↔ loan.limit < loan.length + payload.length := by
    rw [remaining]
    omega
  simp only [append, exceeds]

theorem Loan.length_bytes (loan : Loan) : loan.bytes.length = loan.length :=
  loan.buffer.length_bytes

private theorem Feed.append_gone (feed : Feed) (payload : Bytes) :
    (feed.append payload .gone).2.1 = .gone := by
  unfold append
  split <;> rfl

namespace Assembly

def lentTrace (limit : Nat) : List (Occurrence ν) := [.acquired limit, .counted .bufferLent]

def returnedTrace (loan : Loan) : List (Occurrence ν) :=
  [.released loan.length, .counted .bufferReturned]

@[simp] theorem giveBack_run (loan : Loan) (assembly : Assembly) :
    (giveBack loan : Step ν ε Unit) assembly =
      ⟨.value (), { assembly with pool := assembly.pool.release loan.buffer },
        returnedTrace loan⟩ := by
  simp [giveBack, returnedTrace]

@[simp] theorem vacate_run (assembly : Assembly) :
    (vacate : Step ν ε Slot) assembly =
      ⟨.value assembly.slot, { assembly with slot := .idle }, []⟩ := by
  simp [vacate, fill]

@[simp] theorem fill_run (slot : Slot) (assembly : Assembly) :
    (fill slot : Step ν ε Unit) assembly = ⟨.value (), { assembly with slot := slot }, []⟩ := rfl

@[simp] theorem borrow_run (limit : Nat) (assembly : Assembly) :
    (borrow limit : Step ν ε Loan) assembly =
      ⟨.value (.lend (assembly.pool.acquire limit).1 limit),
        { assembly with pool := (assembly.pool.acquire limit).2 }, lentTrace limit⟩ := by
  simp [borrow, lentTrace]

@[simp] theorem refuse_run {α : Type} (slot : Slot) (received : Family) (assembly : Assembly) :
    (refuse slot received : Step ν Fault α) assembly =
      ⟨.fault (.interleaved (slot.inFlight.getD received) (.ofFamily received)),
        { assembly with slot := slot }, []⟩ := by
  simp [refuse]

/-- The loan that a fragment goes into, and the pool without it: the loan in the slot, or a new
one. -/
def lending (limit : Nat) (assembly : Assembly) : Loan × Pool :=
  match assembly.slot with
  | .buffered _ loan => (loan, assembly.pool)
  | _ => (.lend (assembly.pool.acquire limit).1 limit, (assembly.pool.acquire limit).2)

def lendingTrace (limit : Nat) (assembly : Assembly) : List (Occurrence ν) :=
  match assembly.slot with
  | .buffered .. => []
  | _ => lentTrace limit

private theorem loanFor_run {family : Family} {limit : Nat} {assembly : Assembly}
    (takes : assembly.slot.Takes family .buffered) :
    (loanFor family limit : Step ν Fault Loan) assembly =
      ⟨.value (assembly.lending limit).1, ⟨.idle, (assembly.lending limit).2, assembly.streams⟩,
        assembly.lendingTrace limit⟩ := by
  cases held : assembly.slot with
  | idle => simp [loanFor, lending, lendingTrace, held]
  | buffered current loan =>
    have same : current = family := by simpa [held] using takes
    simp [loanFor, lending, lendingTrace, held, same]
  | streaming current stream feed => simp [held] at takes

/-- A fragment taken by a buffered message overflows it, completes it or is kept with it. -/
theorem acceptBuffered_run {family : Family} {payload : Bytes} {fin : Bool} {limit : Nat}
    {assembly : Assembly} (takes : assembly.slot.Takes family .buffered) :
    (acceptBuffered family payload fin limit : Step ν Fault (Option Loan)) assembly =
      let (loan, pool) := assembly.lending limit
      match loan.append payload with
      | .error overflow =>
        ⟨.fault (.messageTooLarge family overflow.attempted overflow.limit),
          ⟨.idle, pool.release loan.buffer, assembly.streams⟩,
          assembly.lendingTrace limit ++ returnedTrace loan⟩
      | .ok extended =>
        if fin then
          ⟨.value (some extended), ⟨.idle, pool, assembly.streams⟩, assembly.lendingTrace limit⟩
        else
          ⟨.value none, ⟨.buffered family extended, pool, assembly.streams⟩,
            assembly.lendingTrace limit⟩ := by
  simp only [acceptBuffered, Work.bind_run, loanFor_run takes, Outcome.andThen_value]
  cases Loan.append _ payload with
  | error overflow => simp
  | ok extended => cases fin <;> simp

theorem acceptBuffered_refused {family : Family} {payload : Bytes} {fin : Bool} {limit : Nat}
    {assembly : Assembly} (refused : ¬ assembly.slot.Takes family .buffered) :
    (acceptBuffered family payload fin limit : Step ν Fault (Option Loan)) assembly =
      ⟨.fault (.interleaved (assembly.inFlight.getD family) (.ofFamily family)), assembly, []⟩ := by
  obtain ⟨slot, pool, streams⟩ := assembly
  cases slot with
  | idle => simp at refused
  | buffered current loan =>
    have other : current ≠ family := by simpa using refused
    simp [acceptBuffered, loanFor, other, inFlight]
  | streaming current stream feed => simp [acceptBuffered, loanFor, inFlight]

/-- The stream that a fragment goes into, its writing side, and the readers with its own. -/
structure Channel where
  stream : Nat
  feed : Feed
  streams : List Reader

def channel (assembly : Assembly) : Channel :=
  match assembly.slot with
  | .streaming _ stream feed => ⟨stream, feed, assembly.streams⟩
  | _ => ⟨assembly.streams.length, .opened, assembly.streams ++ [.bytes .opened]⟩

private theorem streamFor_run {family : Family} {assembly : Assembly}
    (takes : assembly.slot.Takes family .streaming) :
    (streamFor family : Step ν Fault (Nat × Feed × Bool)) assembly =
      ⟨.value (assembly.channel.stream, assembly.channel.feed, assembly.isIdle),
        ⟨.idle, assembly.pool, assembly.channel.streams⟩, []⟩ := by
  cases held : assembly.slot with
  | idle => simp [streamFor, openStream, channel, isIdle, inFlight, Slot.inFlight, held]
  | buffered current loan => simp [held] at takes
  | streaming current stream feed =>
    have same : current = family := by simpa [held] using takes
    simp [streamFor, channel, isIdle, inFlight, Slot.inFlight, held, same]

/-- An assembly with a fragment written to its stream, and what is logged of it. -/
structure Written where
  assembly : Assembly
  records : List LogRecord

/-- Appends a fragment to the stream that it goes into, and ends the stream with the last one. -/
def written (family : Family) (payload : Bytes) (fin : Bool) (assembly : Assembly) : Written :=
  let target := assembly.channel
  let reader := target.streams[target.stream]?.getD .gone
  let fed := target.feed.append payload reader
  let ended := fed.1.finish fed.2.1
  if fin then
    ⟨⟨.idle, assembly.pool, target.streams.set target.stream ended.1⟩, fed.2.2 ++ ended.2⟩
  else
    ⟨⟨.streaming family target.stream fed.1, assembly.pool,
      target.streams.set target.stream fed.2.1⟩, fed.2.2⟩

/-- A fragment taken by a streamed message is written to its stream; the first one gives the
stream. -/
theorem acceptStreaming_run {family : Family} {payload : Bytes} {fin : Bool} {assembly : Assembly}
    (takes : assembly.slot.Takes family .streaming) :
    (acceptStreaming family payload fin : Step ν Fault (Option Nat)) assembly =
      let result := assembly.written family payload fin
      ⟨.value (if assembly.isIdle then some assembly.channel.stream else none), result.assembly,
        result.records.map .logged⟩ := by
  simp only [acceptStreaming, Work.bind_run, streamFor_run takes, Outcome.andThen_value]
  by_cases bound : assembly.channel.stream < assembly.channel.streams.length
  · cases fin <;> simp [written, feedStream, finishStream, replaceReader, reader, bound]
  · -- There is no such reader, and what is written to none leaves none.
    have missing : assembly.channel.streams[assembly.channel.stream]? = none := by simpa using bound
    have kept (reader : Reader) : assembly.channel.streams.set assembly.channel.stream reader =
        assembly.channel.streams := List.set_eq_of_length_le (Nat.le_of_not_lt bound)
    cases fin <;> simp [written, feedStream, finishStream, replaceReader, reader, missing, kept,
      Feed.append_gone]

theorem acceptStreaming_refused {family : Family} {payload : Bytes} {fin : Bool}
    {assembly : Assembly} (refused : ¬ assembly.slot.Takes family .streaming) :
    (acceptStreaming family payload fin : Step ν Fault (Option Nat)) assembly =
      ⟨.fault (.interleaved (assembly.inFlight.getD family) (.ofFamily family)), assembly, []⟩ := by
  obtain ⟨slot, pool, streams⟩ := assembly
  cases slot with
  | idle => simp at refused
  | buffered current loan => simp [acceptStreaming, streamFor, inFlight]
  | streaming current stream feed =>
    have other : current ≠ family := by simpa using refused
    simp [acceptStreaming, streamFor, other, inFlight]

def abandoned (assembly : Assembly) : Assembly :=
  match assembly.slot with
  | .idle => assembly
  | .buffered _ loan => ⟨.idle, assembly.pool.release loan.buffer, assembly.streams⟩
  | .streaming _ stream feed =>
    ⟨.idle, assembly.pool, assembly.streams.set stream (feed.abort (assembly.reader stream)).1⟩

def abandonTrace (assembly : Assembly) : List (Occurrence ν) :=
  match assembly.slot with
  | .idle => []
  | .buffered family loan =>
    .logged (.abandonedBuffered family loan.length) :: returnedTrace loan
  | .streaming family stream feed =>
    .logged (.abandonedStreaming family feed.appended) ::
      (feed.abort (assembly.reader stream)).2.map .logged

@[simp] theorem abandon_run (assembly : Assembly) :
    (abandon : Step ν ε Unit) assembly =
      ⟨.value (), assembly.abandoned, assembly.abandonTrace⟩ := by
  obtain ⟨slot, pool, streams⟩ := assembly
  cases slot <;> simp [abandon, abandoned, abandonTrace, abortStream, replaceReader, reader]

@[simp] theorem slot_abandoned (assembly : Assembly) : assembly.abandoned.slot = .idle := by
  unfold abandoned
  split <;> simp_all

def disposed (assembly : Assembly) : Assembly :=
  match assembly.slot with
  | .idle => assembly
  | .buffered _ loan => ⟨.idle, assembly.pool.release loan.buffer, assembly.streams⟩
  | .streaming _ stream _ =>
    ⟨.idle, assembly.pool, assembly.streams.set stream (Feed.drop (assembly.reader stream))⟩

@[simp] theorem dispose_run (assembly : Assembly) :
    (dispose : Step ν ε Unit) assembly =
      ⟨.value (), assembly.disposed,
        match assembly.slot with
        | .buffered _ loan => returnedTrace loan
        | _ => []⟩ := by
  obtain ⟨slot, pool, streams⟩ := assembly
  cases slot <;> simp [dispose, disposed, replaceReader, reader]

end Assembly

end WebSocketSession
