import WebSocketSession.Pool
import WebSocketSession.Stream.Reader
import WebSocketSession.Trace
import WebSocketSession.Work

/-!
# Assembly of messages

At most one message is in flight. The slot that holds it is idle, or lends a buffer to a message
that is delivered whole, or feeds the stream of a message that is read while it arrives. A slot
is emptied before a fragment goes in, and every way out either fills it again or has returned the
buffer or ended the stream.
-/

set_option autoImplicit false
set_option relaxedAutoImplicit false

namespace WebSocketSession

/-- The message in flight. -/
inductive Slot where
  | idle
  | buffered (family : Family) (loan : Loan)
  | streaming (family : Family) (stream : Nat) (feed : Feed)
  deriving DecidableEq

namespace Slot

def inFlight : Slot → Option Family
  | .idle => none
  | .buffered family _ => some family
  | .streaming family _ _ => some family

def delivery : Slot → Option Delivery
  | .idle => none
  | .buffered .. => some .buffered
  | .streaming .. => some .streaming

def label : Slot → String
  | .idle => "idle"
  | .buffered .. => "buffered"
  | .streaming .. => "streaming"

end Slot

/-- The slot, the pool that its buffers come from, and the readers of the streams opened so far. -/
structure Assembly where
  slot : Slot
  pool : Pool
  streams : List Reader
  deriving DecidableEq

namespace Assembly

variable {ν ε : Type}

abbrev Step (ν ε α : Type) : Type := Work Assembly (Occurrence ν) ε α

def start (pool : Pool) : Assembly := ⟨.idle, pool, []⟩

def inFlight (assembly : Assembly) : Option Family := assembly.slot.inFlight

def isIdle (assembly : Assembly) : Bool := assembly.inFlight.isNone

def layout (assembly : Assembly) : String :=
  Layout.partly "MessageAssembly"
    [("state", Quoted.quote assembly.slot.label),
      ("family", Layout.option (assembly.inFlight.map Family.name))]

def fill (slot : Slot) : Step ν ε Unit :=
  Work.modify fun assembly => { assembly with slot := slot }

def vacate : Step ν ε Slot := do
  let assembly ← Work.state
  fill .idle
  return assembly.slot

/-- Takes a buffer from the pool for a message of at most `limit` bytes. -/
def borrow (limit : Nat) : Step ν ε Loan := do
  let assembly ← Work.state
  Work.modify fun _ => { assembly with pool := (assembly.pool.acquire limit).2 }
  Work.tell [.acquired limit, .counted .bufferLent]
  return .lend (assembly.pool.acquire limit).1 limit

def giveBack (loan : Loan) : Step ν ε Unit := do
  Work.modify fun assembly => { assembly with pool := assembly.pool.release loan.buffer }
  Work.tell [.released loan.length, .counted .bufferReturned]

def openStream : Step ν ε Nat := do
  let assembly ← Work.state
  Work.modify fun _ => { assembly with streams := assembly.streams ++ [.bytes .opened] }
  return assembly.streams.length

/-- The reader of a stream; there is none under numbers not given out. -/
def reader (assembly : Assembly) (stream : Nat) : Reader :=
  assembly.streams[stream]?.getD .gone

def replaceReader (stream : Nat) (reader : Reader) : Step ν ε Unit :=
  Work.modify fun assembly =>
    { assembly with streams := assembly.streams.set stream reader }

def feedStream (stream : Nat) (feed : Feed) (payload : Bytes) : Step ν ε Feed := do
  let assembly ← Work.state
  let (fed, reader, records) := feed.append payload (assembly.reader stream)
  replaceReader stream reader
  Work.tell (records.map .logged)
  return fed

def finishStream (stream : Nat) (feed : Feed) : Step ν ε Unit := do
  let assembly ← Work.state
  let (reader, records) := feed.finish (assembly.reader stream)
  replaceReader stream reader
  Work.tell (records.map .logged)

def abortStream (stream : Nat) (feed : Feed) : Step ν ε Unit := do
  let assembly ← Work.state
  let (reader, records) := feed.abort (assembly.reader stream)
  replaceReader stream reader
  Work.tell (records.map .logged)

/-- Puts back what was in the slot and refuses a fragment of another message. -/
def refuse {α : Type} (slot : Slot) (received : Family) : Step ν Fault α := do
  fill slot
  Work.raise (.interleaved (slot.inFlight.getD received) (.ofFamily received))

/-- The loan that a fragment goes into: that of its own message, or a new one for the first
fragment. The limit counts only there. -/
def loanFor (family : Family) (limit : Nat) : Step ν Fault Loan := do
  match ← vacate with
  | .idle => borrow limit
  | slot@(.buffered current loan) => if current = family then return loan else refuse slot family
  | slot@(.streaming ..) => refuse slot family

/-- Accepts a fragment of a message that is delivered whole; the last one gives the message. A
fragment that does not fit ends the message. -/
def acceptBuffered (family : Family) (payload : Bytes) (fin : Bool) (limit : Nat) :
    Step ν Fault (Option Loan) := do
  let loan ← loanFor family limit
  match loan.append payload with
  | .error overflow =>
    giveBack loan
    Work.raise (.messageTooLarge family overflow.attempted overflow.limit)
  | .ok extended =>
    if fin then
      return some extended
    else
      fill (.buffered family extended)
      return none

def streamFor (family : Family) : Step ν Fault (Nat × Feed × Bool) := do
  match ← vacate with
  | .idle => return (← openStream, .opened, true)
  | slot@(.streaming current stream feed) =>
    if current = family then return (stream, feed, false) else refuse slot family
  | slot@(.buffered ..) => refuse slot family

/-- Accepts a fragment of a message that is read while it arrives; the first one gives the
stream, which holds its payload already, and the last one ends it. -/
def acceptStreaming (family : Family) (payload : Bytes) (fin : Bool) :
    Step ν Fault (Option Nat) := do
  let (stream, feed, isNew) ← streamFor family
  let fed ← feedStream stream feed payload
  if fin then
    finishStream stream fed
  else
    fill (.streaming family stream fed)
  return if isNew then some stream else none

/-- Gives up the message in flight: its buffer goes back, its stream is cut short. -/
def abandon : Step ν ε Unit := do
  match ← vacate with
  | .idle => pure ()
  | .buffered family loan =>
    Work.tell [.logged (.abandonedBuffered family loan.length)]
    giveBack loan
  | .streaming family stream feed =>
    Work.tell [.logged (.abandonedStreaming family feed.appended)]
    abortStream stream feed

/-- Lets go of the message in flight without a word: its buffer goes back, and its reader takes
the stream for ended. -/
def dispose : Step ν ε Unit := do
  match ← vacate with
  | .idle => pure ()
  | .buffered _ loan => giveBack loan
  | .streaming _ stream _ =>
    let assembly ← Work.state
    replaceReader stream (Feed.drop (assembly.reader stream))

def read (assembly : Assembly) (stream : Nat) (style : ReadStyle) :
    Option (ReadOutcome × Assembly) :=
  ((assembly.reader stream).use style).map fun (outcome, reader) =>
    (outcome, { assembly with streams := assembly.streams.set stream reader })

end Assembly

end WebSocketSession
