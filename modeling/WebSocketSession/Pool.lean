import WebSocketSession.Frame
import WebSocketSession.Text.Layout
import WebSocketSession.Text.Numeral

/-!
# Buffers and their pool

A pool keeps idle buffers in buckets of powers of two. A buffer is taken from the bucket that
covers the size asked for and goes back to the largest bucket that it can serve; within a bucket
the last buffer returned is the first one taken.
-/

set_option autoImplicit false
set_option relaxedAutoImplicit false

namespace WebSocketSession

def defaultRetainedPerBucket : Nat := 16

/-- A growable buffer: what it can hold without growing, and the bytes that it holds, the latest
first, with their number. -/
structure Buffer where
  capacity : Nat
  latest : Bytes
  length : Nat
  length_latest : latest.length = length
  deriving DecidableEq

namespace Buffer

def ofCapacity (capacity : Nat) : Buffer := ⟨capacity, [], 0, rfl⟩

/-- The bytes held. -/
def bytes (buffer : Buffer) : Bytes := buffer.latest.reverse

def clear (buffer : Buffer) : Buffer := .ofCapacity buffer.capacity

/-- The capacity after making room: enough already, or at least doubled. -/
def grown (capacity needed : Nat) : Nat :=
  if needed ≤ capacity then capacity else max (max needed (2 * capacity)) 8

def extend (buffer : Buffer) (payload : Bytes) : Buffer where
  capacity := grown buffer.capacity (buffer.length + payload.length)
  latest := payload.reverse ++ buffer.latest
  length := buffer.length + payload.length
  length_latest := by
    rw [List.length_append, List.length_reverse, buffer.length_latest, Nat.add_comm]

theorem length_bytes (buffer : Buffer) : buffer.bytes.length = buffer.length := by
  rw [bytes, List.length_reverse, buffer.length_latest]

theorem bytes_clear (buffer : Buffer) : buffer.clear.bytes = [] := rfl

theorem bytes_extend (buffer : Buffer) (payload : Bytes) :
    (buffer.extend payload).bytes = buffer.bytes ++ payload := by
  simp [bytes, extend]

theorem capacity_extend_of_fits (buffer : Buffer) (payload : Bytes)
    (fits : buffer.length + payload.length ≤ buffer.capacity) :
    (buffer.extend payload).capacity = buffer.capacity := by
  simp [extend, grown, fits]

end Buffer

/-- Idle buffers by bucket, each bucket's latest first, and how often the pool was called. -/
structure Pool where
  buckets : List (Nat × List Buffer)
  retained : Nat
  acquired : Nat
  released : Nat
  deriving DecidableEq

namespace Pool

/-- A pool with nothing idle that keeps `retained` buffers in a bucket. -/
def empty (retained : Nat) : Pool := ⟨[], retained, 0, 0⟩

/-- The smallest power of two that is not less than a size. -/
def nextPowerOfTwo (size : Nat) : Nat :=
  if size ≤ 1 then 1 else Nat.pow 2 ((size - 1).log2 + 1)

/-- The smallest bucket that covers a size, unless sizes end before it. -/
def bucketFor? (size : Nat) : Option Nat :=
  let bucket := nextPowerOfTwo (max size 1)
  if bucket ≤ Numeral.sizeMax then some bucket else none

def bucketOf (capacity : Nat) : Nat := Nat.pow 2 capacity.log2

/-- The idle buffers of a bucket, the latest first. -/
def idleIn (pool : Pool) (bucket : Nat) : List Buffer :=
  (pool.buckets.lookup bucket).getD []

def store (bucket : Nat) (idle : List Buffer) :
    List (Nat × List Buffer) → List (Nat × List Buffer)
  | [] => [(bucket, idle)]
  | entry :: rest =>
    if entry.1 = bucket then (bucket, idle) :: rest else entry :: store bucket idle rest

def idleCount (pool : Pool) : Nat :=
  pool.buckets.foldr (fun entry count => entry.2.length + count) 0

/-- Calls of `acquire` that no `release` has answered. -/
def outstanding (pool : Pool) : Nat := pool.acquired - pool.released

/-- Takes the latest idle buffer of the bucket for a size, or makes one of the bucket's size; a
size past every bucket gets a buffer that grows on demand. -/
def acquire (pool : Pool) (size : Nat) : Buffer × Pool :=
  let counted := { pool with acquired := pool.acquired + 1 }
  match bucketFor? size with
  | none => (.ofCapacity 0, counted)
  | some bucket =>
    match pool.idleIn bucket with
    | [] => (.ofCapacity bucket, counted)
    | buffer :: rest => (buffer, { counted with buckets := store bucket rest pool.buckets })

/-- Takes a buffer back: it is emptied and kept if it has a capacity and its bucket has room. -/
def release (pool : Pool) (buffer : Buffer) : Pool :=
  let counted := { pool with released := pool.released + 1 }
  if buffer.capacity = 0 then counted
  else
    let bucket := bucketOf buffer.capacity
    let idle := pool.idleIn bucket
    if idle.length < pool.retained then
      { counted with buckets := store bucket (buffer.clear :: idle) pool.buckets }
    else counted

def layout (pool : Pool) : String :=
  Layout.closed "DefaultBufferPool"
    [("idle_buffers", toString pool.idleCount),
      ("retained_per_bucket", toString pool.retained)]

theorem lookup_store (bucket other : Nat) (idle : List Buffer)
    (buckets : List (Nat × List Buffer)) :
    (store bucket idle buckets).lookup other =
      if other = bucket then some idle else buckets.lookup other := by
  induction buckets with
  | nil => by_cases h : other = bucket <;> simp [store, h]
  | cons entry rest ih =>
    by_cases he : entry.1 = bucket <;> by_cases ho : other = bucket <;>
      by_cases hk : other = entry.1 <;> simp_all [store, List.lookup_cons] <;> grind

end Pool

/-- A buffer on loan for one message of at most `limit` bytes. -/
structure Loan where
  buffer : Buffer
  limit : Nat
  deriving DecidableEq

/-- A payload that does not fit: the length it would have led to, and the limit. -/
structure Overflow where
  attempted : Nat
  limit : Nat
  deriving DecidableEq

namespace Loan

/-- A buffer as it comes from the pool, lent for a message; whatever it held is forgotten. -/
def lend (buffer : Buffer) (limit : Nat) : Loan := ⟨buffer.clear, limit⟩

/-- The bytes of the message so far. -/
def bytes (loan : Loan) : Bytes := loan.buffer.bytes

def length (loan : Loan) : Nat := loan.buffer.length

def remaining (loan : Loan) : Nat := loan.limit - loan.length

/-- Adds a payload that fits; one that does not leaves the loan as it is. -/
def append (loan : Loan) (payload : Bytes) : Except Overflow Loan :=
  if loan.remaining < payload.length then
    .error ⟨min (loan.length + payload.length) Numeral.sizeMax, loan.limit⟩
  else .ok { loan with buffer := loan.buffer.extend payload }

def layout (loan : Loan) : String :=
  Layout.partly "PooledBuffer"
    [("len", toString loan.length), ("limit", toString loan.limit)]

theorem bytes_of_append {loan extended : Loan} {payload : Bytes}
    (h : loan.append payload = .ok extended) :
    extended.bytes = loan.bytes ++ payload ∧ extended.limit = loan.limit := by
  unfold append at h
  split at h
  · cases h
  · cases h
    exact ⟨Buffer.bytes_extend _ _, rfl⟩

end Loan

end WebSocketSession
