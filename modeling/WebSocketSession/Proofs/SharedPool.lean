import WebSocketSession.Proofs.Likeness

/-!
# Sharing a pool

A pool serves any number of owners: sessions, and whoever takes buffers from it directly or through
guards. Between two operations of one session the others may do with the pool whatever a pool lets
them do, and leave it in any state. The session does not notice: its callbacks, faults, closes and
streams are those that it has with a pool to itself (`shared_pool_unnoticed`). What a loan shows of
the buffer behind it are the bytes of its own message, and its limit is the one that was asked for.
-/

set_option autoImplicit false
set_option relaxedAutoImplicit false

namespace WebSocketSession

variable {σ σ' ν ν' τ τ' : Type}

/-- What someone does with a pool: takes a buffer, writes to one or returns it, does the same
through a guard, or has a session of its own go on. Owners are known by number. -/
inductive PoolUse (σ τ : Type) where
  | acquire (size : Nat)
  | write (buffer : Nat) (bytes : Bytes)
  | release (buffer : Nat)
  | lend (limit : Nat)
  | append (guard : Nat) (payload : Bytes)
  | giveBack (guard : Nat)
  | start (app : σ) (handlers : Handlers) (policy : Policy)
  | operate (session : Nat) (operation : Operation σ τ)
  | leave (session : Nat) (farewell : Farewell)

structure Neighbourhood (σ τ : Type) where
  pool : Pool
  buffers : List Buffer
  guards : List Loan
  sessions : List (Session σ τ)

/-- The session with this pool in place of its own. -/
def Session.over (pool : Pool) (session : Session σ τ) : Session σ τ :=
  { session with assembly := { session.assembly with pool := pool } }

/-- What a use makes of the neighbourhood; an owner that there is not does nothing. -/
def PoolUse.apply (host : Host σ ν τ) (neighbours : Neighbourhood σ τ) :
    PoolUse σ τ → Neighbourhood σ τ
  | .acquire size =>
    let (buffer, pool) := neighbours.pool.acquire size
    { neighbours with pool := pool, buffers := neighbours.buffers ++ [buffer] }
  | .write buffer bytes =>
    { neighbours with buffers := neighbours.buffers.modify buffer (·.extend bytes) }
  | .release buffer =>
    match neighbours.buffers[buffer]? with
    | some held =>
      { neighbours with
        pool := neighbours.pool.release held
        buffers := neighbours.buffers.eraseIdx buffer }
    | none => neighbours
  | .lend limit =>
    let (buffer, pool) := neighbours.pool.acquire limit
    { neighbours with pool := pool, guards := neighbours.guards ++ [.lend buffer limit] }
  | .append guard payload =>
    let extended (loan : Loan) : Loan :=
      match loan.append payload with
      | .ok extended => extended
      | .error _ => loan
    { neighbours with guards := neighbours.guards.modify guard extended }
  | .giveBack guard =>
    match neighbours.guards[guard]? with
    | some held =>
      { neighbours with
        pool := neighbours.pool.release held.buffer
        guards := neighbours.guards.eraseIdx guard }
    | none => neighbours
  | .start app handlers policy =>
    { neighbours with
      sessions := neighbours.sessions ++ [.start app handlers policy neighbours.pool] }
  | .operate session operation =>
    match neighbours.sessions[session]? with
    | some held =>
      let later := (operation.apply host (held.over neighbours.pool)).state
      { neighbours with
        pool := later.assembly.pool
        sessions := neighbours.sessions.set session later }
    | none => neighbours
  | .leave session farewell =>
    match neighbours.sessions[session]? with
    | some held =>
      let later := ((farewell.apply : Session.Step σ τ ν Empty Unit)
        (held.over neighbours.pool)).state
      { neighbours with
        pool := later.assembly.pool
        sessions := neighbours.sessions.set session later }
    | none => neighbours

inductive PoolTurn (σ τ σ' τ' : Type) where
  | own (operation : Operation σ τ)
  | others (use : PoolUse σ' τ')

def PoolTurn.own? : PoolTurn σ τ σ' τ' → Option (Operation σ τ)
  | .own operation => some operation
  | .others _ => none

/-- What comes of a session's own turns while it shares its pool. -/
def Session.sharing (host : Host σ ν τ) (other : Host σ' ν' τ') (session : Session σ τ)
    (neighbours : Neighbourhood σ' τ') :
    List (PoolTurn σ τ σ' τ') → List (Outcome (Session σ τ) (Occurrence ν) Empty Unit)
  | [] => []
  | .own operation :: rest =>
    let done := operation.apply host (session.over neighbours.pool)
    done :: sharing host other done.state { neighbours with pool := done.state.assembly.pool } rest
  | .others use :: rest => sharing host other session (use.apply other neighbours) rest

/-- What a session has of a message in flight: the bytes so far and their limit, or a stream. -/
inductive Content where
  | nothing
  | whole (family : Family) (bytes : Bytes) (limit : Nat)
  | stream (family : Family) (stream : Nat) (feed : Feed)

def Slot.content : Slot → Content
  | .idle => .nothing
  | .buffered family loan => .whole family loan.bytes loan.limit
  | .streaming family stream feed => .stream family stream feed

/-- All that there is to notice of an operation: everything that happens, how it ends, and the
session that it leaves, but for the pool and for how much a buffer could hold. -/
structure Notice (σ ν τ : Type) where
  ending : Ending Empty Unit
  trace : List (Occurrence ν)
  app : σ
  connection : Option τ
  content : Content
  streams : List Reader

def Outcome.notice (done : Outcome (Session σ τ) (Occurrence ν) Empty Unit) : Notice σ ν τ :=
  ⟨done.ending, done.trace, done.state.app, done.state.connection, done.state.assembly.slot.content,
    done.state.assembly.streams⟩

namespace Likeness

/-- Any two pools are alike, and loans with the same bytes and limit; nothing else is left open. -/
def pooled : Likeness σ σ ν ν where
  app := Eq
  note := Eq
  failure := Eq
  payload := Eq
  loan one other := other.bytes = one.bytes ∧ other.limit = one.limit
  pool _ _ := True
  typeName same := by rw [same]
  request same := by rw [same]
  payload_refl _ := rfl
  bytes alike := alike.1
  limit alike := alike.2
  extend {one other} alike bytes := by
    refine ⟨?_, alike.2⟩
    have held : other.buffer.bytes = one.buffer.bytes := alike.1
    rw [Loan.bytes, Loan.bytes, Buffer.bytes_extend, Buffer.bytes_extend, held]
  lend _ _ := ⟨rfl, rfl⟩
  acquire _ _ := trivial
  release _ _ := trivial

private theorem eq_of_sameFault {one other : Fault}
    (alike : (pooled : Likeness σ σ ν ν).SameFault one other) : other = one := by
  cases alike with
  | same => rfl
  | failed same => rw [same]
  | panicked same => rw [same]

private theorem eq_of_sameEvent {one other : Event}
    (alike : (pooled : Likeness σ σ ν ν).SameEvent one other) : other = one := by
  cases alike with
  | same => rfl
  | error alike => rw [eq_of_sameFault alike]

private theorem eq_of_sameRecord {one other : LogRecord}
    (alike : (pooled : Likeness σ σ ν ν).SameRecord one other) : other = one := by
  cases alike with
  | same => rfl
  | unhandled alike => rw [eq_of_sameFault alike]
  | callbackPanicked same => rw [same]
  | errorCallbackFailed same => rw [same]
  | errorCallbackPanicked same => rw [same]

private theorem eq_of_sameOccurrence {one other : Occurrence ν}
    (alike : (pooled : Likeness σ σ ν ν).SameOccurrence one other) : one = other := by
  cases alike with
  | called alike => rw [eq_of_sameEvent alike]
  | logged alike => rw [eq_of_sameRecord alike]
  | noted same => rw [same]
  | _ => rfl

private theorem sameReaction_refl (reaction : Reaction σ ν) :
    (pooled : Likeness σ σ ν ν).SameReaction reaction reaction := by
  induction reaction with
  | succeed => exact .succeed
  | fail failure => exact .fail rfl
  | panic payload => exact .panic rfl
  | become app rest ih => exact .become rfl ih
  | note note rest ih => exact .note rfl ih
  | send frame rest ih => exact .send frame ih
  | close code reason rest ih => exact .close code reason ih
  | askOpen rest ih => exact .askOpen ih
  | read stream style rest ih => exact .read stream style ih

private theorem sameHost_refl (host : Host σ ν τ) :
    (pooled : Likeness σ σ ν ν).SameHost host host where
  transport := rfl
  react events apps policy := by
    cases apps
    rw [eq_of_sameEvent events]
    exact sameReaction_refl _

private theorem sameOperation_refl (operation : Operation σ τ) :
    (pooled : Likeness σ σ ν ν).SameOperation operation operation := by
  cases operation with
  | input input => exact .input input
  | attach connection => exact .attach connection
  | read stream style => exact .read stream style
  | become app => exact .become rfl

private theorem content_same {one other : Slot}
    (alike : (pooled : Likeness σ σ ν ν).SameSlot one other) :
    other.content = one.content := by
  cases alike with
  | buffered family alike => rw [Slot.content, alike.1, alike.2, Slot.content]
  | _ => rfl

private theorem notice_same {done done' : Outcome (Session σ τ) (Occurrence ν) Empty Unit}
    (alike : done.Parallel (pooled.sessions τ) Eq Eq done') : done'.notice = done.notice := by
  obtain ⟨ending, session, trace⟩ := done
  obtain ⟨ending', session', trace'⟩ := done'
  obtain ⟨ends, same, seen⟩ := alike
  have traces : trace = trace' := by
    rw [← List.forall₂_eq_eq_eq]
    exact seen.imp fun _ _ => eq_of_sameOccurrence
  have endings : ending' = ending := by
    cases ends with
    | value => rfl
    | fault faults => exact congrArg Ending.fault (Eq.symm faults)
    | panic payloads => exact congrArg Ending.panic (Eq.symm payloads)
  have apps : session'.app = session.app := Eq.symm same.app
  have connections : session'.connection = session.connection := same.connection
  have streams : session'.assembly.streams = session.assembly.streams := same.assembly.streams
  have content : session'.assembly.slot.content = session.assembly.slot.content :=
    content_same same.assembly.slot
  simp only [Outcome.notice, traces, endings, apps, connections, streams, content]

private theorem SameSession.over {one other : Session σ τ}
    (same : (pooled : Likeness σ σ ν ν).SameSession one other) (pool : Pool) :
    (pooled : Likeness σ σ ν ν).SameSession one (other.over pool) :=
  ⟨same.app, same.handlers, same.policy, same.connection, same.assembly.slot, trivial,
    same.assembly.streams⟩

private theorem sharing_same (host : Host σ ν τ) (other : Host σ' ν' τ')
    (turns : List (PoolTurn σ τ σ' τ'))
    {session shared : Session σ τ} (same : (pooled : Likeness σ σ ν ν).SameSession session shared)
    (neighbours : Neighbourhood σ' τ') :
    (shared.sharing host other neighbours turns).map Outcome.notice =
      (session.history host (turns.filterMap PoolTurn.own?)).map (·.outcome.notice) := by
  induction turns generalizing session shared neighbours with
  | nil => rfl
  | cons turn rest ih =>
    cases turn with
    | own operation =>
      have done := apply_parallel (sameHost_refl host) (sameOperation_refl operation) _ _
        (same.over neighbours.pool)
      exact congrArg₂ List.cons (notice_same done) (ih done.state _)
    | others use => exact ih same _

end Likeness

/-- A session that shares its pool notices nothing of what the others do with it, between any two
of its operations: everything comes to what it comes to over any pool that the session has to
itself. A buffer from whatever pool is lent empty, for exactly the length that was asked for. -/
theorem shared_pool_unnoticed (host : Host σ ν τ) (other : Host σ' ν' τ') (app : σ)
    (handlers : Handlers) (policy : Policy) (neighbours : Neighbourhood σ' τ')
    (turns : List (PoolTurn σ τ σ' τ')) (alone : Pool) :
    ((Session.start app handlers policy neighbours.pool).sharing host other neighbours
          turns).map Outcome.notice =
        ((Session.start app handlers policy alone).history host
          (turns.filterMap PoolTurn.own?)).map (·.outcome.notice) ∧
      ∀ (pool : Pool) (limit : Nat),
        let loan := Loan.lend (pool.acquire limit).1 limit
        loan.bytes = [] ∧ loan.limit = limit ∧ loan.remaining = limit :=
  ⟨Likeness.sharing_same host other turns (Likeness.start_same rfl trivial handlers policy)
    neighbours, fun _ _ => ⟨rfl, rfl, rfl⟩⟩

end WebSocketSession
