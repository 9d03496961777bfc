import Mathlib.Data.List.Induction
import WebSocketSession.Proofs.Buckets

/-!
# Histories of a pool

Buffers are taken from a pool, written to, and given back, and buffers from elsewhere are given to
it (`Deal`). Whatever is done in whichever order, the idle buffers lie empty in buckets that they
can serve, and no bucket is overfull (`Pool.Tidy`); so what is taken is empty and large enough. The
buffer taken is the last one given back of those that lie in its bucket (`last_given_back`).
-/

set_option autoImplicit false
set_option relaxedAutoImplicit false

namespace WebSocketSession

namespace Pool

/-- A bucket is a power of two, and holds empty buffers that it can hand out, and not too many. -/
structure Shelved (retained : Nat) (entry : Nat × List Buffer) : Prop where
  power : entry.1.isPowerOfTwo
  empty : ∀ buffer ∈ entry.2, buffer.bytes = []
  serves : ∀ buffer ∈ entry.2, entry.1 ≤ buffer.capacity ∧ buffer.capacity < 2 * entry.1
  room : entry.2.length ≤ retained

structure Tidy (pool : Pool) : Prop where
  keys : (pool.buckets.map Prod.fst).Nodup
  shelves : ∀ entry ∈ pool.buckets, Shelved pool.retained entry

theorem tidy_empty (retained : Nat) : (empty retained).Tidy := ⟨List.nodup_nil, nofun⟩

namespace Tidy

variable {pool : Pool} {bucket : Nat} {buffer : Buffer}

private theorem shelved (tidy : pool.Tidy) (some : pool.idleIn bucket ≠ []) :
    Shelved pool.retained (bucket, pool.idleIn bucket) := by
  cases found : pool.buckets.lookup bucket with
  | none =>
    rw [idleIn, found] at some
    exact absurd rfl some
  | some idle =>
    obtain ⟨before, after, split, -⟩ := List.lookup_eq_some_iff.mp found
    have member : (bucket, idle) ∈ pool.buckets :=
      split ▸ List.mem_append_right _ List.mem_cons_self
    rw [idleIn_of_mem tidy.keys member]
    exact tidy.shelves _ member

private theorem stored (tidy : pool.Tidy) {idle : List Buffer}
    (shelved : Shelved pool.retained (bucket, idle)) :
    Tidy { pool with buckets := store bucket idle pool.buckets } := by
  refine ⟨nodup_store tidy.keys, fun entry member => ?_⟩
  rcases mem_store member with rfl | earlier
  · exact shelved
  · exact tidy.shelves entry earlier

theorem acquire (tidy : pool.Tidy) (size : Nat) : (pool.acquire size).2.Tidy := by
  cases found : bucketFor? size with
  | none =>
    rw [acquire_of_past found]
    exact ⟨tidy.keys, tidy.shelves⟩
  | some bucket =>
    cases line : pool.idleIn bucket with
    | nil =>
      rw [acquire_of_nil found line]
      exact ⟨tidy.keys, tidy.shelves⟩
    | cons buffer rest =>
      rw [acquire_of_cons found line]
      have shelf := tidy.shelved (line ▸ List.cons_ne_nil buffer rest)
      rw [line] at shelf
      have left : Tidy { pool with buckets := store bucket rest pool.buckets } := tidy.stored
        ⟨shelf.power, fun other member => shelf.empty other (List.mem_cons_of_mem _ member),
          fun other member => shelf.serves other (List.mem_cons_of_mem _ member),
          Nat.le_trans (Nat.le_succ _) shelf.room⟩
      exact ⟨left.keys, left.shelves⟩

theorem release (tidy : pool.Tidy) (buffer : Buffer) : (pool.release buffer).Tidy := by
  by_cases keeps : pool.Keeps buffer
  · rw [release_of_keeps keeps]
    obtain ⟨some, room⟩ := keeps
    obtain ⟨power, serves⟩ := bucketOf_serves some
    have shelf : Shelved pool.retained (bucketOf buffer.capacity,
        buffer.clear :: pool.idleIn (bucketOf buffer.capacity)) := by
      by_cases none : pool.idleIn (bucketOf buffer.capacity) = []
      · rw [none] at room ⊢
        exact ⟨power, List.forall_mem_singleton.mpr rfl, List.forall_mem_singleton.mpr serves, room⟩
      · have others := tidy.shelved none
        exact ⟨power, List.forall_mem_cons.mpr ⟨rfl, others.empty⟩,
          List.forall_mem_cons.mpr ⟨serves, others.serves⟩, room⟩
    have more := tidy.stored shelf
    exact ⟨more.keys, more.shelves⟩
  · rw [release_of_not_keeps keeps]
    exact ⟨tidy.keys, tidy.shelves⟩

end Tidy

/-- What a pool gives for a size. -/
structure Takes (pool : Pool) (size : Nat) : Prop where
  /-- Up to the last power of two the buffer is empty and can hold the size. -/
  serves : size ≤ 2 ^ 63 →
    (pool.acquire size).1.bytes = [] ∧ size ≤ (pool.acquire size).1.capacity
  reuses : ∀ bucket buffer rest, bucketFor? size = some bucket →
    pool.idleIn bucket = buffer :: rest →
      (pool.acquire size).1 = buffer ∧ (pool.acquire size).2.idleIn bucket = rest ∧
        (pool.acquire size).2.idleCount + 1 = pool.idleCount
  /-- Nothing idle in the bucket: a buffer of its size is made. -/
  makes : ∀ bucket, bucketFor? size = some bucket → pool.idleIn bucket = [] →
    (pool.acquire size).1 = .ofCapacity bucket ∧ (pool.acquire size).2.idleIn bucket = [] ∧
      (pool.acquire size).2.idleCount = pool.idleCount
  /-- Past the last power of two nothing idle is of use. -/
  past : 2 ^ 63 < size →
    (pool.acquire size).1 = .ofCapacity 0 ∧ (pool.acquire size).2.idleCount = pool.idleCount
  others : ∀ bucket, bucketFor? size ≠ some bucket →
    (pool.acquire size).2.idleIn bucket = pool.idleIn bucket

/-- What a pool does with a buffer that it is given. -/
structure TakesBack (pool : Pool) (buffer : Buffer) : Prop where
  keeps : pool.Keeps buffer →
    (pool.release buffer).idleIn (bucketOf buffer.capacity) =
        buffer.clear :: pool.idleIn (bucketOf buffer.capacity) ∧
      (pool.release buffer).idleCount = pool.idleCount + 1
  refuses : ¬ pool.Keeps buffer → (pool.release buffer).idleCount = pool.idleCount ∧
    ∀ bucket, (pool.release buffer).idleIn bucket = pool.idleIn bucket
  others : ∀ bucket, bucket ≠ bucketOf buffer.capacity →
    (pool.release buffer).idleIn bucket = pool.idleIn bucket

section Takes

variable {pool : Pool} {size bucket : Nat}

private theorem takes_of_past (past : bucketFor? size = none) : pool.Takes size := by
  have beyond := bucketFor?_eq_none_iff.mp past
  have took := pool.acquire_of_past past
  constructor
  · exact fun fits => absurd beyond (Nat.not_lt.mpr fits)
  · intro bucket buffer rest found
    cases past.symm.trans found
  · intro bucket found
    cases past.symm.trans found
  · intro _
    rw [took]
    exact ⟨rfl, rfl⟩
  · intro bucket _
    rw [took]
    rfl

private theorem takes_of_nil (found : bucketFor? size = some bucket)
    (none : pool.idleIn bucket = []) :
    pool.Takes size := by
  obtain ⟨-, low, -, last⟩ := covers found
  have took := acquire_of_nil found none
  constructor
  · intro _
    rw [took]
    exact ⟨rfl, low⟩
  · intro other buffer rest same line
    cases found.symm.trans same
    cases none.symm.trans line
  · intro other same _
    cases found.symm.trans same
    rw [took]
    exact ⟨rfl, none, rfl⟩
  · exact fun past => absurd past (by omega)
  · intro other _
    rw [took]
    rfl

private theorem takes_of_cons {buffer : Buffer} {rest : List Buffer} (tidy : pool.Tidy)
    (found : bucketFor? size = some bucket) (line : pool.idleIn bucket = buffer :: rest) :
    pool.Takes size := by
  obtain ⟨-, low, -, last⟩ := covers found
  have took := acquire_of_cons found line
  have shelf := tidy.shelved (line ▸ List.cons_ne_nil buffer rest)
  rw [line] at shelf
  constructor
  · intro _
    rw [took]
    have member : buffer ∈ buffer :: rest := List.mem_cons_self
    exact ⟨shelf.empty buffer member, Nat.le_trans low (shelf.serves buffer member).1⟩
  · intro other first others same split
    cases found.symm.trans same
    cases line.symm.trans split
    have left := idleIn_store pool bucket bucket rest
    have count := idleCount_store pool bucket rest
    rw [if_pos rfl] at left
    rw [line, List.length_cons] at count
    rw [took]
    exact ⟨rfl, left, by change idleCount { pool with buckets := _ } + 1 = _; omega⟩
  · intro other same none
    cases found.symm.trans same
    cases line.symm.trans none
  · exact fun past => absurd past (by omega)
  · intro other elsewhere
    have different : other ≠ bucket := fun same => elsewhere (same ▸ found)
    rw [took]
    exact (idleIn_store pool bucket other rest).trans (if_neg different)

theorem Tidy.takes (tidy : pool.Tidy) (size : Nat) : pool.Takes size := by
  cases found : bucketFor? size with
  | none => exact takes_of_past found
  | some bucket =>
    cases line : pool.idleIn bucket with
    | nil => exact takes_of_nil found line
    | cons buffer rest => exact takes_of_cons tidy found line

end Takes

theorem takesBack (pool : Pool) (buffer : Buffer) : pool.TakesBack buffer := by
  by_cases keeps : pool.Keeps buffer
  · have kept := release_of_keeps keeps
    refine ⟨fun _ => ?_, fun refuses => absurd keeps refuses, fun bucket elsewhere => ?_⟩
    · rw [kept]
      refine ⟨(idleIn_store ..).trans (if_pos rfl), ?_⟩
      have count := idleCount_store pool (bucketOf buffer.capacity)
        (buffer.clear :: pool.idleIn (bucketOf buffer.capacity))
      rw [List.length_cons] at count
      change idleCount { pool with buckets := store _ _ pool.buckets } = _
      omega
    · rw [kept]
      exact (idleIn_store ..).trans (if_neg elsewhere)
  · have refused := release_of_not_keeps keeps
    refine ⟨fun some => absurd some keeps, fun _ => ?_, fun bucket _ => ?_⟩
    · rw [refused]
      exact ⟨rfl, fun bucket => rfl⟩
    · rw [refused]
      rfl

end Pool

/-- What is done with a pool: a buffer is taken, one that was taken is written to or given back, or
the pool is given a buffer from elsewhere. -/
inductive Deal where
  | acquire (size : Nat)
  | write (place : Nat) (payload : Bytes)
  | release (place : Nat)
  | donate (buffer : Buffer)

/-- A pool, and the buffers taken from it that have not been given back. -/
structure Exchange where
  pool : Pool
  held : List Buffer

namespace Exchange

def start (retained : Nat) : Exchange := ⟨.empty retained, []⟩

def given? (exchange : Exchange) : Deal → Option Buffer
  | .release place => exchange.held[place]?
  | .donate buffer => some buffer
  | _ => none

/-- One deal; there is nothing to write to, or to give back, where nothing is held. -/
def step (exchange : Exchange) : Deal → Exchange
  | .acquire size =>
    ⟨(exchange.pool.acquire size).2, exchange.held ++ [(exchange.pool.acquire size).1]⟩
  | .write place payload => { exchange with held := exchange.held.modify place (·.extend payload) }
  | .release place =>
    match exchange.held[place]? with
    | none => exchange
    | some buffer => ⟨exchange.pool.release buffer, exchange.held.eraseIdx place⟩
  | .donate buffer => { exchange with pool := exchange.pool.release buffer }

def run (exchange : Exchange) (deals : List Deal) : Exchange := deals.foldl step exchange

private theorem run_concat (exchange : Exchange) (deals : List Deal) (deal : Deal) :
    exchange.run (deals ++ [deal]) = (exchange.run deals).step deal := by
  simp [run]

private theorem step_pool (exchange : Exchange) (deal : Deal) :
    (exchange.step deal).pool = exchange.pool ∨
      (∃ size, (exchange.step deal).pool = (exchange.pool.acquire size).2) ∨
      ∃ buffer, exchange.given? deal = some buffer ∧
        (exchange.step deal).pool = exchange.pool.release buffer := by
  cases deal with
  | acquire size => exact .inr (.inl ⟨size, rfl⟩)
  | write place payload => exact .inl rfl
  | release place =>
    cases found : exchange.held[place]? with
    | none => exact .inl (by simp [step, found])
    | some buffer => exact .inr (.inr ⟨buffer, found, by simp [step, found]⟩)
  | donate buffer => exact .inr (.inr ⟨buffer, rfl, rfl⟩)

private theorem tidy_step {exchange : Exchange} (tidy : exchange.pool.Tidy) (deal : Deal) :
    (exchange.step deal).pool.Tidy := by
  rcases exchange.step_pool deal with same | ⟨size, took⟩ | ⟨buffer, -, gave⟩
  · rwa [same]
  · rw [took]
    exact tidy.acquire size
  · rw [gave]
    exact tidy.release buffer

private theorem tidy_run (exchange : Exchange) (tidy : exchange.pool.Tidy) (deals : List Deal) :
    (exchange.run deals).pool.Tidy := by
  induction deals using List.reverseRecOn with
  | nil => exact tidy
  | append_singleton deals deal ih =>
    rw [run_concat]
    exact tidy_step ih deal

private theorem tidy_start (retained : Nat) (deals : List Deal) :
    ((start retained).run deals).pool.Tidy :=
  (start retained).tidy_run (Pool.tidy_empty retained) deals

private theorem retained_start (retained : Nat) (deals : List Deal) :
    ((start retained).run deals).pool.retained = retained := by
  induction deals using List.reverseRecOn with
  | nil => rfl
  | append_singleton deals deal ih =>
    rw [run_concat]
    rcases ((start retained).run deals).step_pool deal with same | ⟨size, took⟩ | ⟨buffer, -, gave⟩
    · rw [same, ih]
    · rw [took, Pool.retained_acquire, ih]
    · rw [gave, Pool.retained_release, ih]

private theorem step_idleIn {exchange : Exchange} (tidy : exchange.pool.Tidy) (deal : Deal)
    (bucket : Nat) :
    (exchange.step deal).pool.idleIn bucket = exchange.pool.idleIn bucket ∨
      (∃ taken, exchange.pool.idleIn bucket =
        taken :: (exchange.step deal).pool.idleIn bucket) ∨
      ∃ buffer, exchange.given? deal = some buffer ∧ Pool.bucketOf buffer.capacity = bucket ∧
        (exchange.step deal).pool.idleIn bucket =
          buffer.clear :: exchange.pool.idleIn bucket := by
  rcases exchange.step_pool deal with same | ⟨size, took⟩ | ⟨buffer, given, gave⟩
  · exact .inl (by rw [same])
  · rw [took]
    have takes := tidy.takes size
    by_cases found : Pool.bucketFor? size = some bucket
    · cases line : exchange.pool.idleIn bucket with
      | nil => exact .inl (takes.makes bucket found line).2.1
      | cons taken rest =>
        refine .inr (.inl ⟨taken, ?_⟩)
        rw [(takes.reuses bucket taken rest found line).2.1]
    · exact .inl (takes.others bucket found)
  · rw [gave]
    have back := exchange.pool.takesBack buffer
    by_cases here : bucket = Pool.bucketOf buffer.capacity
    · by_cases keeps : exchange.pool.Keeps buffer
      · exact .inr (.inr ⟨buffer, given, here.symm, here ▸ (back.keeps keeps).1⟩)
      · exact .inl ((back.refuses keeps).2 bucket)
    · exact .inl (back.others bucket here)

/-- The first buffer of a bucket is the last one given back of those in it: when it came, the others
already lay there. -/
theorem last_given_back (retained : Nat) {deals : List Deal} {bucket : Nat} {first : Buffer}
    {others : List Buffer}
    (line : ((start retained).run deals).pool.idleIn bucket = first :: others) :
    ∃ earlier deal later buffer, deals = earlier ++ deal :: later ∧
      ((start retained).run earlier).given? deal = some buffer ∧
      Pool.bucketOf buffer.capacity = bucket ∧ first = buffer.clear ∧
      ((start retained).run earlier).pool.idleIn bucket = others := by
  induction length : deals.length using Nat.strongRecOn generalizing deals first others with
  | _ count ih =>
    rcases List.eq_nil_or_concat deals with rfl | ⟨before, last, rfl⟩
    · cases line
    · rw [List.concat_eq_append] at line length ⊢
      rw [List.length_append, List.length_singleton] at length
      have tidy := tidy_start retained before
      rw [run_concat] at line
      -- What holds after some of the earlier deals holds for all of them with the same deal.
      have weaken {shorter rest : List Deal} (split : before = shorter ++ rest)
          (line : ((start retained).run shorter).pool.idleIn bucket = first :: others) :
          ∃ earlier deal later buffer, before ++ [last] = earlier ++ deal :: later ∧
            ((start retained).run earlier).given? deal = some buffer ∧
            Pool.bucketOf buffer.capacity = bucket ∧ first = buffer.clear ∧
            ((start retained).run earlier).pool.idleIn bucket = others := by
        have short : shorter.length < count := by
          rw [split, List.length_append] at length
          omega
        obtain ⟨earlier, deal, later, buffer, parts, facts⟩ := ih _ short line rfl
        exact ⟨earlier, deal, later ++ rest ++ [last], buffer, by simp [split, parts], facts⟩
      rcases step_idleIn tidy last bucket with same | ⟨taken, came⟩ | ⟨buffer, given, here, came⟩
      · exact weaken (List.append_nil _).symm (same.symm.trans line)
      · -- The buffers below the one taken are as they were when that one came.
        rw [line] at came
        obtain ⟨earlier, deal, later, -, split, -, -, -, below⟩ :=
          ih before.length (by omega) came rfl
        exact weaken split below
      · rw [came] at line
        cases line
        exact ⟨before, last, [], buffer, rfl, given, here, rfl, rfl⟩

end Exchange

/-- Whatever is done with a new pool: its idle buffers lie in order, so that it gives empty buffers
that are large enough, the last one given back first, and keeps a buffer where there is room; and
the buckets are found without leaving the machine's words. -/
theorem idle_buffers_stay_in_order (retained : Nat) (deals : List Deal) :
    let pool := ((Exchange.start retained).run deals).pool
    pool.retained = retained ∧ pool.Tidy ∧ (∀ size, pool.Takes size) ∧
      (∀ buffer, pool.TakesBack buffer) ∧
      (∀ bucket first others, pool.idleIn bucket = first :: others →
        ∃ earlier deal later buffer, deals = earlier ++ deal :: later ∧
          ((Exchange.start retained).run earlier).given? deal = some buffer ∧
          Pool.bucketOf buffer.capacity = bucket ∧ first = buffer.clear ∧
          ((Exchange.start retained).run earlier).pool.idleIn bucket = others) ∧
      (∀ size, Pool.bucketFor? size = none ↔ 2 ^ 63 < size) ∧
      (∀ size bucket, Pool.bucketFor? size = some bucket →
        bucket.isPowerOfTwo ∧ size ≤ bucket ∧ bucket < 2 * max size 1 ∧ bucket ≤ 2 ^ 63) ∧
      ∀ capacity : BitVec 64, capacity ≠ 0 → capacity.clz.toNat ≤ 63 ∧
        ((1 : BitVec 64) <<< (63 - capacity.clz)).toNat = Pool.bucketOf capacity.toNat := by
  have tidy := Exchange.tidy_start retained deals
  exact ⟨Exchange.retained_start retained deals, tidy, tidy.takes, Pool.takesBack _,
    fun bucket first others => Exchange.last_given_back retained,
    fun size => Pool.bucketFor?_eq_none_iff, fun size bucket => Pool.covers,
    fun capacity => Pool.toNat_shift_clz⟩

end WebSocketSession
