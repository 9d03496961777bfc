import Mathlib.Algebra.Group.Nat.Defs
import Mathlib.Data.List.Nodup
import WebSocketSession.Pool

/-!
# Buckets

A size is rounded up to its bucket and a capacity down. Both give powers of two (`covers`,
`bucketOf_serves`) and agree (`bucketOf_eq`), so that whatever lies in a bucket can hold what the
bucket is asked for. What taking a buffer and giving one back do to the idle buffers follows, bucket
by bucket and for their number.
-/

set_option autoImplicit false
set_option relaxedAutoImplicit false

namespace WebSocketSession.Pool

private theorem nextPowerOfTwo_bounds {size : Nat} (some : 0 < size) :
    (nextPowerOfTwo size).isPowerOfTwo ∧ size ≤ nextPowerOfTwo size ∧
      nextPowerOfTwo size < 2 * size := by
  rw [nextPowerOfTwo]
  split
  · exact ⟨⟨0, rfl⟩, by omega, by omega⟩
  · have low : 2 ^ (size - 1).log2 ≤ size - 1 := Nat.log2_self_le (by omega)
    have high : size - 1 < 2 ^ ((size - 1).log2 + 1) := Nat.lt_log2_self
    change Nat.isPowerOfTwo (2 ^ _) ∧ size ≤ 2 ^ _ ∧ 2 ^ _ < _
    refine ⟨⟨_, rfl⟩, by omega, ?_⟩
    rw [Nat.pow_succ]
    omega

private theorem eq_of_isPowerOfTwo {first second : Nat} (one : first.isPowerOfTwo)
    (other : second.isPowerOfTwo) (less : first < 2 * second) (more : second < 2 * first) :
    first = second := by
  obtain ⟨k, rfl⟩ := one
  obtain ⟨l, rfl⟩ := other
  rw [← Nat.pow_succ', Nat.pow_lt_pow_iff_right (by omega)] at less more
  rw [show k = l by omega]

/-- The bucket of a capacity is the largest power of two that the capacity covers. -/
theorem bucketOf_serves {capacity : Nat} (some : capacity ≠ 0) :
    (bucketOf capacity).isPowerOfTwo ∧ bucketOf capacity ≤ capacity ∧
      capacity < 2 * bucketOf capacity := by
  refine ⟨⟨capacity.log2, rfl⟩, Nat.log2_self_le some, ?_⟩
  have below : capacity < 2 ^ (capacity.log2 + 1) := Nat.lt_log2_self
  rwa [Nat.pow_succ'] at below

theorem bucketOf_eq {bucket capacity : Nat} (power : bucket.isPowerOfTwo) (low : bucket ≤ capacity)
    (high : capacity < 2 * bucket) : bucketOf capacity = bucket := by
  have some : capacity ≠ 0 := by
    have least := Nat.pos_of_isPowerOfTwo power
    omega
  obtain ⟨power', low', high'⟩ := bucketOf_serves some
  exact eq_of_isPowerOfTwo power' power (by omega) (by omega)

theorem covers {size bucket : Nat} (found : bucketFor? size = some bucket) :
    bucket.isPowerOfTwo ∧ size ≤ bucket ∧ bucket < 2 * max size 1 ∧ bucket ≤ 2 ^ 63 := by
  simp only [bucketFor?] at found
  split at found
  · rename_i fits
    cases found
    obtain ⟨power, low, high⟩ := nextPowerOfTwo_bounds (Nat.le_max_right size 1)
    refine ⟨power, by omega, high, ?_⟩
    obtain ⟨k, same⟩ := power
    have small : 2 ^ k < 2 ^ 64 := by
      rw [← same]
      exact Nat.lt_of_le_of_lt fits (by decide)
    rw [Nat.pow_lt_pow_iff_right (by omega)] at small
    rw [same]
    exact Nat.pow_le_pow_right (by omega) (by omega)
  · cases found

theorem bucketFor?_eq_none_iff {size : Nat} : bucketFor? size = none ↔ 2 ^ 63 < size := by
  obtain ⟨⟨k, same⟩, low, high⟩ := nextPowerOfTwo_bounds (Nat.le_max_right size 1)
  have last : Numeral.sizeMax = 2 ^ 64 - 1 := rfl
  simp only [bucketFor?, ite_eq_right_iff, reduceCtorEq, imp_false, Nat.not_le, last]
  rw [same] at low high ⊢
  constructor
  · intro beyond
    omega
  · intro past
    have beyond : 2 ^ 63 < 2 ^ k := by omega
    rw [Nat.pow_lt_pow_iff_right (by omega)] at beyond
    have least : 2 ^ 64 ≤ 2 ^ k := Nat.pow_le_pow_right (by omega) beyond
    omega

theorem exists_bucketFor {size : Nat} (fits : size ≤ 2 ^ 63) :
    ∃ bucket, bucketFor? size = some bucket :=
  Option.ne_none_iff_exists'.mp fun none =>
    absurd (bucketFor?_eq_none_iff.mp none) (Nat.not_lt.mpr fits)

/-- The shift of machine words that finds the bucket of a capacity: neither the distance nor the
result leaves the words. -/
theorem toNat_shift_clz {capacity : BitVec 64} (some : capacity ≠ 0) :
    capacity.clz.toNat ≤ 63 ∧
      ((1 : BitVec 64) <<< (63 - capacity.clz)).toNat = bucketOf capacity.toNat := by
  have small : capacity.clz.toNat < 64 := BitVec.clz_lt_iff_ne_zero.mpr some
  have distance : (63 - capacity.clz).toNat = 63 - capacity.clz.toNat := by bv_omega
  have low := BitVec.two_pow_sub_clz_le_toNat_of_ne_zero (by omega) some
  have high := BitVec.toNat_lt_two_pow_sub_clz (x := capacity)
  have double : 2 ^ (64 - capacity.clz.toNat) = 2 * 2 ^ (63 - capacity.clz.toNat) := by
    rw [← Nat.pow_succ']
    congr 1
    omega
  rw [bucketOf_eq ⟨_, rfl⟩ low (double ▸ high), BitVec.shiftLeft_eq', BitVec.toNat_shiftLeft,
    distance]
  have within : 2 ^ (63 - capacity.clz.toNat) < 2 ^ 64 :=
    Nat.pow_lt_pow_right (by omega) (by omega)
  refine ⟨by omega, ?_⟩
  rw [Nat.shiftLeft_eq]
  simpa using Nat.mod_eq_of_lt within

variable {pool : Pool} {bucket other : Nat} {idle : List Buffer}

theorem idleIn_store (pool : Pool) (bucket other : Nat) (idle : List Buffer) :
    idleIn { pool with buckets := store bucket idle pool.buckets } other =
      if other = bucket then idle else pool.idleIn other := by
  rw [idleIn, lookup_store]
  split <;> rfl

theorem idleCount_store (pool : Pool) (bucket : Nat) (idle : List Buffer) :
    idleCount { pool with buckets := store bucket idle pool.buckets } +
        (pool.idleIn bucket).length = pool.idleCount + idle.length := by
  obtain ⟨buckets, retained, acquired, released⟩ := pool
  simp only [idleCount, idleIn]
  induction buckets with
  | nil => simp [store]
  | cons entry rest ih =>
    obtain ⟨key, held⟩ := entry
    by_cases here : key = bucket
    · subst here
      simp only [store, if_true, List.foldr_cons, List.lookup_cons_self, Option.getD_some]
      omega
    · have elsewhere : (bucket == key) = false := by simpa using Ne.symm here
      simp only [store, if_neg here, List.foldr_cons, List.lookup_cons, elsewhere]
      omega

theorem mem_store {entry : Nat × List Buffer} {buckets : List (Nat × List Buffer)}
    (member : entry ∈ store bucket idle buckets) : entry = (bucket, idle) ∨ entry ∈ buckets := by
  induction buckets with
  | nil => exact .inl (List.mem_singleton.mp member)
  | cons first rest ih =>
    rw [store] at member
    split at member
    · exact (List.mem_cons.mp member).imp_right (List.mem_cons_of_mem first)
    · rcases List.mem_cons.mp member with rfl | later
      · exact .inr List.mem_cons_self
      · exact (ih later).imp_right (List.mem_cons_of_mem first)

theorem nodup_store {buckets : List (Nat × List Buffer)}
    (nodup : (buckets.map Prod.fst).Nodup) :
    ((store bucket idle buckets).map Prod.fst).Nodup := by
  induction buckets with
  | nil => simp [store]
  | cons first rest ih =>
    obtain ⟨fresh, others⟩ := List.nodup_cons.mp nodup
    rw [store]
    split
    · rename_i same
      rw [List.map_cons, List.nodup_cons]
      exact ⟨same ▸ fresh, others⟩
    · rename_i different
      rw [List.map_cons, List.nodup_cons]
      refine ⟨fun member => ?_, ih others⟩
      obtain ⟨entry, stored, key⟩ := List.mem_map.mp member
      rcases mem_store stored with rfl | earlier
      · exact different key.symm
      · exact fresh (List.mem_map.mpr ⟨entry, earlier, key⟩)

theorem idleIn_of_mem (nodup : (pool.buckets.map Prod.fst).Nodup)
    (member : (bucket, idle) ∈ pool.buckets) : pool.idleIn bucket = idle := by
  obtain ⟨buckets, retained, acquired, released⟩ := pool
  rw [idleIn]
  induction buckets with
  | nil => cases member
  | cons entry rest ih =>
    obtain ⟨key, held⟩ := entry
    obtain ⟨fresh, others⟩ := List.nodup_cons.mp nodup
    rcases List.mem_cons.mp member with same | later
    · cases same
      rw [List.lookup_cons_self, Option.getD_some]
    · have elsewhere : (bucket == key) = false := by
        rw [beq_eq_false_iff_ne]
        rintro rfl
        exact fresh (List.mem_map.mpr ⟨_, later, rfl⟩)
      rw [List.lookup_cons, elsewhere]
      exact ih others later

variable {size : Nat} {buffer : Buffer} {rest : List Buffer}

theorem acquire_of_past (past : bucketFor? size = none) :
    pool.acquire size = (.ofCapacity 0, { pool with acquired := pool.acquired + 1 }) := by
  simp [acquire, past]

theorem acquire_of_nil (found : bucketFor? size = some bucket) (none : pool.idleIn bucket = []) :
    pool.acquire size = (.ofCapacity bucket, { pool with acquired := pool.acquired + 1 }) := by
  simp [acquire, found, none]

theorem acquire_of_cons (found : bucketFor? size = some bucket)
    (line : pool.idleIn bucket = buffer :: rest) :
    pool.acquire size =
      (buffer, { pool with
        acquired := pool.acquired + 1, buckets := store bucket rest pool.buckets }) := by
  simp [acquire, found, line]

theorem retained_acquire (pool : Pool) (size : Nat) :
    (pool.acquire size).2.retained = pool.retained := by
  rw [acquire]
  split
  · rfl
  · split <;> rfl

theorem retained_release (pool : Pool) (buffer : Buffer) :
    (pool.release buffer).retained = pool.retained := by
  rw [release]
  split
  · rfl
  · simp only
    split <;> rfl

def Keeps (pool : Pool) (buffer : Buffer) : Prop :=
  buffer.capacity ≠ 0 ∧ (pool.idleIn (bucketOf buffer.capacity)).length < pool.retained

theorem release_of_keeps (keeps : pool.Keeps buffer) :
    pool.release buffer =
      { pool with
        released := pool.released + 1
        buckets := store (bucketOf buffer.capacity)
          (buffer.clear :: pool.idleIn (bucketOf buffer.capacity)) pool.buckets } := by
  rw [release, if_neg keeps.1]
  exact if_pos keeps.2

theorem release_of_not_keeps (refuses : ¬ pool.Keeps buffer) :
    pool.release buffer = { pool with released := pool.released + 1 } := by
  rw [release]
  split
  · rfl
  · rename_i some
    exact if_neg fun room => refuses ⟨some, room⟩

end WebSocketSession.Pool
