import Mathlib.Data.Finset.Card
import WebSocketSession.Proofs.Holdings
import WebSocketSession.Proofs.PoolHistory

/-!
# A pool of one's own

A session that has a pool to itself keeps one buffer for each bucket that its messages have needed
so far, of exactly the bucket's size: it is idle, or it is on loan (`Holding.OnePerBucket`). So
there are never more buffers than the limits of the two families have buckets, none of them grows,
and after the first message of a bucket no buffer is made for another (`own_pool_frugal`).
-/

set_option autoImplicit false
set_option relaxedAutoImplicit false

namespace WebSocketSession

variable {σ ν τ : Type}

def Occurrence.sizeTaken? : Occurrence ν → Option Nat
  | .acquired size => some size
  | _ => none

def Pool.bucketsFor (sizes : List Nat) : Finset Nat := (sizes.filterMap bucketFor?).toFinset

def usedBuckets (trace : List (Occurrence ν)) : Finset Nat :=
  Pool.bucketsFor (trace.filterMap Occurrence.sizeTaken?)

private theorem usedBuckets_acquired (trace : List (Occurrence ν)) {size bucket : Nat}
    (found : Pool.bucketFor? size = some bucket) :
    usedBuckets (trace ++ [.acquired size]) = insert bucket (usedBuckets trace) := by
  ext other
  simp [usedBuckets, Pool.bucketsFor, Occurrence.sizeTaken?, found, eq_comm]

private theorem usedBuckets_other (trace : List (Occurrence ν)) {x : Occurrence ν}
    (apart : x.stir ≠ .acquire) : usedBuckets (trace ++ [x]) = usedBuckets trace := by
  have none : x.sizeTaken? = none := by
    cases x with
    | acquired size => exact absurd rfl apart
    | _ => rfl
  simp [usedBuckets, none]

namespace Holding

def lent? (holding : Holding) : Option Nat := holding.loan.map (·.buffer.capacity)

def buffers (holding : Holding) : Nat := holding.pool.idleCount + holding.loan.toList.length

/-- Every bucket used so far has one buffer of its size, idle unless it is on loan. -/
structure OnePerBucket (past : List (Occurrence ν)) (holding : Holding) : Prop where
  tidy : holding.pool.Tidy
  room : 0 < holding.pool.retained
  idle : ∀ bucket, holding.pool.idleIn bucket =
    if bucket ∈ usedBuckets past ∧ holding.lent? ≠ some bucket then [.ofCapacity bucket] else []
  loan : ∀ loan, holding.loan = some loan →
    Pool.bucketFor? loan.limit = some loan.buffer.capacity ∧
      loan.buffer.capacity ∈ usedBuckets past ∧ loan.length ≤ loan.limit
  count : holding.buffers = (usedBuckets past).card

def start (retained : Nat) : Holding := ⟨.empty retained, none⟩

private theorem onePerBucket_start {retained : Nat} (room : 0 < retained) :
    OnePerBucket ([] : List (Occurrence ν)) (start retained) :=
  ⟨Pool.tidy_empty retained, room, fun _ => rfl, nofun, rfl⟩

namespace OnePerBucket

variable {past : List (Occurrence ν)} {pool : Pool}

private theorem reuses {size bucket : Nat} (one : OnePerBucket past ⟨pool, none⟩)
    (found : Pool.bucketFor? size = some bucket) (used : bucket ∈ usedBuckets past) :
    pool.idleIn bucket = [.ofCapacity bucket] ∧ (pool.acquire size).1 = .ofCapacity bucket ∧
      (pool.acquire size).2.idleIn bucket = [] ∧
        (pool.acquire size).2.idleCount + 1 = pool.idleCount := by
  have idle : pool.idleIn bucket = [.ofCapacity bucket] :=
    (one.idle bucket).trans (if_pos ⟨used, nofun⟩)
  exact ⟨idle, (one.tidy.takes size).reuses bucket _ [] found idle⟩

private theorem makes {size bucket : Nat} (one : OnePerBucket past ⟨pool, none⟩)
    (found : Pool.bucketFor? size = some bucket) (unused : bucket ∉ usedBuckets past) :
    (pool.acquire size).1 = .ofCapacity bucket ∧ (pool.acquire size).2.idleIn bucket = [] ∧
      (pool.acquire size).2.idleCount = pool.idleCount := by
  have idle : pool.idleIn bucket = [] := (one.idle bucket).trans (if_neg fun used => unused used.1)
  exact (one.tidy.takes size).makes bucket found idle

private theorem acquire {size bucket : Nat} (one : OnePerBucket past ⟨pool, none⟩)
    (found : Pool.bucketFor? size = some bucket) :
    (pool.acquire size).1 = .ofCapacity bucket ∧ (pool.acquire size).2.idleIn bucket = [] ∧
      (pool.acquire size).2.idleCount + 1 = (insert bucket (usedBuckets past)).card := by
  have count : pool.idleCount = (usedBuckets past).card := one.count
  by_cases used : bucket ∈ usedBuckets past
  · obtain ⟨-, same, left, less⟩ := one.reuses found used
    exact ⟨same, left, by rw [less, count, Finset.insert_eq_of_mem used]⟩
  · obtain ⟨same, left, less⟩ := one.makes found used
    exact ⟨same, left, by rw [less, count, Finset.card_insert_of_notMem used]⟩

private theorem taken {size bucket : Nat} (one : OnePerBucket past ⟨pool, none⟩)
    (found : Pool.bucketFor? size = some bucket) :
    OnePerBucket (past ++ [.acquired size])
      ⟨(pool.acquire size).2, some (.lend (pool.acquire size).1 size)⟩ := by
  obtain ⟨made, left, count⟩ := one.acquire found
  have lent : (⟨(pool.acquire size).2, some (.lend (pool.acquire size).1 size)⟩ : Holding).lent? =
      some bucket := by
    rw [made]
    rfl
  refine ⟨one.tidy.acquire size, ?_, fun other => ?_, fun loan out => ?_, ?_⟩
  · rw [Pool.retained_acquire]
    exact one.room
  · rw [lent, usedBuckets_acquired past found]
    by_cases here : other = bucket
    · subst here
      exact left.trans (if_neg fun apart => apart.2 rfl).symm
    · have elsewhere : Pool.bucketFor? size ≠ some other := fun same =>
        here (Option.some.inj (same.symm.trans found))
      have kept := (one.tidy.takes size).others other elsewhere
      have before := one.idle other
      simp only [Holding.lent?, Option.map_none] at before
      simp [kept, before, here, Ne.symm here]
  · cases out
    rw [usedBuckets_acquired past found, made]
    exact ⟨found, Finset.mem_insert_self _ _, Nat.zero_le size⟩
  · rw [usedBuckets_acquired past found]
    exact count

private theorem append_capacity {loan extended : Loan} {payload : Bytes}
    (one : OnePerBucket past ⟨pool, some loan⟩) (appended : loan.append payload = .ok extended) :
    extended.buffer.capacity = loan.buffer.capacity ∧ extended.limit = loan.limit ∧
      extended.length ≤ extended.limit := by
  obtain ⟨found, -, within⟩ := one.loan loan rfl
  obtain ⟨length, limit, fits⟩ := Loan.append_ok appended within
  refine ⟨?_, limit, fits⟩
  have covers : loan.limit ≤ loan.buffer.capacity := (Pool.covers found).2.1
  have room : loan.buffer.length + payload.length ≤ loan.buffer.capacity := by
    rw [limit] at fits
    have same : loan.buffer.length + payload.length = extended.length := length.symm
    omega
  rw [Loan.append_eq payload within] at appended
  split at appended
  · cases appended
  · cases appended
    exact loan.buffer.capacity_extend_of_fits payload room

private theorem extended {loan extended : Loan} {payload : Bytes}
    (one : OnePerBucket past ⟨pool, some loan⟩) (appended : loan.append payload = .ok extended) :
    OnePerBucket past ⟨pool, some extended⟩ := by
  obtain ⟨capacity, limit, fits⟩ := one.append_capacity appended
  have lent : (⟨pool, some extended⟩ : Holding).lent? = (⟨pool, some loan⟩ : Holding).lent? :=
    congrArg some capacity
  obtain ⟨found, used, -⟩ := one.loan loan rfl
  refine ⟨one.tidy, one.room, fun bucket => ?_, fun other out => ?_, one.count⟩
  · rw [lent]
    exact one.idle bucket
  · cases out
    rw [capacity, limit]
    exact ⟨found, used, limit ▸ fits⟩

private theorem returned {loan : Loan} {length : Nat} (one : OnePerBucket past ⟨pool, some loan⟩) :
    OnePerBucket (past ++ [.released length]) ⟨pool.release loan.buffer, none⟩ := by
  obtain ⟨found, used, -⟩ := one.loan loan rfl
  obtain ⟨power, -, -, -⟩ := Pool.covers found
  have some := Nat.pos_of_isPowerOfTwo power
  have home : Pool.bucketOf loan.buffer.capacity = loan.buffer.capacity :=
    Pool.bucketOf_eq power (Nat.le_refl _) (by omega)
  have empty : pool.idleIn loan.buffer.capacity = [] :=
    (one.idle loan.buffer.capacity).trans (if_neg fun apart => apart.2 rfl)
  have keeps : pool.Keeps loan.buffer := by
    refine ⟨by omega, ?_⟩
    rw [home, empty]
    exact one.room
  have back := pool.takesBack loan.buffer
  obtain ⟨line, more⟩ := back.keeps keeps
  rw [home, empty] at line
  have same := usedBuckets_other past (x := .released length) nofun
  refine ⟨one.tidy.release loan.buffer, ?_, fun bucket => ?_, nofun, ?_⟩
  · rw [Pool.retained_release]
    exact one.room
  · rw [same]
    by_cases here : bucket = loan.buffer.capacity
    · subst here
      exact line.trans (if_pos ⟨used, nofun⟩).symm
    · have kept := back.others bucket (by rwa [home])
      have before := one.idle bucket
      simp only [Holding.lent?, Option.map_some] at before
      simp [kept, before, Holding.lent?, Ne.symm here]
  · have count : pool.idleCount + 1 = (usedBuckets past).card := one.count
    rw [same, ← count, ← more]
    rfl

private theorem other {holding : Holding} {x : Occurrence ν} (one : OnePerBucket past holding)
    (apart : x.stir ≠ .acquire) : OnePerBucket (past ++ [x]) holding := by
  have same := usedBuckets_other past apart
  exact ⟨one.tidy, one.room, same ▸ one.idle, same ▸ one.loan, same ▸ one.count⟩

private theorem follows {limit : Family → Nat} {first last : Holding} {trace : List (Occurrence ν)}
    (bounded : ∀ family, limit family ≤ 2 ^ 63) (one : OnePerBucket past first)
    (follows : first.Follows limit trace last) : OnePerBucket (past ++ trace) last := by
  induction follows generalizing past with
  | nil => rwa [List.append_nil]
  | taken family _ ih =>
    obtain ⟨bucket, found⟩ := Pool.exists_bucketFor (bounded family)
    rw [List.append_cons]
    exact ih (one.taken found)
  | extended payload appended _ ih => exact ih (one.extended appended)
  | returned _ ih =>
    rw [List.append_cons]
    exact ih one.returned
  | other x apart _ ih =>
    rw [List.append_cons]
    exact ih (one.other apart.1)

end OnePerBucket

variable {limit : Family → Nat}

private theorem Follows.sizes {first last : Holding} {trace : List (Occurrence ν)}
    (follows : first.Follows limit trace last) {size : Nat}
    (member : size ∈ trace.filterMap Occurrence.sizeTaken?) : ∃ family, size = limit family := by
  induction follows with
  | nil => cases member
  | taken family _ ih =>
    rcases List.mem_cons.mp member with same | later
    · exact ⟨family, same⟩
    · exact ih later
  | extended _ _ _ ih => exact ih member
  | returned _ ih => exact ih member
  | other x apart _ ih =>
    cases x with
    | acquired size => exact absurd rfl apart.1
    | _ => exact ih member

private theorem Follows.taking {first last : Holding} {size : Nat} {trace : List (Occurrence ν)}
    (follows : first.Follows limit (.acquired size :: trace) last) :
    first.loan = none ∧ ∃ family, size = limit family := by
  generalize whole : .acquired size :: trace = all at follows
  induction follows with
  | nil => cases whole
  | taken family _ _ =>
    cases whole
    exact ⟨rfl, family, rfl⟩
  | extended _ _ _ ih => cases (ih whole).1
  | returned _ _ => cases whole
  | other x apart _ _ =>
    cases whole
    exact absurd rfl apart.1

/-- The loan that is out was taken at some moment, with the limit that it has still, and since then
nothing has been taken and nothing has gone back. -/
private theorem Follows.origin {first last : Holding} {trace : List (Occurrence ν)} {loan : Loan}
    (follows : first.Follows limit trace last) (out : last.loan = some loan) :
    (acquisitions trace = 0 ∧ releases trace = 0 ∧
      first.loan.map Loan.limit = some loan.limit) ∨
    ∃ earlier later pool, trace = earlier ++ .acquired loan.limit :: later ∧
      acquisitions later = 0 ∧ releases later = 0 ∧
        first.Follows limit earlier ⟨pool, none⟩ := by
  induction follows with
  | nil holding => exact .inl ⟨rfl, rfl, by rw [out]; rfl⟩
  | @taken pool trace last family rest ih =>
    refine .inr ?_
    rcases ih out with ⟨taken, returned, same⟩ | ⟨earlier, later, before, split, none, still, way⟩
    · have kept : limit family = loan.limit := Option.some.inj same
      exact ⟨[], trace, pool, by rw [kept]; rfl, taken, returned, .nil _⟩
    · exact ⟨.acquired (limit family) :: earlier, later, before, by rw [split]; rfl, none, still,
        .taken family way⟩
  | extended payload appended rest ih =>
    rcases ih out with ⟨taken, returned, same⟩ | ⟨earlier, later, before, split, none, still, way⟩
    · refine .inl ⟨taken, returned, ?_⟩
      rw [← same]
      exact congrArg some (Loan.bytes_of_append appended).2.symm
    · exact .inr ⟨earlier, later, before, split, none, still, .extended payload appended way⟩
  | @returned pool held trace last rest ih =>
    rcases ih out with ⟨-, -, same⟩ | ⟨earlier, later, before, split, none, still, way⟩
    · cases same
    · exact .inr ⟨.released held.length :: earlier, later, before, by rw [split]; rfl, none, still,
        .returned way⟩
  | @other holding last trace x apart rest ih =>
    rcases ih out with ⟨taken, returned, same⟩ | ⟨earlier, later, before, split, none, still, way⟩
    · refine .inl ⟨?_, ?_, same⟩
      · rw [← List.singleton_append, acquisitions_append, taken]
        simp [acquisitions, apart.1]
      · rw [← List.singleton_append, releases_append, returned]
        simp [releases, apart.2]
    · exact .inr ⟨x :: earlier, later, before, by rw [split]; rfl, none, still,
        .other x apart way⟩

private theorem Follows.usedBuckets_subset {first last : Holding} {trace : List (Occurrence ν)}
    (follows : first.Follows limit trace last) :
    usedBuckets trace ⊆ Pool.bucketsFor [limit .text, limit .binary] := by
  intro bucket used
  obtain ⟨size, taken, found⟩ := List.mem_filterMap.mp (List.mem_toFinset.mp used)
  obtain ⟨family, rfl⟩ := follows.sizes taken
  refine List.mem_toFinset.mpr (List.mem_filterMap.mpr ⟨limit family, ?_, found⟩)
  cases family <;> simp

end Holding

private theorem Pool.card_bucketsFor_le (sizes : List Nat) :
    (bucketsFor sizes).card ≤ sizes.length :=
  Nat.le_trans (List.toFinset_card_le _) (List.length_filterMap_le ..)

/-- What is known at any moment of a session with a pool of its own, of what it holds then. -/
structure Holding.Frugal (limit : Family → Nat) (retained : Nat) (past : List (Occurrence ν))
    (holding : Holding) : Prop where
  buffers : holding.buffers = (usedBuckets past).card
  few : holding.buffers ≤ (Pool.bucketsFor [limit .text, limit .binary]).card
  two : holding.buffers ≤ 2
  /-- The buffer on loan has the capacity that it had when it was taken. -/
  fixed : ∀ loan, holding.loan = some loan →
    ∃ earlier later pool, past = earlier ++ .acquired loan.limit :: later ∧
      acquisitions later = 0 ∧ releases later = 0 ∧
        (start retained).Follows limit earlier ⟨pool, none⟩ ∧
          loan.buffer.capacity = (pool.acquire loan.limit).1.capacity
  /-- No payload that it takes makes it grow. -/
  still : ∀ loan payload extended, holding.loan = some loan →
    loan.append payload = .ok extended → extended.buffer.capacity = loan.buffer.capacity
  /-- The next message of a bucket used before gets the one idle buffer of the bucket. -/
  reuses : holding.loan = none → ∀ family bucket, Pool.bucketFor? (limit family) = some bucket →
    bucket ∈ usedBuckets past →
      holding.pool.idleIn bucket = [(holding.pool.acquire (limit family)).1] ∧
        (holding.pool.acquire (limit family)).2.idleCount + 1 = holding.pool.idleCount

private theorem Holding.frugal_of_follows {limit : Family → Nat} {retained : Nat}
    (room : 0 < retained)
    (bounded : ∀ family, limit family ≤ 2 ^ 63) {past : List (Occurrence ν)} {holding : Holding}
    (follows : (start retained).Follows limit past holding) :
    holding.Frugal limit retained past := by
  have begins := onePerBucket_start (ν := ν) room
  have one := begins.follows bounded follows
  rw [List.nil_append] at one
  have few : holding.buffers ≤ (Pool.bucketsFor [limit .text, limit .binary]).card :=
    one.count ▸ Finset.card_le_card follows.usedBuckets_subset
  refine ⟨one.count, few, Nat.le_trans few (Pool.card_bucketsFor_le _), ?_, ?_, ?_⟩
  · intro loan out
    rcases follows.origin out with ⟨-, -, same⟩ | ⟨earlier, later, pool, split, none, still, way⟩
    · cases same
    · have before := begins.follows bounded way
      rw [List.nil_append] at before
      obtain ⟨found, -, -⟩ := one.loan loan out
      refine ⟨earlier, later, pool, split, none, still, way, ?_⟩
      rw [(before.acquire found).1]
      rfl
  · intro loan payload extended out appended
    obtain ⟨pool, held⟩ := holding
    cases out
    exact (one.append_capacity appended).1
  · intro free family bucket found used
    obtain ⟨pool, held⟩ := holding
    cases free
    obtain ⟨idle, made, -, less⟩ := one.reuses found used
    exact ⟨by rw [idle, made], less⟩

/-- A session that has a pool to itself, which keeps at least one buffer in a bucket, never has more
buffers than its two limits have buckets, whatever happens to its messages; and the buffers neither
grow nor are made anew. At every moment of every run there is a holding, and every one is frugal;
where a buffer is taken, it is one without a loan. -/
theorem own_pool_frugal (host : Host σ ν τ) (app : σ) (handlers : Handlers) (policy : Policy)
    (retained : Nat) (room : 0 < retained)
    (bounded : ∀ family, (policy.effective handlers).bufferedLimit family ≤ 2 ^ 63)
    (operations : List (Operation σ τ)) (farewell : Farewell) :
    let limit := (policy.effective handlers).bufferedLimit
    let session : Session σ τ := .start app handlers policy (.empty retained)
    let done := (farewell.apply : Session.Step σ τ ν Empty Unit) (session.run host operations)
    let trace := session.runTrace host operations ++ done.trace
    (Holding.start retained).Follows limit trace done.state.assembly.holding ∧
      (∀ past more, trace = past ++ more →
        (∃ holding, (Holding.start retained).Follows limit past holding ∧
          holding.Follows limit more done.state.assembly.holding) ∧
        ∀ holding, (Holding.start retained).Follows limit past holding →
          holding.Frugal limit retained past) ∧
      ∀ past size more, trace = past ++ .acquired size :: more →
        ∃ family pool, size = limit family ∧
          (Holding.start retained).Follows limit past ⟨pool, none⟩ := by
  intro limit session done trace
  have coherent : session.Coherent := Session.coherent_of_idle rfl
  have follows : (Holding.start retained).Follows limit trace done.state.assembly.holding :=
    (Session.run_follows host operations coherent).trans (farewell.apply_follows _)
  refine ⟨follows, fun past more split => ⟨?_, fun holding way => ?_⟩,
    fun past size more split => ?_⟩
  · rw [split] at follows
    exact follows.split
  · exact Holding.frugal_of_follows room bounded way
  · rw [split] at follows
    obtain ⟨⟨pool, loan⟩, way, onwards⟩ := follows.split
    obtain ⟨free, family, same⟩ := onwards.taking
    cases free
    exact ⟨family, pool, same, way⟩

/-- Three messages, of which the second overflows its limit and the third is in flight, over a pool
that keeps one buffer in a bucket: there is one buffer. -/
theorem one_buffer_for_three_messages :
    let policy : Policy := { Policy.default with maxText := 3 }
    let handlers : Handlers := .ofRegistrations [.message .text .buffered]
    let session : Session Script Recorder := .start ⟨[]⟩ handlers policy (.empty 1)
    let operations : List (Operation Script Recorder) :=
      [.input (.frame ⟨.text, true, [72]⟩), .input (.frame ⟨.text, true, [72, 72, 72, 72]⟩),
        .input (.frame ⟨.text, false, [72]⟩)]
    let trace := session.runTrace Script.host operations
    let holding := (session.run Script.host operations).assembly.holding
    0 < 1 ∧ (∀ family, (policy.effective handlers).bufferedLimit family ≤ 2 ^ 63) ∧
      acquisitions trace = 3 ∧ holding.buffers = 1 ∧
      holding.Frugal (policy.effective handlers).bufferedLimit 1 trace := by
  intro policy handlers session operations trace holding
  have bounded : ∀ family, (policy.effective handlers).bufferedLimit family ≤ 2 ^ 63 := by
    intro family
    cases family <;> decide
  obtain ⟨follows, moments, -⟩ := own_pool_frugal Script.host ⟨[]⟩ handlers policy 1 Nat.one_pos
    bounded operations .keep
  change Holding.Follows _ _ (trace ++ []) holding at follows
  rw [List.append_nil] at follows
  exact ⟨Nat.one_pos, bounded, by decide +kernel, by decide +kernel,
    (moments trace [] rfl).2 holding follows⟩

end WebSocketSession
