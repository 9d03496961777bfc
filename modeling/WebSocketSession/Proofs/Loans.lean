import WebSocketSession.Proofs.Assembly
import WebSocketSession.Proofs.Tenure

/-!
# Loans of an assembly

What an operation on an assembly does with buffers. `Leads` follows the one buffer of the message
in flight through a part of a trace, and has the pool keep count. Whoever uses an assembly directly
holds on to the loans of complete messages, any number of them; `Custody` is an assembly together
with these loans, and `Custody.run_balanced` counts them.
-/

set_option autoImplicit false
set_option relaxedAutoImplicit false

namespace WebSocketSession

variable {ν ε : Type}

/-- The pool keeps count of what a trace takes and returns, and changes for nothing else. -/
structure Pool.Counts (pool : Pool) (trace : List (Occurrence ν)) (later : Pool) : Prop where
  acquired : later.acquired = pool.acquired + acquisitions trace
  released : later.released = pool.released + releases trace
  untouched : acquisitions trace = 0 → releases trace = 0 → later = pool

namespace Pool

private theorem Counts.trans {pool between later : Pool} {first second : List (Occurrence ν)}
    (begins : pool.Counts first between) (ends : between.Counts second later) :
    pool.Counts (first ++ second) later where
  acquired := by rw [acquisitions_append, ends.acquired, begins.acquired, Nat.add_assoc]
  released := by rw [releases_append, ends.released, begins.released, Nat.add_assoc]
  untouched taken returned := by
    rw [acquisitions_append] at taken
    rw [releases_append] at returned
    rw [ends.untouched (by omega) (by omega), begins.untouched (by omega) (by omega)]

private theorem Counts.nil (pool : Pool) : pool.Counts ([] : List (Occurrence ν)) pool :=
  ⟨rfl, rfl, fun _ _ => rfl⟩

private theorem acquired_acquire (pool : Pool) (size : Nat) :
    (pool.acquire size).2.acquired = pool.acquired + 1 ∧
      (pool.acquire size).2.released = pool.released := by
  unfold acquire
  split
  · exact ⟨rfl, rfl⟩
  · split <;> exact ⟨rfl, rfl⟩

private theorem released_release (pool : Pool) (buffer : Buffer) :
    (pool.release buffer).acquired = pool.acquired ∧
      (pool.release buffer).released = pool.released + 1 := by
  unfold release
  dsimp only
  split
  · exact ⟨rfl, rfl⟩
  · split <;> exact ⟨rfl, rfl⟩

end Pool

def Slot.tenure : Slot → Tenure
  | .buffered .. => .lent
  | _ => .free

/-- Between operations the application may do what it likes, and most else may happen. -/
theorem Slot.rests_tenure (slot : Slot) :
    slot.tenure.after .own = some slot.tenure ∧ slot.tenure.after .other = some slot.tenure := by
  cases slot <;> exact ⟨rfl, rfl⟩

def Slot.kept : Slot → Nat
  | .buffered .. => 1
  | _ => 0

theorem Slot.counts_tenure (slot : Slot) :
    slot.tenure.outstanding = slot.kept ∧ slot.tenure.gauge = slot.kept := by
  cases slot <;> exact ⟨rfl, rfl⟩

/-- A trace leads from one tenure to another, taking a buffer from the pool so many times; the
pool keeps count. -/
structure Leads (tenure : Tenure) (pool : Pool) (trace : List (Occurrence ν)) (last : Tenure)
    (later : Pool) (taken : Nat) : Prop where
  follows : tenure.follow trace = some last
  takes : acquisitions trace = taken
  counts : pool.Counts trace later

namespace Leads

theorem trans {tenure middle last : Tenure} {pool between later : Pool}
    {first second : List (Occurrence ν)} {taken more : Nat}
    (begins : Leads tenure pool first middle between taken)
    (ends : Leads middle between second last later more) :
    Leads tenure pool (first ++ second) last later (taken + more) where
  follows := by
    rw [Tenure.follow_append, begins.follows]
    exact ends.follows
  takes := by rw [acquisitions_append, begins.takes, ends.takes]
  counts := begins.counts.trans ends.counts

theorem still {tenure : Tenure} {trace : List (Occurrence ν)} (pool : Pool)
    (stays : ∀ x ∈ trace, tenure.after x.stir = some tenure) :
    Leads tenure pool trace tenure pool 0 := by
  have none : acquisitions trace = 0 ∧ releases trace = 0 := by
    simp only [acquisitions, releases, List.countP_eq_zero]
    refine ⟨fun x member stir => ?_, fun x member stir => ?_⟩
    all_goals
      have same := stays x member
      rw [of_decide_eq_true stir] at same
      cases tenure <;> cases same
  exact ⟨Tenure.follow_still stays, none.1, by rw [none.1]; rfl, by rw [none.2]; rfl,
    fun _ _ => rfl⟩

theorem nil (tenure : Tenure) (pool : Pool) :
    Leads tenure pool ([] : List (Occurrence ν)) tenure pool 0 :=
  still pool (by simp)

theorem logged {tenure : Tenure} (pool : Pool) (records : List LogRecord)
    (other : tenure.after .other = some tenure) :
    Leads tenure pool (records.map .logged : List (Occurrence ν)) tenure pool 0 := by
  refine .still pool fun x member => ?_
  obtain ⟨record, -, rfl⟩ := List.mem_map.mp member
  exact other

/-- Both counts of a trace that leads from slot to slot are the difference of what these keep. -/
theorem outstanding_eq {slot later : Slot} {pool between : Pool} {trace : List (Occurrence ν)}
    {taken : Nat} (leads : Leads slot.tenure pool trace later.tenure between taken) :
    outstanding trace = later.kept - slot.kept ∧ gauge trace = later.kept - slot.kept := by
  obtain ⟨net, shown⟩ := Tenure.counts_of_follow leads.follows
  rw [slot.counts_tenure.1, later.counts_tenure.1] at net
  rw [slot.counts_tenure.2, later.counts_tenure.2] at shown
  exact ⟨net, shown⟩

end Leads

namespace Assembly

private theorem lentTrace_leads (pool : Pool) (limit : Nat) :
    Leads .free pool (lentTrace limit : List (Occurrence ν)) .lent (pool.acquire limit).2 1 :=
  ⟨rfl, rfl, (pool.acquired_acquire limit).1, (pool.acquired_acquire limit).2,
    fun taken => nomatch taken⟩

theorem returnedTrace_leads {tenure : Tenure} (pool : Pool) (loan : Loan)
    (held : tenure = .lent ∨ tenure = .delivering) :
    Leads tenure pool (returnedTrace loan : List (Occurrence ν)) .free
      (pool.release loan.buffer) 0 := by
  rcases held with rfl | rfl
  all_goals
    exact ⟨rfl, rfl, (pool.released_release loan.buffer).1, (pool.released_release loan.buffer).2,
      fun _ returned => nomatch returned⟩

/-- A buffered fragment takes a buffer if it opens its message, and else has one. -/
theorem lendingTrace_leads {family : Family} (limit : Nat) {assembly : Assembly}
    (takes : assembly.slot.Takes family .buffered) :
    Leads assembly.slot.tenure assembly.pool (assembly.lendingTrace limit : List (Occurrence ν))
      .lent (assembly.lending limit).2 assembly.inFlight.isNone.toNat := by
  cases held : assembly.slot with
  | idle =>
    simpa [lendingTrace, lending, held, Slot.tenure, inFlight, Slot.inFlight] using
      lentTrace_leads assembly.pool limit
  | buffered current loan =>
    simpa [lendingTrace, lending, held, Slot.tenure, inFlight, Slot.inFlight] using
      Leads.nil .lent assembly.pool
  | streaming current stream feed => simp [held] at takes

theorem abandonTrace_leads (assembly : Assembly) :
    Leads assembly.slot.tenure assembly.pool (assembly.abandonTrace : List (Occurrence ν)) .free
      assembly.abandoned.pool 0 := by
  cases held : assembly.slot with
  | idle => simpa [abandonTrace, abandoned, held, Slot.tenure] using Leads.nil .free assembly.pool
  | buffered family loan =>
    have logged : Leads .lent assembly.pool
        [(.logged (.abandonedBuffered family loan.length) : Occurrence ν)] .lent assembly.pool 0 :=
      .logged _ [_] rfl
    simpa [abandonTrace, abandoned, held, Slot.tenure] using
      logged.trans (returnedTrace_leads assembly.pool loan (.inl rfl))
  | streaming family stream feed =>
    simp only [abandonTrace, abandoned, held, Slot.tenure]
    exact .logged _ (_ :: _) rfl

theorem dispose_leads (assembly : Assembly) :
    Leads assembly.slot.tenure assembly.pool ((dispose : Step ν ε Unit) assembly).trace .free
      ((dispose : Step ν ε Unit) assembly).state.pool 0 := by
  rw [dispose_run]
  cases held : assembly.slot with
  | idle => simpa [disposed, held, Slot.tenure] using Leads.nil .free assembly.pool
  | buffered family loan =>
    simpa [disposed, held, Slot.tenure] using
      returnedTrace_leads assembly.pool loan (.inl rfl)
  | streaming family stream feed =>
    simpa [disposed, held, Slot.tenure] using Leads.nil .free assembly.pool

@[simp] theorem slot_disposed (assembly : Assembly) : assembly.disposed.slot = .idle := by
  unfold disposed
  split <;> simp_all

theorem written_leads {family : Family} (payload : Bytes) (fin : Bool) {assembly : Assembly}
    (takes : assembly.slot.Takes family .streaming) :
    Leads assembly.slot.tenure assembly.pool
      ((assembly.written family payload fin).records.map .logged : List (Occurrence ν))
      (assembly.written family payload fin).assembly.slot.tenure
      (assembly.written family payload fin).assembly.pool 0 := by
  have free : assembly.slot.tenure = .free := by
    cases held : assembly.slot with
    | buffered current loan => simp [held] at takes
    | _ => rfl
  have logged (pool : Pool) (records : List LogRecord) :
      Leads .free pool (records.map .logged : List (Occurrence ν)) .free pool 0 :=
    .logged pool records rfl
  rw [free, written]
  split <;> exact logged _ _

end Assembly

def Ending.value? {α : Type} : Ending ε α → Option α
  | .value a => some a
  | _ => none

/-- One thing that the owner of an assembly does with it, or with the loan of a complete message;
another assembly put in place of one that is let go of uses the same pool. -/
inductive Use where
  | acceptBuffered (family : Family) (payload : Bytes) (fin : Bool) (limit : Nat)
  | acceptStreaming (family : Family) (payload : Bytes) (fin : Bool)
  | abandon
  | replace
  | giveBack (place : Nat)

/-- An assembly and the loans of complete messages that its owner has not given back. -/
structure Custody where
  assembly : Assembly
  held : List Loan

namespace Custody

def step (custody : Custody) : Use → Custody × List (Occurrence ν)
  | .acceptBuffered family payload fin limit =>
    let done := Assembly.acceptBuffered family payload fin limit custody.assembly
    (⟨done.state, custody.held ++ done.ending.value?.join.toList⟩, done.trace)
  | .acceptStreaming family payload fin =>
    let done := Assembly.acceptStreaming family payload fin custody.assembly
    (⟨done.state, custody.held⟩, done.trace)
  | .abandon =>
    let done := (Assembly.abandon : Assembly.Step ν Empty Unit) custody.assembly
    (⟨done.state, custody.held⟩, done.trace)
  | .replace =>
    let done := (Assembly.dispose : Assembly.Step ν Empty Unit) custody.assembly
    (⟨.start done.state.pool, custody.held⟩, done.trace)
  | .giveBack place =>
    match custody.held[place]? with
    | some loan =>
      let done := (Assembly.giveBack loan : Assembly.Step ν Empty Unit) custody.assembly
      (⟨done.state, custody.held.eraseIdx place⟩, done.trace)
    | none => (custody, [])

def run (custody : Custody) : List Use → Custody × List (Occurrence ν)
  | [] => (custody, [])
  | use :: rest =>
    let next := custody.step use
    let last := run next.1 rest
    (last.1, next.2 ++ last.2)

def kept (custody : Custody) : Nat := custody.assembly.slot.kept + custody.held.length

/-- Both counts of a trace are the difference of what is kept, and the pool keeps count. -/
structure Balanced (custody : Custody) (trace : List (Occurrence ν)) (later : Custody) :
    Prop where
  outstanding : outstanding trace = later.kept - custody.kept
  gauge : gauge trace = later.kept - custody.kept
  counts : custody.assembly.pool.Counts trace later.assembly.pool

private theorem Balanced.nil (custody : Custody) :
    custody.Balanced ([] : List (Occurrence ν)) custody :=
  ⟨(Int.sub_self _).symm, (Int.sub_self _).symm, .nil _⟩

private theorem Balanced.trans {custody between later : Custody}
    {first second : List (Occurrence ν)}
    (begins : custody.Balanced first between) (ends : between.Balanced second later) :
    custody.Balanced (first ++ second) later where
  outstanding := by
    rw [outstanding_append, begins.outstanding, ends.outstanding]
    omega
  gauge := by
    rw [gauge_append, begins.gauge, ends.gauge]
    omega
  counts := begins.counts.trans ends.counts

private theorem balanced_of_leads {assembly later : Assembly} {trace : List (Occurrence ν)}
    {taken : Nat}
    (held : List Loan)
    (leads : Leads assembly.slot.tenure assembly.pool trace later.slot.tenure later.pool taken) :
    Balanced ⟨assembly, held⟩ trace ⟨later, held⟩ := by
  obtain ⟨net, shown⟩ := leads.outstanding_eq
  refine ⟨?_, ?_, leads.counts⟩
  · rw [net]
    simp only [kept]
    omega
  · rw [shown]
    simp only [kept]
    omega

private theorem acceptBuffered_balanced (custody : Custody) (family : Family) (payload : Bytes)
    (fin : Bool)
    (limit : Nat) :
    custody.Balanced (custody.step (ν := ν) (.acceptBuffered family payload fin limit)).2
      (custody.step (ν := ν) (.acceptBuffered family payload fin limit)).1 := by
  obtain ⟨assembly, held⟩ := custody
  by_cases takes : assembly.slot.Takes family .buffered
  · have lent := Assembly.lendingTrace_leads (ν := ν) limit takes
    simp only [step, Assembly.acceptBuffered_run takes]
    cases (assembly.lending limit).1.append payload with
    | error overflow =>
      have returned := lent.trans
        (Assembly.returnedTrace_leads _ (assembly.lending limit).1 (.inl rfl))
      simp only [Ending.value?, Option.join_none, Option.toList_none, List.append_nil]
      exact balanced_of_leads held returned
    | ok extended =>
      cases fin with
      | true =>
        have moved : kept ⟨⟨.idle, (assembly.lending limit).2, assembly.streams⟩,
            held ++ [extended]⟩ = (Slot.buffered family extended).kept + held.length := by
          simp only [kept, Slot.kept, List.length_append, List.length_singleton]
          omega
        have between : Balanced ⟨assembly, held⟩ (assembly.lendingTrace limit : List (Occurrence ν))
            ⟨⟨.buffered family extended, (assembly.lending limit).2, assembly.streams⟩, held⟩ :=
          balanced_of_leads held lent
        refine ⟨between.outstanding.trans ?_, between.gauge.trans ?_, between.counts⟩
        all_goals
          simp only [if_true, Ending.value?, Option.join_some, Option.toList_some, moved]
          rfl
      | false =>
        simp only [Bool.false_eq_true, if_false, Ending.value?, Option.join_some,
          Option.toList_none, List.append_nil]
        exact balanced_of_leads held lent
  · simp only [step, Assembly.acceptBuffered_refused takes]
    simpa [Ending.value?] using Balanced.nil ⟨assembly, held⟩

theorem step_balanced (custody : Custody) (use : Use) :
    custody.Balanced (custody.step (ν := ν) use).2 (custody.step (ν := ν) use).1 := by
  obtain ⟨assembly, held⟩ := custody
  cases use with
  | acceptBuffered family payload fin limit =>
    exact acceptBuffered_balanced ⟨assembly, held⟩ family payload fin limit
  | acceptStreaming family payload fin =>
    by_cases takes : assembly.slot.Takes family .streaming
    · simp only [step, Assembly.acceptStreaming_run takes]
      exact balanced_of_leads held (Assembly.written_leads payload fin takes)
    · simp only [step, Assembly.acceptStreaming_refused takes]
      exact .nil _
  | abandon =>
    have leads := assembly.abandonTrace_leads (ν := ν)
    have idle : assembly.abandoned.slot.tenure = .free := by
      rw [Assembly.slot_abandoned]
      rfl
    rw [← idle] at leads
    simp only [step, Assembly.abandon_run]
    exact balanced_of_leads held leads
  | replace => exact balanced_of_leads held assembly.dispose_leads
  | giveBack place =>
    cases found : held[place]? with
    | none =>
      simp only [step, found]
      exact .nil _
    | some loan =>
      obtain ⟨bound, -⟩ := List.getElem?_eq_some_iff.mp found
      simp only [step, found, Assembly.giveBack_run]
      have returned := Assembly.returnedTrace_leads (ν := ν) assembly.pool loan (.inl rfl)
      refine ⟨?_, ?_, returned.counts⟩
      all_goals
        simp only [kept, List.length_eraseIdx_of_lt bound]
        change (-1 : Int) = _
        omega

theorem run_balanced (custody : Custody) (uses : List Use) :
    custody.Balanced (custody.run (ν := ν) uses).2 (custody.run (ν := ν) uses).1 := by
  induction uses generalizing custody with
  | nil => exact .nil custody
  | cons use rest ih => exact (custody.step_balanced use).trans (ih _)

end Custody

end WebSocketSession
