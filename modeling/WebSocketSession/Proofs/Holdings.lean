import WebSocketSession.Proofs.BufferLending

/-!
# What a session holds

A session holds a pool, and a loan while a buffered message is in flight or being delivered. A trace
says when a buffer was taken and when it went back; `Holding.Follows` is how pool and loan go along
with it, with the payloads that the loan takes in between. Every run of a session goes so
(`run_follows`).
-/

set_option autoImplicit false
set_option relaxedAutoImplicit false

namespace WebSocketSession

variable {σ ν τ ε : Type}

structure Holding where
  pool : Pool
  loan : Option Loan

namespace Holding

/-- How pool and loan go along with a trace. A buffer is taken for the limit of a family, the loan
takes payloads that fit, and the buffer goes back as it is then. -/
inductive Follows (limit : Family → Nat) : Holding → List (Occurrence ν) → Holding → Prop where
  | nil (holding : Holding) : Follows limit holding [] holding
  | taken {pool : Pool} {trace : List (Occurrence ν)} {last : Holding} (family : Family)
    (rest : Follows limit ⟨(pool.acquire (limit family)).2,
      some (.lend (pool.acquire (limit family)).1 (limit family))⟩ trace last) :
    Follows limit ⟨pool, none⟩ (.acquired (limit family) :: trace) last
  | extended {pool : Pool} {loan extended : Loan} {trace : List (Occurrence ν)} {last : Holding}
    (payload : Bytes) (appended : loan.append payload = .ok extended)
    (rest : Follows limit ⟨pool, some extended⟩ trace last) :
    Follows limit ⟨pool, some loan⟩ trace last
  | returned {pool : Pool} {loan : Loan} {trace : List (Occurrence ν)} {last : Holding}
    (rest : Follows limit ⟨pool.release loan.buffer, none⟩ trace last) :
    Follows limit ⟨pool, some loan⟩ (.released loan.length :: trace) last
  | other {holding last : Holding} {trace : List (Occurrence ν)} (x : Occurrence ν)
    (apart : x.stir ≠ .acquire ∧ x.stir ≠ .release) (rest : Follows limit holding trace last) :
    Follows limit holding (x :: trace) last

variable {limit : Family → Nat}

theorem Follows.trans {first middle last : Holding} {trace more : List (Occurrence ν)}
    (begins : first.Follows limit trace middle) (ends : middle.Follows limit more last) :
    first.Follows limit (trace ++ more) last := by
  induction begins with
  | nil => exact ends
  | taken family _ ih => exact .taken family (ih ends)
  | extended payload appended _ ih => exact .extended payload appended (ih ends)
  | returned _ ih => exact .returned (ih ends)
  | other x apart _ ih => exact .other x apart (ih ends)

theorem Follows.split {first last : Holding} {trace more : List (Occurrence ν)}
    (follows : first.Follows limit (trace ++ more) last) :
    ∃ middle : Holding, first.Follows limit trace middle ∧ middle.Follows limit more last := by
  generalize whole : trace ++ more = all at follows
  induction follows generalizing trace with
  | nil holding =>
    obtain ⟨rfl, rfl⟩ := List.append_eq_nil_iff.mp whole
    exact ⟨holding, .nil _, .nil _⟩
  | @taken pool rest last family onwards ih =>
    cases trace with
    | nil =>
      subst whole
      exact ⟨_, .nil _, .taken family onwards⟩
    | cons x trace =>
      obtain ⟨rfl, same⟩ := List.cons.inj whole
      obtain ⟨middle, begins, ends⟩ := ih same
      exact ⟨middle, .taken family begins, ends⟩
  | extended payload appended onwards ih =>
    obtain ⟨middle, begins, ends⟩ := ih whole
    exact ⟨middle, .extended payload appended begins, ends⟩
  | @returned pool loan rest last onwards ih =>
    cases trace with
    | nil =>
      subst whole
      exact ⟨_, .nil _, .returned onwards⟩
    | cons x trace =>
      obtain ⟨rfl, same⟩ := List.cons.inj whole
      obtain ⟨middle, begins, ends⟩ := ih same
      exact ⟨middle, .returned begins, ends⟩
  | other y apart onwards ih =>
    cases trace with
    | nil =>
      subst whole
      exact ⟨_, .nil _, .other y apart onwards⟩
    | cons x trace =>
      obtain ⟨rfl, same⟩ := List.cons.inj whole
      obtain ⟨middle, begins, ends⟩ := ih same
      exact ⟨middle, .other x apart begins, ends⟩

private theorem Follows.quiet {trace : List (Occurrence ν)} (holding : Holding)
    (taken : acquisitions trace = 0) (returned : releases trace = 0) :
    holding.Follows limit trace holding := by
  induction trace with
  | nil => exact .nil holding
  | cons x rest ih =>
    rw [← List.singleton_append, acquisitions_append] at taken
    rw [← List.singleton_append, releases_append] at returned
    refine .other x ⟨fun stir => ?_, fun stir => ?_⟩ (ih (by omega) (by omega))
    · simp [acquisitions, stir] at taken
    · simp [releases, stir] at returned

end Holding

private theorem Leads.quiet (limit : Family → Nat) {tenure last : Tenure} {pool later : Pool}
    {trace : List (Occurrence ν)} (leads : Leads tenure pool trace last later 0)
    (same : last.outstanding = tenure.outstanding) (holding : Holding) :
    holding.Follows limit trace holding := by
  have net := (Tenure.counts_of_follow leads.follows).1
  rw [outstanding, leads.takes, same] at net
  exact .quiet holding leads.takes (by omega)

def Slot.loan? : Slot → Option Loan
  | .buffered _ loan => some loan
  | _ => none

namespace Assembly

def holding (assembly : Assembly) : Holding := ⟨assembly.pool, assembly.slot.loan?⟩

variable (limit : Family → Nat)

private theorem lendingTrace_follows {family : Family} {assembly : Assembly}
    (takes : assembly.slot.Takes family .buffered) :
    assembly.holding.Follows limit
      (assembly.lendingTrace (limit family) : List (Occurrence ν))
      ⟨(assembly.lending (limit family)).2, some (assembly.lending (limit family)).1⟩ := by
  obtain ⟨slot, pool, streams⟩ := assembly
  cases slot with
  | idle => exact .taken family (.other _ ⟨nofun, nofun⟩ (.nil _))
  | buffered current loan => exact .nil _
  | streaming current stream feed => simp at takes

private theorem returnedTrace_follows (pool : Pool) (loan : Loan) :
    (⟨pool, some loan⟩ : Holding).Follows limit (returnedTrace loan : List (Occurrence ν))
      ⟨pool.release loan.buffer, none⟩ :=
  .returned (.other _ ⟨nofun, nofun⟩ (.nil _))

private theorem abandonTrace_follows (assembly : Assembly) :
    assembly.holding.Follows limit (assembly.abandonTrace : List (Occurrence ν))
      assembly.abandoned.holding := by
  have leads := assembly.abandonTrace_leads (ν := ν)
  obtain ⟨slot, pool, streams⟩ := assembly
  cases slot with
  | idle => exact .nil _
  | buffered family loan => exact .other _ ⟨nofun, nofun⟩ (returnedTrace_follows limit pool loan)
  | streaming family stream feed => exact leads.quiet limit rfl _

private theorem dispose_follows (assembly : Assembly) :
    assembly.holding.Follows limit ((dispose : Step ν ε Unit) assembly).trace
      ((dispose : Step ν ε Unit) assembly).state.holding := by
  rw [dispose_run]
  obtain ⟨slot, pool, streams⟩ := assembly
  cases slot with
  | idle => exact .nil _
  | buffered family loan => exact returnedTrace_follows limit pool loan
  | streaming family stream feed => exact .nil _

private theorem follows_of_leads {assembly later : Assembly} {trace : List (Occurrence ν)}
    {pool : Pool}
    (leads : Leads assembly.slot.tenure assembly.pool trace later.slot.tenure later.pool 0)
    (before : assembly.holding = ⟨pool, none⟩) (after : later.holding = ⟨pool, none⟩) :
    assembly.holding.Follows limit trace later.holding := by
  have free {other : Assembly} (none : other.holding = ⟨pool, none⟩) :
      other.slot.tenure = .free := by
    obtain ⟨slot, _, _⟩ := other
    cases slot with
    | buffered family loan => cases none
    | _ => rfl
  rw [free before, free after] at leads
  rw [before, after]
  exact leads.quiet limit rfl _

private theorem holding_written (family : Family) (payload : Bytes) (fin : Bool)
    (assembly : Assembly) :
    (assembly.written family payload fin).assembly.holding = ⟨assembly.pool, none⟩ := by
  rw [written]
  split <;> rfl

end Assembly

namespace Session

private theorem Reacted.holding {session later : Session σ τ} (h : session.Reacted later) :
    later.assembly.holding = session.assembly.holding := by
  rw [Assembly.holding, Assembly.holding, h.slot, h.pool]

private theorem call_follows (limit : Family → Nat) (host : Host σ ν τ) (event : Event)
    (session : Session σ τ) (called : (Occurrence.called event : Occurrence ν).stir = .other) :
    session.assembly.holding.Follows limit (call host event session).trace
      (call host event session).state.assembly.holding := by
  rw [(call_reacted host event session).holding]
  obtain ⟨own, other⟩ := session.assembly.slot.rests_tenure
  exact (call_leads host event session _ own (by rw [called]; exact other)).quiet limit rfl _

private theorem Fate.follows {host : Host σ ν τ} {frame : Frame} {session : Session σ τ}
    {done : Outcome (Session σ τ) (Occurrence ν) Fault Unit} (fate : Fate host frame session done) :
    session.assembly.holding.Follows session.policy.bufferedLimit done.trace
      done.state.assembly.holding := by
  have streamed := fate.leads
  cases fate with
  | passed records routed =>
    rw [opensBuffer_of_other routed (by simp)] at streamed
    exact streamed.quiet _ rfl _
  | wrong fault routed => exact .nil _
  | noticed notice routed =>
    rw [invoke_run]
    exact call_follows _ host _ session rfl
  | overflowed family overflow routed takes appended =>
    exact (Assembly.lendingTrace_follows _ takes).trans (Assembly.returnedTrace_follows _ _ _)
  | kept family extended routed takes appended unfinished =>
    have lent := Assembly.lendingTrace_follows (ν := ν) session.policy.bufferedLimit takes
    rw [← List.append_nil (session.loanTrace family)]
    exact lent.trans (.extended frame.payload appended (.nil _))
  | completed family extended delivered routed takes appended finished delivery =>
    subst delivery
    have lent := Assembly.lendingTrace_follows (ν := ν) session.policy.bufferedLimit takes
    obtain ⟨tenure, held, delivers⟩ :=
      deliverMessage_leads host family extended.bytes (session.onLoan family)
    have same : tenure.outstanding = Tenure.lent.outstanding := by
      rcases held with rfl | rfl <;> rfl
    have kept := deliverMessage_reacted host family extended.bytes (session.onLoan family)
    have after : (⟨(session.onLoan family).assembly.pool.release extended.buffer, none⟩ : Holding) =
        ((deliverMessage host family extended.bytes (session.onLoan family)).state.repaid
          extended).assembly.holding := by
      simp only [repaid, Assembly.holding, kept.slot, kept.pool]
      rfl
    rw [← after]
    refine lent.trans (.extended frame.payload appended ?_)
    exact (delivers.quiet _ same _).trans (Assembly.returnedTrace_follows _ _ _)
  | opened family routed idle =>
    rw [opensBuffer_of_other routed (by simp)] at streamed
    have before : session.assembly.holding = ⟨session.assembly.pool, none⟩ := by
      rw [Assembly.holding, idle]
      rfl
    have after : (deliverStream host family session.assembly.streams.length
        (session.fed family frame)).state.assembly.holding = ⟨session.assembly.pool, none⟩ :=
      (deliverStream_reacted host family _ _).holding.trans (Assembly.holding_written ..)
    exact Assembly.follows_of_leads _ streamed before after
  | continued family stream feed routed held =>
    rw [opensBuffer_of_other routed (by simp)] at streamed
    have before : session.assembly.holding = ⟨session.assembly.pool, none⟩ := by
      rw [Assembly.holding, held]
      rfl
    exact Assembly.follows_of_leads _ streamed before (Assembly.holding_written ..)

private theorem attempt_follows (host : Host σ ν τ) (input : Input) {session : Session σ τ}
    (coherent : session.Coherent) :
    session.assembly.holding.Follows session.policy.bufferedLimit (input.attempt host session).trace
      (input.attempt host session).state.assembly.holding := by
  cases input with
  | connect =>
    simp only [Input.attempt, invoke_run]
    exact call_follows _ host .connect session rfl
  | protocolError request => exact .nil _
  | frame frame =>
    have seen := call_follows session.policy.bufferedLimit host (.frame frame) session rfl
    have reacted := call_reacted host (.frame frame) session
    have dispatched := dispatch_dispatched host frame coherent
    change session.assembly.holding.Follows _ (dispatch host frame session).trace
      (dispatch host frame session).state.assembly.holding
    generalize dispatch host frame session = done at dispatched ⊢
    cases dispatched with
    | stopped fails => exact seen
    | followed done passes fate =>
      have onwards := fate.follows
      rw [reacted.policy] at onwards
      exact seen.trans onwards

private theorem handle_follows (host : Host σ ν τ) (input : Input) {session : Session σ τ}
    (coherent : session.Coherent) :
    session.assembly.holding.Follows session.policy.bufferedLimit
      ((input.handle host : Step σ τ ν ε Unit) session).trace
      ((input.handle host : Step σ τ ν ε Unit) session).state.assembly.holding := by
  have arrived := (arrivalTrace_leads (ν := ν) input session.assembly.slot
    session.assembly.pool).quiet session.policy.bufferedLimit rfl session.assembly.holding
  have attempted := arrived.trans (attempt_follows host input coherent)
  cases ending : (input.attempt host session).ending.fault? with
  | none =>
    rw [handle_of_none ending]
    exact attempted
  | some fault =>
    have complained := (complaint_leads (ν := ν) (input.attempt host session).ending fault
      (input.attempt host session).state.assembly.slot
      (input.attempt host session).state.assembly.pool).quiet session.policy.bufferedLimit rfl
        (input.attempt host session).state.assembly.holding
    have abandoned := (input.attempt host session).state.assembly.abandonTrace_follows (ν := ν)
      session.policy.bufferedLimit
    have closed := (closeDown_leads (ν := ν) (ε := ε) host fault
      (input.attempt host session).state.settled).quiet session.policy.bufferedLimit rfl
        (input.attempt host session).state.settled.assembly.holding
    have reacted := closeDown_reacted (ε := ε) host fault (input.attempt host session).state.settled
    rw [handle_of_some ending, Outcome.trace_after, Outcome.state_after, reacted.holding]
    have follows := (attempted.trans complained).trans (abandoned.trans closed)
    simpa only [faultTrace, List.append_assoc] using follows

private theorem apply_follows (host : Host σ ν τ) (operation : Operation σ τ)
    {session : Session σ τ}
    (coherent : session.Coherent) :
    session.assembly.holding.Follows session.policy.bufferedLimit
      (operation.apply host session).trace
      (operation.apply host session).state.assembly.holding := by
  cases operation with
  | input given => exact handle_follows host given coherent
  | attach connection => exact .nil _
  | become app => exact .nil _
  | read stream style =>
    simp only [Operation.apply, Work.modify_run, (session.read_reacted stream style).holding]
    exact .nil _

theorem run_follows (host : Host σ ν τ) (operations : List (Operation σ τ)) {session : Session σ τ}
    (coherent : session.Coherent) :
    session.assembly.holding.Follows session.policy.bufferedLimit
      (session.runTrace host operations) (session.run host operations).assembly.holding := by
  induction operations generalizing session with
  | nil => exact .nil _
  | cons operation rest ih =>
    have later := ih (apply_coherent host operation coherent)
    rw [apply_policy host operation coherent] at later
    exact (apply_follows host operation coherent).trans later

end Session

theorem Farewell.apply_follows {limit : Family → Nat} (farewell : Farewell)
    (session : Session σ τ) :
    session.assembly.holding.Follows limit
      ((farewell.apply : Session.Step σ τ ν ε Unit) session).trace
      ((farewell.apply : Session.Step σ τ ν ε Unit) session).state.assembly.holding := by
  cases farewell with
  | keep => exact .nil _
  | release =>
    have follows := session.assembly.abandonTrace_follows (ν := ν) limit
    simpa only [apply, Session.release, Session.assembling_run, Assembly.abandon_run] using follows
  | dispose => exact session.assembly.dispose_follows limit

end WebSocketSession
