import WebSocketSession.Proofs.Coupling

/-!
# Repeating an application's answers

Two couplings. A noting application is coupled to itself without the notes, so that noting changes
nothing (`run_noting`). And it is coupled to one that reads nothing and only repeats a list of
answers (`Verdict.replaying`), so that what a session does is a function of its inputs and of these
answers (`run_replayed`, `run_alike`): what its applications read, or whether they read at all, does
not matter beyond them.
-/

set_option autoImplicit false
set_option relaxedAutoImplicit false

namespace WebSocketSession

variable {σ σ' ν ν' τ ε : Type}

namespace Session

private theorem reach_silent (call : τ → Answer × τ) (happening : Occurrence ν)
    {session : Session σ τ}
    (attached : session.connection = none) :
    (reach call happening : Step σ τ ν ε (Option TransportError)) session =
      ⟨.value (some .notConnected), session, []⟩ := by
  simp [reach, attached]

def reachEnding : Answer → Ending ε (Option TransportError)
  | .accepted => .value none
  | .refused error => .value (some error)
  | .panicked payload => .panic payload

private theorem reach_attached (call : τ → Answer × τ) (happening : Occurrence ν)
    {session : Session σ τ}
    {connection : τ} (attached : session.connection = some connection) :
    (reach call happening : Step σ τ ν ε (Option TransportError)) session =
      ⟨reachEnding (call connection).1, { session with connection := some (call connection).2 },
        [happening]⟩ := by
  cases answer : (call connection).1 <;> simp [reach, attached, answer, reachEnding]

def Same (_ : List Verdict) (session other : Session σ τ) : Prop := other = session

private theorem Alike.eq {session other : Session σ τ} (alike : session.Alike other)
    (app : other.app = session.app) (assembly : session.assembly = other.assembly) :
    other = session := by
  obtain ⟨app', handlers', policy', connection', assembly'⟩ := other
  cases app
  cases alike.handlers
  cases alike.policy
  cases alike.connection
  cases assembly
  rfl

private theorem same_rapport : Rapport
    (Same : List Verdict → Session σ τ → Session σ τ → Prop) where
  alike := by
    rintro tape session _ rfl
    exact ⟨rfl, rfl, rfl, rfl, rfl, rfl⟩
  moves := by
    rintro tape session _ later later' rfl inStep
    exact inStep.alike.eq (inStep.app'.trans inStep.app.symm) (inStep.same rfl)

private theorem reach_same (call : τ → Answer × τ) (happening : Occurrence Note)
    (happening' : Occurrence ν) (seen : driven [happening'] = driven [happening])
    (session : Session σ τ) :
    Couples Same session session
      ((reach call happening : Step σ τ Note ε (Option TransportError)) session)
      ((reach call happening' : Step σ τ ν ε (Option TransportError)) session) := by
  rintro tape -
  cases attached : session.connection with
  | none =>
    rw [reach_silent _ _ attached, reach_silent _ _ attached]
    exact ⟨rfl, rfl, rfl⟩
  | some connection =>
    rw [reach_attached _ _ attached, reach_attached _ _ attached]
    exact ⟨rfl, rfl, seen⟩

private theorem perform_same (host : Host σ ν τ) (reaction : Reaction σ ν) (session : Session σ τ) :
    Couples Same session session (perform host.noting reaction.noting session)
      (perform host reaction session) := by
  induction reaction generalizing session with
  | succeed => exact fun tape _ => ⟨rfl, rfl, rfl⟩
  | fail failure => exact fun tape _ => ⟨rfl, rfl, rfl⟩
  | panic payload => exact fun tape _ => ⟨rfl, rfl, rfl⟩
  | become app rest ih => exact fun tape _ => ih { session with app := app } tape rfl
  | note note rest ih => exact fun tape _ => ih session tape rfl
  | send frame rest ih =>
    have reached := reach_same (ε := Failure) (ν := ν) (host.transport.send frame) (.sent frame)
      (.sent frame) rfl session
    rw [Reaction.noting, perform, perform, Work.bind_run, Work.bind_run]
    refine reached.andThen same_rapport fun error state state' _ tape same => ?_
    cases same
    exact ih error state tape rfl
  | close code reason rest ih =>
    have reached := reach_same (ε := Failure) (ν := ν) (host.transport.close code reason)
      (.closed .application code reason) (.closed .application code reason) rfl session
    rw [Reaction.noting, perform, perform, Work.bind_run, Work.bind_run]
    refine reached.andThen same_rapport fun error state state' _ tape same => ?_
    cases same
    exact ih error state tape rfl
  | askOpen rest ih => exact fun tape _ => ih (session.isOpen host) session tape rfl
  | read stream style rest ih =>
    rintro tape -
    have later := ih (session.read stream style).1 (session.read stream style).2 tape rfl
    simp only [Reaction.noting, perform, Work.bind_run, Work.state_run, Work.modify_run,
      Outcome.andThen_value, Outcome.after_nil, perform_afterNotes]
    refine ⟨later.1, later.2.1, ?_⟩
    rw [Outcome.trace_after, driven_append, later.2.2]
    cases (session.read stream style).1 <;> rfl

theorem noting_coupling (host : Host σ ν τ) :
    Coupling (Same : List Verdict → Session σ τ → Session σ τ → Prop) host.noting host where
  toRapport := same_rapport
  transport := rfl
  calls := by
    rintro event session session' - tape rfl
    rw [call_run, call_run]
    split
    · have performed := perform_same host (host.react event session'.policy session'.app) session'
      have called : Couples Same session' session'
          ((perform host.noting (host.react event session'.policy session'.app).noting
            session').after [.called event])
          ((perform host (host.react event session'.policy session'.app) session').after
            [.called event]) := performed.after rfl rfl
      exact called tape rfl
    · exact ⟨rfl, rfl, rfl⟩

end Session

namespace Verdict

def endingReaction : Ending Failure Unit → Reaction σ ν
  | .value _ => .succeed
  | .fault failure => .fail failure
  | .panic payload => .panic payload

/-- The reaction that gives the next answers, up to the end of a callback, and keeps the others for
the callbacks after it. -/
def play : List Verdict → Reaction (List Verdict) Empty
  | [] => .succeed
  | .sent frame :: rest => .become rest (.send frame fun _ => play rest)
  | .closed code reason :: rest => .become rest (.close code reason fun _ => play rest)
  | .ended ending :: rest => .become rest (endingReaction ending)

def replaying (transport : Transport τ) : Host (List Verdict) Empty τ where
  react _ _ answers := play answers
  transport := transport

end Verdict

namespace Session

/-- The other session is like this one, and its application is to repeat what is still to come. -/
def Repeats (tape : List Verdict) (session : Session σ τ) (other : Session (List Verdict) τ) :
    Prop :=
  session.Alike other ∧ other.app = tape

private theorem repeats_rapport :
    Rapport (Repeats : List Verdict → Session σ τ → Session (List Verdict) τ → Prop) where
  alike relates := relates.1
  moves relates inStep := ⟨inStep.alike, inStep.app'.trans relates.2⟩

/-- The outcome of a reaction is repeated by an outcome that leaves the answers after it. -/
def RepeatedBy {α : Type} (tape : List Verdict)
    (done : Outcome (Session σ τ) (Occurrence Note) ε α)
    (done' : Outcome (Session (List Verdict) τ) (Occurrence Empty) ε α) : Prop :=
  done'.ending = done.ending ∧ Repeats tape done.state done'.state ∧
    driven done'.trace = driven done.trace

private theorem reach_repeated (transport : Transport τ) (call : τ → Answer × τ)
    (happening : Occurrence Note) (happening' : Occurrence Empty) {verdict : Verdict}
    {connection : τ} {following : Option TransportError → Step σ τ Note Failure Unit}
    {session : Session σ τ} {other : Session (List Verdict) τ} {tape : List Verdict}
    (answers : verdicts [happening] = [verdict]) (seen : driven [happening'] = driven [happening])
    (attached : session.connection = some connection) (alike : session.Alike other)
    (later : ∀ error {state : Session σ τ} {state' : Session (List Verdict) τ},
      state.Alike state' → RepeatedBy tape (following error state)
        (perform (Verdict.replaying transport)
          (Verdict.play (verdicts (following error state).trace ++ tape)) state')) :
    ∃ rest,
      verdicts (((reach call happening : Step σ τ Note Failure _) session).andThen
        following).trace ++ tape = verdict :: rest ∧
      RepeatedBy tape (((reach call happening : Step σ τ Note Failure _) session).andThen following)
        (((reach call happening' : Step _ τ Empty Failure _) { other with app := rest }).andThen
          fun _ => perform (Verdict.replaying transport) (Verdict.play rest)) := by
  have attached' (rest : List Verdict) :
      ({ other with app := rest } : Session _ τ).connection = some connection :=
    alike.connection.trans attached
  have moved (rest : List Verdict) :
      ({ session with connection := some (call connection).2 } : Session σ τ).Alike
        { other with app := rest, connection := some (call connection).2 } :=
    ⟨alike.handlers, alike.policy, rfl, alike.assembly⟩
  have goesOn (error : Option TransportError) :
      ∃ rest, verdicts ((following error { session with
          connection := some (call connection).2 }).after [happening]).trace ++ tape =
            verdict :: rest ∧
        RepeatedBy tape ((following error { session with
            connection := some (call connection).2 }).after [happening])
          ((perform (Verdict.replaying transport) (Verdict.play rest) { other with
            app := rest, connection := some (call connection).2 }).after [happening']) := by
    -- What is left of the tape is what the rest of the reaction is going to answer.
    obtain ⟨ending, last, shown⟩ := later error
      (moved (verdicts (following error { session with
        connection := some (call connection).2 }).trace ++ tape))
    refine ⟨_, ?_, ending, last, ?_⟩
    · rw [Outcome.trace_after, verdicts_append, answers, List.append_assoc]
      rfl
    · simp only [Outcome.trace_after, driven_append, seen]
      exact congrArg _ shown
  simp only [reach_attached _ _ attached, reach_attached _ _ (attached' _)]
  cases (call connection).1 with
  | accepted => exact goesOn none
  | refused error => exact goesOn (some error)
  | panicked payload =>
    refine ⟨tape, ?_, rfl, ⟨moved tape, rfl⟩, seen⟩
    simp only [reachEnding, Outcome.andThen_panic, answers, List.singleton_append]

private theorem performing_of_unattached {session : Session σ τ} {call : τ → Answer × τ}
    {happening : Occurrence Note}
    {following : Option TransportError → Step σ τ Note Failure Unit}
    (attached : session.connection = none) :
    ((reach call happening : Step σ τ Note Failure _) session).andThen following =
      following (some .notConnected) session := by
  rw [reach_silent _ _ attached]
  rfl

private theorem perform_repeated (host : Host σ ν τ) (reaction : Reaction σ ν)
    {session : Session σ τ}
    {other : Session (List Verdict) τ} (alike : session.Alike other) (tape : List Verdict) :
    RepeatedBy tape (perform host.noting reaction.noting session)
      (perform (Verdict.replaying host.transport)
        (Verdict.play (verdicts (perform host.noting reaction.noting session).trace ++ tape))
        other) := by
  induction reaction generalizing session other with
  | succeed => exact ⟨rfl, ⟨alike.withApp tape, rfl⟩, rfl⟩
  | fail failure => exact ⟨rfl, ⟨alike.withApp tape, rfl⟩, rfl⟩
  | panic payload => exact ⟨rfl, ⟨alike.withApp tape, rfl⟩, rfl⟩
  | become app rest ih => exact ih (alike.symm.withApp app).symm
  | note note rest ih => exact ih alike
  | send frame rest ih =>
    rw [Reaction.noting, perform, Work.bind_run]
    cases attached : session.connection with
    | none =>
      rw [performing_of_unattached attached]
      exact ih _ alike
    | some connection =>
      obtain ⟨left, answered, repeated⟩ := reach_repeated host.transport
        (host.noting.transport.send frame) (.sent frame) (.sent frame) rfl rfl attached alike
        fun error _ _ alike => ih error alike
      simp only [answered, Verdict.play, perform, Work.bind_run, Work.modify_run,
        Outcome.andThen_value, Outcome.after_nil]
      exact repeated
  | close code reason rest ih =>
    rw [Reaction.noting, perform, Work.bind_run]
    cases attached : session.connection with
    | none =>
      rw [performing_of_unattached attached]
      exact ih _ alike
    | some connection =>
      obtain ⟨left, answered, repeated⟩ := reach_repeated host.transport
        (host.noting.transport.close code reason) (.closed .application code reason)
        (.closed .application code reason) rfl rfl attached alike
        fun error _ _ alike => ih error alike
      simp only [answered, Verdict.play, perform, Work.bind_run, Work.modify_run,
        Outcome.andThen_value, Outcome.after_nil]
      exact repeated
  | askOpen rest ih => exact ih (session.isOpen host) alike
  | read stream style rest ih =>
    have later := ih (session.read stream style).1
      ((session.read_alike stream style).1.symm.trans alike)
    have silent (answer : Except NoReader ReadOutcome) :
        verdicts ((noteOf stream style answer).map .noted) = [] := by
      cases answer <;> rfl
    have unseen (answer : Except NoReader ReadOutcome) :
        driven ((noteOf stream style answer).map (.noted : Note → Occurrence Note)) = [] := by
      cases answer <;> rfl
    simp only [Reaction.noting, perform, Work.bind_run, Work.state_run, Work.modify_run,
      Outcome.andThen_value, Outcome.after_nil, perform_afterNotes, Outcome.trace_after,
      verdicts_append, silent, List.nil_append]
    refine ⟨later.1, later.2.1, ?_⟩
    rw [Outcome.trace_after, driven_append, unseen, List.nil_append]
    exact later.2.2

private theorem replaying_coupling (host : Host σ ν τ) :
    Coupling (Repeats : List Verdict → Session σ τ → Session (List Verdict) τ → Prop) host.noting
      (Verdict.replaying host.transport) where
  toRapport := repeats_rapport
  transport := rfl
  calls := by
    rintro event session session' - tape ⟨alike, waiting⟩
    rw [call_run] at waiting ⊢
    rw [call_run]
    have handled : session'.handlers = session.handlers := alike.handlers
    rw [handled]
    split
    · rename_i handles
      simp only [handles, if_true, Outcome.trace_after, verdicts_append] at waiting
      have repeated := perform_repeated host (host.react event session.policy session.app) alike
        tape
      have played : (Verdict.replaying host.transport).react event session'.policy session'.app =
          Verdict.play (verdicts (perform host.noting
            (host.react event session.policy session.app).noting session).trace ++ tape) :=
        congrArg Verdict.play waiting
      rw [played]
      refine ⟨repeated.1, repeated.2.1, ?_⟩
      simp only [Outcome.trace_after, driven_append]
      exact congrArg _ repeated.2.2
    · rename_i unhandled
      simp only [unhandled] at waiting
      exact ⟨rfl, ⟨alike, waiting⟩, rfl⟩

end Session

inductive Drive (τ : Type) where
  | input (input : Input)
  | attach (connection : τ)

def Operation.drive? : Operation σ τ → Option (Drive τ)
  | .input given => some (.input given)
  | .attach connection => some (.attach connection)
  | .read .. | .become _ => none

def Drive.operation : Drive τ → Operation σ τ
  | .input given => .input given
  | .attach connection => .attach connection

namespace Session

/-- Noting changes nothing: the session comes to the same state, by the same doings. -/
theorem run_noting (host : Host σ ν τ) (session : Session σ τ) (operations : List (Operation σ τ)) :
    session.run host operations = session.run host.noting operations ∧
      driven (session.runTrace host operations) =
        driven (session.runTrace host.noting operations) := by
  induction operations generalizing session with
  | nil => exact ⟨rfl, rfl⟩
  | cons operation rest ih =>
    have alike : session.Alike session := ⟨rfl, rfl, rfl, rfl, rfl, rfl⟩
    have step : (operation.apply host session).state = (operation.apply host.noting session).state ∧
        driven (operation.apply host session).trace =
          driven (operation.apply host.noting session).trace := by
      cases operation with
      | input given => exact ((noting_coupling host).handle_couples given alike [] rfl).2
      | attach connection => exact ⟨rfl, rfl⟩
      | read stream style => exact ⟨rfl, rfl⟩
      | become app => exact ⟨rfl, rfl⟩
    obtain ⟨last, seen⟩ := ih (operation.apply host.noting session).state
    rw [runTrace_cons, runTrace_cons, run_cons, run_cons, driven_append, driven_append, step.1,
      step.2]
    exact ⟨last, congrArg _ seen⟩

/-- The operations that are not the application's doing, with its answers repeated, come to the
same as the run. -/
theorem run_replayed (host : Host σ ν τ) (operations : List (Operation σ τ))
    {session : Session σ τ} {other : Session (List Verdict) τ} {tape : List Verdict}
    (repeats :
      Repeats (verdicts (session.runTrace host.noting operations) ++ tape) session other) :
    let drives := (operations.filterMap Operation.drive?).map Drive.operation
    Repeats tape (session.run host.noting operations)
        (other.run (Verdict.replaying host.transport) drives) ∧
      driven (other.runTrace (Verdict.replaying host.transport) drives) =
        driven (session.runTrace host.noting operations) := by
  induction operations generalizing session other with
  | nil => exact ⟨repeats, rfl⟩
  | cons operation rest ih =>
    rw [runTrace_cons, verdicts_append, List.append_assoc] at repeats
    rw [runTrace_cons, run_cons, driven_append]
    cases operation with
    | input given =>
      obtain ⟨-, between, seen⟩ :=
        (replaying_coupling host).handle_couples given repeats.1 _ repeats
      obtain ⟨last, shown⟩ := ih between
      refine ⟨last, ?_⟩
      simp only [List.filterMap_cons, Operation.drive?, List.map_cons, Drive.operation,
        runTrace_cons, driven_append]
      exact congrArg₂ (· ++ ·) seen shown
    | attach connection =>
      exact ih ⟨⟨repeats.1.handlers, repeats.1.policy, rfl, repeats.1.assembly⟩, repeats.2⟩
    | read stream style =>
      exact ih ⟨(session.read_alike stream style).1.symm.trans repeats.1, repeats.2⟩
    | become app => exact ih ⟨(repeats.1.symm.withApp app).symm, repeats.2⟩

/-- What a session does is settled by its inputs and by the answers of its application. What is read
of its streams, and whether anything is, does not matter beyond them. -/
theorem run_alike {host : Host σ ν τ} {host' : Host σ' ν' τ}
    (transport : host'.transport = host.transport) {session : Session σ τ}
    {session' : Session σ' τ} (alike : session.Alike session')
    {operations : List (Operation σ τ)} {operations' : List (Operation σ' τ)}
    (drives : operations'.filterMap Operation.drive? = operations.filterMap Operation.drive?)
    (answers : verdicts (session'.runTrace host'.noting operations') =
      verdicts (session.runTrace host.noting operations)) :
    (session.run host operations).Alike (session'.run host' operations') ∧
      driven (session'.runTrace host' operations') = driven (session.runTrace host operations) := by
  let tape := verdicts (session.runTrace host.noting operations)
  let other : Session (List Verdict) τ :=
    ⟨tape, session.handlers, session.policy, session.connection, session.assembly⟩
  have same : session.Alike other := ⟨rfl, rfl, rfl, rfl, rfl, rfl⟩
  have first : Repeats (verdicts (session.runTrace host.noting operations) ++ []) session other :=
    ⟨same, (List.append_nil _).symm⟩
  have second :
      Repeats (verdicts (session'.runTrace host'.noting operations') ++ []) session' other :=
    ⟨alike.symm.trans same, by rw [answers, List.append_nil]⟩
  obtain ⟨last, seen⟩ := run_replayed host operations first
  obtain ⟨last', seen'⟩ := run_replayed host' operations' second
  rw [drives, transport] at last' seen'
  obtain ⟨same, traced⟩ := session.run_noting host operations
  obtain ⟨same', traced'⟩ := session'.run_noting host' operations'
  rw [same, same', traced, traced', ← seen, ← seen']
  exact ⟨last.1.trans last'.1.symm, rfl⟩

end Session

end WebSocketSession
