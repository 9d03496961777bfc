import WebSocketSession.Proofs.BufferLending
import WebSocketSession.Proofs.Noting

/-!
# Two applications side by side

A session is shown to do the same for two applications that give the same answers. What is left to
an application is said by a `Coupling`: which sessions of the two are related, and that their
callbacks come to the same there. Everything that a session does around its callbacks then comes to
the same as well (`Coupling.handle_couples`), one lemma for each thing it does.
-/

set_option autoImplicit false
set_option relaxedAutoImplicit false

namespace WebSocketSession

/-- An occurrence that is the doing of the session or of its connection. Left out are the notes of
the application, and the two records which say that nobody reads a stream. -/
def Occurrence.driven? {ν : Type} : Occurrence ν → Option (Occurrence Empty)
  | .noted _ | .logged .fragmentDiscarded | .logged .abortUnread => none
  | .acquired size => some (.acquired size)
  | .released length => some (.released length)
  | .called event => some (.called event)
  | .closed origin code reason => some (.closed origin code reason)
  | .sent frame => some (.sent frame)
  | .logged record => some (.logged record)
  | .counted metric => some (.counted metric)

def driven {ν : Type} (trace : List (Occurrence ν)) : List (Occurrence Empty) :=
  trace.filterMap Occurrence.driven?

@[simp] theorem driven_append {ν : Type} (first second : List (Occurrence ν)) :
    driven (first ++ second) = driven first ++ driven second :=
  List.filterMap_append ..

/-- What an application answers in a callback: it uses the connection, and it ends. -/
inductive Verdict where
  | sent (frame : Frame)
  | closed (code : CloseCode) (reason : String)
  | ended (ending : Ending Failure Unit)

def Occurrence.verdict? : Occurrence Note → Option Verdict
  | .sent frame => some (.sent frame)
  | .closed .application code reason => some (.closed code reason)
  | .noted (.ended ending) => some (.ended ending)
  | _ => none

def verdicts (trace : List (Occurrence Note)) : List Verdict := trace.filterMap Occurrence.verdict?

@[simp] theorem verdicts_append (first second : List (Occurrence Note)) :
    verdicts (first ++ second) = verdicts first ++ verdicts second :=
  List.filterMap_append ..

@[simp] theorem verdicts_logged (records : List LogRecord) :
    verdicts (records.map .logged) = [] := by
  simp [verdicts, Occurrence.verdict?]

structure Assembly.Alike (assembly other : Assembly) : Prop where
  slot : other.slot = assembly.slot
  pool : other.pool = assembly.pool
  opened : other.streams.length = assembly.streams.length

/-- Sessions that differ at most in their applications and in the readers of their streams. -/
structure Session.Alike {σ σ' τ : Type} (session : Session σ τ) (other : Session σ' τ) : Prop where
  handlers : other.handlers = session.handlers
  policy : other.policy = session.policy
  connection : other.connection = session.connection
  assembly : session.assembly.Alike other.assembly

namespace Session.Alike

variable {σ σ' σ'' τ : Type} {session : Session σ τ} {other : Session σ' τ} {last : Session σ'' τ}

private theorem inFlight (alike : session.Alike other) : other.inFlight = session.inFlight :=
  congrArg Slot.inFlight alike.assembly.slot

theorem symm (alike : session.Alike other) : other.Alike session where
  handlers := alike.handlers.symm
  policy := alike.policy.symm
  connection := alike.connection.symm
  assembly := ⟨alike.assembly.slot.symm, alike.assembly.pool.symm, alike.assembly.opened.symm⟩

theorem trans (first : session.Alike other) (second : other.Alike last) : session.Alike last where
  handlers := second.handlers.trans first.handlers
  policy := second.policy.trans first.policy
  connection := second.connection.trans first.connection
  assembly :=
    ⟨second.assembly.slot.trans first.assembly.slot, second.assembly.pool.trans first.assembly.pool,
      second.assembly.opened.trans first.assembly.opened⟩

theorem withApp (alike : session.Alike other) (app : σ') :
    session.Alike { other with app := app } :=
  ⟨alike.handlers, alike.policy, alike.connection, alike.assembly⟩

end Session.Alike

/-- Two sessions change in step: their applications stay, and if their assemblies were the same,
they still are. -/
structure Session.InStep {σ σ' τ : Type} (session : Session σ τ) (other : Session σ' τ)
    (later : Session σ τ) (later' : Session σ' τ) : Prop where
  app : later.app = session.app
  app' : later'.app = other.app
  alike : later.Alike later'
  same : session.assembly = other.assembly → later.assembly = later'.assembly

section Couples

variable {σ σ' ν τ ε α β : Type}
variable (related : List Verdict → Session σ τ → Session σ' τ → Prop)

/-- The second outcome is what the first one calls for: with the answers of the first to come, the
two come to the same. -/
def Couples (session : Session σ τ) (other : Session σ' τ)
    (done : Outcome (Session σ τ) (Occurrence Note) ε α)
    (done' : Outcome (Session σ' τ) (Occurrence ν) ε α) : Prop :=
  ∀ tape, related (verdicts done.trace ++ tape) session other →
    done'.ending = done.ending ∧ related tape done.state done'.state ∧
      driven done'.trace = driven done.trace

/-- The relation keeps to what the two sessions share, and lets them change in step. -/
structure Rapport : Prop where
  alike : ∀ {tape session session'}, related tape session session' → session.Alike session'
  moves : ∀ {tape session session' later later'}, related tape session session' →
    session.InStep session' later later' → related tape later later'

/-- Two applications over the same connections whose callbacks come to the same in related sessions:
`related tape` holds while the answers of `tape` are still to come. -/
structure Coupling (host : Host σ Note τ) (other : Host σ' ν τ) : Prop extends
    Rapport related where
  transport : other.transport = host.transport
  calls : ∀ event session session', session.Alike session' →
    Couples related session session' (Session.call host event session)
      (Session.call other event session')

variable {related} {host : Host σ Note τ} {other : Host σ' ν τ} {session : Session σ τ}
  {session' : Session σ' τ}

theorem Couples.andThen (rapport : Rapport related)
    {first : Outcome (Session σ τ) (Occurrence Note) ε α}
    {first' : Outcome (Session σ' τ) (Occurrence ν) ε α} {following : α → Session.Step σ τ Note ε β}
    {following' : α → Session.Step σ' τ ν ε β}
    (before : Couples related session session' first first')
    (later : ∀ a state state', state.Alike state' →
      Couples related state state' (following a state) (following' a state')) :
    Couples related session session' (first.andThen following) (first'.andThen following') := by
  obtain ⟨ending, state, trace⟩ := first
  obtain ⟨ending', state', trace'⟩ := first'
  intro tape relates
  cases ending with
  | value a =>
    -- While the first part runs, the answers of what follows it are still to come as well.
    rw [Outcome.andThen_value, Outcome.trace_after, verdicts_append, List.append_assoc] at relates
    obtain ⟨rfl, between, seen⟩ := before _ relates
    obtain ⟨ends, last, shown⟩ := later a state state' (rapport.alike between) tape between
    simp only [Outcome.andThen_value, Outcome.ending_after, Outcome.state_after,
      Outcome.trace_after, driven_append]
    exact ⟨ends, last, congrArg₂ (· ++ ·) seen shown⟩
  | fault e =>
    obtain ⟨rfl, last, seen⟩ := before tape relates
    exact ⟨rfl, last, seen⟩
  | panic payload =>
    obtain ⟨rfl, last, seen⟩ := before tape relates
    exact ⟨rfl, last, seen⟩

private theorem Rapport.couples_of_inStep (rapport : Rapport related)
    {done : Outcome (Session σ τ) (Occurrence Note) ε α}
    {done' : Outcome (Session σ' τ) (Occurrence ν) ε α} (ending : done'.ending = done.ending)
    (silent : verdicts done.trace = []) (seen : driven done'.trace = driven done.trace)
    (inStep : session.InStep session' done.state done'.state) :
    Couples related session session' done done' := by
  intro tape relates
  rw [silent, List.nil_append] at relates
  exact ⟨ending, rapport.moves relates inStep, seen⟩

theorem Couples.after {done : Outcome (Session σ τ) (Occurrence Note) ε α}
    {done' : Outcome (Session σ' τ) (Occurrence ν) ε α}
    (couples : Couples related session session' done done') {trace : List (Occurrence Note)}
    {trace' : List (Occurrence ν)} (silent : verdicts trace = [])
    (seen : driven trace' = driven trace) :
    Couples related session session' (done.after trace) (done'.after trace') := by
  intro tape relates
  rw [Outcome.trace_after, verdicts_append, silent, List.nil_append] at relates
  obtain ⟨ends, last, shown⟩ := couples tape relates
  simp only [Outcome.trace_after, driven_append]
  exact ⟨ends, last, congrArg₂ (· ++ ·) seen shown⟩

private theorem Couples.of_inStep {done : Outcome (Session σ τ) (Occurrence Note) ε α}
    {done' : Outcome (Session σ' τ) (Occurrence ν) ε α} {before : Session σ τ}
    {before' : Session σ' τ} (rapport : Rapport related)
    (couples : Couples related session session' done done')
    (inStep : before.InStep before' session session') :
    Couples related before before' done done' :=
  fun tape relates => couples tape (rapport.moves relates inStep)

private theorem Couples.attempt {δ : Type} {done : Outcome (Session σ τ) (Occurrence Note) ε α}
    {done' : Outcome (Session σ' τ) (Occurrence ν) ε α}
    (couples : Couples related session session' done done') :
    Couples related session session'
      (⟨.value done.ending, done.state, done.trace⟩ : Outcome _ _ δ (Ending ε α))
      ⟨.value done'.ending, done'.state, done'.trace⟩ := by
  intro tape relates
  obtain ⟨ends, last, seen⟩ := couples tape relates
  exact ⟨congrArg Ending.value ends, last, seen⟩

private theorem Rapport.couples_of_trace (rapport : Rapport related)
    (alike : session.Alike session') (ending : Ending ε α) {trace : List (Occurrence Note)}
    {trace' : List (Occurrence ν)} (silent : verdicts trace = [])
    (seen : driven trace' = driven trace) :
    Couples related session session' ⟨ending, session, trace⟩ ⟨ending, session', trace'⟩ :=
  rapport.couples_of_inStep rfl silent seen ⟨rfl, rfl, alike, id⟩

end Couples

namespace Assembly

variable {ν ε α : Type}

private theorem Alike.lending {assembly other : Assembly} (alike : assembly.Alike other)
    (limit : Nat) :
    other.lending limit = assembly.lending limit := by
  simp only [Assembly.lending, alike.slot, alike.pool]

private theorem Alike.lendingTrace {assembly other : Assembly} (alike : assembly.Alike other)
    (limit : Nat) :
    (other.lendingTrace limit : List (Occurrence ν)) = assembly.lendingTrace limit := by
  simp only [Assembly.lendingTrace, alike.slot]

private theorem Alike.stream {assembly other : Assembly} (alike : assembly.Alike other) :
    other.channel.stream = assembly.channel.stream := by
  simp only [channel, alike.slot, alike.opened]
  split <;> rfl

private theorem driven_lendingTrace (assembly : Assembly) (limit : Nat) :
    driven (assembly.lendingTrace limit : List (Occurrence ν)) =
      driven (assembly.lendingTrace limit : List (Occurrence Note)) := by
  unfold lendingTrace
  split <;> rfl

private theorem verdicts_lendingTrace (assembly : Assembly) (limit : Nat) :
    verdicts (assembly.lendingTrace limit) = [] := by
  unfold lendingTrace
  split <;> rfl

/-- On assemblies that are alike the two pieces of work come to the same, without the
application. -/
def Agree (work : Step Note ε α) (work' : Step ν ε α) : Prop :=
  ∀ assembly other : Assembly, assembly.Alike other →
    (work' other).ending = (work assembly).ending ∧
      (work assembly).state.Alike (work' other).state ∧
      (assembly = other → (work assembly).state = (work' other).state) ∧
      verdicts (work assembly).trace = [] ∧
      driven (work' other).trace = driven (work assembly).trace

private theorem giveBack_agree (loan : Loan) :
    Agree (giveBack loan : Step Note ε Unit) (giveBack loan : Step ν ε Unit) := by
  intro assembly other alike
  rw [giveBack_run, giveBack_run]
  exact ⟨rfl, ⟨alike.slot, congrArg (·.release loan.buffer) alike.pool, alike.opened⟩,
    fun same => by rw [same], rfl, rfl⟩

private theorem acceptBuffered_agree (family : Family) (payload : Bytes) (fin : Bool)
    (limit : Nat) :
    Agree (acceptBuffered family payload fin limit : Step Note Fault (Option Loan))
      (acceptBuffered family payload fin limit : Step ν Fault (Option Loan)) := by
  intro assembly other alike
  by_cases takes : assembly.slot.Takes family .buffered
  · have takes' : other.slot.Takes family .buffered := alike.slot ▸ takes
    have lent : driven (assembly.lendingTrace limit : List (Occurrence ν)) =
        driven (assembly.lendingTrace limit : List (Occurrence Note)) :=
      assembly.driven_lendingTrace limit
    have silent := assembly.verdicts_lendingTrace limit
    rw [acceptBuffered_run takes, acceptBuffered_run takes', alike.lending, alike.lendingTrace]
    simp only
    cases (assembly.lending limit).1.append payload with
    | error overflow =>
      refine ⟨rfl, ⟨rfl, rfl, alike.opened⟩, fun same => by rw [same], ?_, ?_⟩
      · rw [verdicts_append, silent]
        rfl
      · rw [driven_append, driven_append, lent]
        rfl
    | ok extended =>
      cases fin <;>
        exact ⟨rfl, ⟨rfl, rfl, alike.opened⟩, fun same => by simp [same], silent, lent⟩
  · have refused : ¬ other.slot.Takes family .buffered := alike.slot ▸ takes
    rw [acceptBuffered_refused takes, acceptBuffered_refused refused]
    refine ⟨?_, alike, id, rfl, rfl⟩
    simp only [inFlight, alike.slot]

private theorem driven_append_records (feed : Feed) (payload : Bytes) (reader : Reader) :
    driven ((feed.append payload reader).2.2.map .logged : List (Occurrence ν)) = [] := by
  unfold Feed.append
  split
  · rfl
  · cases reader <;> rfl

private theorem append_feed (feed : Feed) (payload : Bytes) (reader other : Reader) :
    (feed.append payload other).1 = (feed.append payload reader).1 := by
  unfold Feed.append
  split <;> rfl

private theorem written_agree (family : Family) (payload : Bytes) (fin : Bool)
    {assembly other : Assembly}
    (alike : assembly.Alike other) :
    (assembly.written family payload fin).assembly.Alike
        (other.written family payload fin).assembly ∧
      driven ((other.written family payload fin).records.map .logged : List (Occurrence ν)) =
        driven ((assembly.written family payload fin).records.map .logged :
          List (Occurrence Note)) := by
  have feed : other.channel.feed = assembly.channel.feed := by
    simp only [channel, alike.slot]
    split <;> rfl
  have opened : other.channel.streams.length = assembly.channel.streams.length := by
    simp only [channel, alike.slot]
    split <;> simp [alike.opened]
  simp only [written, alike.stream, feed]
  cases fin with
  | true =>
    refine ⟨⟨rfl, alike.pool, by simpa using opened⟩, ?_⟩
    simp only [if_true, List.map_append, driven_append, driven_append_records]
    rw [append_feed assembly.channel.feed payload
      (assembly.channel.streams[assembly.channel.stream]?.getD .gone)]
    rfl
  | false =>
    refine ⟨⟨?_, alike.pool, by simpa using opened⟩, ?_⟩
    · exact congrArg (Slot.streaming family assembly.channel.stream) (append_feed _ _ _ _)
    · simp [driven_append_records]

private theorem acceptStreaming_agree (family : Family) (payload : Bytes) (fin : Bool) :
    Agree (acceptStreaming family payload fin : Step Note Fault (Option Nat))
      (acceptStreaming family payload fin : Step ν Fault (Option Nat)) := by
  intro assembly other alike
  by_cases takes : assembly.slot.Takes family .streaming
  · have takes' : other.slot.Takes family .streaming := alike.slot ▸ takes
    obtain ⟨written, seen⟩ := written_agree (ν := ν) family payload fin alike
    rw [acceptStreaming_run takes, acceptStreaming_run takes']
    have idle : other.isIdle = assembly.isIdle := by simp only [isIdle, inFlight, alike.slot]
    refine ⟨?_, written, fun same => by rw [same], verdicts_logged _, seen⟩
    simp only [idle, alike.stream]
  · have refused : ¬ other.slot.Takes family .streaming := alike.slot ▸ takes
    rw [acceptStreaming_refused takes, acceptStreaming_refused refused]
    refine ⟨?_, alike, id, rfl, rfl⟩
    simp only [inFlight, alike.slot]

theorem abandon_agree : Agree (abandon : Step Note ε Unit) (abandon : Step ν ε Unit) := by
  intro assembly other alike
  rw [abandon_run, abandon_run]
  refine ⟨rfl, ?_, fun same => by rw [same], ?_, ?_⟩
  · simp only [abandoned, alike.slot]
    cases assembly.slot with
    | idle => exact alike
    | buffered family loan =>
      exact ⟨rfl, congrArg (·.release loan.buffer) alike.pool, alike.opened⟩
    | streaming family stream feed => exact ⟨rfl, alike.pool, by simpa using alike.opened⟩
  · simp only [abandonTrace]
    cases assembly.slot with
    | idle => rfl
    | buffered family loan => rfl
    | streaming family stream feed => exact verdicts_logged (_ :: _)
  · simp only [abandonTrace, alike.slot]
    cases assembly.slot with
    | idle => rfl
    | buffered family loan => rfl
    | streaming family stream feed =>
      simp only [Feed.abort]
      cases (assembly.reader stream).isGone <;> cases (other.reader stream).isGone <;> rfl

theorem dispose_agree : Agree (dispose : Step Note ε Unit) (dispose : Step ν ε Unit) := by
  intro assembly other alike
  rw [dispose_run, dispose_run]
  refine ⟨rfl, ?_, fun same => by rw [same], ?_, ?_⟩
  · simp only [disposed, alike.slot]
    cases assembly.slot with
    | idle => exact alike
    | buffered family loan =>
      exact ⟨rfl, congrArg (·.release loan.buffer) alike.pool, alike.opened⟩
    | streaming family stream feed => exact ⟨rfl, alike.pool, by simpa using alike.opened⟩
  · cases assembly.slot <;> rfl
  · simp only [alike.slot]
    cases assembly.slot <;> rfl

end Assembly

namespace Session

variable {σ σ' ν τ ε α : Type} {related : List Verdict → Session σ τ → Session σ' τ → Prop}
  {host : Host σ Note τ} {other : Host σ' ν τ} {session : Session σ τ} {session' : Session σ' τ}

private theorem assembling_couples (coupling : Coupling related host other)
    {work : Assembly.Step Note ε α} {work' : Assembly.Step ν ε α}
    (agree : Assembly.Agree work work') (alike : session.Alike session') :
    Couples related session session' (assembling work session) (assembling work' session') := by
  obtain ⟨ending, later, same, silent, seen⟩ :=
    agree session.assembly session'.assembly alike.assembly
  exact coupling.couples_of_inStep ending silent seen
    ⟨rfl, rfl, ⟨alike.handlers, alike.policy, alike.connection, later⟩, same⟩

private theorem invoke_couples (coupling : Coupling related host other) (event : Event)
    (alike : session.Alike session') :
    Couples related session session' (invoke host event session)
      (invoke other event session') := by
  intro tape relates
  rw [invoke_run] at relates
  obtain ⟨ends, last, seen⟩ := coupling.calls event session session' alike tape relates
  rw [invoke_run, invoke_run]
  exact ⟨congrArg (Ending.mapFault Fault.ofFailure) ends, last, seen⟩

private theorem ensuring_couples (coupling : Coupling related host other) {work : Step σ τ Note ε α}
    {work' : Step σ' τ ν ε α} {cleanUp : Assembly.Step Note ε Unit}
    {cleanUp' : Assembly.Step ν ε Unit}
    (couples : Couples related session session' (work session) (work' session'))
    (agree : Assembly.Agree cleanUp cleanUp') :
    Couples related session session' (Work.ensuring work (assembling cleanUp) session)
      (Work.ensuring work' (assembling cleanUp') session') := by
  simp only [Work.ensuring, Work.bind_run, Work.attempt_run]
  refine couples.attempt.andThen coupling.toRapport fun ending state state' alike => ?_
  rw [Work.bind_run, Work.bind_run]
  refine (assembling_couples coupling agree alike).andThen coupling.toRapport
    fun _ last last' alike => ?_
  exact coupling.couples_of_trace alike ending rfl rfl

private theorem deliverMessage_couples (coupling : Coupling related host other) (family : Family)
    (message : Bytes) (alike : session.Alike session') :
    Couples related session session' (deliverMessage host family message session)
      (deliverMessage other family message session') := by
  rw [deliverMessage_run, deliverMessage_run]
  refine Couples.after ?_ rfl rfl
  cases messageEvent family message with
  | none => exact coupling.couples_of_trace alike _ rfl rfl
  | some event => exact invoke_couples coupling event alike

/-- Using a reader changes neither the application nor what the session shares. -/
theorem read_alike (session : Session σ τ) (stream : Nat) (style : ReadStyle) :
    session.Alike (session.read stream style).2 ∧
      (session.read stream style).2.app = session.app := by
  have reacted := session.read_reacted stream style
  have kept : (session.read stream style).2.connection = session.connection ∧
      (session.read stream style).2.app = session.app := by
    unfold read
    split
    · split <;> exact ⟨rfl, rfl⟩
    · exact ⟨rfl, rfl⟩
  exact ⟨⟨reacted.handlers, reacted.policy, kept.1, reacted.slot, reacted.pool, reacted.opened⟩,
    kept.2⟩

private theorem read_inStep (alike : session.Alike session') (stream : Nat) (style : ReadStyle) :
    session.InStep session' (session.read stream style).2 (session'.read stream style).2 := by
  obtain ⟨kept, app⟩ := session.read_alike stream style
  obtain ⟨kept', app'⟩ := session'.read_alike stream style
  refine ⟨app, app', (kept.symm.trans alike).trans kept', fun same => ?_⟩
  unfold read
  rw [← same]
  split
  · split
    · rfl
    · exact same
  · exact same

private theorem presented_inStep (alike : session.Alike session') (family : Family) (stream : Nat) :
    session.InStep session' (session.presented family stream)
      (session'.presented family stream) := by
  cases family with
  | text => exact read_inStep alike stream .intoText
  | binary => exact ⟨rfl, rfl, alike, id⟩

private theorem deliverStream_couples (coupling : Coupling related host other) (family : Family)
    (stream : Nat) (alike : session.Alike session') :
    Couples related session session' (deliverStream host family stream session)
      (deliverStream other family stream session') := by
  rw [deliverStream_run, deliverStream_run]
  have inStep := presented_inStep alike family stream
  refine Couples.after ?_ rfl rfl
  exact (invoke_couples coupling _ inStep.alike).of_inStep coupling.toRapport inStep

private theorem acceptBuffered_couples (coupling : Coupling related host other) (family : Family)
    (frame : Frame) (alike : session.Alike session') :
    Couples related session session' (acceptBuffered host family frame session)
      (acceptBuffered other family frame session') := by
  simp only [acceptBuffered, Work.bind_run, Work.state_run, Outcome.andThen_value,
    Outcome.after_nil, alike.policy]
  refine (assembling_couples coupling
    (Assembly.acceptBuffered_agree family frame.payload frame.fin _) alike).andThen
      coupling.toRapport ?_
  intro loan state state' alike
  cases loan with
  | none => exact coupling.couples_of_trace alike _ rfl rfl
  | some loan =>
    exact ensuring_couples coupling (deliverMessage_couples coupling family loan.bytes alike)
      (Assembly.giveBack_agree loan)

private theorem acceptStreaming_couples (coupling : Coupling related host other) (family : Family)
    (frame : Frame) (alike : session.Alike session') :
    Couples related session session' (acceptStreaming host family frame session)
      (acceptStreaming other family frame session') := by
  simp only [acceptStreaming, Work.bind_run]
  refine (assembling_couples coupling
    (Assembly.acceptStreaming_agree family frame.payload frame.fin) alike).andThen
      coupling.toRapport ?_
  intro stream state state' alike
  cases stream with
  | none => exact coupling.couples_of_trace alike _ rfl rfl
  | some stream => exact deliverStream_couples coupling family stream alike

private theorem follow_couples (coupling : Coupling related host other) (frame : Frame)
    (way : Route)
    (alike : session.Alike session') :
    Couples related session session' (follow host frame way session)
      (follow other frame way session') := by
  cases way with
  | pass records =>
    refine coupling.couples_of_trace alike _ (verdicts_logged records) ?_
    simp only [driven, List.filterMap_map]
    exact congrArg (List.filterMap · records) (funext fun record => by cases record <;> rfl)
  | wrong fault => exact coupling.couples_of_trace alike _ rfl rfl
  | notice notice => exact invoke_couples coupling _ alike
  | fragment family delivery =>
    cases delivery with
    | buffered => exact acceptBuffered_couples coupling family frame alike
    | streaming => exact acceptStreaming_couples coupling family frame alike

private theorem dispatch_couples (coupling : Coupling related host other) (frame : Frame)
    (alike : session.Alike session') :
    Couples related session session' (dispatch host frame session)
      (dispatch other frame session') := by
  rw [dispatch_run, dispatch_run]
  refine (invoke_couples coupling (.frame frame) alike).andThen coupling.toRapport ?_
  intro _ state state' alike
  rw [alike.handlers, alike.inFlight]
  exact follow_couples coupling frame _ alike

private theorem driven_closeTrace (code : CloseCode) (reason : String) (answer : Option Answer) :
    driven (closeTrace code reason answer : List (Occurrence ν)) =
        driven (closeTrace code reason answer : List (Occurrence Note)) ∧
      verdicts (closeTrace code reason answer) = [] := by
  cases answer with
  | none => exact ⟨rfl, rfl⟩
  | some answer => cases answer <;> exact ⟨rfl, rfl⟩

private theorem terminate_couples (coupling : Coupling related host other) (code : CloseCode)
    (reason : String) (alike : session.Alike session') :
    Couples related session session' ((terminate host code reason : Step σ τ Note ε Unit) session)
      ((terminate other code reason : Step σ' τ ν ε Unit) session') := by
  have answer : session'.answer? other code (trimReason reason) =
      session.answer? host code (trimReason reason) := by
    simp only [answer?, coupling.transport, alike.connection]
  obtain ⟨seen, silent⟩ := driven_closeTrace (ν := ν) code (trimReason reason)
    (session.answer? host code (trimReason reason))
  rw [terminate_run, terminate_run, answer]
  refine coupling.couples_of_inStep rfl silent ?_ ⟨rfl, rfl, ⟨alike.handlers, alike.policy, ?_,
    alike.assembly⟩, id⟩
  · exact congrArg (List.cons (.counted (.termination code))) seen
  · simp only [hungUp, coupling.transport, alike.connection]

private theorem notifyError_couples (coupling : Coupling related host other) (fault : Fault)
    (alike : session.Alike session') :
    Couples related session session' ((notifyError host fault : Step σ τ Note ε Unit) session)
      ((notifyError other fault : Step σ' τ ν ε Unit) session') := by
  simp only [notifyError, Work.bind_run, Work.attempt_run]
  refine (coupling.calls (.error fault) session session' alike).attempt.andThen
    coupling.toRapport ?_
  intro ending state state' alike
  cases ending <;> exact coupling.couples_of_trace alike _ rfl rfl

private theorem report_couples (coupling : Coupling related host other) (fault : Fault)
    (alike : session.Alike session') :
    Couples related session session' ((report fault : Step σ τ Note ε Unit) session)
      ((report fault : Step σ' τ ν ε Unit) session') := by
  rw [report_run, report_run]
  cases fault <;> exact coupling.couples_of_trace alike _ rfl rfl

private theorem fail_couples (coupling : Coupling related host other) (fault : Fault)
    (alike : session.Alike session') :
    Couples related session session' ((fail host fault : Step σ τ Note ε Unit) session)
      ((fail other fault : Step σ' τ ν ε Unit) session') := by
  rw [fail, fail, Work.bind_run, Work.bind_run]
  refine (report_couples coupling fault alike).andThen coupling.toRapport
    fun _ state state' alike => ?_
  rw [Work.bind_run, Work.bind_run]
  refine (assembling_couples coupling Assembly.abandon_agree alike).andThen coupling.toRapport
    fun _ state state' alike => ?_
  simp only [Work.bind_run, Work.state_run, Outcome.andThen_value, Outcome.after_nil, alike.policy]
  refine (terminate_couples coupling _ _ alike).andThen coupling.toRapport
    fun _ state state' alike => ?_
  exact notifyError_couples coupling fault alike

private theorem guarded_couples (coupling : Coupling related host other)
    {work : Step σ τ Note Fault Unit}
    {work' : Step σ' τ ν Fault Unit}
    (couples : Couples related session session' (work session) (work' session')) :
    Couples related session session' ((guarded host work : Step σ τ Note ε Unit) session)
      ((guarded other work' : Step σ' τ ν ε Unit) session') := by
  simp only [guarded, Work.bind_run, Work.attempt_run]
  refine couples.attempt.andThen coupling.toRapport fun ending state state' alike => ?_
  cases ending with
  | value _ => exact coupling.couples_of_trace alike _ rfl rfl
  | fault fault => exact fail_couples coupling fault alike
  | panic payload =>
    simp only [Work.bind_run, Work.tell_run, Outcome.andThen_value]
    exact (fail_couples coupling _ alike).after rfl rfl

end Session

/-- An input comes to the same for two applications that give the same answers. -/
theorem Coupling.handle_couples {σ σ' ν τ ε : Type}
    {related : List Verdict → Session σ τ → Session σ' τ → Prop} {host : Host σ Note τ}
    {other : Host σ' ν τ} {session : Session σ τ} {session' : Session σ' τ}
    (coupling : Coupling related host other) (input : Input) (alike : session.Alike session') :
    Couples related session session' ((input.handle host : Session.Step σ τ Note ε Unit) session)
      ((input.handle other : Session.Step σ' τ ν ε Unit) session') := by
  have attempts : Couples related session session' (input.attempt host session)
      (input.attempt other session') := by
    cases input with
    | connect => exact Session.invoke_couples coupling .connect alike
    | frame frame => exact Session.dispatch_couples coupling frame alike
    | protocolError request => exact coupling.couples_of_trace alike _ rfl rfl
  rw [Input.handle_run, Input.handle_run]
  exact (Session.guarded_couples coupling attempts).after (by cases input <;> rfl)
    (by cases input <;> rfl)

end WebSocketSession
