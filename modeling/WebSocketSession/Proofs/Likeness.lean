import WebSocketSession.Proofs.BufferLending
import WebSocketSession.Proofs.Parallel

/-!
# Sessions that are alike

A `Likeness` leaves something open between two runs: what applications, failures and panics are
alike, and what loans and pools are. Two sessions are the same but for that, and if their
applications react the same but for that, everything that the sessions do is the same but for that,
over whole runs (`Likeness.history_same`). The proof follows the definitions: one lemma for each
thing a session does, each from the lemmas for its parts.
-/

set_option autoImplicit false
set_option relaxedAutoImplicit false

namespace WebSocketSession

/-- What is left open between two runs, within what a session may depend on: of a failure, its type
and the close it asks for; of a loan, the bytes and the limit. -/
structure Likeness (σ σ' ν ν' : Type) where
  app : σ → σ' → Prop
  note : ν → ν' → Prop
  failure : Failure → Failure → Prop
  payload : PanicPayload → PanicPayload → Prop
  loan : Loan → Loan → Prop
  pool : Pool → Pool → Prop
  typeName : ∀ {one other}, failure one other → other.typeName = one.typeName
  request : ∀ {one other}, failure one other → other.request = one.request
  payload_refl : ∀ one, payload one one
  bytes : ∀ {one other}, loan one other → other.bytes = one.bytes
  limit : ∀ {one other}, loan one other → other.limit = one.limit
  extend : ∀ {one other}, loan one other → ∀ bytes,
    loan ⟨one.buffer.extend bytes, one.limit⟩ ⟨other.buffer.extend bytes, other.limit⟩
  lend : ∀ {one other}, pool one other → ∀ limit,
    loan (.lend (one.acquire limit).1 limit) (.lend (other.acquire limit).1 limit)
  acquire : ∀ {one other}, pool one other → ∀ limit,
    pool (one.acquire limit).2 (other.acquire limit).2
  release : ∀ {one other lent lent'}, pool one other → loan lent lent' →
    pool (one.release lent.buffer) (other.release lent'.buffer)

namespace Likeness

variable {σ σ' ν ν' τ ε ε' : Type} (like : Likeness σ σ' ν ν')

inductive SameFault : Fault → Fault → Prop where
  | same (fault : Fault) : SameFault fault fault
  | failed {one other : Failure} (alike : like.failure one other) :
    SameFault (.callbackFailed one) (.callbackFailed other)
  | panicked {payload payload' : PanicPayload} (alike : like.payload payload payload') :
    SameFault (.callbackPanicked payload.message) (.callbackPanicked payload'.message)

inductive SameEvent : Event → Event → Prop where
  | same (event : Event) : SameEvent event event
  | error {one other : Fault} (alike : like.SameFault one other) :
    SameEvent (.error one) (.error other)

inductive SameRecord : LogRecord → LogRecord → Prop where
  | same (record : LogRecord) : SameRecord record record
  | callbackPanicked {payload payload' : PanicPayload} (alike : like.payload payload payload') :
    SameRecord (.callbackPanicked payload.message) (.callbackPanicked payload'.message)
  | unhandled {one other : Fault} (alike : like.SameFault one other) :
    SameRecord (.unhandled one) (.unhandled other)
  | errorCallbackFailed {one other : Failure} (alike : like.failure one other) :
    SameRecord (.errorCallbackFailed one) (.errorCallbackFailed other)
  | errorCallbackPanicked {payload payload' : PanicPayload}
    (alike : like.payload payload payload') :
    SameRecord (.errorCallbackPanicked payload.message) (.errorCallbackPanicked payload'.message)

inductive SameOccurrence : Occurrence ν → Occurrence ν' → Prop where
  | acquired (size : Nat) : SameOccurrence (.acquired size) (.acquired size)
  | released (length : Nat) : SameOccurrence (.released length) (.released length)
  | called {one other : Event} (alike : like.SameEvent one other) :
    SameOccurrence (.called one) (.called other)
  | noted {one : ν} {other : ν'} (alike : like.note one other) :
    SameOccurrence (.noted one) (.noted other)
  | closed (origin : Origin) (code : CloseCode) (reason : String) :
    SameOccurrence (.closed origin code reason) (.closed origin code reason)
  | sent (frame : Frame) : SameOccurrence (.sent frame) (.sent frame)
  | logged {one other : LogRecord} (alike : like.SameRecord one other) :
    SameOccurrence (.logged one) (.logged other)
  | counted (metric : Metric) : SameOccurrence (.counted metric) (.counted metric)

inductive SameSlot : Slot → Slot → Prop where
  | idle : SameSlot .idle .idle
  | buffered (family : Family) {one other : Loan} (alike : like.loan one other) :
    SameSlot (.buffered family one) (.buffered family other)
  | streaming (family : Family) (stream : Nat) (feed : Feed) :
    SameSlot (.streaming family stream feed) (.streaming family stream feed)

structure SameAssembly (one other : Assembly) : Prop where
  slot : like.SameSlot one.slot other.slot
  pool : like.pool one.pool other.pool
  streams : other.streams = one.streams

structure SameSession (one : Session σ τ) (other : Session σ' τ) : Prop where
  app : like.app one.app other.app
  handlers : other.handlers = one.handlers
  policy : other.policy = one.policy
  connection : other.connection = one.connection
  assembly : like.SameAssembly one.assembly other.assembly

/-- Callbacks that do the same whatever they are answered, but for how they fail. -/
inductive SameReaction : Reaction σ ν → Reaction σ' ν' → Prop where
  | succeed : SameReaction .succeed .succeed
  | fail {one other : Failure} (alike : like.failure one other) :
    SameReaction (.fail one) (.fail other)
  | panic {payload payload' : PanicPayload} (alike : like.payload payload payload') :
    SameReaction (.panic payload) (.panic payload')
  | become {app : σ} {app' : σ'} {rest : Reaction σ ν} {rest' : Reaction σ' ν'}
    (alike : like.app app app') (later : SameReaction rest rest') :
    SameReaction (.become app rest) (.become app' rest')
  | note {one : ν} {other : ν'} {rest : Reaction σ ν} {rest' : Reaction σ' ν'}
    (alike : like.note one other) (later : SameReaction rest rest') :
    SameReaction (.note one rest) (.note other rest')
  | send (frame : Frame) {rest : Option TransportError → Reaction σ ν}
    {rest' : Option TransportError → Reaction σ' ν'}
    (later : ∀ error, SameReaction (rest error) (rest' error)) :
    SameReaction (.send frame rest) (.send frame rest')
  | close (code : CloseCode) (reason : String) {rest : Option TransportError → Reaction σ ν}
    {rest' : Option TransportError → Reaction σ' ν'}
    (later : ∀ error, SameReaction (rest error) (rest' error)) :
    SameReaction (.close code reason rest) (.close code reason rest')
  | askOpen {rest : Option Bool → Reaction σ ν} {rest' : Option Bool → Reaction σ' ν'}
    (later : ∀ answer, SameReaction (rest answer) (rest' answer)) :
    SameReaction (.askOpen rest) (.askOpen rest')
  | read (stream : Nat) (style : ReadStyle) {rest : Except NoReader ReadOutcome → Reaction σ ν}
    {rest' : Except NoReader ReadOutcome → Reaction σ' ν'}
    (later : ∀ result, SameReaction (rest result) (rest' result)) :
    SameReaction (.read stream style rest) (.read stream style rest')

structure SameHost (host : Host σ ν τ) (host' : Host σ' ν' τ) : Prop where
  transport : host'.transport = host.transport
  react : ∀ {event event' app app'}, like.SameEvent event event' → like.app app app' →
    ∀ policy, like.SameReaction (host.react event policy app) (host'.react event' policy app')

/-- Operations that are the same but for the application that a session is given. -/
inductive SameOperation : Operation σ τ → Operation σ' τ → Prop where
  | input (input : Input) : SameOperation (.input input) (.input input)
  | attach (connection : τ) : SameOperation (.attach connection) (.attach connection)
  | read (stream : Nat) (style : ReadStyle) :
    SameOperation (.read stream style) (.read stream style)
  | become {app : σ} {app' : σ'} (alike : like.app app app') :
    SameOperation (.become app) (.become app')

def assemblies : Correspondence Assembly Assembly (Occurrence ν) (Occurrence ν') :=
  ⟨like.SameAssembly, like.SameOccurrence, like.payload⟩

def sessions (τ : Type) :
    Correspondence (Session σ τ) (Session σ' τ) (Occurrence ν) (Occurrence ν') :=
  ⟨like.SameSession, like.SameOccurrence, like.payload⟩

variable {like} {fault : ε → ε' → Prop}

private theorem SameFault.closing {one other : Fault} (alike : like.SameFault one other)
    (role : Role) :
    other.closing role = one.closing role := by
  cases alike with
  | same => rfl
  | failed failure => exact congrArg (role.failureCode, ·) (like.typeName failure)
  | panicked => rfl

private theorem SameEvent.registration {one other : Event} (alike : like.SameEvent one other) :
    other.registration = one.registration := by
  cases alike <;> rfl

private theorem SameSlot.inFlight {one other : Slot} (alike : like.SameSlot one other) :
    other.inFlight = one.inFlight := by
  cases alike <;> rfl

private theorem length_loan {one other : Loan} (alike : like.loan one other) :
    other.length = one.length := by
  rw [← other.length_bytes, ← one.length_bytes, like.bytes alike]

private theorem SameSession.inFlight {one : Session σ τ} {other : Session σ' τ}
    (alike : like.SameSession one other) : other.inFlight = one.inFlight :=
  alike.assembly.slot.inFlight

private theorem SameSession.isOpen {one : Session σ τ} {other : Session σ' τ} {host : Host σ ν τ}
    {host' : Host σ' ν' τ} (hosts : like.SameHost host host') (alike : like.SameSession one other) :
    other.isOpen host' = one.isOpen host := by
  rw [Session.isOpen, alike.connection, hosts.transport]
  rfl

private theorem ofFailure_same {one other : Failure} (alike : like.failure one other) :
    like.SameFault (.ofFailure one) (.ofFailure other) := by
  unfold Fault.ofFailure
  rw [like.request alike]
  cases one.request with
  | none => exact .failed alike
  | some request => exact .same _

private theorem logged_same (records : List LogRecord) :
    List.Forall₂ like.SameOccurrence (records.map .logged) (records.map .logged) := by
  rw [List.forall₂_map_left_iff, List.forall₂_map_right_iff]
  exact List.forall₂_same.mpr fun record _ => .logged (.same record)

private theorem append_same {one other : Loan} (alike : like.loan one other) (payload : Bytes) :
    (∃ overflow, one.append payload = .error overflow ∧ other.append payload = .error overflow) ∨
      ∃ extended extended', one.append payload = .ok extended ∧
        other.append payload = .ok extended' ∧ like.loan extended extended' := by
  have remaining : other.remaining = one.remaining := by
    rw [Loan.remaining, Loan.remaining, like.limit alike, length_loan alike]
  unfold Loan.append
  rw [remaining, length_loan alike, like.limit alike]
  by_cases exceeds : one.remaining < payload.length
  · exact .inl ⟨_, if_pos exceeds, if_pos exceeds⟩
  · refine .inr ⟨_, _, if_neg exceeds, if_neg exceeds, ?_⟩
    simpa only [like.limit alike] using like.extend alike payload

private theorem SameSession.read {one : Session σ τ} {other : Session σ' τ}
    (alike : like.SameSession one other) (stream : Nat) (style : ReadStyle) :
    (other.read stream style).1 = (one.read stream style).1 ∧
      like.SameSession (one.read stream style).2 (other.read stream style).2 := by
  have streams := alike.assembly.streams
  have reader : other.assembly.reader stream = one.assembly.reader stream := by
    rw [Assembly.reader, streams, Assembly.reader]
  unfold Session.read Assembly.read
  rw [streams, reader]
  split
  · cases (one.assembly.reader stream).use style with
    | none => exact ⟨rfl, alike⟩
    | some result =>
      exact ⟨rfl, alike.app, alike.handlers, alike.policy, alike.connection, alike.assembly.slot,
        alike.assembly.pool, rfl⟩
  · exact ⟨rfl, alike⟩

private theorem fill_parallel {slot slot' : Slot} (alike : like.SameSlot slot slot') :
    Work.Parallel like.assemblies fault Eq (Assembly.fill slot) (Assembly.fill slot') :=
  .modify fun _ _ same => ⟨alike, same.pool, same.streams⟩

private theorem borrow_parallel (limit : Nat) :
    Work.Parallel like.assemblies fault like.loan (Assembly.borrow limit)
      (Assembly.borrow limit) := by
  refine .bind .state fun one other alike => .bind (.modify ?_) fun _ _ _ =>
    .bind (.tell ?_) fun _ _ _ => .pure (like.lend alike.pool limit)
  · exact fun _ _ _ => ⟨alike.slot, like.acquire alike.pool limit, alike.streams⟩
  · exact .cons (.acquired limit) (.cons (.counted .bufferLent) .nil)

private theorem giveBack_parallel {loan loan' : Loan} (alike : like.loan loan loan') :
    Work.Parallel like.assemblies fault Eq (Assembly.giveBack loan) (Assembly.giveBack loan') := by
  refine .bind (.modify fun one other same => ?_) fun _ _ _ => .tell ?_
  · exact ⟨same.slot, like.release same.pool alike, same.streams⟩
  · rw [length_loan alike]
    exact .cons (.released loan.length) (.cons (.counted .bufferReturned) .nil)

private theorem vacate_parallel :
    Work.Parallel like.assemblies fault like.SameSlot Assembly.vacate Assembly.vacate :=
  .bind .state fun _ _ alike => .bind (fill_parallel .idle) fun _ _ _ => .pure alike.slot

private theorem replaceReader_parallel (stream : Nat) (reader : Reader) :
    Work.Parallel like.assemblies fault Eq (Assembly.replaceReader stream reader)
      (Assembly.replaceReader stream reader) :=
  .modify fun _ _ same => ⟨same.slot, same.pool, congrArg (·.set stream reader) same.streams⟩

private theorem openStream_parallel :
    Work.Parallel like.assemblies fault Eq Assembly.openStream Assembly.openStream := by
  refine .bind .state fun one other alike => .bind (.modify fun _ _ _ => ?_) fun _ _ _ => .pure ?_
  · exact ⟨alike.slot, alike.pool, congrArg (· ++ [.bytes .opened]) alike.streams⟩
  · rw [alike.streams]

private theorem reader_same {one other : Assembly} (alike : like.SameAssembly one other)
    (stream : Nat) :
    other.reader stream = one.reader stream := by
  rw [Assembly.reader, alike.streams, Assembly.reader]

private theorem feedStream_parallel (stream : Nat) (feed : Feed) (payload : Bytes) :
    Work.Parallel like.assemblies fault Eq (Assembly.feedStream stream feed payload)
      (Assembly.feedStream stream feed payload) := by
  refine .bind .state fun one other alike => ?_
  rw [reader_same alike]
  exact .bind (replaceReader_parallel _ _) fun _ _ _ =>
    .bind (.tell (logged_same _)) fun _ _ _ => .pure rfl

private theorem finishStream_parallel (stream : Nat) (feed : Feed) :
    Work.Parallel like.assemblies fault Eq (Assembly.finishStream stream feed)
      (Assembly.finishStream stream feed) := by
  refine .bind .state fun one other alike => ?_
  rw [reader_same alike]
  exact .bind (replaceReader_parallel _ _) fun _ _ _ => .tell (logged_same _)

private theorem abortStream_parallel (stream : Nat) (feed : Feed) :
    Work.Parallel like.assemblies fault Eq (Assembly.abortStream stream feed)
      (Assembly.abortStream stream feed) := by
  refine .bind .state fun one other alike => ?_
  rw [reader_same alike]
  exact .bind (replaceReader_parallel _ _) fun _ _ _ => .tell (logged_same _)

private theorem refuse_parallel {α α' : Type} {value : α → α' → Prop} {slot slot' : Slot}
    (alike : like.SameSlot slot slot') (received : Family) :
    Work.Parallel like.assemblies like.SameFault value (Assembly.refuse slot received)
      (Assembly.refuse slot' received) := by
  refine .bind (fill_parallel alike) fun _ _ _ => ?_
  rw [alike.inFlight]
  exact .raise (.same _)

private theorem loanFor_parallel (family : Family) (limit : Nat) :
    Work.Parallel like.assemblies like.SameFault like.loan (Assembly.loanFor family limit)
      (Assembly.loanFor family limit) := by
  refine .bind vacate_parallel fun slot slot' alike => ?_
  cases alike with
  | idle => exact borrow_parallel limit
  | buffered current lent =>
    by_cases same : current = family
    · simp only [same, if_true]
      exact .pure lent
    · simp only [same, if_false]
      exact refuse_parallel (.buffered current lent) family
  | streaming current stream feed => exact refuse_parallel (.streaming current stream feed) family

private theorem acceptBuffered_parallel (family : Family) (payload : Bytes) (fin : Bool)
    (limit : Nat) :
    Work.Parallel like.assemblies like.SameFault (Option.Rel like.loan)
      (Assembly.acceptBuffered family payload fin limit)
      (Assembly.acceptBuffered family payload fin limit) := by
  refine .bind (loanFor_parallel family limit) fun loan loan' lent => ?_
  obtain ⟨overflow, exceeds, exceeds'⟩ | ⟨extended, extended', fits, fits', alike⟩ :=
    append_same lent payload
  · simp only [exceeds, exceeds']
    exact .bind (giveBack_parallel lent) fun _ _ _ => .raise (.same _)
  · simp only [fits, fits']
    cases fin with
    | true => exact .pure (.some alike)
    | false => exact .bind (fill_parallel (.buffered family alike)) fun _ _ _ => .pure .none

private theorem streamFor_parallel (family : Family) :
    Work.Parallel like.assemblies like.SameFault Eq (Assembly.streamFor family)
      (Assembly.streamFor family) := by
  refine .bind vacate_parallel fun slot slot' alike => ?_
  cases alike with
  | idle =>
    refine .bind openStream_parallel fun stream _ same => ?_
    cases same
    exact .pure rfl
  | buffered current lent => exact refuse_parallel (.buffered current lent) family
  | streaming current stream feed =>
    by_cases same : current = family
    · simp only [same, if_true]
      exact .pure rfl
    · simp only [same, if_false]
      exact refuse_parallel (.streaming current stream feed) family

private theorem acceptStreaming_parallel (family : Family) (payload : Bytes) (fin : Bool) :
    Work.Parallel like.assemblies like.SameFault Eq
      (Assembly.acceptStreaming family payload fin)
      (Assembly.acceptStreaming family payload fin) := by
  refine .bind (streamFor_parallel family) fun target _ same => ?_
  cases same
  refine .bind (feedStream_parallel target.1 target.2.1 payload) fun fed _ same => ?_
  cases same
  cases fin with
  | true => exact .bind (finishStream_parallel target.1 fed) fun _ _ _ => .pure rfl
  | false =>
    exact .bind (fill_parallel (.streaming family target.1 fed)) fun _ _ _ => .pure rfl

private theorem abandon_parallel :
    Work.Parallel like.assemblies fault Eq Assembly.abandon Assembly.abandon := by
  refine .bind vacate_parallel fun slot slot' alike => ?_
  cases alike with
  | idle => exact .pure rfl
  | buffered family lent =>
    refine .bind (.tell ?_) fun _ _ _ => giveBack_parallel lent
    rw [length_loan lent]
    exact .cons (.logged (.same _)) .nil
  | streaming family stream feed =>
    exact .bind (.tell (.cons (.logged (.same _)) .nil)) fun _ _ _ =>
      abortStream_parallel stream feed

private theorem dispose_parallel :
    Work.Parallel like.assemblies fault Eq Assembly.dispose Assembly.dispose := by
  refine .bind vacate_parallel fun slot slot' alike => ?_
  cases alike with
  | idle => exact .pure rfl
  | buffered family lent => exact giveBack_parallel lent
  | streaming family stream feed =>
    refine .bind .state fun one other alike => ?_
    rw [reader_same alike]
    exact replaceReader_parallel _ _

private theorem assembling_parallel {α α' : Type} {value : α → α' → Prop}
    {work : Assembly.Step ν ε α}
    {work' : Assembly.Step ν' ε' α'}
    (alike : Work.Parallel like.assemblies fault value work work') :
    Work.Parallel (like.sessions τ) fault value (Session.assembling work)
      (Session.assembling work') := by
  refine Work.Parallel.within alike rfl rfl (fun _ _ same => same.assembly)
    fun _ _ _ _ same part => ?_
  exact ⟨same.app, same.handlers, same.policy, same.connection, part⟩

private theorem reach_parallel (call : τ → Answer × τ) {happening : Occurrence ν}
    {happening' : Occurrence ν'} (alike : like.SameOccurrence happening happening') :
    Work.Parallel (like.sessions τ) fault Eq (Session.reach call happening)
      (Session.reach call happening') := by
  refine .bind .state fun one other same => ?_
  rw [same.connection]
  cases one.connection with
  | none => exact .pure rfl
  | some connection =>
    refine .bind (.tell (.cons alike .nil)) fun _ _ _ => .bind (.modify fun _ _ now => ?_)
      fun _ _ _ => ?_
    · exact ⟨now.app, now.handlers, now.policy, rfl, now.assembly⟩
    · cases (call connection).1 with
      | accepted => exact .pure rfl
      | refused error => exact .pure rfl
      | panicked payload => exact .unwind (like.payload_refl payload)

variable {host : Host σ ν τ} {host' : Host σ' ν' τ}

private theorem perform_parallel (hosts : like.SameHost host host') {reaction : Reaction σ ν}
    {reaction' : Reaction σ' ν'} (alike : like.SameReaction reaction reaction') :
    Work.Parallel (like.sessions τ) like.failure Eq (Session.perform host reaction)
      (Session.perform host' reaction') := by
  induction alike with
  | succeed => exact .pure rfl
  | fail failure => exact .raise failure
  | panic payload => exact .unwind payload
  | become app later ih =>
    refine .bind (.modify fun _ _ same => ?_) fun _ _ _ => ih
    exact ⟨app, same.handlers, same.policy, same.connection, same.assembly⟩
  | note note later ih => exact .bind (.tell (.cons (.noted note) .nil)) fun _ _ _ => ih
  | send frame later ih =>
    rw [Session.perform, Session.perform, hosts.transport]
    refine .bind (reach_parallel _ (.sent frame)) fun error _ same => ?_
    cases same
    exact ih error
  | close code reason later ih =>
    rw [Session.perform, Session.perform, hosts.transport]
    refine .bind (reach_parallel _ (.closed .application code reason)) fun error _ same => ?_
    cases same
    exact ih error
  | askOpen later ih =>
    refine .bind .state fun one other same => ?_
    rw [same.isOpen hosts]
    exact ih _
  | @read stream style rest rest' later ih =>
    refine .bind .state fun one other same => ?_
    obtain ⟨result, after⟩ := same.read stream style
    have onwards {answer answer' : Except NoReader ReadOutcome} (answers : answer' = answer) :
        Work.Parallel (like.sessions τ) like.failure Eq (Session.perform host (rest answer))
          (Session.perform host' (rest' answer')) := answers ▸ ih answer
    exact .bind (.modify fun _ _ _ => after) fun _ _ _ => onwards result

private theorem call_parallel (hosts : like.SameHost host host') {event event' : Event}
    (alike : like.SameEvent event event') :
    Work.Parallel (like.sessions τ) like.failure Eq (Session.call host event)
      (Session.call host' event') := by
  refine .bind .state fun one other same => ?_
  rw [same.handlers, alike.registration, same.policy]
  by_cases handled : one.handlers.handles event.registration = true
  · simp only [handled, if_true]
    exact .bind (.tell (.cons (.called alike) .nil)) fun _ _ _ =>
      perform_parallel hosts (hosts.react alike same.app one.policy)
  · simp only [handled]
    exact .pure rfl

private theorem invoke_parallel (hosts : like.SameHost host host') {event event' : Event}
    (alike : like.SameEvent event event') :
    Work.Parallel (like.sessions τ) like.SameFault Eq (Session.invoke host event)
      (Session.invoke host' event') :=
  (call_parallel hosts alike).mapFault fun _ _ failure => ofFailure_same failure

private theorem report_parallel {one other : Fault} (alike : like.SameFault one other) :
    Work.Parallel (like.sessions τ) fault Eq (Session.report one) (Session.report other) := by
  cases alike with
  | same => cases one <;> exact .tell (.cons (.logged (.same _)) .nil)
  | failed failure => exact .tell (.cons (.logged (.unhandled (.failed failure))) .nil)
  | panicked payload => exact .tell (.cons (.logged (.unhandled (.panicked payload))) .nil)

private theorem terminate_parallel (hosts : like.SameHost host host') (code : CloseCode)
    (reason : String) :
    Work.Parallel (like.sessions τ) fault Eq (Session.terminate host code reason)
      (Session.terminate host' code reason) := by
  refine .bind (.tell (.cons (.counted _) .nil)) fun _ _ _ => .bind .state fun one other same => ?_
  rw [same.connection, hosts.transport]
  cases one.connection with
  | none => exact .tell (.cons (.logged (.same _)) .nil)
  | some connection =>
    refine .bind (.tell (.cons (.logged (.same _)) .nil)) fun _ _ _ =>
      .bind (reach_parallel _ (.closed .session code _)) fun error _ same => ?_
    cases same
    cases error with
    | none => exact .pure rfl
    | some error => exact .tell (.cons (.logged (.same _)) .nil)

private theorem notifyError_parallel (hosts : like.SameHost host host') {one other : Fault}
    (alike : like.SameFault one other) :
    Work.Parallel (like.sessions τ) fault Eq (Session.notifyError host one)
      (Session.notifyError host' other) := by
  refine .bind (call_parallel hosts (.error alike)).attempt fun _ _ ends => ?_
  cases ends with
  | value same => exact .pure rfl
  | fault failure => exact .tell (.cons (.logged (.errorCallbackFailed failure)) .nil)
  | panic payload => exact .tell (.cons (.logged (.errorCallbackPanicked payload)) .nil)

private theorem fail_parallel (hosts : like.SameHost host host') {one other : Fault}
    (alike : like.SameFault one other) :
    Work.Parallel (like.sessions τ) fault Eq (Session.fail host one)
      (Session.fail host' other) := by
  refine .bind (report_parallel alike) fun _ _ _ => .bind (assembling_parallel abandon_parallel)
    fun _ _ _ => .bind .state fun session session' same => ?_
  rw [same.policy, alike.closing]
  exact .bind (terminate_parallel hosts _ _) fun _ _ _ => notifyError_parallel hosts alike

private theorem guarded_parallel (hosts : like.SameHost host host')
    {work : Session.Step σ τ ν Fault Unit}
    {work' : Session.Step σ' τ ν' Fault Unit}
    (alike : Work.Parallel (like.sessions τ) like.SameFault Eq work work') :
    Work.Parallel (like.sessions τ) fault Eq (Session.guarded host work)
      (Session.guarded host' work') := by
  refine .bind alike.attempt fun _ _ ends => ?_
  cases ends with
  | value same => exact .pure rfl
  | fault same => exact fail_parallel hosts same
  | panic payload =>
    exact .bind (.tell (.cons (.logged (.callbackPanicked payload)) .nil)) fun _ _ _ =>
      fail_parallel hosts (.panicked payload)

private theorem deliverMessage_parallel (hosts : like.SameHost host host') (family : Family)
    (message : Bytes) :
    Work.Parallel (like.sessions τ) like.SameFault Eq (Session.deliverMessage host family message)
      (Session.deliverMessage host' family message) := by
  refine .bind (.tell (.cons (.counted _) .nil)) fun _ _ _ => ?_
  cases family with
  | text =>
    cases Utf8.decode message with
    | none => exact .raise (.same _)
    | some text => exact invoke_parallel hosts (.same _)
  | binary => exact invoke_parallel hosts (.same _)

private theorem deliverStream_parallel (hosts : like.SameHost host host') (family : Family)
    (stream : Nat) :
    Work.Parallel (like.sessions τ) like.SameFault Eq (Session.deliverStream host family stream)
      (Session.deliverStream host' family stream) := by
  refine .bind (.tell (.cons (.counted _) .nil)) fun _ _ _ => ?_
  cases family with
  | text =>
    exact .bind (.modify fun _ _ same => (same.read stream .intoText).2) fun _ _ _ =>
      invoke_parallel hosts (.same _)
  | binary => exact invoke_parallel hosts (.same _)

private theorem frameBuffered_parallel (hosts : like.SameHost host host') (family : Family)
    (frame : Frame) :
    Work.Parallel (like.sessions τ) like.SameFault Eq (Session.acceptBuffered host family frame)
      (Session.acceptBuffered host' family frame) := by
  refine .bind .state fun one other same => ?_
  rw [same.policy]
  refine .bind (assembling_parallel (acceptBuffered_parallel family _ _ _)) fun _ _ complete => ?_
  cases complete with
  | none => exact .pure rfl
  | some lent =>
    simp only [like.bytes lent]
    exact (deliverMessage_parallel hosts family _).ensuring
      (assembling_parallel (giveBack_parallel lent))

private theorem frameStreaming_parallel (hosts : like.SameHost host host') (family : Family)
    (frame : Frame) :
    Work.Parallel (like.sessions τ) like.SameFault Eq (Session.acceptStreaming host family frame)
      (Session.acceptStreaming host' family frame) := by
  refine .bind (assembling_parallel (acceptStreaming_parallel family _ _)) fun opened _ same => ?_
  cases same
  cases opened with
  | none => exact .pure rfl
  | some stream => exact deliverStream_parallel hosts family stream

def acceptAs (host : Host σ ν τ) (family : Family) (frame : Frame) :
    Delivery → Session.Step σ τ ν Fault Unit
  | .buffered => Session.acceptBuffered host family frame
  | .streaming => Session.acceptStreaming host family frame

private theorem acceptAs_parallel (hosts : like.SameHost host host') (family : Family)
    (frame : Frame)
    (delivery : Delivery) :
    Work.Parallel (like.sessions τ) like.SameFault Eq (acceptAs host family frame delivery)
      (acceptAs host' family frame delivery) := by
  cases delivery with
  | buffered => exact frameBuffered_parallel hosts family frame
  | streaming => exact frameStreaming_parallel hosts family frame

private theorem dispatchData_parallel (hosts : like.SameHost host host') (family : Family)
    (frame : Frame) :
    Work.Parallel (like.sessions τ) like.SameFault Eq (Session.dispatchData host family frame)
      (Session.dispatchData host' family frame) := by
  refine .bind .state fun one other same => ?_
  rw [same.handlers, same.inFlight]
  cases one.handlers.delivery family with
  | none => exact .tell (.cons (.logged (.same _)) .nil)
  | some delivery =>
    have accepted := acceptAs_parallel hosts family frame delivery
    cases one.inFlight with
    | none => exact accepted
    | some current =>
      by_cases crossed : current = family
      · simp only [ne_eq, crossed, not_true_eq_false, if_false]
        exact accepted
      · have refused : Work.Parallel (like.sessions τ) like.SameFault (Eq : Unit → Unit → Prop)
            (Work.raise (.interleaved current frame.opcode))
            (Work.raise (.interleaved current frame.opcode)) := .raise (.same _)
        simp only [ne_eq, crossed, not_false_eq_true, if_true]
        exact refused.bind fun _ _ _ => accepted

private theorem dispatchClose_parallel (hosts : like.SameHost host host') (frame : Frame) :
    Work.Parallel (like.sessions τ) like.SameFault Eq (Session.dispatchClose host frame)
      (Session.dispatchClose host' frame) := by
  refine .bind .state fun one other same => ?_
  rw [same.handlers]
  by_cases wanted : one.handlers.close = true
  · simp only [wanted, if_true]
    cases CloseNotice.ofPayload frame.payload with
    | ok notice => exact invoke_parallel hosts (.same _)
    | error defect => exact .raise (.same _)
  · simp only [wanted]
    exact .pure rfl

private theorem dispatch_parallel (hosts : like.SameHost host host') (frame : Frame) :
    Work.Parallel (like.sessions τ) like.SameFault Eq (Session.dispatch host frame)
      (Session.dispatch host' frame) := by
  refine .bind (invoke_parallel hosts (.same _)) fun _ _ _ => ?_
  cases frame.opcode with
  | close => exact dispatchClose_parallel hosts frame
  | ping => exact .pure rfl
  | pong => exact .pure rfl
  | text => exact dispatchData_parallel hosts .text frame
  | binary => exact dispatchData_parallel hosts .binary frame
  | continuation =>
    refine .bind .state fun one other same => ?_
    rw [same.inFlight]
    cases one.inFlight with
    | none => exact .tell (.cons (.logged (.same _)) .nil)
    | some family => exact dispatchData_parallel hosts family frame

private theorem handle_parallel (hosts : like.SameHost host host') (input : Input) :
    Work.Parallel (like.sessions τ) fault Eq (input.handle host) (input.handle host') := by
  cases input with
  | connect =>
    exact .bind (.tell (.cons (.logged (.same _)) .nil)) fun _ _ _ =>
      guarded_parallel hosts (invoke_parallel hosts (.same _))
  | frame frame =>
    exact .bind (.tell (.cons (.counted _) (.cons (.logged (.same _)) .nil))) fun _ _ _ =>
      guarded_parallel hosts (dispatch_parallel hosts frame)
  | protocolError request =>
    exact .bind (.tell (.cons (.logged (.same _)) .nil)) fun _ _ _ => fail_parallel hosts (.same _)

theorem apply_parallel (hosts : like.SameHost host host') {operation : Operation σ τ}
    {operation' : Operation σ' τ} (alike : like.SameOperation operation operation') :
    Work.Parallel (like.sessions τ) Eq Eq (operation.apply host) (operation'.apply host') := by
  cases alike with
  | input input => exact handle_parallel hosts input
  | attach connection =>
    exact .modify fun _ _ same => ⟨same.app, same.handlers, same.policy, rfl, same.assembly⟩
  | read stream style => exact .modify fun _ _ same => (same.read stream style).2
  | become app =>
    exact .modify fun _ _ same =>
      ⟨app, same.handlers, same.policy, same.connection, same.assembly⟩

theorem farewell_parallel (farewell : Farewell) :
    Work.Parallel (like.sessions τ) fault Eq farewell.apply farewell.apply := by
  cases farewell with
  | keep => exact .pure rfl
  | release => exact assembling_parallel abandon_parallel
  | dispose => exact assembling_parallel dispose_parallel

theorem start_same {app : σ} {app' : σ'} {pool pool' : Pool} (apps : like.app app app')
    (pools : like.pool pool pool') (handlers : Handlers) (policy : Policy) :
    like.SameSession (.start app handlers policy pool : Session σ τ)
      (.start app' handlers policy pool') :=
  ⟨apps, rfl, rfl, rfl, .idle, pools, rfl⟩

theorem run_same (hosts : like.SameHost host host') {operations : List (Operation σ τ)}
    {operations' : List (Operation σ' τ)}
    (alike : List.Forall₂ like.SameOperation operations operations') {session : Session σ τ}
    {session' : Session σ' τ} (same : like.SameSession session session') :
    like.SameSession (session.run host operations) (session'.run host' operations') := by
  induction alike generalizing session session' with
  | nil => exact same
  | cons operation _ ih => exact ih (apply_parallel hosts operation _ _ same).state

/-- Whatever is the same of outcomes that are alike is the same of two runs, operation by
operation. -/
theorem history_same (hosts : like.SameHost host host') {operations : List (Operation σ τ)}
    {operations' : List (Operation σ' τ)}
    (alike : List.Forall₂ like.SameOperation operations operations') {session : Session σ τ}
    {session' : Session σ' τ} (same : like.SameSession session session') {α : Type}
    {shown : Outcome (Session σ τ) (Occurrence ν) Empty Unit → α}
    {shown' : Outcome (Session σ' τ) (Occurrence ν') Empty Unit → α}
    (shows : ∀ {done done'}, Outcome.Parallel (like.sessions τ) Eq Eq done done' →
      shown' done' = shown done) :
    (session'.history host' operations').map (fun entry => shown' entry.outcome) =
      (session.history host operations).map fun entry => shown entry.outcome := by
  induction alike generalizing session session' with
  | nil => rfl
  | cons operation _ ih =>
    have done := apply_parallel hosts operation _ _ same
    exact congrArg₂ List.cons (shows done) (ih done.state)

end Likeness

end WebSocketSession
