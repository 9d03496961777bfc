import WebSocketSession.Application

/-!
# Sessions

A session owns the application of one connection. It holds the table of handlers, the effective
policy, the connection once one is attached, and the assembly of messages. `call` runs a callback
on it.
-/

set_option autoImplicit false
set_option relaxedAutoImplicit false

namespace WebSocketSession

/-- The state of one connection's session. -/
structure Session (σ τ : Type) where
  app : σ
  handlers : Handlers
  policy : Policy
  connection : Option τ
  assembly : Assembly

namespace Session

variable {σ ν τ ε : Type}

abbrev Step (σ τ ν ε α : Type) : Type := Work (Session σ τ) (Occurrence ν) ε α

/-- A session with nothing attached and nothing in flight. The overrides of the table are applied
here, once. -/
def start (app : σ) (handlers : Handlers) (policy : Policy) (pool : Pool) : Session σ τ :=
  ⟨app, handlers, policy.effective handlers, none, .start pool⟩

def attach (session : Session σ τ) (connection : τ) : Session σ τ :=
  { session with connection := some connection }

def inFlight (session : Session σ τ) : Option Family := session.assembly.inFlight

def isOpen (host : Host σ ν τ) (session : Session σ τ) : Option Bool :=
  session.connection.map host.transport.isOpen

def read (session : Session σ τ) (stream : Nat) (style : ReadStyle) :
    Except NoReader ReadOutcome × Session σ τ :=
  if stream < session.assembly.streams.length then
    match session.assembly.read stream style with
    | some (outcome, assembly) => (.ok outcome, { session with assembly := assembly })
    | none => (.error .usedUp, session)
  else (.error .neverOpened, session)

def assembling {α : Type} (work : Assembly.Step ν ε α) : Step σ τ ν ε α :=
  Work.within Session.assembly (fun session assembly => { session with assembly := assembly }) work

/-- Calls the connection and takes note of its new state; there is nothing to call, and nothing
is noted, while none is attached. -/
def reach (call : τ → Answer × τ) (happening : Occurrence ν) :
    Step σ τ ν ε (Option TransportError) := do
  match (← Work.state).connection with
  | none => return some .notConnected
  | some connection =>
    Work.tell [happening]
    let (answer, after) := call connection
    Work.modify fun session => { session with connection := some after }
    match answer with
    | .accepted => return none
    | .refused error => return some error
    | .panicked payload => Work.unwind payload

def perform (host : Host σ ν τ) : Reaction σ ν → Step σ τ ν Failure Unit
  | .succeed => return ()
  | .fail failure => Work.raise failure
  | .panic payload => Work.unwind payload
  | .become app rest => do
    Work.modify fun session => { session with app := app }
    perform host rest
  | .note note rest => do
    Work.tell [.noted note]
    perform host rest
  | .send frame rest => do
    let error ← reach (host.transport.send frame) (.sent frame)
    perform host (rest error)
  | .close code reason rest => do
    let error ← reach (host.transport.close code reason) (.closed .application code reason)
    perform host (rest error)
  | .askOpen rest => do
    perform host (rest ((← Work.state).isOpen host))
  | .read stream style rest => do
    let (outcome, after) := (← Work.state).read stream style
    Work.modify fun _ => after
    perform host (rest outcome)

/-- Runs the callback for an event, if the table has one. -/
def call (host : Host σ ν τ) (event : Event) : Step σ τ ν Failure Unit := do
  let session ← Work.state
  if session.handlers.handles event.registration then
    Work.tell [.called event]
    perform host (host.react event session.policy session.app)

/-- A session shown with its fields, for an application of the named type. -/
def layout (endpoint : String) (host : Host σ ν τ) (session : Session σ τ) : String :=
  let connection := (session.isOpen host).map fun isOpen =>
    Layout.closed "Connection" [("open", toString isOpen), ("remote_addr", "None")]
  let context := Layout.closed "SessionContext"
    [("connection", Layout.option connection), ("policy", session.policy.layout)]
  Layout.partly "EventDriver"
    [("endpoint", Quoted.quote endpoint), ("events", session.handlers.layout),
      ("ctx", context), ("assembly", session.assembly.layout)]

end Session

end WebSocketSession
