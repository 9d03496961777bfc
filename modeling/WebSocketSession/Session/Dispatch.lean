import WebSocketSession.Session.Termination

/-!
# Dispatch

What a session does with the events of its connection. A frame is first shown to the frame
observer. Then a CLOSE frame goes to the close callback, a data frame into the message of its
family, a continuation into the message in flight; everything else passes.
-/

set_option autoImplicit false
set_option relaxedAutoImplicit false

namespace WebSocketSession.Session

variable {σ ν τ ε : Type}

def invoke (host : Host σ ν τ) (event : Event) : Step σ τ ν Fault Unit :=
  Work.mapFault Fault.ofFailure (call host event)

/-- Delivers a complete message; text has to be UTF-8. -/
def deliverMessage (host : Host σ ν τ) (family : Family) (message : Bytes) :
    Step σ τ ν Fault Unit := do
  Work.tell [.counted (.message family .buffered)]
  match family with
  | .text =>
    match Utf8.decode message with
    | some text => invoke host (.text text)
    | none => Work.raise (.invalidText family)
  | .binary => invoke host (.binary message)

/-- Delivers a stream, which for a text message is read as text. -/
def deliverStream (host : Host σ ν τ) (family : Family) (stream : Nat) :
    Step σ τ ν Fault Unit := do
  Work.tell [.counted (.message family .streaming)]
  match family with
  | .text =>
    Work.modify fun session => (session.read stream .intoText).2
    invoke host (.textStream stream)
  | .binary => invoke host (.binaryStream stream)

/-- Puts a fragment into a buffered message. The buffer of a complete message goes back to the
pool after the callback, however that ends. -/
def acceptBuffered (host : Host σ ν τ) (family : Family) (frame : Frame) :
    Step σ τ ν Fault Unit := do
  let limit := (← Work.state).policy.bufferedLimit family
  match ← assembling (Assembly.acceptBuffered family frame.payload frame.fin limit) with
  | some loan =>
    Work.ensuring (deliverMessage host family loan.bytes) (assembling (Assembly.giveBack loan))
  | none => return ()

def acceptStreaming (host : Host σ ν τ) (family : Family) (frame : Frame) :
    Step σ τ ν Fault Unit := do
  match ← assembling (Assembly.acceptStreaming family frame.payload frame.fin) with
  | some stream => deliverStream host family stream
  | none => return ()

/-- A frame of a family: discarded without a handler, refused while a message of the other family
is in flight, and otherwise a fragment of its family's message. -/
def dispatchData (host : Host σ ν τ) (family : Family) (frame : Frame) :
    Step σ τ ν Fault Unit := do
  let session ← Work.state
  match session.handlers.delivery family with
  | none => Work.tell [.logged (.noHandler family)]
  | some delivery =>
    match session.inFlight with
    | some inFlight =>
      if inFlight ≠ family then Work.raise (.interleaved inFlight frame.opcode)
    | none => pure ()
    match delivery with
    | .buffered => acceptBuffered host family frame
    | .streaming => acceptStreaming host family frame

/-- A CLOSE frame, whose payload matters only to a close callback. -/
def dispatchClose (host : Host σ ν τ) (frame : Frame) : Step σ τ ν Fault Unit := do
  if (← Work.state).handlers.close then
    match CloseNotice.ofPayload frame.payload with
    | .ok notice => invoke host (.close notice)
    | .error defect => Work.raise (.malformedClose defect)

def dispatch (host : Host σ ν τ) (frame : Frame) : Step σ τ ν Fault Unit := do
  invoke host (.frame frame)
  match frame.opcode with
  | .close => dispatchClose host frame
  | .ping | .pong => return ()
  | .text => dispatchData host .text frame
  | .binary => dispatchData host .binary frame
  | .continuation =>
    match (← Work.state).inFlight with
    | some family => dispatchData host family frame
    | none => Work.tell [.logged .strayContinuation]

def onConnect (host : Host σ ν τ) : Step σ τ ν ε Unit := do
  Work.tell [.logged .connected]
  guarded host (invoke host .connect)

def onFrame (host : Host σ ν τ) (frame : Frame) : Step σ τ ν ε Unit := do
  Work.tell [.counted .frame, .logged (.frameReceived frame)]
  guarded host (dispatch host frame)

def onProtocolError (host : Host σ ν τ) (request : CloseRequest) : Step σ τ ν ε Unit := do
  Work.tell [.logged (.protocolErrorReported request)]
  fail host (.closeRequested request)

/-- Ends the session for the sake of its application; the message in flight is given up. -/
def release : Step σ τ ν ε Unit := assembling Assembly.abandon

def dispose : Step σ τ ν ε Unit := assembling Assembly.dispose

end WebSocketSession.Session
