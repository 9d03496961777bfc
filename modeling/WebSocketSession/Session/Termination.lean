import WebSocketSession.Session

/-!
# Termination

A fault ends the message in flight, closes the connection with the status of its cause, and is
then shown to the error callback. Neither a refused close nor a failing error callback changes
anything but the log.
-/

set_option autoImplicit false
set_option relaxedAutoImplicit false

namespace WebSocketSession.Session

variable {σ ν τ ε : Type}

/-- Logs a fault: a requested close is no cause for a warning. -/
def report (fault : Fault) : Step σ τ ν ε Unit :=
  match fault with
  | .closeRequested request => Work.tell [.logged (.closingOnRequest request)]
  | _ => Work.tell [.logged (.unhandled fault)]

/-- Closes the connection, if one is attached, with a reason that fits a CLOSE frame. -/
def terminate (host : Host σ ν τ) (code : CloseCode) (reason : String) :
    Step σ τ ν ε Unit := do
  let trimmed := trimReason reason
  Work.tell [.counted (.termination code)]
  if (← Work.state).connection.isNone then
    Work.tell [.logged (.closeNotSent code trimmed)]
  else
    Work.tell [.logged (.terminating code trimmed)]
    match ← reach (host.transport.close code trimmed) (.closed .session code trimmed) with
    | none => return ()
    | some error => Work.tell [.logged (.closeFailed code error)]

/-- Shows a fault to the error callback; what goes wrong there is logged and forgotten. -/
def notifyError (host : Host σ ν τ) (fault : Fault) : Step σ τ ν ε Unit := do
  match ← Work.attempt (call host (.error fault)) with
  | .value _ => return ()
  | .fault failure => Work.tell [.logged (.errorCallbackFailed failure)]
  | .panic payload => Work.tell [.logged (.errorCallbackPanicked payload.message)]

/-- Ends the session's business after a fault. -/
def fail (host : Host σ ν τ) (fault : Fault) : Step σ τ ν ε Unit := do
  report fault
  assembling Assembly.abandon
  let (code, reason) := fault.closing (← Work.state).policy.role
  terminate host code reason
  notifyError host fault

/-- Does the work of an event; a panic in it is a fault like any other, and a fault ends in
`fail`. -/
def guarded (host : Host σ ν τ) (work : Step σ τ ν Fault Unit) : Step σ τ ν ε Unit := do
  match ← Work.attempt work with
  | .value _ => return ()
  | .fault fault => fail host fault
  | .panic payload =>
    Work.tell [.logged (.callbackPanicked payload.message)]
    fail host (.callbackPanicked payload.message)

end WebSocketSession.Session
