import WebSocketSession.Close
import WebSocketSession.Policy
import WebSocketSession.Text.TypeName

/-!
# Failures and faults

A callback ends with a `Failure` when it returns an error, and with a panic payload when it
panics. Whatever goes wrong while a session handles an event is one `Fault`; its `kind`, its
`message` and its `closing` status are functions of the cause.
-/

set_option autoImplicit false
set_option relaxedAutoImplicit false

namespace WebSocketSession

/-- What a panic carries: a text, or a value that is none. -/
inductive PanicPayload where
  | text (message : String)
  | other
  deriving DecidableEq

namespace PanicPayload

/-- A payload that is no text is shown by a placeholder. -/
def message : PanicPayload → String
  | .text message => message
  | .other => "<non-string panic payload>"

def layout (payload : PanicPayload) : String :=
  "PanicMessage(" ++ Quoted.quote payload.message ++ ")"

end PanicPayload

/-- An error returned by a callback: the short name of its type, its wording, how its source is
shown in a record, and the close request that it is, if it is one. -/
structure Failure where
  typeName : String
  source : String
  sourceLayout : String
  request : Option CloseRequest
  deriving DecidableEq

namespace Failure

def ofMessage (message : String) : Failure :=
  ⟨"HandlerFailure", message, Quoted.quote message, none⟩

def ofError (typePath source sourceLayout : String) : Failure :=
  ⟨TypeName.shorten typePath, source, sourceLayout, none⟩

def ofRequest (request : CloseRequest) : Failure :=
  ⟨"CloseException", request.message, request.layout, some request⟩

/-- A failure is worded as its type name and its source. -/
def message (failure : Failure) : String :=
  failure.typeName ++ ": " ++ failure.source

def layout (failure : Failure) : String :=
  Layout.closed "HandlerFailure"
    [("type_name", Quoted.quote failure.typeName), ("source", failure.sourceLayout)]

end Failure

inductive Fault where
  | messageTooLarge (family : Family) (attempted limit : Nat)
  | closeRequested (request : CloseRequest)
  | invalidText (family : Family)
  | malformedClose (defect : CloseDefect)
  | interleaved (inFlight : Family) (received : Opcode)
  | callbackFailed (failure : Failure)
  | callbackPanicked (message : String)
  deriving DecidableEq

namespace Fault

/-- A failure that is a close request is honoured as one. -/
def ofFailure (failure : Failure) : Fault :=
  match failure.request with
  | some request => .closeRequested request
  | none => .callbackFailed failure

/-- The short name of a cause, which may go on the wire. -/
def kind : Fault → String
  | .messageTooLarge .. => "MessageTooLarge"
  | .closeRequested _ => "CloseException"
  | .invalidText _ => "InvalidUtf8"
  | .malformedClose _ => "InvalidClosePayload"
  | .interleaved .. => "UnexpectedDataFrame"
  | .callbackFailed failure => failure.typeName
  | .callbackPanicked _ => "HandlerPanic"

/-- The wording of a cause, which stays on this side. -/
def message : Fault → String
  | .messageTooLarge family attempted limit =>
    family.label ++ " message exceeds buffer: " ++ toString attempted ++ " bytes > " ++
      toString limit ++ " bytes"
  | .closeRequested request => request.message
  | .invalidText family => family.label ++ " message is not valid UTF-8"
  | .malformedClose defect => "malformed close frame: " ++ defect.message
  | .interleaved inFlight received =>
    received.label ++ " frame received while a " ++ inFlight.label ++ " message is incomplete"
  | .callbackFailed failure => "handler failed: " ++ failure.message
  | .callbackPanicked message => "handler panicked: " ++ message

/-- The status and reason that a fault closes the connection with: a request keeps its own,
violations of the protocol have their status, and everything else has the status of the role.
But for a request, the reason is the kind. -/
def closing (role : Role) : Fault → CloseCode × String
  | .closeRequested request => (request.code, request.reason)
  | fault@(.invalidText _) => (.invalidPayload, fault.kind)
  | fault@(.malformedClose defect) => (defect.closeCode, fault.kind)
  | fault@(.interleaved ..) => (.protocolError, fault.kind)
  | fault@(.messageTooLarge ..) => (role.failureCode, fault.kind)
  | fault@(.callbackFailed _) => (role.failureCode, fault.kind)
  | fault@(.callbackPanicked _) => (role.failureCode, fault.kind)

def source? : Fault → Option String
  | .malformedClose defect => some defect.message
  | _ => none

end Fault

end WebSocketSession
