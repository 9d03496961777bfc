import WebSocketSession.Transport

/-!
# Log records

What a session writes to its log. A record is the thing that happened; its level, its message and
its fields are functions of it.
-/

set_option autoImplicit false
set_option relaxedAutoImplicit false

namespace WebSocketSession

inductive LogLevel where
  | trace
  | debug
  | info
  | warn
  | error
  deriving DecidableEq

def LogLevel.label : LogLevel → String
  | .trace => "TRACE"
  | .debug => "DEBUG"
  | .info => "INFO"
  | .warn => "WARN"
  | .error => "ERROR"

/-- Records of the two lowest levels are for those who look for them. -/
def LogLevel.isNotable : LogLevel → Bool
  | .trace | .debug => false
  | .info | .warn | .error => true

inductive LogField where
  | text (value : String)
  | number (value : Nat)
  | flag (value : Bool)
  deriving DecidableEq

inductive LogRecord where
  | connected
  | frameReceived (frame : Frame)
  | protocolErrorReported (request : CloseRequest)
  | callbackPanicked (message : String)
  | strayContinuation
  | noHandler (family : Family)
  | fragmentDiscarded
  | streamComplete (bytes : Nat)
  | streamAborted (bytes : Nat)
  | abortUnread
  | abandonedBuffered (family : Family) (bytes : Nat)
  | abandonedStreaming (family : Family) (bytes : Nat)
  | closingOnRequest (request : CloseRequest)
  | unhandled (fault : Fault)
  | closeNotSent (code : CloseCode) (reason : String)
  | terminating (code : CloseCode) (reason : String)
  | closeFailed (code : CloseCode) (error : TransportError)
  | errorCallbackFailed (failure : Failure)
  | errorCallbackPanicked (message : String)
  deriving DecidableEq

namespace LogRecord

/-- Failures that nobody asked for are warnings, panics are errors. -/
def level : LogRecord → LogLevel
  | .connected | .frameReceived _ | .protocolErrorReported _ => .debug
  | .callbackPanicked _ => .error
  | .strayContinuation | .noHandler _ => .trace
  | .fragmentDiscarded | .streamComplete _ | .streamAborted _ | .abortUnread => .trace
  | .abandonedBuffered .. | .abandonedStreaming .. => .debug
  | .closingOnRequest _ => .debug
  | .unhandled _ => .warn
  | .closeNotSent .. => .warn
  | .terminating .. | .closeFailed .. => .debug
  | .errorCallbackFailed _ => .warn
  | .errorCallbackPanicked _ => .error

def message : LogRecord → String
  | .connected => "connection established"
  | .frameReceived _ => "frame received"
  | .protocolErrorReported _ => "protocol error reported"
  | .callbackPanicked _ => "event handler panicked"
  | .strayContinuation => "continuation frame with no message in flight ignored"
  | .noHandler _ => "no handler registered; frame discarded"
  | .fragmentDiscarded => "stream reader dropped; discarding fragment"
  | .streamComplete _ => "stream complete"
  | .streamAborted _ => "stream aborted"
  | .abortUnread => "stream reader dropped before abort"
  | .abandonedBuffered .. => "abandoning buffered message"
  | .abandonedStreaming .. => "abandoning streaming message"
  | .closingOnRequest _ => "closing connection on request"
  | .unhandled _ => "unhandled error (closing connection)"
  | .closeNotSent .. => "no connection attached; close not sent"
  | .terminating .. => "terminating connection"
  | .closeFailed .. => "failed to send close frame"
  | .errorCallbackFailed _ => "error callback failed"
  | .errorCallbackPanicked _ => "error callback panicked"

def fields : LogRecord → List (String × LogField)
  | .connected | .strayContinuation | .fragmentDiscarded | .abortUnread => []
  | .frameReceived frame =>
    [("opcode", .text frame.opcode.label), ("fin", .flag frame.fin),
      ("len", .number frame.payload.length)]
  | .protocolErrorReported request =>
    [("code", .text request.code.label), ("reason", .text request.reason)]
  | .callbackPanicked message | .errorCallbackPanicked message => [("panic", .text message)]
  | .noHandler family => [("family", .text family.label)]
  | .streamComplete bytes | .streamAborted bytes => [("bytes", .number bytes)]
  | .abandonedBuffered family bytes | .abandonedStreaming family bytes =>
    [("family", .text family.label), ("bytes", .number bytes)]
  | .closingOnRequest request => [("error", .text request.message)]
  | .unhandled fault => [("kind", .text fault.kind), ("error", .text fault.message)]
  | .closeNotSent code reason | .terminating code reason =>
    [("code", .text code.label), ("reason", .text reason)]
  | .closeFailed code error => [("code", .text code.label), ("error", .text error.message)]
  | .errorCallbackFailed failure => [("failure", .text failure.message)]

end LogRecord

end WebSocketSession
