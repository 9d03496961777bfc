import WebSocketSession.Policy

/-!
# Tables of handlers

Which events an application wants, how it wants its messages delivered, and the overrides it
declares for its policy. A table does not change once it is built.
-/

set_option autoImplicit false
set_option relaxedAutoImplicit false

namespace WebSocketSession

/-- How a message reaches the application: as a whole after its last fragment, or as a stream
opened on its first. -/
inductive Delivery where
  | buffered
  | streaming
  deriving DecidableEq

namespace Delivery

def label : Delivery → String
  | .buffered => "buffered"
  | .streaming => "streaming"

def name : Delivery → String
  | .buffered => "Buffered"
  | .streaming => "Streaming"

end Delivery

inductive EventKind where
  | connect
  | text
  | binary
  | close
  | error
  | frame
  deriving DecidableEq

namespace EventKind

def label : EventKind → String
  | .connect => "connect"
  | .text => "text"
  | .binary => "binary"
  | .close => "close"
  | .error => "error"
  | .frame => "frame"

def all : List EventKind := [.connect, .text, .binary, .close, .error, .frame]

end EventKind

inductive Registration where
  | connect
  | message (family : Family) (delivery : Delivery)
  | close
  | error
  | frame
  deriving DecidableEq

namespace Registration

def label : Registration → String
  | .connect => "connect"
  | .message family .buffered => family.label
  | .message family .streaming => family.label ++ "_stream"
  | .close => "close"
  | .error => "error"
  | .frame => "frame"

def all : List Registration :=
  [.connect, .message .text .buffered, .message .text .streaming, .message .binary .buffered,
    .message .binary .streaming, .close, .error, .frame]

def named? (label : String) : Option Registration :=
  all.find? fun registration => registration.label == label

example : all.map label =
    ["connect", "text", "text_stream", "binary", "binary_stream", "close", "error", "frame"] := by
  decide +kernel

end Registration

/-- The handlers of an application and its overrides. -/
structure Handlers where
  connect : Bool
  text : Option Delivery
  binary : Option Delivery
  close : Bool
  error : Bool
  frame : Bool
  overrides : Option Overrides
  deriving DecidableEq

namespace Handlers

/-- No handlers: every frame is discarded. -/
def empty : Handlers := ⟨false, none, none, false, false, false, none⟩

/-- Adds a handler; for a family it replaces the one there was. -/
def register (handlers : Handlers) : Registration → Handlers
  | .connect => { handlers with connect := true }
  | .message .text delivery => { handlers with text := some delivery }
  | .message .binary delivery => { handlers with binary := some delivery }
  | .close => { handlers with close := true }
  | .error => { handlers with error := true }
  | .frame => { handlers with frame := true }

def declare (handlers : Handlers) (overrides : Overrides) : Handlers :=
  { handlers with overrides := some overrides }

def ofRegistrations (registrations : List Registration) : Handlers :=
  registrations.foldl register empty

/-- A listener handles everything but frames, and its messages are buffered. -/
def listener : Handlers :=
  ofRegistrations
    [.connect, .message .text .buffered, .message .binary .buffered, .close, .error]

def delivery (handlers : Handlers) : Family → Option Delivery
  | .text => handlers.text
  | .binary => handlers.binary

def isRegistered (handlers : Handlers) : EventKind → Bool
  | .connect => handlers.connect
  | .text => handlers.text.isSome
  | .binary => handlers.binary.isSome
  | .close => handlers.close
  | .error => handlers.error
  | .frame => handlers.frame

def registered (handlers : Handlers) : List EventKind :=
  EventKind.all.filter handlers.isRegistered

def layout (handlers : Handlers) : String :=
  Layout.closed "EventTable"
    [("connect", toString handlers.connect),
      ("text", Layout.option (handlers.text.map Delivery.name)),
      ("binary", Layout.option (handlers.binary.map Delivery.name)),
      ("close", toString handlers.close),
      ("error", toString handlers.error),
      ("frame", toString handlers.frame),
      ("overrides", Layout.option (handlers.overrides.map Overrides.layout))]

end Handlers

/-- The policy of a session: the given one with the overrides that its table declares. -/
def Policy.effective (policy : Policy) (handlers : Handlers) : Policy :=
  match handlers.overrides with
  | some overrides => policy.override overrides
  | none => policy

end WebSocketSession
