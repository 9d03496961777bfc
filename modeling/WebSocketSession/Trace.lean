import WebSocketSession.Log
import WebSocketSession.Metrics

/-!
# Traces

What happens while a session works, in order: the callbacks that it runs, the calls to the pool
and to the connection, the records it logs, the metrics it changes, and what the application
notes for itself.
-/

set_option autoImplicit false
set_option relaxedAutoImplicit false

namespace WebSocketSession

/-- What a callback is called with. A stream is known by its number in order of opening. -/
inductive Event where
  | connect
  | text (message : String)
  | binary (message : Bytes)
  | textStream (stream : Nat)
  | binaryStream (stream : Nat)
  | close (notice : CloseNotice)
  | error (fault : Fault)
  | frame (frame : Frame)
  deriving DecidableEq

namespace Event

def registration : Event → Registration
  | .connect => .connect
  | .text _ => .message .text .buffered
  | .binary _ => .message .binary .buffered
  | .textStream _ => .message .text .streaming
  | .binaryStream _ => .message .binary .streaming
  | .close _ => .close
  | .error _ => .error
  | .frame _ => .frame

end Event

def Handlers.handles (handlers : Handlers) : Registration → Bool
  | .connect => handlers.connect
  | .message family delivery => handlers.delivery family == some delivery
  | .close => handlers.close
  | .error => handlers.error
  | .frame => handlers.frame

inductive Origin where
  | session
  | application
  deriving DecidableEq

/-- One thing that happens; `ν` is what the application notes. -/
inductive Occurrence (ν : Type) where
  | acquired (size : Nat)
  | released (length : Nat)
  | called (event : Event)
  | noted (note : ν)
  | closed (origin : Origin) (code : CloseCode) (reason : String)
  | sent (frame : Frame)
  | logged (record : LogRecord)
  | counted (metric : Metric)

namespace Occurrence

variable {ν : Type}

def record? : Occurrence ν → Option LogRecord
  | .logged record => some record
  | _ => none

theorem filterMap_record?_logged (records : List LogRecord) :
    (records.map .logged : List (Occurrence ν)).filterMap record? = records := by
  rw [List.filterMap_map]
  exact List.filterMap_some

def metric? : Occurrence ν → Option Metric
  | .counted metric => some metric
  | _ => none

end Occurrence

end WebSocketSession
