/-!
# Frames

A frame as the wire layer hands it over: an opcode, the FIN flag and the unmasked payload. A data
frame opens or continues a message of one of two families; a control frame stands alone.
-/

set_option autoImplicit false
set_option relaxedAutoImplicit false

namespace WebSocketSession

/-- Bytes are a list, so that a message is the concatenation of its payloads. -/
abbrev Bytes := List UInt8

inductive Family where
  | text
  | binary
  deriving DecidableEq

def Family.label : Family → String
  | .text => "text"
  | .binary => "binary"

def Family.name : Family → String
  | .text => "Text"
  | .binary => "Binary"

inductive Opcode where
  | continuation
  | text
  | binary
  | close
  | ping
  | pong
  deriving DecidableEq

namespace Opcode

def ofNat? : Nat → Option Opcode
  | 0 => some .continuation
  | 1 => some .text
  | 2 => some .binary
  | 8 => some .close
  | 9 => some .ping
  | 10 => some .pong
  | _ => none

def toNat : Opcode → Nat
  | .continuation => 0
  | .text => 1
  | .binary => 2
  | .close => 8
  | .ping => 9
  | .pong => 10

def label : Opcode → String
  | .continuation => "CONTINUATION"
  | .text => "TEXT"
  | .binary => "BINARY"
  | .close => "CLOSE"
  | .ping => "PING"
  | .pong => "PONG"

def isControl : Opcode → Bool
  | .close | .ping | .pong => true
  | _ => false

def family? : Opcode → Option Family
  | .text => some .text
  | .binary => some .binary
  | _ => none

def ofFamily : Family → Opcode
  | .text => .text
  | .binary => .binary

theorem family?_ofFamily (f : Family) : (ofFamily f).family? = some f := by
  cases f <;> rfl

end Opcode

structure Frame where
  opcode : Opcode
  fin : Bool
  payload : Bytes
  deriving DecidableEq

/-- A frame is shown as its opcode, its FIN flag and its length, never its content. -/
def Frame.label (frame : Frame) : String :=
  frame.opcode.label ++ "[fin=" ++ toString frame.fin ++ ", len=" ++
    toString frame.payload.length ++ "]"

end WebSocketSession
