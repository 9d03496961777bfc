import WebSocketSession.Close

/-!
# Policies

The role and the limits of one connection. A table of handlers may carry overrides, which replace
the limits they give and keep the others.
-/

set_option autoImplicit false
set_option relaxedAutoImplicit false

namespace WebSocketSession

inductive Role where
  | server
  | client
  deriving DecidableEq

namespace Role

def label : Role → String
  | .server => "Server"
  | .client => "Client"

/-- The status for failures that have none of their own. -/
def failureCode : Role → CloseCode
  | .server => .serverError
  | .client => .policyViolation

end Role

/-- Bytes that a reassembly buffer holds unless a policy says otherwise. -/
def defaultBufferSize : Nat := 64 * 1024

/-- Bytes that a buffered message may have unless a policy says otherwise. -/
def defaultMaxMessageSize : Nat := 64 * 1024

/-- Seconds that a connection may be idle unless a policy says otherwise. -/
def defaultMaxIdleSeconds : Nat := 300

/-- Role and limits of one connection. Sizes are in bytes; the idle time is for the transport. -/
structure Policy where
  role : Role
  bufferSize : Nat
  maxText : Nat
  maxBinary : Nat
  maxIdleSeconds : Nat
  deriving DecidableEq

/-- Limits that replace those of a policy where they are given. -/
structure Overrides where
  bufferSize : Option Nat
  maxText : Option Nat
  maxBinary : Option Nat
  maxIdleSeconds : Option Nat
  deriving DecidableEq

def Overrides.none : Overrides := ⟨.none, .none, .none, .none⟩

namespace Policy

def ofRole (role : Role) : Policy :=
  ⟨role, defaultBufferSize, defaultMaxMessageSize, defaultMaxMessageSize, defaultMaxIdleSeconds⟩

def default : Policy := ofRole .server

def override (policy : Policy) (overrides : Overrides) : Policy where
  role := policy.role
  bufferSize := overrides.bufferSize.getD policy.bufferSize
  maxText := overrides.maxText.getD policy.maxText
  maxBinary := overrides.maxBinary.getD policy.maxBinary
  maxIdleSeconds := overrides.maxIdleSeconds.getD policy.maxIdleSeconds

/-- The longest message of a family, whatever the buffer. -/
def ceiling (policy : Policy) : Family → Nat
  | .text => policy.maxText
  | .binary => policy.maxBinary

/-- The capacity of the buffer for a message of a family. -/
def bufferedLimit (policy : Policy) (family : Family) : Nat :=
  min policy.bufferSize (policy.ceiling family)

/-- A time of whole seconds; no time at all is shown in the smallest unit. -/
def secondsLabel (seconds : Nat) : String :=
  if seconds = 0 then "0ns" else toString seconds ++ "s"

def layout (policy : Policy) : String :=
  Layout.closed "WebSocketPolicy"
    [("behavior", policy.role.label),
      ("buffer_size", toString policy.bufferSize),
      ("max_text_message_size", toString policy.maxText),
      ("max_binary_message_size", toString policy.maxBinary),
      ("max_idle_time", secondsLabel policy.maxIdleSeconds)]

end Policy

def Overrides.layout (overrides : Overrides) : String :=
  Layout.closed "PolicyOverrides"
    [("buffer_size", Layout.option (overrides.bufferSize.map toString)),
      ("max_text_message_size", Layout.option (overrides.maxText.map toString)),
      ("max_binary_message_size", Layout.option (overrides.maxBinary.map toString)),
      ("max_idle_time", Layout.option (overrides.maxIdleSeconds.map Policy.secondsLabel))]

end WebSocketSession
