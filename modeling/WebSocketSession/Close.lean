import WebSocketSession.Text.Layout
import WebSocketSession.Text.Quoted
import WebSocketSession.Text.Utf8

/-!
# Closing handshake

The payload of a CLOSE frame is empty, or a status of two bytes with an optional reason after it.
`Frame.close` writes one and `CloseNotice.ofPayload` reads one.
-/

set_option autoImplicit false
set_option relaxedAutoImplicit false

namespace WebSocketSession

structure CloseCode where
  value : UInt16
  deriving DecidableEq

namespace CloseCode

def normal : CloseCode := ⟨1000⟩
def goingAway : CloseCode := ⟨1001⟩
def protocolError : CloseCode := ⟨1002⟩
def unsupported : CloseCode := ⟨1003⟩
/-- Stands for an absent status. -/
def noStatus : CloseCode := ⟨1005⟩
/-- Stands for a connection that broke. -/
def abnormal : CloseCode := ⟨1006⟩
def invalidPayload : CloseCode := ⟨1007⟩
def policyViolation : CloseCode := ⟨1008⟩
def messageTooBig : CloseCode := ⟨1009⟩
def serverError : CloseCode := ⟨1011⟩

def toNat (code : CloseCode) : Nat := code.value.toNat

def label (code : CloseCode) : String := toString code.toNat

/-- The statuses that an endpoint may put into a CLOSE frame. -/
def isSendable (code : CloseCode) : Bool :=
  (1000 ≤ code.toNat && code.toNat ≤ 1003) ||
    (1007 ≤ code.toNat && code.toNat ≤ 1014) ||
    (3000 ≤ code.toNat && code.toNat ≤ 4999)

/-- The two bytes of a status, the high one first. -/
def bytes (code : CloseCode) : Bytes :=
  [UInt8.ofNat (code.toNat / 256), UInt8.ofNat (code.toNat % 256)]

def ofBytes (high low : UInt8) : CloseCode :=
  ⟨UInt16.ofNat (high.toNat * 256 + low.toNat)⟩

end CloseCode

def maxControlPayload : Nat := 125

/-- A close reason may take what the status leaves of a control payload. -/
def maxReasonBytes : Nat := maxControlPayload - 2

def Frame.close (code : CloseCode) (reason : String) : Frame :=
  ⟨.close, true, code.bytes ++ Utf8.encode reason⟩

inductive CloseDefect where
  | truncatedStatus
  | invalidReason
  deriving DecidableEq

namespace CloseDefect

def label : CloseDefect → String
  | .truncatedStatus => "TruncatedStatus"
  | .invalidReason => "InvalidReason"

def message : CloseDefect → String
  | .truncatedStatus => "close payload of 1 byte cannot carry a status code"
  | .invalidReason => "close reason is not valid UTF-8"

def closeCode : CloseDefect → CloseCode
  | .truncatedStatus => .protocolError
  | .invalidReason => .invalidPayload

end CloseDefect

structure CloseNotice where
  code : CloseCode
  reason : Option String
  deriving DecidableEq

/-- Reads a close payload: an absent status is reported as such, and an empty reason as none. -/
def CloseNotice.ofPayload : Bytes → Except CloseDefect CloseNotice
  | [] => .ok ⟨.noStatus, none⟩
  | [_] => .error .truncatedStatus
  | [high, low] => .ok ⟨.ofBytes high low, none⟩
  | high :: low :: rest =>
    match Utf8.decode rest with
    | some reason => .ok ⟨.ofBytes high low, some reason⟩
    | none => .error .invalidReason

/-- An explicit request to close with a status and a reason. -/
structure CloseRequest where
  code : CloseCode
  reason : String
  deriving DecidableEq

namespace CloseRequest

def message (request : CloseRequest) : String :=
  "close requested with status " ++ request.code.label ++ ": " ++ request.reason

def layout (request : CloseRequest) : String :=
  Layout.closed "CloseException"
    [("code", "CloseCode(" ++ request.code.label ++ ")"), ("reason", Quoted.quote request.reason)]

end CloseRequest

/-- The longest run of leading characters that takes at most `budget` bytes. -/
def fitting (budget : Nat) : List Char → List Char
  | [] => []
  | c :: rest => if c.utf8Size ≤ budget then c :: fitting (budget - c.utf8Size) rest else []

/-- A reason shortened, if need be, to whole characters that fit a CLOSE frame. -/
def trimReason (reason : String) : String :=
  String.ofList (fitting maxReasonBytes reason.toList)

end WebSocketSession
