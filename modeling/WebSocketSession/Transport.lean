import WebSocketSession.Failure

/-!
# Transports

The outbound side of a connection, as a session uses it: it can be asked to close and to send, it
may refuse or panic, and it says whether it is open. The state of a connection is a parameter.
-/

set_option autoImplicit false
set_option relaxedAutoImplicit false

namespace WebSocketSession

inductive TransportErrorKind where
  | notConnected
  | brokenPipe
  deriving DecidableEq

def TransportErrorKind.label : TransportErrorKind → String
  | .notConnected => "NotConnected"
  | .brokenPipe => "BrokenPipe"

structure TransportError where
  kind : TransportErrorKind
  message : String
  deriving DecidableEq

namespace TransportError

def notConnected : TransportError := ⟨.notConnected, "no connection attached"⟩

def toFailure (error : TransportError) : Failure :=
  .ofError "transport::Error" error.message
    (Layout.closed "Error"
      [("kind", error.kind.label), ("message", Quoted.quote error.message)])

end TransportError

inductive Answer where
  | accepted
  | refused (error : TransportError)
  | panicked (payload : PanicPayload)
  deriving DecidableEq

structure Transport (τ : Type) where
  close : CloseCode → String → τ → Answer × τ
  send : Frame → τ → Answer × τ
  isOpen : τ → Bool

inductive Trouble where
  | none
  | refusesClose
  | refusesSend
  | panicsOnClose
  deriving DecidableEq

/-- A connection that keeps what it was asked to do. -/
structure Recorder where
  trouble : Trouble
  closes : List (CloseCode × String)
  sent : List Frame
  deriving DecidableEq

namespace Recorder

def fresh (trouble : Trouble) : Recorder := ⟨trouble, [], []⟩

/-- A refused close is kept and a refused frame is not; nothing is kept of a panic. -/
def transport : Transport Recorder where
  close code reason recorder :=
    let kept := { recorder with closes := recorder.closes ++ [(code, reason)] }
    match recorder.trouble with
    | .refusesClose => (.refused ⟨.brokenPipe, "peer went away"⟩, kept)
    | .panicsOnClose => (.panicked (.text "transport exploded"), recorder)
    | _ => (.accepted, kept)
  send frame recorder :=
    match recorder.trouble with
    | .refusesSend => (.refused ⟨.brokenPipe, "send failed"⟩, recorder)
    | _ => (.accepted, { recorder with sent := recorder.sent ++ [frame] })
  isOpen recorder := recorder.closes.isEmpty

end Recorder

end WebSocketSession
