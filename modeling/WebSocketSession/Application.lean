import WebSocketSession.Assembly

/-!
# Applications

A callback is a tree of the things it does: it may use the connection and the readers it was
given, change the application's own state, note something, and it ends well, in a failure or in a
panic. What it does next may depend on every answer. It cannot reach the slot or the pool.
-/

set_option autoImplicit false
set_option relaxedAutoImplicit false

namespace WebSocketSession

inductive NoReader where
  | neverOpened
  | usedUp
  deriving DecidableEq

def NoReader.message : NoReader → String
  | .neverOpened => "no such stream"
  | .usedUp => "reader gone"

/-- What a callback does, for an application with state `σ` that notes values of `ν`. -/
inductive Reaction (σ ν : Type) where
  | succeed
  | fail (failure : Failure)
  | panic (payload : PanicPayload)
  | become (app : σ) (rest : Reaction σ ν)
  | note (note : ν) (rest : Reaction σ ν)
  | send (frame : Frame) (rest : Option TransportError → Reaction σ ν)
  | close (code : CloseCode) (reason : String) (rest : Option TransportError → Reaction σ ν)
  | askOpen (rest : Option Bool → Reaction σ ν)
  | read (stream : Nat) (style : ReadStyle) (rest : Except NoReader ReadOutcome → Reaction σ ν)

/-- An application and the connections that its sessions run over. -/
structure Host (σ ν τ : Type) where
  react : Event → Policy → σ → Reaction σ ν
  transport : Transport τ

end WebSocketSession
