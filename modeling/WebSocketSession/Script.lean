import WebSocketSession.Application

/-!
# Scripted applications

An application that plays back a script: for each registration a list of parts, one for each
call in turn. A part is a list of acts, done in order up to the first one that ends the callback.
-/

set_option autoImplicit false
set_option relaxedAutoImplicit false

namespace WebSocketSession

inductive Act where
  | fail (failure : Failure)
  | panic (payload : PanicPayload)
  | send (frame : Frame)
  | trySend (frame : Frame)
  | close (request : CloseRequest)
  | showPolicy
  | read (stream : Nat) (style : ReadStyle)

inductive Remark where
  | tried (error : Option TransportErrorKind)
  | policy (policy : Policy) (isOpen : Option Bool)
  | read (result : Except NoReader ReadOutcome)

/-- The parts not played yet, by the word for their registration. -/
structure Script where
  parts : List (String × List (List Act))

namespace Script

def partsOf (script : Script) (label : String) : List (List Act) :=
  (script.parts.lookup label).getD []

def store (label : String) (parts : List (List Act)) :
    List (String × List (List Act)) → List (String × List (List Act))
  | [] => [(label, parts)]
  | entry :: rest =>
    if entry.1 = label then (label, parts) :: rest else entry :: store label parts rest

def replace (script : Script) (label : String) (parts : List (List Act)) : Script :=
  ⟨store label parts script.parts⟩

/-- The script after one part of a registration, if there is one to play. -/
def advance (script : Script) (label : String) : Script :=
  match script.partsOf label with
  | [] => script
  | _ :: rest => script.replace label rest

/-- How many parts are left of each registration, in the order of their words. -/
def left (script : Script) : List (String × Nat) :=
  (script.parts.map fun entry => (entry.1, entry.2.length)).mergeSort fun one other =>
    decide (one.1 ≤ other.1)

/-- A callback that passes the error of a connection on, or goes on without one. -/
def orFail (rest : Reaction Script Remark) : Option TransportError → Reaction Script Remark
  | none => rest
  | some error => .fail error.toFailure

def play (policy : Policy) : List Act → Reaction Script Remark
  | [] => .succeed
  | .fail failure :: _ => .fail failure
  | .panic payload :: _ => .panic payload
  | .send frame :: rest => .send frame (orFail (play policy rest))
  | .trySend frame :: rest =>
    .send frame fun error => .note (.tried (error.map (·.kind))) (play policy rest)
  | .close request :: rest => .close request.code request.reason (orFail (play policy rest))
  | .showPolicy :: rest => .askOpen fun isOpen => .note (.policy policy isOpen) (play policy rest)
  | .read stream style :: rest =>
    .read stream style fun result => .note (.read result) (play policy rest)

def react (event : Event) (policy : Policy) (script : Script) : Reaction Script Remark :=
  let label := event.registration.label
  .become (script.advance label) (play policy ((script.partsOf label).headD []))

/-- A scripted application over a recorded connection. -/
def host : Host Script Remark Recorder := ⟨react, Recorder.transport⟩

end Script

end WebSocketSession
