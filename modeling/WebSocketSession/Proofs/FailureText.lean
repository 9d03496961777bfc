import WebSocketSession.Proofs.Fitting
import WebSocketSession.Proofs.FrameCallbacks
import WebSocketSession.Proofs.Likeness

/-!
# The text of failures stays on this side

Two runs may differ in what the failures and panics of their callbacks say, and in what the
applications make of that for themselves. As long as the failures have the same types, and an error
callback does not act on the text, the connection sees the same of both, and the assembly and the
pool are the same after every operation (`failure_text_not_disclosed`). A close for such a failure
shows the short name of its type, cut to fit, and one for a panic shows that it was one.
-/

set_option autoImplicit false
set_option relaxedAutoImplicit false

namespace WebSocketSession

variable {σ σ' ν ν' τ ε : Type}

def Occurrence.wire? : Occurrence ν → Option (Occurrence Empty)
  | .closed origin code reason => some (.closed origin code reason)
  | .sent frame => some (.sent frame)
  | _ => none

def wire (trace : List (Occurrence ν)) : List (Occurrence Empty) := trace.filterMap Occurrence.wire?

/-- What an operation shows to others: what goes on the wire, and the assembly and the connection
that it leaves. -/
structure Disclosure (τ : Type) where
  wire : List (Occurrence Empty)
  assembly : Assembly
  connection : Option τ

def Outcome.disclosure (done : Outcome (Session σ τ) (Occurrence ν) Empty Unit) : Disclosure τ :=
  ⟨wire done.trace, done.state.assembly, done.state.connection⟩

/-- The name that a fault has for the failure of a callback: that of the error's type, or one for
every panic. -/
def Fault.callbackName? : Fault → Option String
  | .callbackFailed failure => some failure.typeName
  | .callbackPanicked _ => some "HandlerPanic"
  | _ => none

private theorem Fault.closing_of_callback {fault : Fault} {name : String}
    (failed : fault.callbackName? = some name) (role : Role) :
    fault.closing role = (role.failureCode, name) := by
  cases fault <;> cases failed <;> rfl

namespace Likeness

/-- Failures of the same type that ask for the same close, if for any, and whatever panics; loans
and pools are the same. -/
def wordings (app : σ → σ' → Prop) : Likeness σ σ' ν ν' where
  app := app
  note _ _ := True
  failure one other := other.typeName = one.typeName ∧ other.request = one.request
  payload _ _ := True
  loan one other := other = one
  pool one other := other = one
  typeName alike := alike.1
  request alike := alike.2
  payload_refl _ := trivial
  bytes same := congrArg Loan.bytes same
  limit same := congrArg Loan.limit same
  extend same bytes := by rw [same]
  lend same limit := by rw [same]
  acquire same limit := by rw [same]
  release pools loans := by rw [pools, loans]

variable {app : σ → σ' → Prop}

private theorem wire?_same {one : Occurrence ν} {other : Occurrence ν'}
    (alike : (wordings app).SameOccurrence one other) : other.wire? = one.wire? := by
  cases alike <;> rfl

private theorem wire_same {trace : List (Occurrence ν)} {trace' : List (Occurrence ν')}
    (alike : List.Forall₂ (wordings app).SameOccurrence trace trace') :
    wire trace' = wire trace := by
  induction alike with
  | nil => rfl
  | cons first _ ih => simp only [wire, List.filterMap_cons, wire?_same first] at ih ⊢; rw [ih]

private theorem assembly_same {one other : Assembly}
    (alike : (wordings app : Likeness σ σ' ν ν').SameAssembly one other) : other = one := by
  obtain ⟨slot, pool, streams⟩ := one
  obtain ⟨slot', pool', streams'⟩ := other
  obtain ⟨slots, rfl, rfl⟩ := alike
  cases slots with
  | idle => rfl
  | buffered family loans =>
    cases loans
    rfl
  | streaming => rfl

private theorem disclosure_same {done : Outcome (Session σ τ) (Occurrence ν) Empty Unit}
    {done' : Outcome (Session σ' τ) (Occurrence ν') Empty Unit}
    (alike : done.Parallel ((wordings app).sessions τ) Eq Eq done') :
    done'.disclosure = done.disclosure := by
  rw [Outcome.disclosure, Outcome.disclosure, wire_same alike.trace,
    assembly_same alike.state.assembly, alike.state.connection]

end Likeness

namespace Session

private theorem reason_of_callback {host : Host σ ν τ} {input : Input} {session : Session σ τ}
    {fault : Fault} {name : String} {code : CloseCode} {reason : String}
    (coherent : session.Coherent) (failed : (input.attempt host session).ending.fault? = some fault)
    (named : fault.callbackName? = some name)
    (closed : .closed .session code reason ∈
      ((input.handle host : Step σ τ ν ε Unit) session).trace) :
    code = session.policy.role.failureCode ∧ reason.toList <+: name.toList := by
  have member : .closed .session code reason ∈
      closings ((input.handle host : Step σ τ ν ε Unit) session).trace :=
    List.mem_filter.mpr ⟨closed, rfl⟩
  rw [closings_handle host input coherent failed, closingCode, closingReason,
    Fault.closing_of_callback named] at member
  rcases List.mem_cons.mp member with counted | member
  · cases counted
  · split at member
    · obtain ⟨-, rfl, rfl⟩ := Occurrence.closed.inj (List.mem_singleton.mp member)
      exact ⟨rfl, trimReason_isPrefix name⟩
    · cases member

end Session

/-- Runs that are the same but for the wordings of failures and panics disclose the same, operation
by operation and when their sessions are left. A close for the failure of a callback has the general
status of the role, and its reason is from the short name of the failure. -/
theorem failure_text_not_disclosed {app : σ → σ' → Prop} {host : Host σ ν τ} {host' : Host σ' ν' τ}
    (hosts : (Likeness.wordings app).SameHost host host') {first : σ} {first' : σ'}
    (apps : app first first') (handlers : Handlers) (policy : Policy) (pool : Pool)
    {operations : List (Operation σ τ)} {operations' : List (Operation σ' τ)}
    (alike : List.Forall₂ (Likeness.wordings app : Likeness σ σ' ν ν').SameOperation operations
      operations') (farewell : Farewell) :
    let session : Session σ τ := .start first handlers policy pool
    let session' : Session σ' τ := .start first' handlers policy pool
    (session'.history host' operations').map (·.outcome.disclosure) =
        (session.history host operations).map (·.outcome.disclosure) ∧
      (farewell.apply (session'.run host' operations') : Outcome _ (Occurrence ν') _ _).disclosure =
        (farewell.apply (session.run host operations) : Outcome _ (Occurrence ν) _ _).disclosure ∧
      ∀ entry ∈ session.history host operations, ∀ input fault name code reason,
        entry.operation = .input input →
        (input.attempt host entry.before).ending.fault? = some fault →
        fault.callbackName? = some name →
        .closed .session code reason ∈ entry.outcome.trace →
          code = entry.before.policy.role.failureCode ∧ reason.toList <+: name.toList := by
  intro session session'
  have same : (Likeness.wordings app : Likeness σ σ' ν ν').SameSession session session' :=
    Likeness.start_same apps rfl handlers policy
  refine ⟨?_, ?_, fun entry member input fault name code reason given failed named closed => ?_⟩
  · exact Likeness.history_same hosts alike same Likeness.disclosure_same
  · exact Likeness.disclosure_same
      (Likeness.farewell_parallel farewell _ _ (Likeness.run_same hosts alike same))
  · have coherent : session.Coherent := Session.coherent_of_idle rfl
    obtain ⟨reached, operation, sound, -, rfl⟩ := Session.entry_of_mem_history coherent member
    obtain rfl : operation = .input input := given
    exact Session.reason_of_callback sound failed named closed

/-- An application all of whose callbacks fail with a text, but for the error callback, which keeps
what it is told. -/
def failingWith (text : String) : Host String Empty Recorder where
  react event _ _ :=
    match event with
    | .error fault => .become fault.message .succeed
    | _ => .fail (.ofMessage text)
  transport := Recorder.transport

private theorem failingWith_same (text text' : String) :
    (Likeness.wordings fun _ _ => True).SameHost (failingWith text) (failingWith text') where
  transport := rfl
  react {event _ _ _} events _ _ := by
    cases events with
    | error alike => exact .become trivial .succeed
    | same =>
      cases event with
      | error fault => exact .become trivial .succeed
      | _ => exact .fail ⟨rfl, rfl⟩

/-- What two applications fail with does not show on the wire. -/
theorem secret_not_disclosed :
    let start : Session String Recorder :=
      .start "" (.ofRegistrations [.message .text .buffered, .error]) .default (.empty 4)
    let operations : List (Operation String Recorder) :=
      [.attach (.fresh .none), .input (.frame ⟨.text, true, [72]⟩)]
    (start.history (failingWith "secret") operations).map (·.outcome.disclosure) =
        (start.history (failingWith "other") operations).map (·.outcome.disclosure) ∧
      (start.run (failingWith "secret") operations).app =
        "handler failed: HandlerFailure: secret" ∧
      wire (start.runTrace (failingWith "secret") operations) =
        [.closed .session .serverError "HandlerFailure"] :=
  ⟨(failure_text_not_disclosed (failingWith_same "other" "secret") trivial _ _ _
      (.cons (.attach _) (.cons (.input _) .nil)) .keep).1, by decide +kernel, by rfl⟩

end WebSocketSession
