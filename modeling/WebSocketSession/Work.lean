import WebSocketSession.Failure

/-!
# Work

A piece of work changes a state, leaves a trace, and ends in a value, in a fault, or unwinding
from a panic. A fault or a panic skips the work that would have followed; what the skipped part
would have cleaned up is put into `ensuring`.
-/

set_option autoImplicit false
set_option relaxedAutoImplicit false

namespace WebSocketSession

/-- How a piece of work ends. -/
inductive Ending (ε α : Type) where
  | value (a : α)
  | fault (e : ε)
  | panic (payload : PanicPayload)

/-- A finished piece of work: its ending, the state it leaves, and what happened, in order. -/
structure Outcome (S ω ε α : Type) where
  ending : Ending ε α
  state : S
  trace : List ω

/-- A piece of work on a state. -/
def Work (S ω ε α : Type) : Type := S → Outcome S ω ε α

namespace Work

variable {S T ω ε δ α β : Type}

def pure (a : α) : Work S ω ε α := fun s => ⟨.value a, s, []⟩

/-- One piece of work after another, unless the first ends early. -/
def bind (first : Work S ω ε α) (following : α → Work S ω ε β) : Work S ω ε β := fun s =>
  match first s with
  | ⟨.value a, s', trace⟩ =>
    let rest := following a s'
    ⟨rest.ending, rest.state, trace ++ rest.trace⟩
  | ⟨.fault e, s', trace⟩ => ⟨.fault e, s', trace⟩
  | ⟨.panic payload, s', trace⟩ => ⟨.panic payload, s', trace⟩

instance : Monad (Work S ω ε) where
  pure := pure
  bind := bind

def state : Work S ω ε S := fun s => ⟨.value s, s, []⟩

def modify (change : S → S) : Work S ω ε Unit := fun s => ⟨.value (), change s, []⟩

def tell (trace : List ω) : Work S ω ε Unit := fun s => ⟨.value (), s, trace⟩

def finish (ending : Ending ε α) : Work S ω ε α := fun s => ⟨ending, s, []⟩

def raise (e : ε) : Work S ω ε α := finish (.fault e)

def unwind (payload : PanicPayload) : Work S ω ε α := finish (.panic payload)

def attempt (work : Work S ω ε α) : Work S ω δ (Ending ε α) := fun s =>
  let done := work s
  ⟨.value done.ending, done.state, done.trace⟩

/-- Does the work and then the clean-up, whatever the ending of the work, which is kept. -/
def ensuring (work : Work S ω ε α) (cleanUp : Work S ω ε Unit) : Work S ω ε α := do
  let ending ← attempt work
  cleanUp
  finish ending

def mapFault (f : ε → δ) (work : Work S ω ε α) : Work S ω δ α := do
  match ← attempt work with
  | .value a => pure a
  | .fault e => raise (f e)
  | .panic payload => unwind payload

def within (part : S → T) (replace : S → T → S) (work : Work T ω ε α) : Work S ω ε α := fun s =>
  let done := work (part s)
  ⟨done.ending, replace s done.state, done.trace⟩

def each (items : List α) (work : α → Work S ω ε Unit) : Work S ω ε Unit :=
  match items with
  | [] => pure ()
  | item :: rest => do
    work item
    each rest work

instance : LawfulMonad (Work S ω ε) := LawfulMonad.mk' (Work S ω ε)
  (by
    intro α work
    funext s
    show bind work (fun a => pure a) s = work s
    unfold bind pure
    rcases work s with ⟨_ | _ | _, _, _⟩ <;> simp)
  (by
    intro α β a following
    funext s
    show bind (pure a) following s = following a s
    simp [bind, pure])
  (by
    intro α β γ work f g
    funext s
    show bind (bind work f) g s = bind work (fun a => bind (f a) g) s
    unfold bind
    rcases work s with ⟨a | _ | _, s', _⟩
    · rcases h : f a s' with ⟨_ | _ | _, _, _⟩ <;> simp [h]
    · rfl
    · rfl)

end Work

end WebSocketSession
