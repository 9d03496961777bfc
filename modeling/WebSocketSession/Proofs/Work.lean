import WebSocketSession.Work

/-!
# Running work

Each way of putting work together, as an equation on the outcome that it has from a given state.
`Outcome.andThen` goes on after an outcome that is a value, and `Outcome.after` puts what happened
before in front of a trace.
-/

set_option autoImplicit false
set_option relaxedAutoImplicit false

namespace WebSocketSession

variable {S T ω ε δ α β : Type}

def Ending.mapFault (f : ε → δ) : Ending ε α → Ending δ α
  | .value a => .value a
  | .fault e => .fault (f e)
  | .panic payload => .panic payload

namespace Outcome

def after (trace : List ω) (done : Outcome S ω ε α) : Outcome S ω ε α :=
  ⟨done.ending, done.state, trace ++ done.trace⟩

def andThen (done : Outcome S ω ε α) (following : α → Work S ω ε β) : Outcome S ω ε β :=
  match done.ending with
  | .value a => (following a done.state).after done.trace
  | .fault e => ⟨.fault e, done.state, done.trace⟩
  | .panic payload => ⟨.panic payload, done.state, done.trace⟩

@[simp] theorem andThen_value (a : α) (s : S) (trace : List ω) (following : α → Work S ω ε β) :
    (⟨.value a, s, trace⟩ : Outcome S ω ε α).andThen following = (following a s).after trace := rfl

@[simp] theorem andThen_fault (e : ε) (s : S) (trace : List ω) (following : α → Work S ω ε β) :
    (⟨.fault e, s, trace⟩ : Outcome S ω ε α).andThen following = ⟨.fault e, s, trace⟩ := rfl

@[simp] theorem andThen_panic (payload : PanicPayload) (s : S) (trace : List ω)
    (following : α → Work S ω ε β) :
    (⟨.panic payload, s, trace⟩ : Outcome S ω ε α).andThen following =
      ⟨.panic payload, s, trace⟩ := rfl

@[simp] theorem after_mk (trace later : List ω) (ending : Ending ε α) (s : S) :
    (⟨ending, s, later⟩ : Outcome S ω ε α).after trace = ⟨ending, s, trace ++ later⟩ := rfl

@[simp] theorem after_nil (done : Outcome S ω ε α) : done.after [] = done := rfl

@[simp] theorem after_after (trace later : List ω) (done : Outcome S ω ε α) :
    (done.after later).after trace = done.after (trace ++ later) := by
  simp only [after, List.append_assoc]

@[simp] theorem ending_after (trace : List ω) (done : Outcome S ω ε α) :
    (done.after trace).ending = done.ending := rfl

@[simp] theorem state_after (trace : List ω) (done : Outcome S ω ε α) :
    (done.after trace).state = done.state := rfl

@[simp] theorem trace_after (trace : List ω) (done : Outcome S ω ε α) :
    (done.after trace).trace = trace ++ done.trace := rfl

end Outcome

namespace Work

@[simp] theorem bind_run (first : Work S ω ε α) (following : α → Work S ω ε β) (s : S) :
    (first >>= following) s = (first s).andThen following := by
  change bind first following s = _
  unfold bind Outcome.andThen
  rcases first s with ⟨_ | _ | _, _, _⟩ <;> rfl

@[simp] theorem map_run (f : α → β) (work : Work S ω ε α) (s : S) :
    (f <$> work) s = (work s).andThen fun a => pure (f a) := by
  rw [← bind_pure_comp, bind_run]
  rfl

@[simp] theorem pure_run (a : α) (s : S) :
    (Pure.pure a : Work S ω ε α) s = ⟨.value a, s, []⟩ := rfl

@[simp] theorem own_pure_run (a : α) (s : S) :
    (pure a : Work S ω ε α) s = ⟨.value a, s, []⟩ := rfl

@[simp] theorem state_run (s : S) : (state : Work S ω ε S) s = ⟨.value s, s, []⟩ := rfl

@[simp] theorem modify_run (change : S → S) (s : S) :
    (modify change : Work S ω ε Unit) s = ⟨.value (), change s, []⟩ := rfl

@[simp] theorem tell_run (trace : List ω) (s : S) :
    (tell trace : Work S ω ε Unit) s = ⟨.value (), s, trace⟩ := rfl

@[simp] theorem finish_run (ending : Ending ε α) (s : S) :
    (finish ending : Work S ω ε α) s = ⟨ending, s, []⟩ := rfl

@[simp] theorem raise_run (e : ε) (s : S) :
    (raise e : Work S ω ε α) s = ⟨.fault e, s, []⟩ := rfl

@[simp] theorem unwind_run (payload : PanicPayload) (s : S) :
    (unwind payload : Work S ω ε α) s = ⟨.panic payload, s, []⟩ := rfl

@[simp] theorem attempt_run (work : Work S ω ε α) (s : S) :
    (attempt work : Work S ω δ (Ending ε α)) s =
      ⟨.value (work s).ending, (work s).state, (work s).trace⟩ := rfl

@[simp] theorem within_run (part : S → T) (replace : S → T → S) (work : Work T ω ε α) (s : S) :
    within part replace work s =
      ⟨(work (part s)).ending, replace s (work (part s)).state, (work (part s)).trace⟩ := rfl

@[simp] theorem mapFault_run (f : ε → δ) (work : Work S ω ε α) (s : S) :
    mapFault f work s = ⟨(work s).ending.mapFault f, (work s).state, (work s).trace⟩ := by
  simp only [mapFault, bind_run, attempt_run, Outcome.andThen_value]
  cases (work s).ending <;> simp [Ending.mapFault]

/-- Work that is cleaned up after keeps its ending if the clean-up goes well. -/
theorem ensuring_run (work : Work S ω ε α) (cleanUp : Work S ω ε Unit) (s cleaned : S)
    (trace : List ω) (h : cleanUp (work s).state = ⟨.value (), cleaned, trace⟩) :
    ensuring work cleanUp s = ⟨(work s).ending, cleaned, (work s).trace ++ trace⟩ := by
  simp [ensuring, h]

end Work

end WebSocketSession
