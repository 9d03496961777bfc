import Mathlib.Data.List.Forall2
import WebSocketSession.Proofs.Work

/-!
# Work in parallel

Two pieces of work run side by side, on states of two kinds, leaving traces of two kinds. A
`Correspondence` says which states, occurrences and panics belong together; pieces of work are
parallel if from corresponding states they come to corresponding outcomes. Each way of putting work
together keeps that, so that two programs of the same shape are parallel as soon as their parts are.
-/

set_option autoImplicit false
set_option relaxedAutoImplicit false

namespace WebSocketSession

variable {S S' T T' ω ω' ε ε' δ δ' α α' β β' : Type}

structure Correspondence (S S' ω ω' : Type) where
  state : S → S' → Prop
  occurrence : ω → ω' → Prop
  payload : PanicPayload → PanicPayload → Prop

/-- The endings of two runs, with corresponding values, faults or panics. -/
inductive Ending.Parallel (payload : PanicPayload → PanicPayload → Prop) (fault : ε → ε' → Prop)
    (value : α → α' → Prop) : Ending ε α → Ending ε' α' → Prop where
  | value {a : α} {a' : α'} (same : value a a') :
    Parallel payload fault value (.value a) (.value a')
  | fault {e : ε} {e' : ε'} (same : fault e e') :
    Parallel payload fault value (.fault e) (.fault e')
  | panic {p p' : PanicPayload} (same : payload p p') :
    Parallel payload fault value (.panic p) (.panic p')

structure Outcome.Parallel (c : Correspondence S S' ω ω') (fault : ε → ε' → Prop)
    (value : α → α' → Prop) (done : Outcome S ω ε α) (done' : Outcome S' ω' ε' α') : Prop where
  ending : done.ending.Parallel c.payload fault value done'.ending
  state : c.state done.state done'.state
  trace : List.Forall₂ c.occurrence done.trace done'.trace

def Work.Parallel (c : Correspondence S S' ω ω') (fault : ε → ε' → Prop) (value : α → α' → Prop)
    (work : Work S ω ε α) (work' : Work S' ω' ε' α') : Prop :=
  ∀ s s', c.state s s' → (work s).Parallel c fault value (work' s')

variable {c : Correspondence S S' ω ω'} {fault : ε → ε' → Prop} {value : α → α' → Prop}
  {other : β → β' → Prop}

private theorem Outcome.Parallel.andThen {first : Outcome S ω ε α} {first' : Outcome S' ω' ε' α'}
    {following : α → Work S ω ε β} {following' : α' → Work S' ω' ε' β'}
    (before : first.Parallel c fault value first')
    (later : ∀ a a', value a a' → (following a).Parallel c fault other (following' a')) :
    (first.andThen following).Parallel c fault other (first'.andThen following') := by
  obtain ⟨ending, state, trace⟩ := first
  obtain ⟨ending', state', trace'⟩ := first'
  obtain ⟨ends, between, seen⟩ := before
  cases ends with
  | value same =>
    obtain ⟨ends, last, shown⟩ := later _ _ same _ _ between
    exact ⟨ends, last, List.rel_append seen shown⟩
  | fault same => exact ⟨.fault same, between, seen⟩
  | panic same => exact ⟨.panic same, between, seen⟩

namespace Work.Parallel

theorem bind {first : Work S ω ε α} {first' : Work S' ω' ε' α'} {following : α → Work S ω ε β}
    {following' : α' → Work S' ω' ε' β'} (before : first.Parallel c fault value first')
    (later : ∀ a a', value a a' → (following a).Parallel c fault other (following' a')) :
    (first >>= following).Parallel c fault other (first' >>= following') := by
  intro s s' same
  rw [bind_run, bind_run]
  exact (before s s' same).andThen later

theorem pure {a : α} {a' : α'} (same : value a a') :
    (Pure.pure a : Work S ω ε α).Parallel c fault value (Pure.pure a' : Work S' ω' ε' α') :=
  fun _ _ state => ⟨.value same, state, .nil⟩

theorem state :
    (Work.state : Work S ω ε S).Parallel c fault c.state (Work.state : Work S' ω' ε' S') :=
  fun _ _ state => ⟨.value state, state, .nil⟩

theorem modify {change : S → S} {change' : S' → S'}
    (keeps : ∀ s s', c.state s s' → c.state (change s) (change' s')) :
    (Work.modify change : Work S ω ε Unit).Parallel c fault Eq
      (Work.modify change' : Work S' ω' ε' Unit) :=
  fun s s' state => ⟨.value rfl, keeps s s' state, .nil⟩

theorem tell {trace : List ω} {trace' : List ω'} (seen : List.Forall₂ c.occurrence trace trace') :
    (Work.tell trace : Work S ω ε Unit).Parallel c fault Eq
      (Work.tell trace' : Work S' ω' ε' Unit) :=
  fun _ _ state => ⟨.value rfl, state, seen⟩

private theorem finish {ending : Ending ε α} {ending' : Ending ε' α'}
    (ends : ending.Parallel c.payload fault value ending') :
    (Work.finish ending : Work S ω ε α).Parallel c fault value
      (Work.finish ending' : Work S' ω' ε' α') :=
  fun _ _ state => ⟨ends, state, .nil⟩

theorem raise {e : ε} {e' : ε'} (same : fault e e') :
    (Work.raise e : Work S ω ε α).Parallel c fault value (Work.raise e' : Work S' ω' ε' α') :=
  finish (.fault same)

theorem unwind {p p' : PanicPayload} (same : c.payload p p') :
    (Work.unwind p : Work S ω ε α).Parallel c fault value (Work.unwind p' : Work S' ω' ε' α') :=
  finish (.panic same)

theorem attempt {other : δ → δ' → Prop} {work : Work S ω ε α} {work' : Work S' ω' ε' α'}
    (alike : work.Parallel c fault value work') :
    (Work.attempt work : Work S ω δ (Ending ε α)).Parallel c other
      (Ending.Parallel c.payload fault value)
      (Work.attempt work' : Work S' ω' δ' (Ending ε' α')) := by
  intro s s' same
  obtain ⟨ends, state, seen⟩ := alike s s' same
  exact ⟨.value ends, state, seen⟩

theorem ensuring {work : Work S ω ε α} {work' : Work S' ω' ε' α'} {cleanUp : Work S ω ε Unit}
    {cleanUp' : Work S' ω' ε' Unit} (alike : work.Parallel c fault value work')
    (cleaned : cleanUp.Parallel c fault Eq cleanUp') :
    (Work.ensuring work cleanUp).Parallel c fault value (Work.ensuring work' cleanUp') :=
  alike.attempt.bind fun _ _ ends => cleaned.bind fun _ _ _ => finish ends

theorem mapFault {other : δ → δ' → Prop} {f : ε → δ} {f' : ε' → δ'} {work : Work S ω ε α}
    {work' : Work S' ω' ε' α'} (alike : work.Parallel c fault value work')
    (seenAs : ∀ e e', fault e e' → other (f e) (f' e')) :
    (Work.mapFault f work).Parallel c other value (Work.mapFault f' work') := by
  refine alike.attempt.bind fun _ _ ends => ?_
  cases ends with
  | value same => exact pure same
  | fault same => exact raise (seenAs _ _ same)
  | panic same => exact unwind same

theorem within {c : Correspondence S S' ω ω'} {d : Correspondence T T' ω ω'}
    {part : S → T} {part' : S' → T'} {replace : S → T → S} {replace' : S' → T' → S'}
    {work : Work T ω ε α} {work' : Work T' ω' ε' α'} (alike : work.Parallel d fault value work')
    (occurrence : d.occurrence = c.occurrence) (payload : d.payload = c.payload)
    (parts : ∀ s s', c.state s s' → d.state (part s) (part' s'))
    (replaced : ∀ s s' t t', c.state s s' → d.state t t' → c.state (replace s t) (replace' s' t')) :
    (Work.within part replace work).Parallel c fault value
      (Work.within part' replace' work') := by
  intro s s' same
  obtain ⟨ends, state, seen⟩ := alike _ _ (parts s s' same)
  rw [within_run, within_run]
  exact ⟨payload ▸ ends, replaced s s' _ _ same state, occurrence ▸ seen⟩

end Work.Parallel

end WebSocketSession
