import Mathlib.Logic.Relation
import WebSocketSession.Proofs.Work
import WebSocketSession.Session

/-!
# What a callback can do

A callback notes things, uses the connection and uses the readers it was given; everything in its
trace is the application's own doing. Neither the slot nor the pool changes under it, and a reader
changes only by being used. `perform_reacts` is the induction over the tree of a reaction; every
other statement on callbacks comes from it.
-/

set_option autoImplicit false
set_option relaxedAutoImplicit false

namespace WebSocketSession

variable {σ ν τ ε : Type}

def Occurrence.byApplication : Occurrence ν → Bool
  | .noted _ | .sent _ | .closed .application _ _ => true
  | _ => false

def Reader.Used : Reader → Reader → Prop :=
  Relation.ReflTransGen fun reader later =>
    ∃ style outcome, reader.use style = some (outcome, later)

namespace Session

/-- A session and what becomes of it while an application reacts: the slot and the pool are the
same, and readers are used at most. -/
structure Reacted (session later : Session σ τ) : Prop where
  handlers : later.handlers = session.handlers
  policy : later.policy = session.policy
  attached : later.connection.isSome = session.connection.isSome
  slot : later.assembly.slot = session.assembly.slot
  pool : later.assembly.pool = session.assembly.pool
  opened : later.assembly.streams.length = session.assembly.streams.length
  readers : ∀ stream, (session.assembly.reader stream).Used (later.assembly.reader stream)

theorem Reacted.refl (session : Session σ τ) : session.Reacted session :=
  ⟨rfl, rfl, rfl, rfl, rfl, rfl, fun _ => .refl⟩

theorem Reacted.trans {session later last : Session σ τ} (first : session.Reacted later)
    (second : later.Reacted last) : session.Reacted last where
  handlers := second.handlers.trans first.handlers
  policy := second.policy.trans first.policy
  attached := second.attached.trans first.attached
  slot := second.slot.trans first.slot
  pool := second.pool.trans first.pool
  opened := second.opened.trans first.opened
  readers stream := (first.readers stream).trans (second.readers stream)

theorem Reacted.inFlight {session later : Session σ τ} (h : session.Reacted later) :
    later.inFlight = session.inFlight :=
  congrArg Slot.inFlight h.slot

theorem read_reacted (session : Session σ τ) (stream : Nat) (style : ReadStyle) :
    session.Reacted (session.read stream style).2 := by
  unfold read
  split
  · rename_i bound
    cases h : session.assembly.read stream style with
    | none => exact .refl session
    | some result =>
      obtain ⟨⟨outcome, reader⟩, used, rfl⟩ := Option.map_eq_some_iff.mp h
      refine ⟨rfl, rfl, rfl, rfl, rfl, List.length_set, fun other => ?_⟩
      by_cases same : stream = other
      · subst same
        have replaced : (session.assembly.streams.set stream reader)[stream]?.getD .gone =
            reader := by
          simp [bound]
        refine .single ⟨style, outcome, ?_⟩
        simpa only [Assembly.reader, replaced] using used
      · have kept : (session.assembly.streams.set stream reader)[other]?.getD .gone =
            session.assembly.streams[other]?.getD .gone := by
          rw [List.getElem?_set_ne same]
        simp only [Assembly.reader, kept]
        exact .refl
  · exact .refl session

/-- All that came of it is a reaction: what changed may change, and what happened is the
application's own doing. -/
def Reacts {α : Type} (session : Session σ τ)
    (done : Outcome (Session σ τ) (Occurrence ν) ε α) : Prop :=
  session.Reacted done.state ∧ ∀ x ∈ done.trace, x.byApplication = true

private theorem Reacts.since {α : Type} {session later : Session σ τ}
    {done : Outcome (Session σ τ) (Occurrence ν) ε α} (h : later.Reacts done)
    (changed : session.Reacted later) : session.Reacts done :=
  ⟨changed.trans h.1, h.2⟩

private theorem Reacts.andThen {α β : Type} {session : Session σ τ}
    {first : Outcome (Session σ τ) (Occurrence ν) ε α} {following : α → Step σ τ ν ε β}
    (before : session.Reacts first)
    (later : ∀ a, first.state.Reacts (following a first.state)) :
    session.Reacts (first.andThen following) := by
  obtain ⟨ending, state, trace⟩ := first
  cases ending with
  | value a =>
    refine ⟨before.1.trans (later a).1, fun x member => ?_⟩
    rcases List.mem_append.mp member with member | member
    · exact before.2 x member
    · exact (later a).2 x member
  | fault e => exact before
  | panic payload => exact before

private theorem reach_reacts (call : τ → Answer × τ) (happening : Occurrence ν)
    (own : happening.byApplication = true) (session : Session σ τ) :
    session.Reacts ((reach call happening : Step σ τ ν ε (Option TransportError)) session) := by
  cases attached : session.connection with
  | none => simp [Reacts, reach, attached, Reacted.refl]
  | some connection =>
    have changed : session.Reacted { session with connection := some (call connection).2 } :=
      ⟨rfl, rfl, by simp [attached], rfl, rfl, rfl, fun _ => .refl⟩
    cases answer : (call connection).1 <;> simp [Reacts, reach, attached, answer, changed, own]

/-- Whatever an application does in reaction to an event, it does itself, and it reaches nothing
that belongs to the session. -/
theorem perform_reacts (host : Host σ ν τ) (reaction : Reaction σ ν) (session : Session σ τ) :
    session.Reacts (perform host reaction session) := by
  induction reaction generalizing session with
  | succeed => exact ⟨.refl session, by simp [perform]⟩
  | fail failure => exact ⟨.refl session, by simp [perform]⟩
  | panic payload => exact ⟨.refl session, by simp [perform]⟩
  | become app rest ih =>
    have changed : session.Reacted { session with app := app } :=
      ⟨rfl, rfl, rfl, rfl, rfl, rfl, fun _ => .refl⟩
    simpa [perform] using (ih { session with app := app }).since changed
  | note note rest ih => simpa [perform, Reacts, Occurrence.byApplication] using ih session
  | send frame rest ih =>
    rw [perform, Work.bind_run]
    exact (reach_reacts _ _ rfl session).andThen fun error => ih error _
  | close code reason rest ih =>
    rw [perform, Work.bind_run]
    exact (reach_reacts _ _ rfl session).andThen fun error => ih error _
  | askOpen rest ih => simpa [perform] using ih (session.isOpen host) session
  | read stream style rest ih =>
    have later := ih (session.read stream style).1 (session.read stream style).2
    simpa [perform] using later.since (session.read_reacted stream style)

/-- A callback runs if the table has one; that it is called is all that the session adds. -/
theorem call_run (host : Host σ ν τ) (event : Event) (session : Session σ τ) :
    call host event session =
      if session.handlers.handles event.registration then
        (perform host (host.react event session.policy session.app) session).after [.called event]
      else ⟨.value (), session, []⟩ := by
  unfold call
  split <;> simp_all

theorem call_trace (host : Host σ ν τ) (event : Event) (session : Session σ τ) :
    ∃ own : List (Occurrence ν), (∀ x ∈ own, x.byApplication = true) ∧
      (call host event session).trace =
        if session.handlers.handles event.registration then .called event :: own else [] := by
  rw [call_run]
  split
  · exact ⟨_, (perform_reacts host _ session).2, rfl⟩
  · exact ⟨[], by simp, rfl⟩

/-- Whatever a callback does, the session writes nothing to its log until it is over. -/
theorem filterMap_record?_call (host : Host σ ν τ) (event : Event) (session : Session σ τ) :
    (call host event session).trace.filterMap Occurrence.record? = [] := by
  obtain ⟨own, byApplication, trace⟩ := call_trace host event session
  have unrecorded : own.filterMap Occurrence.record? = [] := by
    rw [List.filterMap_eq_nil_iff]
    intro x member
    have mine := byApplication x member
    cases x with
    | logged record => cases mine
    | _ => rfl
  rw [trace]
  split
  · exact unrecorded
  · rfl

theorem call_reacted (host : Host σ ν τ) (event : Event) (session : Session σ τ) :
    session.Reacted (call host event session).state := by
  rw [call_run]
  split
  · exact (perform_reacts host _ session).1
  · exact .refl session

end Session

end WebSocketSession
