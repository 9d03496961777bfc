import WebSocketSession.Proofs.StreamHistory

/-!
# Applications that note what they read

Any application can be made to note what it reads and how its callbacks end (`Host.noting`). The
notes in a trace are then the readings of every stream, in order: a callback takes each reader by
exactly the readings that it has noted (`call_noted`).
-/

set_option autoImplicit false
set_option relaxedAutoImplicit false

namespace WebSocketSession

variable {σ ν τ ε : Type}

inductive Note where
  | read (stream : Nat) (reading : Reading)
  | ended (ending : Ending Failure Unit)

def noteOf (stream : Nat) (style : ReadStyle) : Except NoReader ReadOutcome → List Note
  | .ok outcome => [.read stream ⟨style, outcome⟩]
  | .error _ => []

namespace Reaction

def afterNotes (notes : List Note) (reaction : Reaction σ Note) : Reaction σ Note :=
  notes.foldr .note reaction

/-- The same reaction, with its readings and its end noted in place of what it noted before. -/
def noting : Reaction σ ν → Reaction σ Note
  | .succeed => .note (.ended (.value ())) .succeed
  | .fail failure => .note (.ended (.fault failure)) (.fail failure)
  | .panic payload => .note (.ended (.panic payload)) (.panic payload)
  | .become app rest => .become app rest.noting
  | .note _ rest => rest.noting
  | .send frame rest => .send frame fun error => (rest error).noting
  | .close code reason rest => .close code reason fun error => (rest error).noting
  | .askOpen rest => .askOpen fun isOpen => (rest isOpen).noting
  | .read stream style rest =>
    .read stream style fun answer => (rest answer).noting.afterNotes (noteOf stream style answer)

end Reaction

/-- The same application over the same connections, which notes what it reads and how its callbacks
end. -/
def Host.noting (host : Host σ ν τ) : Host σ Note τ where
  react event policy app := (host.react event policy app).noting
  transport := host.transport

def Occurrence.reading? (stream : Nat) : Occurrence Note → Option Reading
  | .noted (.read other reading) => if other = stream then some reading else none
  | _ => none

def readingsOf (stream : Nat) (trace : List (Occurrence Note)) : List Reading :=
  trace.filterMap (Occurrence.reading? stream)

@[simp] theorem readingsOf_nil (stream : Nat) : readingsOf stream [] = [] := rfl

@[simp] theorem readingsOf_append (stream : Nat) (first second : List (Occurrence Note)) :
    readingsOf stream (first ++ second) = readingsOf stream first ++ readingsOf stream second :=
  List.filterMap_append ..

namespace Session

@[simp] theorem perform_afterNotes (host : Host σ Note τ) (notes : List Note)
    (reaction : Reaction σ Note) (session : Session σ τ) :
    perform host (reaction.afterNotes notes) session =
      (perform host reaction session).after (notes.map .noted) := by
  induction notes with
  | nil => rfl
  | cons note rest ih =>
    change perform host (.note note (reaction.afterNotes rest)) session = _
    simp [perform, ih]

def Noted {α : Type} (session : Session σ τ)
    (done : Outcome (Session σ τ) (Occurrence Note) ε α) : Prop :=
  ∀ stream, (session.assembly.reader stream).Reads (readingsOf stream done.trace)
    (done.state.assembly.reader stream)

private theorem Noted.andThen {α β : Type} {session : Session σ τ}
    {first : Outcome (Session σ τ) (Occurrence Note) ε α} {following : α → Step σ τ Note ε β}
    (before : session.Noted first) (later : ∀ a, first.state.Noted (following a first.state)) :
    session.Noted (first.andThen following) := by
  obtain ⟨ending, state, trace⟩ := first
  cases ending with
  | value a =>
    intro stream
    rw [Outcome.andThen_value, Outcome.trace_after, readingsOf_append]
    exact (before stream).append (later a stream)
  | fault e => exact before
  | panic payload => exact before

private theorem noted_of_unread {α : Type} {session : Session σ τ}
    {done : Outcome (Session σ τ) (Occurrence Note) ε α}
    (same : done.state.assembly = session.assembly)
    (silent : ∀ stream, readingsOf stream done.trace = []) : session.Noted done := by
  intro stream
  rw [same, silent stream]
  exact .nil _

private theorem reach_noted (call : τ → Answer × τ) (happening : Occurrence Note)
    (silent : ∀ stream, happening.reading? stream = none) (session : Session σ τ) :
    session.Noted ((reach call happening : Step σ τ Note ε (Option TransportError)) session) := by
  cases attached : session.connection with
  | none => exact noted_of_unread (by simp [reach, attached]) (by simp [reach, attached])
  | some connection =>
    have nothing (stream : Nat) : readingsOf stream [happening] = [] := by
      simp [readingsOf, silent stream]
    cases answer : (call connection).1 <;>
      exact noted_of_unread (by simp [reach, attached, answer])
        (by simp [reach, attached, answer, nothing])

theorem reader_replaced (assembly : Assembly) (slot : Slot) (pool : Pool) (stream other : Nat)
    (reader : Reader) :
    (⟨slot, pool, assembly.streams.set stream reader⟩ : Assembly).reader other =
      if stream = other ∧ stream < assembly.streams.length then reader
      else assembly.reader other :=
  reader_set assembly stream other reader

theorem read_noted (session : Session σ τ) (stream : Nat) (style : ReadStyle) (other : Nat) :
    (session.assembly.reader other).Reads
      (readingsOf other ((noteOf stream style (session.read stream style).1).map .noted))
      ((session.read stream style).2.assembly.reader other) := by
  unfold read
  split
  · rename_i bound
    cases h : session.assembly.read stream style with
    | none => exact .nil _
    | some result =>
      obtain ⟨⟨outcome, reader⟩, used, rfl⟩ := Option.map_eq_some_iff.mp h
      simp only [noteOf, List.map_cons, List.map_nil]
      rw [reader_replaced]
      by_cases same : stream = other
      · subst same
        simp only [bound, and_self, if_true]
        have noted : readingsOf stream [.noted (.read stream ⟨style, outcome⟩)] =
            [⟨style, outcome⟩] := by
          simp [readingsOf, Occurrence.reading?]
        rw [noted]
        exact .cons style outcome used (.nil reader)
      · have unnoted : readingsOf other [.noted (.read stream ⟨style, outcome⟩)] = [] := by
          simp [readingsOf, Occurrence.reading?, same]
        simp only [same, false_and, if_false]
        rw [unnoted]
        exact .nil _
  · exact .nil _

private theorem perform_noted (host : Host σ Note τ) (reaction : Reaction σ ν)
    (session : Session σ τ) :
    session.Noted (perform host reaction.noting session) := by
  induction reaction generalizing session with
  | succeed => exact noted_of_unread (by simp [Reaction.noting, perform]) fun stream => rfl
  | fail failure => exact noted_of_unread (by simp [Reaction.noting, perform]) fun stream => rfl
  | panic payload => exact noted_of_unread (by simp [Reaction.noting, perform]) fun stream => rfl
  | become app rest ih =>
    simp only [Reaction.noting, perform, Work.bind_run, Work.modify_run, Outcome.andThen_value,
      Outcome.after_nil]
    exact ih { session with app := app }
  | note note rest ih => exact ih session
  | send frame rest ih =>
    rw [Reaction.noting, perform, Work.bind_run]
    exact (reach_noted _ _ (fun _ => rfl) session).andThen fun error => ih error _
  | close code reason rest ih =>
    rw [Reaction.noting, perform, Work.bind_run]
    exact (reach_noted _ _ (fun _ => rfl) session).andThen fun error => ih error _
  | askOpen rest ih => simpa [Reaction.noting, perform] using ih (session.isOpen host) session
  | read stream style rest ih =>
    intro other
    have before := session.read_noted stream style other
    have later := ih (session.read stream style).1 (session.read stream style).2 other
    have both := before.append later
    rw [← readingsOf_append] at both
    simpa [Reaction.noting, perform] using both

theorem call_noted (host : Host σ ν τ) (event : Event) (session : Session σ τ) :
    session.Noted (call host.noting event session) := by
  rw [call_run]
  split
  · exact perform_noted host.noting _ session
  · exact noted_of_unread rfl fun stream => rfl

end Session

end WebSocketSession
