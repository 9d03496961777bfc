import WebSocketSession.Proofs.Run
import WebSocketSession.Script

/-!
# Frames that nobody waits for

Without a frame observer, a session does nothing about a PING or PONG, about a data frame or a CLOSE
frame without a handler, or about a continuation of nothing. Such frames may be deleted anywhere in
a run, also in the middle of a message (`ignored_frames_inert`). What remains of the run comes out
the same, operation by operation.
-/

set_option autoImplicit false
set_option relaxedAutoImplicit false

namespace WebSocketSession

variable {σ ν τ : Type}

def Occurrence.tells : Occurrence ν → Bool
  | .logged _ | .counted .frame => false
  | _ => true

/-- What happens in a trace, apart from the log and the count of frames. -/
def consequences (trace : List (Occurrence ν)) : List (Occurrence ν) :=
  trace.filter Occurrence.tells

@[simp] theorem consequences_append (first second : List (Occurrence ν)) :
    consequences (first ++ second) = consequences first ++ consequences second :=
  List.filter_append ..

private theorem consequences_frame (records : List LogRecord) :
    consequences (.counted .frame :: records.map .logged : List (Occurrence ν)) = [] := by
  rw [consequences, List.filter_eq_nil_iff]
  intro x member
  rcases List.mem_cons.mp member with rfl | logged
  · simp [Occurrence.tells]
  · obtain ⟨record, -, rfl⟩ := List.mem_map.mp logged
    simp [Occurrence.tells]

namespace Session

/-- A frame that the session has no use for: a PING or a PONG, a data frame of a family without a
handler, a CLOSE frame without a close callback, or a continuation with nothing in flight. -/
def ignores (session : Session σ τ) (frame : Frame) : Bool :=
  match frame.opcode with
  | .ping | .pong => true
  | .text => (session.handlers.delivery .text).isNone
  | .binary => (session.handlers.delivery .binary).isNone
  | .close => !session.handlers.close
  | .continuation => session.inFlight.isNone

private theorem route_of_ignored {session : Session σ τ} {frame : Frame}
    (ignored : session.ignores frame = true) :
    ∃ records, route session.handlers session.inFlight frame = .pass records := by
  cases kind : frame.opcode with
  | ping => exact ⟨[], by simp [route, kind]⟩
  | pong => exact ⟨[], by simp [route, kind]⟩
  | text =>
    have unwanted : session.handlers.delivery .text = none := by
      simpa [ignores, kind] using ignored
    have asked : frame.opcode = .ofFamily .text := kind
    exact ⟨_, route_of_unwanted asked unwanted⟩
  | binary =>
    have unwanted : session.handlers.delivery .binary = none := by
      simpa [ignores, kind] using ignored
    have asked : frame.opcode = .ofFamily .binary := kind
    exact ⟨_, route_of_unwanted asked unwanted⟩
  | close =>
    have unwanted : session.handlers.close = false := by
      simpa [ignores, kind] using ignored
    exact ⟨[], by simp [route, kind, unwanted]⟩
  | continuation =>
    have nothing : session.inFlight = none := by
      simpa [ignores, kind] using ignored
    exact ⟨[.strayContinuation], by simp [route, kind, nothing]⟩

private theorem apply_of_ignored (host : Host σ ν τ) {session : Session σ τ} {frame : Frame}
    (unobserved : session.handlers.frame = false) (ignored : session.ignores frame = true) :
    ∃ records : List LogRecord, (Operation.input (.frame frame)).apply host session =
      ⟨.value (), session, .counted .frame :: records.map .logged⟩ := by
  obtain ⟨records, routed⟩ := route_of_ignored ignored
  have unseen : call host (.frame frame) session = ⟨.value (), session, []⟩ := by
    rw [call_run, if_neg]
    simpa [Event.registration, Handlers.handles] using unobserved
  have passes : session.Passes host frame := by
    rw [Passes, unseen]
  have attempted : (Input.frame frame).attempt host session =
      ⟨.value (), session, records.map .logged⟩ := by
    rw [attempt_of_passes passes, routed, observed, unseen]
    rfl
  have calm : ((Input.frame frame).attempt host session).ending.fault? = none := by
    rw [attempted]
    rfl
  refine ⟨.frameReceived frame :: records, ?_⟩
  rw [Operation.apply, handle_of_none calm, attempted]
  rfl

/-- Deleting frames from a run of a session, each of which the session has no use for where it
arrives, leaves these operations. -/
inductive Thins (host : Host σ ν τ) :
    Session σ τ → List (Operation σ τ) → List (Operation σ τ) → Prop where
  | nil (session : Session σ τ) : Thins host session [] []
  | keep {session : Session σ τ} {operations kept : List (Operation σ τ)}
    (operation : Operation σ τ)
    (rest : Thins host (operation.apply host session).state operations kept) :
    Thins host session (operation :: operations) (operation :: kept)
  | delete {session : Session σ τ} {operations kept : List (Operation σ τ)} (frame : Frame)
    (ignored : session.ignores frame = true)
    (rest : Thins host ((Operation.input (.frame frame)).apply host session).state operations
      kept) :
    Thins host session (.input (.frame frame) :: operations) kept

/-- One list of operations comes to the same as another: the session after them, and what happens
apart from the log and the count of frames. Each of its operations finds the same session as in the
other list, and has the same outcome there. -/
structure ComesTo (host : Host σ ν τ) (session : Session σ τ)
    (kept operations : List (Operation σ τ)) : Prop where
  state : session.run host kept = session.run host operations
  consequences : consequences (session.runTrace host kept) =
    consequences (session.runTrace host operations)
  history : (session.history host kept).Sublist (session.history host operations)

private theorem Thins.comesTo {host : Host σ ν τ} {session : Session σ τ}
    {operations kept : List (Operation σ τ)} (thins : Thins host session operations kept)
    (coherent : session.Coherent) (unobserved : session.handlers.frame = false) :
    session.ComesTo host kept operations := by
  induction thins with
  | nil session => exact ⟨rfl, rfl, .slnil⟩
  | @keep session operations kept operation rest ih =>
    have same := ih (apply_coherent host operation coherent)
      (by rw [apply_handlers host operation coherent]; exact unobserved)
    refine ⟨?_, ?_, ?_⟩
    · rw [run_cons, run_cons]
      exact same.state
    · rw [runTrace_cons, runTrace_cons, consequences_append, consequences_append,
        same.consequences]
    · exact same.history.cons_cons _
  | @delete session operations kept frame ignored rest ih =>
    -- The frame leaves the session as it was, so the rest starts from the same one in both runs.
    obtain ⟨records, applied⟩ := apply_of_ignored host unobserved ignored
    rw [applied] at ih
    have same := ih coherent unobserved
    refine ⟨?_, ?_, ?_⟩
    · rw [run_cons, applied]
      exact same.state
    · rw [runTrace_cons, applied, consequences_append, consequences_frame, List.nil_append]
      exact same.consequences
    · rw [history, applied]
      exact same.history.cons _

end Session

/-- Without a frame observer, and from every session reached, deleting frames that the session has
no use for where they arrive makes no difference. -/
theorem ignored_frames_inert (host : Host σ ν τ) (app : σ) (handlers : Handlers) (policy : Policy)
    (pool : Pool) (before : List (Operation σ τ)) {operations kept : List (Operation σ τ)}
    (unobserved : handlers.frame = false)
    (thins : Session.Thins host ((Session.start app handlers policy pool).run host before)
      operations kept) :
    ((Session.start app handlers policy pool).run host before).ComesTo host kept operations := by
  have begun : (Session.start app handlers policy pool : Session σ τ).Coherent :=
    Session.coherent_of_idle rfl
  refine thins.comesTo (Session.run_coherent host before begun) ?_
  rw [Session.run_handlers host before begun]
  exact unobserved

/-- In the middle of a text message, a PING, a binary frame without a handler and a CLOSE frame that
nobody would read come to nothing, and after the message so does a continuation. -/
theorem stray_frames_inert :
    let session : Session Script Recorder :=
      (Session.start ⟨[]⟩ (.ofRegistrations [.message .text .buffered, .error]) .default
          (.empty 4)).run Script.host
        [.attach (.fresh .none), .input (.frame ⟨.text, false, [72]⟩)]
    let last : Operation Script Recorder := .input (.frame ⟨.continuation, true, [105]⟩)
    session.inFlight = some .text ∧
      session.ComesTo Script.host [last]
        [.input (.frame ⟨.ping, true, []⟩), .input (.frame ⟨.binary, false, [1]⟩),
          .input (.frame ⟨.close, true, [3]⟩), last,
          .input (.frame ⟨.continuation, true, [33]⟩)] := by
  intro session last
  have flight : session.inFlight = some .text := by decide +kernel
  have comesTo := ignored_frames_inert Script.host ⟨[]⟩
    (.ofRegistrations [.message .text .buffered, .error]) .default (.empty 4)
    [.attach (.fresh .none), .input (.frame ⟨.text, false, [72]⟩)] rfl
    (.delete ⟨.ping, true, []⟩ (by decide +kernel)
      (.delete ⟨.binary, false, [1]⟩ (by decide +kernel)
        (.delete ⟨.close, true, [3]⟩ (by decide +kernel)
          (.keep last
            (.delete ⟨.continuation, true, [33]⟩ (by decide +kernel) (.nil _))))))
  exact ⟨flight, comesTo⟩

end WebSocketSession
