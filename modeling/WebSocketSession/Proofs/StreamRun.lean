import WebSocketSession.Proofs.StreamLife

/-!
# Streams along a run

What one operation does to a stream (`entry_tracks`, `entry_unopened`, `entry_opens`), and from it,
by induction on the run, what a whole history has done to every stream (`Session.run_lived`): the
payloads written are those of the frames accepted for it, and the course of its message is settled
by the last fragment or by a failure, whichever comes first.
-/

set_option autoImplicit false
set_option relaxedAutoImplicit false

namespace WebSocketSession

variable {σ ν τ ε : Type}

namespace Session

section Operations

variable {stream : Nat} {known known' : List Reading → Session σ τ → Prop}
  {readings : List Reading} {session : Session σ τ}

private theorem failed_of_some {host : Host σ ν τ} {input : Input} {fault : Fault}
    (faulty : (input.attempt host session).ending.fault? = some fault) :
    (session.entry host (.input input)).Failed := by
  have outcome : (session.entry host (.input input)).outcome = input.handle host session := rfl
  rw [handle_of_some faulty] at outcome
  refine ⟨(input.attempt host session).state.settled.closingCode fault, ?_⟩
  rw [outcome, Outcome.trace_after]
  refine List.mem_append_right _ ?_
  rcases (input.attempt host session).state.settled.calm_or_panics host fault with
    calm | ⟨payload, panics⟩
  · rw [closeDown_of_calm calm]
    exact List.mem_append_left _ List.mem_cons_self
  · rw [closeDown_of_panic panics]
    exact List.mem_cons_self

private theorem readingsOf_closedTrace (stream : Nat) (host : Host σ Note τ) (fault : Fault)
    (session : Session σ τ) : readingsOf stream (session.closedTrace host fault) = [] := by
  unfold closedTrace closeTrace
  split
  · rfl
  · split <;> rfl

private theorem readingsOf_complaintTrace (stream : Nat) (ending : Ending Failure Unit) :
    readingsOf stream (complaintTrace ending) = [] := by
  cases ending <;> rfl

private theorem closeDown_watched (watch : Watch stream known) (host : Host σ ν τ) (fault : Fault)
    (knows : known readings session) :
    known
      (readings ++ readingsOf stream
        (closeDown host.noting fault session : Outcome _ _ ε Unit).trace)
      (closeDown host.noting fault session : Outcome _ _ ε Unit).state := by
  have closed : known readings (session.closed host.noting fault) := watch.still knows rfl rfl
  rcases session.calm_or_panics host.noting fault with calm | ⟨payload, panics⟩
  · rw [closeDown_of_calm calm]
    simp only [readingsOf_append, readingsOf_closedTrace, readingsOf_complaintTrace,
      List.nil_append, List.append_nil]
    exact watch.called closed host (.error fault)
  · rw [closeDown_of_panic panics]
    simp only [readingsOf_closedTrace, List.append_nil]
    exact closed

/-- What is known once the work of an input is done stays known if it went well, and else becomes
what is known once the message in flight is given up. -/
private theorem settle_watched (watch : Watch stream known')
    (settles : ∀ {readings session}, known readings session → known' readings session.settled)
    (host : Host σ ν τ) {input : Input} (coherent : session.Coherent)
    (knows : known (readings ++ readingsOf stream (input.attempt host.noting session).trace)
      (input.attempt host.noting session).state) :
    let entry := session.entry host.noting (.input input)
    ((input.attempt host.noting session).ending.fault? = none ∧ ¬ entry.Failed ∧
        known (readings ++ entry.readings stream) entry.outcome.state) ∨
      ((input.attempt host.noting session).ending.fault? ≠ none ∧ entry.Failed ∧
        known' (readings ++ entry.readings stream) entry.outcome.state) := by
  intro entry
  have outcome : entry.outcome = input.handle host.noting session := rfl
  have readings_eq : entry.readings stream = readingsOf stream entry.outcome.trace := rfl
  have arrives : readingsOf stream input.arrivalTrace = [] := by cases input <;> rfl
  rw [readings_eq]
  cases ending : (input.attempt host.noting session).ending.fault? with
  | none =>
    refine .inl ⟨rfl, ((settles_attempt host.noting input coherent).calm ending).2, ?_⟩
    rw [handle_of_none ending] at outcome
    rw [outcome, readingsOf_append, arrives]
    exact knows
  | some fault =>
    refine .inr ⟨nofun, failed_of_some ending, ?_⟩
    rw [handle_of_some ending] at outcome
    have panics : readingsOf stream (input.attempt host.noting session).ending.panicTrace = [] := by
      cases (input.attempt host.noting session).ending <;> rfl
    have abandons :
        readingsOf stream (input.attempt host.noting session).state.assembly.abandonTrace = [] := by
      unfold Assembly.abandonTrace
      split
      · rfl
      · rfl
      · exact readingsOf_logged stream (_ :: _)
    have reports : readingsOf stream [.logged (reportRecord fault)] = [] := rfl
    have closed := closeDown_watched (ε := Empty) watch host fault (settles knows)
    rw [outcome]
    simp only [Outcome.state_after, Outcome.trace_after, faultTrace, readingsOf_append, arrives,
      panics, abandons, reports, List.nil_append, List.append_nil]
    rw [List.append_assoc] at closed
    exact closed

private theorem entry_watched (watch : Watch stream known) (watch' : Watch stream known')
    (settles : ∀ {readings session}, known readings session → known' readings session.settled)
    (host : Host σ ν τ) (operation : Operation σ τ) (coherent : session.Coherent)
    (refused : (session.entry host.noting operation).accepted host.noting stream = [])
    (knows : known readings session) :
    let entry := session.entry host.noting operation
    (¬ entry.Failed ∧ known (readings ++ entry.readings stream) entry.outcome.state) ∨
      (entry.Failed ∧ known' (readings ++ entry.readings stream) entry.outcome.state) := by
  intro entry
  have calm (quiet : entry.outcome.trace = []) : ¬ entry.Failed := by
    rintro ⟨code, member⟩
    rw [quiet] at member
    cases member
  have unread (kept : known readings entry.outcome.state) :
      known (readings ++ []) entry.outcome.state := by
    rw [List.append_nil]
    exact kept
  cases operation with
  | input input =>
    exact (settle_watched watch' settles host coherent
      (attempt_watched host coherent watch refused knows)).imp (·.2) (·.2)
  | attach connection => exact .inl ⟨calm rfl, unread (watch.still knows rfl rfl)⟩
  | become app => exact .inl ⟨calm rfl, unread (watch.still knows rfl rfl)⟩
  | read other style =>
    have reacted := session.read_reacted other style
    exact .inl ⟨calm rfl, watch.moved knows (congrArg Slot.feeding reacted.slot) reacted.opened
      (session.read_noted other style stream)⟩

private theorem accepted_entry (host : Host σ ν τ) (operation : Operation σ τ) (stream : Nat)
    (session : Session σ τ) :
    (session.entry host operation).accepted host stream = [] ∨
      ∃ input frame, operation = .input input ∧
        (session.entry host operation).accepted host stream = [frame] ∧
        input.accepted host stream session = [frame] := by
  cases operation with
  | input input =>
    cases input with
    | frame frame =>
      have both : (Input.frame frame).accepted host stream session = [] ∨
          (Input.frame frame).accepted host stream session = [frame] := by
        rw [Input.accepted]
        split
        · exact .inr rfl
        · exact .inl rfl
      exact both.imp id fun accepts => ⟨_, frame, rfl, accepts, accepts⟩
    | _ => exact .inl rfl
  | _ => exact .inl rfl

end Operations

section Streams

variable {stream : Nat} {family : Family} {payloads : List Bytes} {course : Course}
  {readings : List Reading} {session : Session σ τ}

private theorem step_of_calm {failed : Prop} (calm : ¬ failed) (course : Course) :
    Course.Step failed [] course course := by
  cases course with
  | live => exact .stays calm
  | _ => exact .ceased nofun

private theorem step_of_failed {failed : Prop} (fails : failed) (course : Course) :
    Course.Step failed [] course (course.endedAs .aborted) := by
  cases course with
  | live => exact .cut fails
  | _ => exact .ceased nofun

private theorem step_of_fragment {failed : Prop} (calm : ¬ failed) (frame : Frame) :
    Course.Step failed [frame] .live (.ofFin frame.fin) := by
  cases fin : frame.fin with
  | true => exact .ends calm fin
  | false => exact .grows calm fin

private theorem deliveries_observed (host : Host σ ν τ) (frame : Frame) (session : Session σ τ) :
    deliveries (call host (.frame frame) session).trace = [] :=
  deliveries_call (fun _ _ same => by cases same) session

private theorem deliveries_feedTrace (family : Family) (frame : Frame) (session : Session σ τ) :
    deliveries (session.feedTrace family frame : List (Occurrence ν)) = [] :=
  deliveries_of_outline_nil (outline_logged _)

/-- The fragment of a message in flight is written to its stream; nothing goes wrong, and nothing is
delivered. -/
theorem entry_of_fragment (host : Host σ ν τ) {input : Input} {frame : Frame}
    (coherent : session.Coherent)
    (tracks : session.Tracks stream family payloads course readings)
    (accepts : input.accepted host.noting stream session = [frame]) :
    let entry := session.entry host.noting (.input input)
    course = .live ∧ ¬ entry.Failed ∧ entry.delivered = [] ∧
      entry.outcome.state.Tracks stream family (payloads ++ [frame.payload]) (.ofFin frame.fin)
        (readings ++ entry.readings stream) := by
  intro entry
  obtain ⟨rfl, done, passes, attempted, accepted⟩ := attempt_accepted coherent accepts
  have seen := session.observed_reacted host.noting frame
  have called : (session.observed host.noting frame).Tracks stream family payloads course
      (readings ++ readingsOf stream (call host.noting (.frame frame) session).trace) :=
    (tracks_watch stream family payloads course).called tracks host (.frame frame)
  cases accepted with
  | opened other opens wanted idle number =>
    have bound := called.bound
    omega
  | continued other feeding written =>
    obtain ⟨rfl, rfl⟩ := called.eq_live feeding
    subst written
    have fed := called.fed_self frame
    have silent : readingsOf stream ((session.observed host.noting frame).feedTrace other frame) =
        [] := readingsOf_logged stream _
    have knows : ((Input.frame frame).attempt host.noting session).state.Tracks stream other
        (payloads ++ [frame.payload]) (.ofFin frame.fin) (readings ++
          readingsOf stream ((Input.frame frame).attempt host.noting session).trace) := by
      rw [attempted, Outcome.trace_after, readingsOf_append, silent, List.append_nil]
      exact fed
    have delivered := (settles_attempt host.noting (.frame frame) coherent).delivered
    rw [attempted, Outcome.trace_after, deliveries_append, deliveries_observed,
      deliveries_feedTrace] at delivered
    rcases settle_watched
        (tracks_watch stream other _ ((Course.ofFin frame.fin).endedAs .aborted))
        (fun tracks => settled_tracks tracks) host coherent knows with
      ⟨-, calm, kept⟩ | ⟨faulty, -, -⟩
    · exact ⟨rfl, calm, delivered, kept⟩
    · rw [attempted] at faulty
      exact absurd rfl faulty

theorem entry_tracks (host : Host σ ν τ) (operation : Operation σ τ) (coherent : session.Coherent)
    (tracks : session.Tracks stream family payloads course readings) :
    let entry := session.entry host.noting operation
    ∃ course', Course.Step entry.Failed (entry.accepted host.noting stream) course course' ∧
      (entry.accepted host.noting stream ≠ [] → entry.delivered = []) ∧
      entry.outcome.state.Tracks stream family
        (payloads ++ (entry.accepted host.noting stream).map Frame.payload) course'
        (readings ++ entry.readings stream) := by
  intro entry
  rcases accepted_entry host.noting operation stream session with
    none | ⟨input, frame, rfl, accepted, accepts⟩
  · have moved := entry_watched (tracks_watch stream family payloads course)
      (tracks_watch stream family payloads (course.endedAs .aborted))
      (fun tracks => settled_tracks tracks) host operation coherent none tracks
    rw [none, List.map_nil, List.append_nil]
    rcases moved with ⟨calm, kept⟩ | ⟨fails, kept⟩
    · exact ⟨course, step_of_calm calm course, absurd rfl, kept⟩
    · exact ⟨_, step_of_failed fails course, absurd rfl, kept⟩
  · obtain ⟨rfl, calm, delivered, kept⟩ := entry_of_fragment host coherent tracks accepts
    rw [accepted, List.map_singleton]
    exact ⟨_, step_of_fragment calm frame, fun _ => delivered, kept⟩

/-- An operation that does not open a stream does nothing to it before it is opened. -/
theorem entry_unopened (host : Host σ ν τ) (operation : Operation σ τ) (coherent : session.Coherent)
    (unopened : session.assembly.streams.length ≤ stream)
    (refused : (session.entry host.noting operation).accepted host.noting stream = []) :
    let entry := session.entry host.noting operation
    entry.outcome.state.assembly.streams.length ≤ stream ∧ entry.readings stream = [] := by
  intro entry
  have settles {readings : List Reading} {session : Session σ τ}
      (unopened : Unopened stream readings session) : Unopened stream readings session.settled := by
    have length : session.settled.assembly.streams.length = session.assembly.streams.length := by
      simp only [settled, Assembly.abandoned]
      split <;> simp
    exact ⟨length ▸ unopened.1, unopened.2⟩
  have fresh : Unopened stream [] session := ⟨unopened, rfl⟩
  have moved := entry_watched (unopened_watch stream) (unopened_watch stream) settles host operation
    coherent refused fresh
  exact moved.elim (·.2) (·.2)

end Streams

end Session

/-- The operation hands out the stream of a new message, in the callback of its first fragment,
whose payload can then be read; if it is the last one too, the stream has ended. -/
structure Entry.HandsOut (host : Host σ ν τ) (stream : Nat) (family : Family) (frame : Frame)
    (entry : Entry σ ν τ) : Prop where
  brings : entry.operation = .input (.frame frame)
  opens : frame.opcode = .ofFamily family
  number : stream = entry.before.assembly.streams.length
  delivered : entry.delivered = [Session.streamEvent family stream]
  asks : ∃ (asked : Session σ τ) (trace : List (Occurrence ν)),
    (Input.frame frame).attempt host entry.before =
        (Session.invoke host (Session.streamEvent family stream) asked).after trace ∧
      deliveries trace = [] ∧
      asked.assembly.reader stream = (Reader.opened family).written frame

namespace Session

private theorem begins_of_calm {failed : Prop} (calm : ¬ failed) (frame : Frame) :
    Course.Begins failed frame (.ofFin frame.fin) := by
  cases fin : frame.fin with
  | true => exact .ends fin
  | false => exact .grows calm fin

private theorem begins_of_failed {failed : Prop} (fails : failed) (frame : Frame) :
    Course.Begins failed frame ((Course.ofFin frame.fin).endedAs .aborted) := by
  cases fin : frame.fin with
  | true => exact .ends fin
  | false => exact .cut fails fin

private theorem Coherent.feeding_lt {session : Session σ τ} (coherent : session.Coherent)
    {family : Family}
    {stream : Nat} (feeding : session.assembly.slot.feeding = some (family, stream)) :
    stream < session.assembly.streams.length := by
  obtain ⟨feed, held⟩ := Slot.feeding_eq_some.mp feeding
  unfold Coherent at coherent
  rw [held] at coherent
  exact coherent.2

theorem entry_opens (host : Host σ ν τ) (operation : Operation σ τ) {session : Session σ τ}
    {frame : Frame} (coherent : session.Coherent)
    (accepts : (session.entry host.noting operation).accepted host.noting
      session.assembly.streams.length = [frame]) :
    let entry := session.entry host.noting operation
    ∃ family course, entry.HandsOut host.noting session.assembly.streams.length family frame ∧
      Course.Begins entry.Failed frame course ∧
      entry.outcome.state.Tracks session.assembly.streams.length family [frame.payload] course
        (entry.readings session.assembly.streams.length) := by
  intro entry
  obtain ⟨input, rfl, accepted⟩ : ∃ input, operation = .input input ∧
      input.accepted host.noting session.assembly.streams.length session = [frame] := by
    rcases accepted_entry host.noting operation session.assembly.streams.length session with
      none | ⟨input, other, same, accepted, accepts'⟩
    · rw [none] at accepts
      cases accepts
    · exact ⟨input, same, accepts'.trans (accepted.symm.trans accepts)⟩
  obtain ⟨rfl, done, passes, attempted, accepted⟩ := attempt_accepted coherent accepted
  have seen := session.observed_reacted host.noting frame
  have fresh : Unopened session.assembly.streams.length [] session := ⟨Nat.le_refl _, rfl⟩
  have unread := ((unopened_watch _).called fresh host (.frame frame)).2
  cases accepted with
  | continued other feeding written =>
    have bound := (seen.coherent coherent).feeding_lt feeding
    rw [seen.opened] at bound
    exact absurd bound (Nat.lt_irrefl _)
  | opened family opens wanted idle number delivery =>
    obtain ⟨shown, reader⟩ := tracks_opened family frame idle
    rw [← number] at shown reader
    let asked := ((session.observed host.noting frame).fed family frame).presented family
      session.assembly.streams.length
    let traced : List (Occurrence Note) := (call host.noting (.frame frame) session).trace ++
      ((session.observed host.noting frame).feedTrace family frame ++
        [.counted (.message family .streaming)])
    have attempted : (Input.frame frame).attempt host.noting session =
        (invoke host.noting (streamEvent family session.assembly.streams.length) asked).after
          traced := by
      rw [attempted, delivery, Outcome.after_after]
    have silent : deliveries traced = [] := by
      simp only [traced, deliveries_append, deliveries_observed, deliveries_feedTrace]
      rfl
    have handled : asked.handlers.handles
        (streamEvent family session.assembly.streams.length).registration = true := by
      rw [Reacted.handlers (Session.presented_reacted _ _ _), registration_streamEvent]
      exact beq_iff_eq.mpr wanted
    have delivered : entry.delivered = [streamEvent family session.assembly.streams.length] := by
      rw [(settles_attempt host.noting (.frame frame) coherent).delivered, attempted,
        Outcome.trace_after, deliveries_append, silent, List.nil_append, invoke_run,
        deliveries_eq_of_outline, outline_call, if_pos handled]
      exact deliveries_called_of_message (registration_streamEvent family _)
    have quiet : readingsOf session.assembly.streams.length traced = [] := by
      simp only [traced, readingsOf_append, feedTrace, readingsOf_logged]
      rw [List.nil_append] at unread
      rw [unread]
      rfl
    have knows : ((Input.frame frame).attempt host.noting session).state.Tracks
        session.assembly.streams.length family [frame.payload] (.ofFin frame.fin)
        ([] ++ readingsOf session.assembly.streams.length
          ((Input.frame frame).attempt host.noting session).trace) := by
      rw [attempted, Outcome.trace_after, readingsOf_append, quiet, invoke_run]
      exact (tracks_watch _ family _ _).called shown host _
    have handsOut : entry.HandsOut host.noting session.assembly.streams.length family frame :=
      ⟨rfl, opens, rfl, delivered, asked, traced, attempted, silent, reader⟩
    rcases settle_watched
        (tracks_watch _ family [frame.payload] ((Course.ofFin frame.fin).endedAs .aborted))
        (fun tracks => settled_tracks tracks) host coherent knows with
      ⟨-, calm, kept⟩ | ⟨-, fails, kept⟩
    · exact ⟨family, _, handsOut, begins_of_calm calm frame, kept⟩
    · exact ⟨family, _, handsOut, begins_of_failed fails frame, kept⟩

private theorem number_of_accepted {host : Host σ ν τ} {operation : Operation σ τ}
    {session : Session σ τ}
    {stream : Nat} {frame : Frame} (coherent : session.Coherent)
    (accepts : (session.entry host operation).accepted host stream = [frame])
    (unopened : session.assembly.streams.length ≤ stream) :
    stream = session.assembly.streams.length := by
  rcases accepted_entry host operation stream session with
    none | ⟨input, other, rfl, -, accepted⟩
  · rw [none] at accepts
    cases accepts
  · obtain ⟨rfl, done, -, -, accepted⟩ := attempt_accepted coherent accepted
    have seen := session.observed_reacted host other
    cases accepted with
    | opened family opens wanted idle number => exact number.trans seen.opened
    | continued family feeding =>
      have bound := (seen.coherent coherent).feeding_lt feeding
      rw [seen.opened] at bound
      omega

end Session

/-- The frames accepted for a stream, in order. -/
def acceptedIn (host : Host σ ν τ) (stream : Nat) (entries : List (Entry σ ν τ)) : List Frame :=
  entries.flatMap (Entry.accepted host stream)

/-- The readings of a stream, in order. -/
def readingsIn (stream : Nat) (entries : List (Entry σ Note τ)) : List Reading :=
  entries.flatMap (Entry.readings stream)

private theorem acceptedIn_append (host : Host σ ν τ) (stream : Nat)
    (first second : List (Entry σ ν τ)) :
    acceptedIn host stream (first ++ second) =
      acceptedIn host stream first ++ acceptedIn host stream second :=
  List.flatMap_append

theorem readingsIn_append (stream : Nat) (first second : List (Entry σ Note τ)) :
    readingsIn stream (first ++ second) = readingsIn stream first ++ readingsIn stream second :=
  List.flatMap_append

/-- The message of the stream is in flight during the operation: it is before, or its first fragment
is accepted and is not the last. -/
def Entry.Carries (host : Host σ ν τ) (stream : Nat) (entry : Entry σ ν τ) : Prop :=
  entry.before.assembly.slot.stream? = some stream ∨
    ∃ frame ∈ entry.accepted host stream, frame.fin = false

structure Lived (host : Host σ Note τ) (stream : Nat) (family : Family) (course : Course)
    (session : Session σ τ) (entries : List (Entry σ Note τ)) : Prop where
  /-- The payloads of the fragments accepted, and no others, have been written. -/
  tracks : session.Tracks stream family ((acceptedIn host stream entries).map Frame.payload) course
    (readingsIn stream entries)
  /-- The first fragment is the one that hands out the stream, and no other delivers anything. None
  of the others fails. -/
  opening : ∃ before first after frame, entries = before ++ first :: after ∧
    acceptedIn host stream before = [] ∧ first.accepted host stream = [frame] ∧
    first.HandsOut host stream family frame ∧
    ∀ entry ∈ after, entry.accepted host stream ≠ [] → ¬ entry.Failed ∧ entry.delivered = []
  /-- Only the last fragment can have FIN. -/
  unfinished : ∀ frame ∈ (acceptedIn host stream entries).dropLast, frame.fin = false
  finished : course = .finished ↔ ∃ frame ∈ acceptedIn host stream entries, frame.fin = true
  aborted : course = .aborted ↔ ∃ entry ∈ entries, entry.Failed ∧ entry.Carries host stream
  kept : course ≠ .dropped

namespace Course

variable {failed : Prop} {accepted : List Frame} {course later : Course}

private theorem Step.finished_iff (step : Step failed accepted course later) :
    later = .finished ↔ course = .finished ∨ ∃ frame ∈ accepted, frame.fin = true := by
  cases step <;> simp_all

private theorem Step.aborted_iff (step : Step failed accepted course later) :
    later = .aborted ↔ course = .aborted ∨ failed ∧ course = .live := by
  cases step <;> simp_all

private theorem Step.dropped_iff (step : Step failed accepted course later) :
    later = .dropped ↔ course = .dropped := by
  cases step <;> simp

private theorem Step.of_accepted (step : Step failed accepted course later) (some : accepted ≠ []) :
    course = .live ∧ ¬ failed := by
  cases step with
  | grows calm | ends calm => exact ⟨rfl, calm⟩
  | _ => exact absurd rfl some

variable {frame : Frame}

private theorem Begins.finished_iff (begins : Begins failed frame course) :
    course = .finished ↔ frame.fin = true := by
  cases begins <;> simp_all

private theorem Begins.aborted_iff (begins : Begins failed frame course) :
    course = .aborted ↔ failed ∧ frame.fin = false := by
  cases begins <;> simp_all

private theorem Begins.ne_dropped (begins : Begins failed frame course) : course ≠ .dropped := by
  cases begins <;> nofun

end Course

private theorem Slot.stream?_eq_some {slot : Slot} {stream : Nat} :
    slot.stream? = some stream ↔ ∃ family, slot.feeding = some (family, stream) := by
  cases slot <;> simp [stream?, feeding]

namespace Session

variable {stream : Nat} {family : Family} {payloads : List Bytes} {course : Course}
  {readings : List Reading} {session : Session σ τ}

theorem Tracks.stream?_iff (tracks : session.Tracks stream family payloads course readings) :
    session.assembly.slot.stream? = some stream ↔ course = .live := by
  rw [Slot.stream?_eq_some]
  exact ⟨fun ⟨_, feeding⟩ => (tracks.eq_live feeding).1, fun live => ⟨family, tracks.live live⟩⟩

end Session

section Histories

open Session

variable {stream : Nat} {family : Family} {course : Course} {session : Session σ τ}

private theorem Lived.step {host : Host σ ν τ} (operation : Operation σ τ)
    {entries : List (Entry σ Note τ)} (coherent : session.Coherent)
    (lived : Lived host.noting stream family course session entries) :
    let entry := session.entry host.noting operation
    ∃ course',
      Lived host.noting stream family course' entry.outcome.state (entries ++ [entry]) := by
  intro entry
  obtain ⟨course', step, quiet, tracks⟩ := entry_tracks host operation coherent lived.tracks
  have one : acceptedIn host.noting stream [entry] = entry.accepted host.noting stream :=
    List.flatMap_singleton ..
  have read : readingsIn stream [entry] = entry.readings stream := List.flatMap_singleton ..
  have carries : entry.Carries host.noting stream ↔ course = .live := by
    refine ⟨?_, fun live => .inl (lived.tracks.stream?_iff.mpr live)⟩
    rintro (held | ⟨frame, member, -⟩)
    · exact lived.tracks.stream?_iff.mp held
    · exact (step.of_accepted (List.ne_nil_of_mem member)).1
  refine ⟨course', ⟨?_, ?_, ?_, ?_, ?_, ?_⟩⟩
  · rw [acceptedIn_append, readingsIn_append, one, read, List.map_append]
    exact tracks
  · obtain ⟨before, first, after, frame, split, none, accepts, handsOut, rest⟩ := lived.opening
    refine ⟨before, first, after ++ [entry], frame, by rw [split]; simp, none, accepts, handsOut,
      List.forall_mem_append.mpr ⟨rest, List.forall_mem_singleton.mpr fun some => ?_⟩⟩
    exact ⟨(step.of_accepted some).2, quiet some⟩
  · rw [acceptedIn_append, one]
    rcases accepted_entry host.noting operation stream session with
      none | ⟨input, frame, rfl, accepted, -⟩
    · rw [none, List.append_nil]
      exact lived.unfinished
    · have live := (step.of_accepted (accepted ▸ List.cons_ne_nil frame [])).1
      have unfinished : ∀ frame ∈ acceptedIn host.noting stream entries, frame.fin = false := by
        intro frame member
        rw [← Bool.not_eq_true]
        intro last
        cases live.symm.trans (lived.finished.mpr ⟨frame, member, last⟩)
      rw [accepted, List.dropLast_concat]
      exact unfinished
  · rw [step.finished_iff, lived.finished, acceptedIn_append, one]
    simp only [List.mem_append, or_and_right, exists_or]
    exact Iff.rfl
  · rw [step.aborted_iff, lived.aborted, ← carries]
    simp only [List.mem_append, List.mem_singleton, or_and_right, exists_or, exists_eq_left]
    exact Iff.rfl
  · rw [ne_eq, step.dropped_iff]
    exact lived.kept

structure Awaited (host : Host σ Note τ) (stream : Nat) (session : Session σ τ)
    (entries : List (Entry σ Note τ)) : Prop where
  unopened : session.assembly.streams.length ≤ stream
  accepted : acceptedIn host stream entries = []
  readings : readingsIn stream entries = []
  apart : ∀ entry ∈ entries, ¬ entry.Carries host stream

private theorem Awaited.step {host : Host σ ν τ} (operation : Operation σ τ)
    {entries : List (Entry σ Note τ)} (coherent : session.Coherent)
    (awaited : Awaited host.noting stream session entries) :
    let entry := session.entry host.noting operation
    (stream < entry.outcome.state.assembly.streams.length ∧
        ∃ family course, Lived host.noting stream family course entry.outcome.state
          (entries ++ [entry])) ∨
      Awaited host.noting stream entry.outcome.state (entries ++ [entry]) := by
  intro entry
  have one : acceptedIn host.noting stream [entry] = entry.accepted host.noting stream :=
    List.flatMap_singleton ..
  have read : readingsIn stream [entry] = entry.readings stream := List.flatMap_singleton ..
  have idle : session.assembly.slot.stream? ≠ some stream := by
    intro held
    obtain ⟨family, feeding⟩ := Slot.stream?_eq_some.mp held
    exact absurd (coherent.feeding_lt feeding) (Nat.not_lt_of_le awaited.unopened)
  rcases accepted_entry host.noting operation stream session with
    none | ⟨input, frame, same, accepts, -⟩
  · obtain ⟨unopened, unread⟩ := entry_unopened host operation coherent awaited.unopened none
    refine .inr ⟨unopened, ?_, ?_, List.forall_mem_append.mpr ⟨awaited.apart,
      List.forall_mem_singleton.mpr ?_⟩⟩
    · rw [acceptedIn_append, awaited.accepted, one]
      exact none
    · rw [readingsIn_append, awaited.readings, read]
      exact unread
    · rintro (held | ⟨frame, member, -⟩)
      · exact idle held
      · exact List.not_mem_nil (none ▸ member)
  · cases number_of_accepted coherent accepts awaited.unopened
    obtain ⟨family, course, handsOut, begins, tracks⟩ := entry_opens host operation coherent accepts
    have all : acceptedIn host.noting session.assembly.streams.length (entries ++ [entry]) =
        [frame] := by
      rw [acceptedIn_append, awaited.accepted, one, List.nil_append]
      exact accepts
    have carries : entry.Carries host.noting session.assembly.streams.length ↔
        frame.fin = false := by
      refine ⟨?_, fun more => .inr ⟨frame, accepts ▸ List.mem_singleton_self frame, more⟩⟩
      rintro (held | ⟨other, member, more⟩)
      · exact absurd held idle
      · cases List.mem_singleton.mp (accepts ▸ member)
        exact more
    refine .inl ⟨tracks.bound, family, course, ?_, ⟨entries, entry, [], frame, rfl,
      awaited.accepted, accepts, handsOut, by simp⟩, ?_, ?_, ?_, begins.ne_dropped⟩
    · rw [all, readingsIn_append, awaited.readings, read]
      exact tracks
    · rw [all]
      simp
    · rw [begins.finished_iff, all]
      simp
    · rw [begins.aborted_iff, ← carries]
      refine ⟨fun fails => ⟨entry, by simp, fails⟩, fun ⟨other, member, fails, held⟩ => ?_⟩
      rcases List.mem_append.mp member with member | member
      · exact absurd held (awaited.apart other member)
      · cases List.mem_singleton.mp member
        exact ⟨fails, held⟩

end Histories

theorem Session.run_lived (host : Host σ ν τ) (operations : List (Operation σ τ))
    {session : Session σ τ} (fresh : session.assembly.slot = .idle)
    (unopened : session.assembly.streams = []) (stream : Nat) :
    let last := session.run host.noting operations
    let entries := session.history host.noting operations
    (stream < last.assembly.streams.length ∧
        ∃ family course, Lived host.noting stream family course last entries) ∨
      Awaited host.noting stream last entries := by
  -- The run grows at its end: a stream is awaited up to the operation that opens it, and lives on.
  induction operations using List.reverseRecOn with
  | nil =>
    refine .inr ⟨?_, rfl, rfl, by simp [history]⟩
    rw [run_nil, unopened]
    exact Nat.zero_le stream
  | append_singleton earlier operation ih =>
    have coherent := run_coherent host.noting earlier (coherent_of_idle fresh)
    intro last entries
    have extended : entries = session.history host.noting earlier ++
        [(session.run host.noting earlier).entry host.noting operation] :=
      session.history_append host.noting earlier [operation]
    have later : last =
        ((session.run host.noting earlier).entry host.noting operation).outcome.state :=
      session.run_append host.noting earlier [operation]
    rw [extended, later]
    rcases ih with ⟨opened, family, course, lived⟩ | awaited
    · obtain ⟨course', longer⟩ := lived.step operation coherent
      exact .inl ⟨longer.tracks.bound, family, course', longer⟩
    · exact awaited.step operation coherent

end WebSocketSession
