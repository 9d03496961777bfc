import WebSocketSession.Proofs.MessageOutcomes
import WebSocketSession.Proofs.Replay
import WebSocketSession.Proofs.StreamRun

/-!
# The two deliveries agree

A message has the same content whether it is delivered whole or read as a stream, however it was cut
into fragments. What a session delivers of a message is settled by its bytes
(`WholeOutcome.received`). A stream that its application keeps holds them all (`message_kept`), and
what reading them comes to is settled by them in the same way (`Reader.read_rest`). So the two agree
on every message (`deliveries_agree`).
-/

set_option autoImplicit false
set_option relaxedAutoImplicit false

namespace WebSocketSession

variable {σ σ' ν ν' τ τ' : Type}

def Chunk.event : Chunk → Event
  | .bytes value => .binary value
  | .text value => .text value

namespace Reader

open Session

theorem History.untouched {family : Family} {payloads : List Bytes} {course : Course}
    {readings : List Reading} {reader : Reader}
    (history : History family payloads course readings reader) (unread : readings = []) :
    reader ≠ .gone ∧ (reader.isText = true ↔ family = .text) := by
  induction history with
  | opened =>
    cases family with
    | text => exact ⟨nofun, fun _ => rfl, fun _ => rfl⟩
    | binary => exact ⟨nofun, nofun, nofun⟩
  | written payload before ih =>
    rw [ne_eq, mapStream_eq_gone, isText_mapStream]
    exact ih unread
  | used style outcome before use ih => simp at unread
  | ended course before ceased ih =>
    rw [ne_eq, mapStream_eq_gone, isText_mapStream]
    exact ih unread

private theorem use_readAll {reader : Reader} (there : reader ≠ .gone) :
    ∃ outcome, reader.use .readAll = some (outcome, .gone) ∧
      outcome ≠ .finished ∧ outcome ≠ .atEnd := by
  cases reader with
  | gone => exact absurd rfl there
  | bytes stream =>
    refine ⟨_, rfl, ?_⟩
    rcases stream.readAll with - | (_ | _) <;> exact ⟨nofun, nofun⟩
  | text stream =>
    refine ⟨_, rfl, ?_⟩
    rcases stream.readAll with - | (_ | _) <;> exact ⟨nofun, nofun⟩

/-- The rest of a message that has ended is read as what it would be delivered as, or not at all if
it is to be a text and is none. -/
theorem read_rest {family : Family} {reader : Reader} (stands : reader.Stands .finished false)
    (there : reader ≠ .gone) (kind : reader.isText = true ↔ family = .text) :
    ∃ outcome, reader.use .readAll = some (outcome, .gone) ∧
      ((∃ chunk : Chunk, outcome = .ready chunk ∧
          messageEvent family reader.remaining = some chunk.event) ∨
        (outcome = .failed .invalidUtf8 ∨ outcome = .failed .truncatedUtf8) ∧
          messageEvent family reader.remaining = none) := by
  obtain ⟨outcome, use, unfinished, unended⟩ := use_readAll there
  have answers := (told_of_use stands use).answers
  refine ⟨outcome, use, ?_⟩
  cases answers with
  | chunk style piece => exact absurd rfl piece
  | text style piece => exact absurd rfl piece
  | whole chunk ceased content text =>
    refine .inl ⟨chunk, rfl, ?_⟩
    rw [messageEvent_eq_some_iff, ← content]
    rw [kind] at text
    cases chunk with
    | bytes value =>
      cases family with
      | binary => rfl
      | text => simp at text
    | text value =>
      cases text.mpr ⟨value, rfl⟩
      rfl
  | waits style outcome later nothing live => cases live
  | ends style outcome later signal =>
    rcases signal with rfl | rfl
    · exact absurd rfl unfinished
    · exact absurd rfl unended
  | cut style outcome later signal short => cases short
  | again style outcome later before => cases before
  | malformed style used later line invalid reads =>
    have all : used = reader.unread := by
      rcases line with ⟨-, all⟩ | all
      · exact all
      · rw [all]
        exact (List.append_nil used).symm
    rw [kind.mp reads]
    refine .inr ⟨.inl rfl, messageEvent_text_eq_none_iff.mpr fun text => ?_⟩
    have apart := invalid [] text
    rw [List.append_nil, all] at apart
    exact apart
  | truncated style later ceased part still reads =>
    rw [kind.mp reads]
    exact .inr ⟨.inr rfl, messageEvent_text_eq_none_iff.mpr part⟩
  | quiet style unread => rcases unread with same | same <;> cases same

end Reader

namespace Session

def arrivals (frames : List Frame) : List (Operation σ τ) :=
  frames.map fun frame => .input (.frame frame)

/-- The application keeps a new stream while these frames arrive: nothing fails before the last of
them, and nothing is read of the stream. -/
structure KeepsStream (host : Host σ ν τ) (frames : List Frame) (session : Session σ τ) : Prop where
  calm : ∀ entry ∈ (session.history host.noting (arrivals frames)).dropLast, ¬ entry.Failed
  unread : readingsIn session.assembly.streams.length
    (session.history host.noting (arrivals frames)) = []

private theorem observer_noting {host : Host σ ν τ} {handlers : Handlers}
    (succeeds : ObserverSucceeds host handlers) : ObserverSucceeds host.noting handlers := by
  intro frame session same
  have alike : session.Alike session := ⟨rfl, rfl, rfl, rfl, rfl, rfl⟩
  have ending := ((noting_coupling host).calls (.frame frame) session session alike [] rfl).1
  exact ending.symm.trans (succeeds frame session same)

section Streaming

variable {host : Host σ ν τ} {session : Session σ τ} {frame : Frame} {family : Family}
  {stream : Nat} {payloads : List Bytes} {readings : List Reading}

private theorem accepted_of_passes (passes : session.Passes host frame)
    (accepts : session.accepts stream frame = true) :
    (Input.frame frame).accepted host stream session = [frame] := by
  have both : ((call host (.frame frame) session).ending.value?.isSome &&
      session.accepts stream frame) = true := by
    rw [passes, accepts]
    rfl
  exact if_pos both

private theorem continuation_tracked (coherent : session.Coherent)
    (passes : session.Passes host.noting frame) (continues : frame.opcode = .continuation)
    (tracks : session.Tracks stream family payloads .live readings) :
    (session.handled host.noting frame).state.Tracks stream family (payloads ++ [frame.payload])
      (.ofFin frame.fin)
      (readings ++ (session.entry host.noting (.input (.frame frame))).readings stream) := by
  obtain ⟨feed, held⟩ := Slot.feeding_eq_some.mp (tracks.live rfl)
  have accepts : session.accepts stream frame = true := by
    simp [Session.accepts, held, Frame.belongs, continues]
  exact (entry_of_fragment host coherent tracks (accepted_of_passes passes accepts)).2.2.2

def Completes (host : Host σ ν τ) (stream : Nat) (family : Family) (payloads : List Bytes)
    (readings : List Reading) (session : Session σ τ) (frames : List Frame) : Prop :=
  (session.receive host.noting frames).Tracks stream family (payloads ++ frames.map Frame.payload)
    .finished (readings ++ readingsIn stream (session.history host.noting (arrivals frames)))

private theorem Completes.cons {rest : List Frame}
    (later : (session.handled host.noting frame).state.Completes host stream family
      (payloads ++ [frame.payload])
      (readings ++ (session.entry host.noting (.input (.frame frame))).readings stream) rest) :
    session.Completes host stream family payloads readings (frame :: rest) := by
  unfold Completes at later
  rw [List.append_assoc, List.append_assoc] at later
  exact later

private theorem completes_last (finished : frame.fin = true)
    (tracks : (session.handled host.noting frame).state.Tracks stream family
      (payloads ++ [frame.payload]) (.ofFin frame.fin)
      (readings ++ (session.entry host.noting (.input (.frame frame))).readings stream)) :
    session.Completes host stream family payloads readings [frame] := by
  refine .cons ?_
  unfold Completes
  rw [finished] at tracks
  simp only [arrivals, List.map_nil, List.append_nil, history, readingsIn, List.flatMap_nil]
  exact tracks

private theorem continuations_complete (parts : List Bytes)
    (succeeds : ObserverSucceeds host.noting session.handlers) (coherent : session.Coherent)
    (tracks : session.Tracks stream family payloads .live readings) :
    session.Completes host stream family payloads readings
      (Fragments.ofParts .continuation parts) := by
  have fed (fin : Bool) (part : Bytes) {session : Session σ τ}
      (succeeds : ObserverSucceeds host.noting session.handlers) (coherent : session.Coherent)
      {payloads : List Bytes} {readings : List Reading}
      (tracks : session.Tracks stream family payloads .live readings) :=
    continuation_tracked coherent (succeeds ⟨.continuation, fin, part⟩ session rfl) rfl tracks
  induction parts generalizing session payloads readings with
  | nil => exact completes_last rfl (fed true [] succeeds coherent tracks)
  | cons part rest ih =>
    cases rest with
    | nil => exact completes_last rfl (fed true part succeeds coherent tracks)
    | cons next rest =>
      have kept := handled_steady host.noting ⟨.continuation, false, part⟩ coherent
      have later := fed false part succeeds coherent tracks
      rw [← kept.handlers] at succeeds
      exact .cons (ih succeeds (handled_coherent host.noting _ coherent) later)

private theorem first_tracked (passes : session.Passes host.noting frame)
    (idle : session.assembly.slot = .idle)
    (wanted : session.handlers.delivery family = some .streaming)
    (opens : frame.opcode = .ofFamily family)
    (calm : frame.fin = false → ¬ (session.entry host.noting (.input (.frame frame))).Failed) :
    (session.handled host.noting frame).state.Tracks session.assembly.streams.length family
      ([] ++ [frame.payload]) (.ofFin frame.fin)
      ([] ++ (session.entry host.noting (.input (.frame frame))).readings
        session.assembly.streams.length) := by
  have accepts : session.accepts session.assembly.streams.length frame = true := by
    simp [Session.accepts, idle, opens, Opcode.family?_ofFamily, wanted]
  obtain ⟨other, course, handsOut, begins, tracks⟩ := entry_opens host (.input (.frame frame))
    (coherent_of_idle idle) (accepted_of_passes passes accepts)
  have same : other = family := by
    have both := handsOut.opens.symm.trans opens
    cases other <;> cases family <;> first | rfl | cases both
  subst same
  cases begins with
  | grows _ more => rw [more]; exact tracks
  | cut fails more => exact absurd fails (calm more)
  | ends last => rw [last]; exact tracks

theorem message_kept (parts : List Bytes) (succeeds : ObserverSucceeds host session.handlers)
    (idle : session.inFlight = none)
    (wanted : session.handlers.delivery family = some .streaming)
    (keeps : session.KeepsStream host (Fragments.ofParts (.ofFamily family) parts)) :
    let frames := Fragments.ofParts (.ofFamily family) parts
    (session.receive host frames).Tracks session.assembly.streams.length family
      (frames.map Frame.payload) .finished [] := by
  intro frames
  have succeeds := observer_noting succeeds
  have idle := Slot.inFlight_eq_none.mp idle
  have first (fin : Bool) (part : Bytes) :=
    first_tracked (succeeds ⟨.ofFamily family, fin, part⟩ session rfl) idle wanted rfl
  have complete : session.Completes host session.assembly.streams.length family [] []
      (Fragments.ofParts (.ofFamily family) parts) := by
    match parts with
    | [] => exact completes_last rfl (first true [] nofun)
    | [part] => exact completes_last rfl (first true part nofun)
    | part :: next :: rest =>
      have opened := first false part fun _ => keeps.calm _ (by
        cases rest <;> exact List.mem_cons_self)
      have kept := handled_steady host.noting ⟨.ofFamily family, false, part⟩
        (coherent_of_idle idle)
      rw [← kept.handlers] at succeeds
      exact .cons (continuations_complete (next :: rest) succeeds
        (handled_coherent host.noting _ (coherent_of_idle idle)) opened)
  unfold Completes at complete
  rw [keeps.unread] at complete
  rw [receive, (session.run_noting host _).1]
  exact complete

private theorem read_kept (parts : List Bytes) (succeeds : ObserverSucceeds host session.handlers)
    (idle : session.inFlight = none)
    (wanted : session.handlers.delivery family = some .streaming)
    (keeps : session.KeepsStream host (Fragments.ofParts (.ofFamily family) parts)) :
    let arrived := session.receive host (Fragments.ofParts (.ofFamily family) parts)
    let read := (arrived.read session.assembly.streams.length .readAll).1
    (∃ chunk : Chunk, read = .ok (.ready chunk) ∧
        messageEvent family parts.flatten = some chunk.event) ∨
      (read = .ok (.failed .invalidUtf8) ∨ read = .ok (.failed .truncatedUtf8)) ∧
        messageEvent family parts.flatten = none := by
  intro arrived read
  have tracks := message_kept parts succeeds idle wanted keeps
  change arrived.Tracks _ _ _ _ _ at tracks
  obtain ⟨there, kind⟩ := tracks.history.untouched rfl
  have remaining : (arrived.assembly.reader session.assembly.streams.length).remaining =
      parts.flatten := by
    have content := tracks.history.inLine.content there nofun
    rw [← Fragments.flatMap_payload_ofParts (.ofFamily family) parts]
    exact content
  have stands := tracks.history.stands
  obtain ⟨outcome, use, told⟩ := Reader.read_rest stands there kind
  have ended : read = .ok outcome := by
    simp only [read, Session.read, tracks.bound, if_true, Assembly.read, use, Option.map_some]
  rw [remaining] at told
  rw [ended]
  rcases told with ⟨chunk, rfl, delivers⟩ | ⟨error, invalid⟩
  · exact .inl ⟨chunk, rfl, delivers⟩
  · exact .inr ⟨error.imp (congrArg _) (congrArg _), invalid⟩

end Streaming

section Buffered

variable {host : Host σ ν τ} {session : Session σ τ} {seen : List (Occurrence ν)}

private theorem deliveries_effects (trace : List (Occurrence ν)) :
    deliveries (effects trace) = deliveries trace := by
  rw [deliveries, deliveries, effects, List.filterMap_filter]
  congr 1
  funext x
  cases x with
  | called event => cases event <;> rfl
  | _ => split <;> rfl

private theorem flatten_shown (host : Host σ ν τ) (frames : List Frame) (session : Session σ τ) :
    (session.shown host frames).flatten = effects (session.runTrace host (arrivals frames)) := by
  rw [shown, runTrace, effects, List.filter_flatMap, List.flatMap_def]
  rfl

private theorem FailsOnce.deliveries {fault : Fault} (fails : FailsOnce host fault session seen) :
    deliveries seen = [] := by
  obtain ⟨told, rfl, rfl | ⟨rfl, -⟩⟩ := fails
  · split <;> split <;> rfl
  · split <;> rfl

private theorem AnsweredOnce.deliveries {event : Event} {family : Family} {delivery : Delivery}
    {asked : Session σ τ} (delivers : event.registration = .message family delivery)
    (answered : AnsweredOnce host event asked session seen) : deliveries seen = [event] := by
  have called := deliveries_called_of_message (ν := ν) delivers
  unfold AnsweredOnce at answered
  split at answered
  · rw [answered, called]
  · obtain ⟨failure, fails, rfl⟩ := answered
    change deliveries ([.called event] ++ failure) = [event]
    rw [deliveries_append, called, fails.deliveries]
    rfl

theorem WholeOutcome.received {family : Family} {frames : List Frame} {message : Bytes}
    (outcome : WholeOutcome host family frames message session seen)
    (fits : message.length ≤ session.policy.bufferedLimit family) :
    match messageEvent family message with
    | some event => deliveries seen = [event]
    | none => FailsOnce host (.invalidText family) session seen := by
  cases decoded : messageEvent family message with
  | some event =>
    obtain ⟨early, last, -, answered⟩ :=
      outcome.delivered fits event (messageEvent_eq_some_iff.mp decoded)
    exact answered.deliveries (registration_messageEvent decoded)
  | none =>
    cases family with
    | binary => cases decoded
    | text => exact outcome.notText fits rfl (messageEvent_text_eq_none_iff.mp decoded)

private theorem MessageOutcome.handed {family : Family} {parts : List Bytes}
    (outcome : MessageOutcome host family parts session
      (session.shown host (Fragments.ofParts (.ofFamily family) parts)))
    (wanted : session.handlers.delivery family = some .streaming) :
    deliveries
        (session.runTrace host (arrivals (Fragments.ofParts (.ofFamily family) parts))) =
      [streamEvent family session.assembly.streams.length] := by
  unfold MessageOutcome at outcome
  rw [wanted] at outcome
  obtain ⟨first, rest, delivery, later, -, seen, answered, nothing⟩ := outcome
  rw [← deliveries_effects, ← flatten_shown, seen, List.flatten_cons,
    List.flatten_eq_nil_iff.mpr nothing, List.append_nil]
  exact answered.deliveries (registration_streamEvent family _)

end Buffered

end Session

/-- The two deliveries agree on every message, however it is cut into fragments. A message of bytes
is delivered and read as they are. A message of text is delivered as the text that is read, and its
delivery fails if reading it fails. -/
theorem deliveries_agree (family : Family) (parts : List Bytes)
    (host : Host σ ν τ) {session : Session σ τ} (idle : session.inFlight = none)
    (wanted : session.handlers.delivery family = some .buffered)
    (succeeds : Session.ObserverSucceeds host session.handlers)
    (fits : parts.flatten.length ≤ session.policy.bufferedLimit family)
    (host' : Host σ' ν' τ') {session' : Session σ' τ'} (idle' : session'.inFlight = none)
    (wanted' : session'.handlers.delivery family = some .streaming)
    (succeeds' : Session.ObserverSucceeds host' session'.handlers)
    (keeps : session'.KeepsStream host' (Fragments.ofParts (.ofFamily family) parts)) :
    let frames := Fragments.ofParts (.ofFamily family) parts
    let trace := session.runTrace host (Session.arrivals frames)
    let stream := session'.assembly.streams.length
    let read := ((session'.receive host' frames).read stream .readAll).1
    deliveries (session'.runTrace host' (Session.arrivals frames)) =
        [Session.streamEvent family stream] ∧
    match family with
    | .binary =>
      deliveries trace = [.binary parts.flatten] ∧ read = .ok (.ready (.bytes parts.flatten))
    | .text =>
      (∀ text, deliveries trace = [.text text] ↔ read = .ok (.ready (.text text))) ∧
      (Session.FailsOnce host (.invalidText .text) session (effects trace) ↔
        read = .ok (.failed .invalidUtf8) ∨ read = .ok (.failed .truncatedUtf8)) ∧
      ((∃ text, deliveries trace = [.text text]) ∨
        Session.FailsOnce host (.invalidText .text) session (effects trace)) := by
  intro frames trace stream read
  have handed := (Session.message_outcome family parts succeeds' idle').2
  refine ⟨handed.handed wanted', ?_⟩
  obtain ⟨-, outcome⟩ := Session.message_outcome family parts succeeds idle
  have received := (outcome.whole wanted).received fits
  rw [Session.flatten_shown, Session.deliveries_effects] at received
  change match Session.messageEvent family parts.flatten with
    | some event => deliveries trace = [event]
    | none => Session.FailsOnce host (.invalidText family) session (effects trace) at received
  have silent (fails : Session.FailsOnce host (.invalidText .text) session (effects trace)) :
      deliveries trace = [] := by
    rw [← Session.deliveries_effects]
    exact fails.deliveries
  have told := Session.read_kept parts succeeds' idle' wanted' keeps
  change (∃ chunk : Chunk, read = _ ∧ _) ∨ (read = _ ∨ read = _) ∧ _ at told
  rcases told with ⟨chunk, whole, delivers⟩ | ⟨error, invalid⟩
  · rw [delivers] at received
    cases family with
    | binary =>
      cases chunk with
      | bytes value =>
        cases delivers
        exact ⟨received, whole⟩
      | text value => cases delivers
    | text =>
      cases chunk with
      | bytes value =>
        obtain ⟨text, -, same⟩ := Option.map_eq_some_iff.mp delivers
        cases same
      | text value =>
        refine ⟨fun text => ?_, ⟨fun fails => ?_, fun error => ?_⟩, .inl ⟨value, received⟩⟩
        · rw [received, whole]
          simp [Chunk.event]
        · cases received.symm.trans (silent fails)
        · rw [whole] at error
          rcases error with error | error <;> cases error
  · rw [invalid] at received
    cases family with
    | binary => cases invalid
    | text =>
      refine ⟨fun text => ⟨fun delivered => ?_, fun whole => ?_⟩,
        ⟨fun _ => error, fun _ => received⟩, .inr received⟩
      · cases delivered.symm.trans (silent received)
      · rw [whole] at error
        rcases error with error | error <;> cases error

/-- A character that is cut in two is read and delivered. -/
theorem split_character_agrees :
    let frames := Fragments.ofParts (.ofFamily .text) [[0xC3], [0xA9]]
    let whole : Session Script Recorder :=
      .start ⟨[]⟩ (.ofRegistrations [.message .text .buffered]) .default (.empty 4)
    let streamed : Session Script Recorder :=
      .start ⟨[]⟩ (.ofRegistrations [.message .text .streaming]) .default (.empty 4)
    streamed.KeepsStream Script.host frames ∧
      ((streamed.receive Script.host frames).read 0 .readAll).1 = .ok (.ready (.text "é")) ∧
      deliveries (whole.runTrace Script.host (Session.arrivals frames)) = [.text "é"] := by
  intro frames whole streamed
  have unobserved (session : Session Script Recorder) (none : session.handlers.frame = false) :
      Session.ObserverSucceeds Script.host session.handlers := by
    intro frame seen same
    rw [Session.Passes, Session.call_run, same]
    simp [Event.registration, Handlers.handles, none]
  have keeps : streamed.KeepsStream Script.host frames :=
    ⟨by decide +kernel, by decide +kernel⟩
  have read : ((streamed.receive Script.host frames).read 0 .readAll).1 =
      .ok (.ready (.text "é")) := by
    decide +kernel
  have idle : whole.inFlight = none := rfl
  have idle' : streamed.inFlight = none := rfl
  obtain ⟨-, delivered, -⟩ := deliveries_agree .text [[0xC3], [0xA9]] Script.host idle rfl
    (unobserved whole rfl) (by decide) Script.host idle' rfl (unobserved streamed rfl) keeps
  exact ⟨keeps, read, (delivered "é").mpr read⟩

end WebSocketSession
