import Mathlib.Data.List.Induction
import WebSocketSession.Proofs.Advance

/-!
# Where the payload of a message comes from

The history of a session falls into segments, one after another: single operations that deliver
nothing, and the spans of operations from the first fragment of a delivered message to its last.
What is delivered is put together from the fragments within its span alone, and nothing within the
span has failed (`deliveries_accounted`). `Ledger` is the account that every advance carries
forward.
-/

set_option autoImplicit false
set_option relaxedAutoImplicit false

namespace WebSocketSession

variable {σ ν τ : Type}

/-- A span of operations from the first fragment of a message to the end of `early` and `last`:
nothing before the last has failed or was the last fragment, and every frame is a fragment of the
message or passes it by. -/
structure Composes (handlers : Handlers) (family : Family) (early : List (Entry σ ν τ))
    (last : Entry σ ν τ) : Prop where
  opens : ∃ first rest frame, early ++ [last] = first :: rest ∧ first.frame? = some frame ∧
    frame.opcode = .ofFamily family
  sound : ∀ entry ∈ early, ¬ entry.Failed
  unfinished : ∀ frame ∈ fragments family early, frame.fin = false
  others : ∀ entry ∈ early ++ [last], ∀ frame, entry.frame? = some frame →
    frame.belongs family = true ∨ frame.passesBy handlers = true

/-- The span accounts for an event: the event is delivered within it and nothing else is, and the
payload of the event is that of the fragments in the span. -/
inductive Accounts (handlers : Handlers) (session : Session σ τ) :
    Event → List (Entry σ ν τ) → Prop where
  /-- A message delivered whole is delivered with its last fragment. -/
  | whole (family : Family) (early : List (Entry σ ν τ)) (last : Entry σ ν τ) (frame : Frame)
    (event : Event) (composes : Composes handlers family early last)
    (closing : last.frame? = some frame) (belongs : frame.belongs family = true)
    (finished : frame.fin = true) (nothing : ∀ entry ∈ early, entry.delivered = [])
    (delivered : last.delivered = [event])
    (content : event.content? =
      some (family, (fragments family (early ++ [last])).flatMap Frame.payload)) :
    Accounts handlers session event (early ++ [last])
  /-- A stream is delivered with the first fragment, and it has been fed all of them. -/
  | streamed (family : Family) (early : List (Entry σ ν τ)) (last first : Entry σ ν τ)
    (rest : List (Entry σ ν τ)) (stream : Nat) (composes : Composes handlers family early last)
    (starts : early ++ [last] = first :: rest)
    (delivered : first.delivered = [Session.streamEvent family stream])
    (nothing : ∀ entry ∈ rest, entry.delivered = [])
    (bound : stream < session.assembly.streams.length)
    (fed : (session.assembly.reader stream).Fed
      ((fragments family (early ++ [last])).map Frame.payload)) :
    Accounts handlers session (Session.streamEvent family stream) (early ++ [last])

/-- A part of a history: one operation between messages, or the span of a message. -/
inductive Segment (σ ν τ : Type) where
  | gap (entry : Entry σ ν τ)
  | message (event : Event) (span : List (Entry σ ν τ))

namespace Segment

def entries : Segment σ ν τ → List (Entry σ ν τ)
  | .gap entry => [entry]
  | .message _ span => span

def event? : Segment σ ν τ → Option Event
  | .gap _ => none
  | .message event _ => some event

def stream? : Segment σ ν τ → Option Nat
  | .message (.textStream stream) _ | .message (.binaryStream stream) _ => some stream
  | _ => none

private theorem stream?_streamEvent (family : Family) (stream : Nat) (span : List (Entry σ ν τ)) :
    (message (Session.streamEvent family stream) span).stream? = some stream := by
  cases family <;> rfl

def Sound (handlers : Handlers) (session : Session σ τ) : Segment σ ν τ → Prop
  | .gap entry => entry.delivered = []
  | .message event span => Accounts handlers session event span

private theorem Sound.delivered {handlers : Handlers} {session : Session σ τ}
    {segment : Segment σ ν τ}
    (sound : segment.Sound handlers session) :
    segment.entries.flatMap Entry.delivered = segment.event?.toList := by
  cases segment with
  | gap entry =>
    have nothing : entry.delivered = [] := sound
    simp [entries, event?, nothing]
  | message event span =>
    cases sound with
    | whole family early last frame event composes closing belongs finished nothing delivered =>
      rw [entries, List.flatMap_append, List.flatMap_eq_nil_iff.mpr nothing, List.nil_append,
        List.flatMap_singleton, delivered]
      rfl
    | streamed family early last first rest stream composes starts delivered nothing =>
      rw [entries, starts, List.flatMap_cons, List.flatMap_eq_nil_iff.mpr nothing, delivered]
      rfl

private theorem delivered_of_sound {handlers : Handlers} {session : Session σ τ}
    {segments : List (Segment σ ν τ)}
    (sound : ∀ segment ∈ segments, segment.Sound handlers session) :
    (segments.flatMap entries).flatMap Entry.delivered = segments.filterMap event? := by
  induction segments with
  | nil => rfl
  | cons segment rest ih =>
    have first := (sound segment List.mem_cons_self).delivered
    have others := ih fun other member => sound other (List.mem_cons_of_mem _ member)
    rw [List.flatMap_cons, List.flatMap_append, first, others, List.filterMap_cons]
    cases segment.event? <;> rfl

end Segment

structure Gathers (handlers : Handlers) (family : Family) (pending : List (Entry σ ν τ)) :
    Prop where
  opens : ∃ first rest frame, pending = first :: rest ∧ first.frame? = some frame ∧
    frame.opcode = .ofFamily family
  sound : ∀ entry ∈ pending, ¬ entry.Failed
  unfinished : ∀ frame ∈ fragments family pending, frame.fin = false
  others : ∀ entry ∈ pending, ∀ frame, entry.frame? = some frame →
    frame.belongs family = true ∨ frame.passesBy handlers = true

private theorem Gathers.composes {handlers : Handlers} {family : Family}
    {pending : List (Entry σ ν τ)}
    {entry : Entry σ ν τ} (gathers : Gathers handlers family pending)
    (suits : ∀ frame, entry.frame? = some frame →
      frame.belongs family = true ∨ frame.passesBy handlers = true) :
    Composes handlers family pending entry where
  opens := by
    obtain ⟨first, rest, frame, rfl, brings, opens⟩ := gathers.opens
    exact ⟨first, rest ++ [entry], frame, rfl, brings, opens⟩
  sound := gathers.sound
  unfinished := gathers.unfinished
  others := List.forall_mem_append.mpr ⟨gathers.others, List.forall_mem_singleton.mpr suits⟩

private theorem Composes.gathers {handlers : Handlers} {family : Family}
    {early : List (Entry σ ν τ)}
    {last : Entry σ ν τ} (composes : Composes handlers family early last)
    (calm : ¬ last.Failed) (unfinished : ∀ frame ∈ fragments family [last], frame.fin = false) :
    Gathers handlers family (early ++ [last]) where
  opens := composes.opens
  sound := List.forall_mem_append.mpr ⟨composes.sound, List.forall_mem_singleton.mpr calm⟩
  unfinished := by
    rw [fragments_append]
    exact List.forall_mem_append.mpr ⟨composes.unfinished, unfinished⟩
  others := composes.others

private theorem composes_of_opens {handlers : Handlers} {family : Family} {entry : Entry σ ν τ}
    {frame : Frame} (brings : entry.frame? = some frame) (opens : frame.opcode = .ofFamily family) :
    Composes handlers family [] entry where
  opens := ⟨entry, [], frame, rfl, brings, opens⟩
  sound := by simp
  unfinished := by simp [fragments]
  others other member := by
    obtain rfl : other = entry := by simpa using member
    intro frame' same
    rw [brings] at same
    cases same
    exact .inl (by simp [Frame.belongs, opens])

private theorem Gathers.split {handlers : Handlers} {family : Family} {pending : List (Entry σ ν τ)}
    (gathers : Gathers handlers family pending) :
    ∃ early last, pending = early ++ [last] ∧ Composes handlers family early last := by
  obtain ⟨first, rest, frame, same, -, -⟩ := gathers.opens
  have some : pending ≠ [] := by
    rw [same]
    nofun
  refine ⟨pending.dropLast, pending.getLast some, (List.dropLast_concat_getLast some).symm, ?_⟩
  have early {entry : Entry σ ν τ} (member : entry ∈ pending.dropLast) : entry ∈ pending :=
    List.dropLast_subset pending member
  have whole := List.dropLast_concat_getLast some
  refine ⟨?_, fun entry member => gathers.sound entry (early member), fun frame member => ?_, ?_⟩
  · rw [whole]
    exact gathers.opens
  · refine gathers.unfinished frame ?_
    rw [← whole, fragments_append]
    exact List.mem_append_left _ member
  · rw [whole]
    exact gathers.others

def Slot.stream? : Slot → Option Nat
  | .streaming _ stream _ => some stream
  | _ => none

/-- What has to be known of the operations that the message in flight has come from. -/
inductive Standing (session : Session σ τ) : List (Entry σ ν τ) → Prop where
  | idle (free : session.assembly.slot = .idle) : Standing session []
  | buffered (family : Family) (loan : Loan) (pending : List (Entry σ ν τ))
    (held : session.assembly.slot = .buffered family loan)
    (gathers : Gathers session.handlers family pending)
    (nothing : ∀ entry ∈ pending, entry.delivered = [])
    (bytes : loan.bytes = (fragments family pending).flatMap Frame.payload) :
    Standing session pending
  | streaming (family : Family) (stream : Nat) (feed : Feed) (first : Entry σ ν τ)
    (rest : List (Entry σ ν τ)) (held : session.assembly.slot = .streaming family stream feed)
    (gathers : Gathers session.handlers family (first :: rest))
    (delivered : first.delivered = [Session.streamEvent family stream])
    (nothing : ∀ entry ∈ rest, entry.delivered = [])
    (bound : stream < session.assembly.streams.length)
    (fed : (session.assembly.reader stream).Fed
      ((fragments family (first :: rest)).map Frame.payload)) :
    Standing session (first :: rest)

/-- The account of a history: sound segments, then the operations that the message in flight has
come from; and every stream has been delivered once, in order. -/
structure Ledger (session : Session σ τ) (entries : List (Entry σ ν τ))
    (segments : List (Segment σ ν τ)) (pending : List (Entry σ ν τ)) : Prop where
  balanced : entries = segments.flatMap Segment.entries ++ pending
  sound : ∀ segment ∈ segments, segment.Sound session.handlers session
  standing : Standing session pending
  streams : segments.filterMap Segment.stream? ++ session.assembly.slot.stream?.toList =
    List.range session.assembly.streams.length

def Accounted (session : Session σ τ) (entries : List (Entry σ ν τ)) : Prop :=
  ∃ segments pending, Ledger session entries segments pending

private theorem Segment.Sound.later {handlers : Handlers} {session later : Session σ τ}
    {segment : Segment σ ν τ} (sound : segment.Sound handlers session)
    (opened : session.assembly.streams.length ≤ later.assembly.streams.length)
    (fed : ∀ stream, segment.stream? = some stream → stream < session.assembly.streams.length →
      ∀ payloads, (session.assembly.reader stream).Fed payloads →
        (later.assembly.reader stream).Fed payloads) :
    segment.Sound handlers later := by
  cases segment with
  | gap entry => exact sound
  | message event span =>
    cases sound with
    | whole family early last frame event composes closing belongs finished nothing delivered
        content =>
      exact .whole family early last frame event composes closing belongs finished nothing
        delivered content
    | streamed family early last first rest stream composes starts delivered nothing bound before =>
      refine .streamed family early last first rest stream composes starts delivered nothing
        (by omega) (fed stream (stream?_streamEvent family stream _) bound _ before)

/-- The operations of the message in flight can be closed: those of a stream are its span, and
those of a buffered message, which is not delivered, are gaps. -/
private theorem Standing.close {session : Session σ τ} {pending : List (Entry σ ν τ)}
    (standing : Standing session pending) :
    ∃ more : List (Segment σ ν τ), more.flatMap Segment.entries = pending ∧
      (∀ segment ∈ more, segment.Sound session.handlers session) ∧
      more.filterMap Segment.stream? = session.assembly.slot.stream?.toList := by
  cases standing with
  | idle free => exact ⟨[], rfl, by simp, by simp [free, Slot.stream?]⟩
  | buffered family loan pending held gathers nothing bytes =>
    refine ⟨pending.map .gap, ?_, ?_, ?_⟩
    · rw [List.flatMap_map]
      exact List.flatMap_singleton' pending
    · intro segment member
      obtain ⟨entry, inside, rfl⟩ := List.mem_map.mp member
      exact nothing entry inside
    · rw [List.filterMap_map, held]
      exact List.filterMap_eq_nil_iff.mpr fun _ _ => rfl
  | streaming family stream feed first rest held gathers delivered nothing bound fed =>
    obtain ⟨early, last, same, composes⟩ := gathers.split
    refine ⟨[.message (Session.streamEvent family stream) (first :: rest)], ?_, ?_, ?_⟩
    · simp [Segment.entries]
    · intro segment member
      obtain rfl := List.mem_singleton.mp member
      rw [same] at fed
      rw [Segment.Sound, same]
      exact .streamed family early last first rest stream composes same.symm delivered nothing
        bound fed
    · simp [Segment.stream?_streamEvent, held, Slot.stream?]

namespace Ledger

open Session

variable {session later : Session σ τ} {entries pending : List (Entry σ ν τ)}
  {segments : List (Segment σ ν τ)} {entry : Entry σ ν τ}

private theorem sound_later (ledger : Ledger session entries segments pending)
    (same : later.handlers = session.handlers) (readers : session.ReadersKept later) :
    ∀ segment ∈ segments, segment.Sound later.handlers later := by
  intro segment member
  rw [same]
  exact (ledger.sound segment member).later readers.opened fun stream _ bound =>
    readers.fed stream bound

private theorem lose (ledger : Ledger session entries segments pending)
    (same : later.handlers = session.handlers) (nothing : entry.delivered = [])
    (idle : later.assembly.slot = .idle) (readers : session.ReadersKept later)
    (opened : later.assembly.streams.length = session.assembly.streams.length) :
    Accounted later (entries ++ [entry]) := by
  obtain ⟨more, closes, sound, streams⟩ := ledger.standing.close
  refine ⟨segments ++ more ++ [.gap entry], [], ?_, ?_, .idle idle, ?_⟩
  · rw [ledger.balanced, ← closes]
    simp [Segment.entries]
  · have kept : ∀ segment ∈ more, segment.Sound later.handlers later := by
      intro segment member
      rw [same]
      exact (sound segment member).later readers.opened fun stream _ bound =>
        readers.fed stream bound
    exact List.forall_mem_append.mpr ⟨List.forall_mem_append.mpr
      ⟨ledger.sound_later same readers, kept⟩, List.forall_mem_singleton.mpr nothing⟩
  · rw [opened, ← ledger.streams, ← streams, idle]
    simp [Segment.stream?, Slot.stream?]

private theorem skip (ledger : Ledger session entries segments pending)
    (coherent : session.Coherent)
    (same : later.handlers = session.handlers) (calm : ¬ entry.Failed)
    (nothing : entry.delivered = []) (slot : later.assembly.slot = session.assembly.slot)
    (passes : ∀ frame, entry.frame? = some frame → frame.passesBy session.handlers = true)
    (readers : session.ReadersKept later)
    (opened : later.assembly.streams.length = session.assembly.streams.length) :
    Accounted later (entries ++ [entry]) := by
  have apart {family : Family} (current : session.inFlight = some family) :
      fragments family [entry] = [] :=
    fragments_of_other fun frame brings =>
      Frame.belongs_eq_false_of_passesBy (coherent.wanted current) (passes frame brings)
  have further {family : Family} (current : session.inFlight = some family)
      (gathers : Gathers session.handlers family pending) :
      Gathers later.handlers family (pending ++ [entry]) := by
    rw [same]
    exact (gathers.composes fun frame brings => .inr (passes frame brings)).gathers calm
      (by simp [apart current])
  have sound := ledger.sound_later same readers
  have streams := ledger.streams
  rw [← opened, ← slot] at streams
  have balanced : entries ++ [entry] =
      segments.flatMap Segment.entries ++ (pending ++ [entry]) := by
    rw [ledger.balanced, List.append_assoc]
  cases ledger.standing with
  | idle free => exact ledger.lose same nothing (slot.trans free) readers opened
  | buffered family loan pending held gathers quiet bytes =>
    have current : session.inFlight = some family := congrArg Slot.inFlight held
    refine ⟨segments, pending ++ [entry], balanced, sound,
      .buffered family loan _ (slot.trans held) (further current gathers) ?_ ?_, streams⟩
    · exact List.forall_mem_append.mpr ⟨quiet, List.forall_mem_singleton.mpr nothing⟩
    · rw [bytes, fragments_append, apart current, List.append_nil]
  | streaming family stream feed first rest held gathers delivered quiet bound fed =>
    have current : session.inFlight = some family := congrArg Slot.inFlight held
    refine ⟨segments, first :: (rest ++ [entry]), balanced, sound,
      .streaming family stream feed first (rest ++ [entry]) (slot.trans held)
        (further current gathers) delivered ?_ (by omega) ?_, streams⟩
    · exact List.forall_mem_append.mpr ⟨quiet, List.forall_mem_singleton.mpr nothing⟩
    · rw [← List.cons_append, fragments_append, apart current, List.append_nil]
      exact readers.fed stream bound _ fed

/-- A frame that a buffered message awaits makes a span of what has gathered, and the loan holds
the payload of the fragments so far. -/
private theorem awaited (ledger : Ledger session entries segments pending) {family : Family}
    {frame : Frame} (brings : entry.frame? = some frame)
    (awaits : session.Awaits family frame) :
    Composes session.handlers family pending entry ∧ frame.belongs family = true ∧
      (∀ other ∈ pending, other.delivered = []) ∧
      (session.loan family).bytes = (fragments family pending).flatMap Frame.payload ∧
      session.assembly.slot.stream? = none := by
  cases ledger.standing with
  | idle free =>
    rcases awaits with ⟨-, opens⟩ | ⟨⟨loan, held⟩, -⟩
    · refine ⟨composes_of_opens brings opens, by simp [Frame.belongs, opens], by simp, ?_, ?_⟩
      · rw [Session.loan, Assembly.lending, free]
        rfl
      · rw [free]
        rfl
    · rw [free] at held
      cases held
  | buffered current loan pending held gathers quiet bytes =>
    rcases awaits with ⟨free, -⟩ | ⟨⟨other, held'⟩, belongs⟩
    · rw [held] at free
      cases free
    · rw [held] at held'
      cases held'
      refine ⟨gathers.composes fun frame' same => ?_, belongs, quiet, ?_, ?_⟩
      · rw [brings] at same
        cases same
        exact .inl belongs
      · rw [Session.loan, Assembly.lending, held]
        exact bytes
      · rw [held]
        rfl
  | streaming current stream feed first rest held =>
    rcases awaits with ⟨free, -⟩ | ⟨⟨other, held'⟩, -⟩
    · rw [held] at free
      cases free
    · rw [held] at held'
      cases held'

private theorem keep (ledger : Ledger session entries segments pending)
    (same : later.handlers = session.handlers) {family : Family} {frame : Frame} {extended : Loan}
    (brings : entry.frame? = some frame) (awaits : session.Awaits family frame)
    (unfinished : frame.fin = false) (calm : ¬ entry.Failed) (nothing : entry.delivered = [])
    (slot : later.assembly.slot = .buffered family extended)
    (bytes : extended.bytes = (session.loan family).bytes ++ frame.payload)
    (readers : session.ReadersKept later)
    (opened : later.assembly.streams.length = session.assembly.streams.length) :
    Accounted later (entries ++ [entry]) := by
  obtain ⟨composes, belongs, quiet, before, noStream⟩ := ledger.awaited brings awaits
  have fragment := fragments_of_belongs brings belongs
  have streams := ledger.streams
  rw [noStream] at streams
  rw [← same] at composes
  refine ⟨segments, pending ++ [entry], ?_, ledger.sound_later same readers,
    .buffered family extended _ slot (composes.gathers calm ?_) ?_ ?_, ?_⟩
  · rw [ledger.balanced, List.append_assoc]
  · simp [fragment, unfinished]
  · exact List.forall_mem_append.mpr ⟨quiet, List.forall_mem_singleton.mpr nothing⟩
  · rw [bytes, before, fragments_append, fragment, List.flatMap_append, List.flatMap_singleton]
  · rw [slot, opened]
    exact streams

private theorem deliver (ledger : Ledger session entries segments pending)
    (same : later.handlers = session.handlers) {family : Family} {frame : Frame} {event : Event}
    (brings : entry.frame? = some frame) (awaits : session.Awaits family frame)
    (finished : frame.fin = true) (delivered : entry.delivered = [event])
    (content : event.content? = some (family, (session.loan family).bytes ++ frame.payload))
    (idle : later.assembly.slot = .idle) (readers : session.ReadersKept later)
    (opened : later.assembly.streams.length = session.assembly.streams.length) :
    Accounted later (entries ++ [entry]) := by
  obtain ⟨composes, belongs, quiet, before, noStream⟩ := ledger.awaited brings awaits
  have fragment := fragments_of_belongs brings belongs
  have streams := ledger.streams
  rw [noStream] at streams
  rw [← same] at composes
  have whole : event.content? =
      some (family, (fragments family (pending ++ [entry])).flatMap Frame.payload) := by
    rw [content, before, fragments_append, fragment, List.flatMap_append, List.flatMap_singleton]
  have noNumber : (Segment.message event (pending ++ [entry])).stream? = none := by
    cases event <;> first | rfl | cases content
  refine ⟨segments ++ [.message event (pending ++ [entry])], [], ?_, ?_, .idle idle, ?_⟩
  · rw [ledger.balanced]
    simp [Segment.entries]
  · have span : Segment.Sound later.handlers later (.message event (pending ++ [entry])) :=
      .whole family pending entry frame event composes brings belongs finished quiet delivered whole
    exact List.forall_mem_append.mpr
      ⟨ledger.sound_later same readers, List.forall_mem_singleton.mpr span⟩
  · rw [idle, opened, ← streams]
    simp [noNumber, Slot.stream?]

private theorem pending_of_idle (ledger : Ledger session entries segments pending)
    (idle : session.assembly.slot = .idle) : pending = [] := by
  cases ledger.standing with
  | idle => rfl
  | buffered family loan pending held =>
    rw [idle] at held
    cases held
  | streaming family stream feed first rest held =>
    rw [idle] at held
    cases held

private theorem openStream (ledger : Ledger session entries segments pending)
    (same : later.handlers = session.handlers) {family : Family} {frame : Frame}
    (brings : entry.frame? = some frame) (idle : session.assembly.slot = .idle)
    (opens : frame.opcode = .ofFamily family)
    (delivered : entry.delivered = [streamEvent family session.assembly.streams.length])
    (slot : later.assembly.slot = .idle ∨
      (¬ entry.Failed ∧ frame.fin = false ∧
        ∃ feed, later.assembly.slot =
          .streaming family session.assembly.streams.length feed))
    (readers : session.ReadersKept later)
    (opened : later.assembly.streams.length = session.assembly.streams.length + 1)
    (fed : (later.assembly.reader session.assembly.streams.length).Fed [frame.payload]) :
    Accounted later (entries ++ [entry]) := by
  have belongs : frame.belongs family = true := by simp [Frame.belongs, opens]
  have fragment := fragments_of_belongs brings belongs
  have composes : Composes later.handlers family [] entry := composes_of_opens brings opens
  have sound := ledger.sound_later same readers
  have streams := ledger.streams
  have balanced := ledger.balanced
  rw [idle] at streams
  rw [ledger.pending_of_idle idle, List.append_nil] at balanced
  have fedAll : (later.assembly.reader session.assembly.streams.length).Fed
      ((fragments family [entry]).map Frame.payload) := by
    rw [fragment]
    exact fed
  rcases slot with free | ⟨calm, unfinished, feed, held⟩
  · refine ⟨segments ++ [.message (streamEvent family session.assembly.streams.length) [entry]], [],
      ?_, ?_, .idle free, ?_⟩
    · rw [balanced]
      simp [Segment.entries]
    · have span : Segment.Sound later.handlers later
          (.message (streamEvent family session.assembly.streams.length) [entry]) :=
        .streamed family [] entry entry [] _ composes rfl delivered (by simp) (by omega) fedAll
      exact List.forall_mem_append.mpr ⟨sound, List.forall_mem_singleton.mpr span⟩
    · rw [free, opened, List.range_succ, ← streams]
      simp [Segment.stream?_streamEvent, Slot.stream?]
  · refine ⟨segments, [entry], ?_, sound, .streaming family _ feed entry [] held
      (composes.gathers calm (by simp [fragment, unfinished])) delivered (by simp) (by omega)
      fedAll, ?_⟩
    · rw [balanced]
    · rw [held, opened, List.range_succ, ← streams]
      simp [Slot.stream?]

private theorem stream_in_flight (ledger : Ledger session entries segments pending)
    {family : Family}
    {stream : Nat} {feed : Feed} (held : session.assembly.slot = .streaming family stream feed) :
    ∀ segment ∈ segments, segment.stream? ≠ some stream := by
  intro segment member number
  have distinct : (segments.filterMap Segment.stream? ++ [stream]).Nodup := by
    have streams := ledger.streams
    rw [held] at streams
    change (segments.filterMap Segment.stream? ++ [stream]) = _ at streams
    rw [streams]
    exact List.nodup_range
  exact (List.nodup_append.mp distinct).2.2 stream
    (List.mem_filterMap.mpr ⟨segment, member, number⟩) stream (List.mem_singleton_self stream) rfl

private theorem continueStream (ledger : Ledger session entries segments pending)
    (same : later.handlers = session.handlers) {family : Family} {frame : Frame} {stream : Nat}
    {feed : Feed} (brings : entry.frame? = some frame)
    (held : session.assembly.slot = .streaming family stream feed)
    (belongs : frame.belongs family = true) (calm : ¬ entry.Failed)
    (nothing : entry.delivered = [])
    (slot : (frame.fin = true ∧ later.assembly.slot = .idle) ∨
      (frame.fin = false ∧ ∃ feed, later.assembly.slot = .streaming family stream feed))
    (others : ∀ other < session.assembly.streams.length, other ≠ stream → ∀ payloads,
      (session.assembly.reader other).Fed payloads → (later.assembly.reader other).Fed payloads)
    (opened : later.assembly.streams.length = session.assembly.streams.length)
    (feeds : ∀ payloads, (session.assembly.reader stream).Fed payloads →
      (later.assembly.reader stream).Fed (payloads ++ [frame.payload])) :
    Accounted later (entries ++ [entry]) := by
  have fragment := fragments_of_belongs brings belongs
  have streams := ledger.streams
  rw [held] at streams
  have sound : ∀ segment ∈ segments, segment.Sound later.handlers later := by
    intro segment member
    rw [same]
    refine (ledger.sound segment member).later (Nat.le_of_eq opened.symm) fun other number bound =>
      others other bound ?_
    rintro rfl
    exact ledger.stream_in_flight held segment member number
  cases ledger.standing with
  | idle free =>
    rw [held] at free
    cases free
  | buffered current loan pending held' =>
    rw [held] at held'
    cases held'
  | streaming current number feed first rest held' gathers delivered quiet bound fed =>
    rw [held] at held'
    cases held'
    have composes : Composes later.handlers family (first :: rest) entry := by
      rw [same]
      refine gathers.composes fun frame' other => ?_
      rw [brings] at other
      cases other
      exact .inl belongs
    have fedAll : (later.assembly.reader stream).Fed
        ((fragments family (first :: rest ++ [entry])).map Frame.payload) := by
      rw [fragments_append, fragment, List.map_append]
      exact feeds _ fed
    have silent : ∀ other ∈ rest ++ [entry], other.delivered = [] :=
      List.forall_mem_append.mpr ⟨quiet, List.forall_mem_singleton.mpr nothing⟩
    rcases slot with ⟨-, free⟩ | ⟨unfinished, feed, held⟩
    · refine ⟨segments ++ [.message (streamEvent family stream) (first :: rest ++ [entry])], [],
        ?_, ?_, .idle free, ?_⟩
      · rw [ledger.balanced]
        simp [Segment.entries]
      · have span : Segment.Sound later.handlers later
            (.message (streamEvent family stream) (first :: rest ++ [entry])) :=
          .streamed family (first :: rest) entry first (rest ++ [entry]) stream composes rfl
            delivered silent (by omega) fedAll
        exact List.forall_mem_append.mpr ⟨sound, List.forall_mem_singleton.mpr span⟩
      · rw [free, opened, ← streams]
        simp [Segment.stream?_streamEvent, Slot.stream?]
    · refine ⟨segments, first :: (rest ++ [entry]), ?_, sound,
        .streaming family stream feed first (rest ++ [entry]) held
          (composes.gathers calm (by simp [fragment, unfinished])) delivered silent (by omega)
          fedAll, ?_⟩
      · rw [ledger.balanced, List.append_assoc]
        rfl
      · rw [held, opened]
        exact streams

end Ledger

private theorem Accounted.advance {session later : Session σ τ} {entries : List (Entry σ ν τ)}
    {entry : Entry σ ν τ} (accounted : Accounted session entries) (coherent : session.Coherent)
    (same : later.handlers = session.handlers) (advance : Session.Advance entry session later) :
    Accounted later (entries ++ [entry]) := by
  obtain ⟨segments, pending, ledger⟩ := accounted
  cases advance with
  | skipped calm nothing slot apart readers opened =>
    rcases apart with idle | passes
    · exact ledger.lose same nothing (slot.trans (Slot.inFlight_eq_none.mp idle)) readers opened
    · exact ledger.skip coherent same calm nothing slot passes readers opened
  | lost nothing idle readers opened => exact ledger.lose same nothing idle readers opened
  | kept family frame extended brings awaits unfinished calm nothing slot bytes readers opened =>
    exact ledger.keep same brings awaits unfinished calm nothing slot bytes readers opened
  | completed family frame event brings awaits finished delivered content idle readers opened =>
    exact ledger.deliver same brings awaits finished delivered content idle readers opened
  | opened family frame brings idle opens delivered slot readers opened fed =>
    exact ledger.openStream same brings idle opens delivered slot readers opened fed
  | continued family frame stream feed brings held belongs calm nothing slot others opened fed =>
    exact ledger.continueStream same brings held belongs calm nothing slot others opened fed

namespace Session

private theorem deliveries_runTrace (host : Host σ ν τ) (session : Session σ τ)
    (operations : List (Operation σ τ)) :
    deliveries (session.runTrace host operations) =
      (session.history host operations).flatMap Entry.delivered := by
  rw [runTrace, deliveries, List.filterMap_flatMap]
  rfl

private theorem run_accounted (host : Host σ ν τ) (operations : List (Operation σ τ))
    {session : Session σ τ} (fresh : session.assembly.slot = .idle)
    (unopened : session.assembly.streams = []) :
    Accounted (session.run host operations) (session.history host operations) := by
  induction operations using List.reverseRecOn with
  | nil =>
    refine ⟨[], [], rfl, by simp, .idle fresh, ?_⟩
    rw [run_nil, fresh, unopened]
    rfl
  | append_singleton earlier operation ih =>
    have coherent := run_coherent host earlier (coherent_of_idle fresh)
    rw [run_append, history_append]
    exact ih.advance coherent (apply_handlers host operation coherent)
      (apply_advance host operation coherent)

end Session

/-- The history of every run falls into segments: gaps, and the spans of messages, each of which
accounts for an event. These events are all that is delivered, in order, and every stream is one of
them. -/
theorem deliveries_accounted (host : Host σ ν τ) (app : σ) (handlers : Handlers) (policy : Policy)
    (pool : Pool) (operations : List (Operation σ τ)) :
    let start : Session σ τ := .start app handlers policy pool
    let session := start.run host operations
    ∃ segments : List (Segment σ ν τ),
      start.history host operations = segments.flatMap Segment.entries ∧
      deliveries (start.runTrace host operations) = segments.filterMap Segment.event? ∧
      (∀ segment ∈ segments, segment.Sound handlers session) ∧
      segments.filterMap Segment.stream? = List.range session.assembly.streams.length := by
  intro start session
  have same : session.handlers = handlers :=
    Session.run_handlers host operations (Session.coherent_of_idle rfl)
  have accounted : Accounted session (start.history host operations) :=
    Session.run_accounted host operations rfl rfl
  obtain ⟨segments, pending, ledger⟩ := accounted
  obtain ⟨more, closes, sound, streams⟩ := ledger.standing.close
  have balanced : start.history host operations = (segments ++ more).flatMap Segment.entries := by
    rw [List.flatMap_append, closes]
    exact ledger.balanced
  have allSound : ∀ segment ∈ segments ++ more, segment.Sound handlers session := by
    intro segment member
    rw [← same]
    rcases List.mem_append.mp member with member | member
    · exact ledger.sound segment member
    · exact sound segment member
  refine ⟨segments ++ more, balanced, ?_, allSound, ?_⟩
  · rw [Session.deliveries_runTrace, balanced, Segment.delivered_of_sound allSound]
  · rw [List.filterMap_append, streams]
    exact ledger.streams

end WebSocketSession
