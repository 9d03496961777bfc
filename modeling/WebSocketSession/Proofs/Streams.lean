import WebSocketSession.Proofs.Run

/-!
# What streams have been fed

`Reader.Fed payloads reader` says that a reader has come from a new stream by the payloads being
written to it, in this order, with whatever its application did with it in between. Every operation
keeps that for every stream but the one in flight (`ReadersKept`), and a fragment adds its payload
to that one.
-/

set_option autoImplicit false
set_option relaxedAutoImplicit false

namespace WebSocketSession

variable {σ τ : Type}

/-- A reader to whose stream these payloads have been written, and nothing else. -/
inductive Reader.Fed : List Bytes → Reader → Prop where
  | opened : Fed [] (.bytes .opened)
  | written {payloads : List Bytes} {reader : Reader} (payload : Bytes)
      (fed : Fed payloads reader) :
      Fed (payloads ++ [payload]) (reader.mapStream (·.push payload))
  | used {payloads : List Bytes} {reader later : Reader} (style : ReadStyle) (outcome : ReadOutcome)
      (fed : Fed payloads reader) (use : reader.use style = some (outcome, later)) :
      Fed payloads later
  | ended {payloads : List Bytes} {reader : Reader} (writing : Writing)
      (fed : Fed payloads reader) :
      Fed payloads (reader.mapStream (·.withWriting writing))

theorem Reader.Fed.of_used {payloads : List Bytes} {reader later : Reader}
    (fed : reader.Fed payloads) (used : reader.Used later) : later.Fed payloads := by
  induction used with
  | refl => exact fed
  | tail _ step ih =>
    obtain ⟨style, outcome, use⟩ := step
    exact .used style outcome ih use

/-- Writing an empty payload does nothing, and that is all that skipping it does. -/
theorem Feed.append_reader (feed : Feed) (payload : Bytes) (reader : Reader) :
    (feed.append payload reader).2.1 = reader.mapStream (·.push payload) := by
  unfold append
  split
  · rename_i nothing
    cases reader <;> simp [Reader.mapStream, MessageStream.push, nothing]
  · rfl

namespace Session

structure ReadersKept (session later : Session σ τ) : Prop where
  opened : session.assembly.streams.length ≤ later.assembly.streams.length
  fed : ∀ stream < session.assembly.streams.length, ∀ payloads,
    (session.assembly.reader stream).Fed payloads → (later.assembly.reader stream).Fed payloads

theorem ReadersKept.refl (session : Session σ τ) : session.ReadersKept session :=
  ⟨Nat.le_refl _, fun _ _ _ fed => fed⟩

theorem ReadersKept.trans {session later last : Session σ τ} (first : session.ReadersKept later)
    (second : later.ReadersKept last) : session.ReadersKept last where
  opened := Nat.le_trans first.opened second.opened
  fed stream bound payloads fed :=
    second.fed stream (Nat.lt_of_lt_of_le bound first.opened) payloads
      (first.fed stream bound payloads fed)

theorem Reacted.readersKept {session later : Session σ τ} (h : session.Reacted later) :
    session.ReadersKept later where
  opened := Nat.le_of_eq h.opened.symm
  fed stream _ _ fed := fed.of_used (h.readers stream)

theorem readersKept_of_streams {session later : Session σ τ}
    (same : later.assembly.streams = session.assembly.streams) : session.ReadersKept later where
  opened := Nat.le_of_eq (congrArg List.length same.symm)
  fed stream _ payloads fed := by
    rw [Assembly.reader, same]
    exact fed

theorem reader_set (assembly : Assembly) (stream other : Nat) (reader : Reader) :
    (assembly.streams.set stream reader)[other]?.getD .gone =
      if stream = other ∧ stream < assembly.streams.length then reader
      else assembly.reader other := by
  rw [List.getElem?_set, Assembly.reader]
  by_cases same : stream = other
  · subst same
    by_cases bound : stream < assembly.streams.length
    · simp [bound]
    · simp [bound]
  · simp [same]

theorem settled_readersKept (session : Session σ τ) : session.ReadersKept session.settled := by
  cases held : session.assembly.slot with
  | idle => exact readersKept_of_streams (by simp [settled, Assembly.abandoned, held])
  | buffered family loan =>
    exact readersKept_of_streams (by simp [settled, Assembly.abandoned, held])
  | streaming family stream feed =>
    refine ⟨by simp [settled, Assembly.abandoned, held], fun other bound payloads fed => ?_⟩
    simp only [settled, Assembly.abandoned, held]
    rw [Assembly.reader, reader_set]
    split
    · rename_i same
      rw [same.1]
      exact .ended .aborted fed
    · exact fed

private theorem streams_fed (family : Family) (frame : Frame) (session : Session σ τ) :
    ∃ reader : Reader,
      (session.fed family frame).assembly.streams =
        session.assembly.channel.streams.set session.assembly.channel.stream reader ∧
      ∀ payloads,
        (session.assembly.channel.streams[session.assembly.channel.stream]?.getD .gone).Fed
          payloads → reader.Fed (payloads ++ [frame.payload]) := by
  unfold fed Assembly.written
  split
  · refine ⟨_, rfl, fun payloads fed => ?_⟩
    rw [Feed.finish, Feed.append_reader]
    exact .ended .ended (.written frame.payload fed)
  · refine ⟨_, rfl, fun payloads fed => ?_⟩
    rw [Feed.append_reader]
    exact .written frame.payload fed

/-- The first fragment of a streamed message opens a stream, and the stream has been fed that
fragment. -/
theorem fed_of_idle {session : Session σ τ} (family : Family) (frame : Frame)
    (idle : session.assembly.slot = .idle) :
    (session.fed family frame).assembly.streams.length = session.assembly.streams.length + 1 ∧
      session.ReadersKept (session.fed family frame) ∧
      ((session.fed family frame).assembly.reader session.assembly.streams.length).Fed
        [frame.payload] := by
  obtain ⟨reader, streams, fed⟩ := session.streams_fed family frame
  have channel : session.assembly.channel = ⟨session.assembly.streams.length, .opened,
      session.assembly.streams ++ [.bytes .opened]⟩ := by
    rw [Assembly.channel, idle]
  simp only [channel, List.getElem?_concat_length, Option.getD_some] at streams fed
  have length : (session.fed family frame).assembly.streams.length =
      session.assembly.streams.length + 1 := by
    rw [streams, List.length_set, List.length_append, List.length_singleton]
  refine ⟨length, ⟨by omega, fun stream bound payloads fed => ?_⟩, ?_⟩
  · rw [Assembly.reader, streams, List.getElem?_set_ne (Nat.ne_of_gt bound),
      List.getElem?_append_left bound]
    exact fed
  · rw [Assembly.reader, streams, List.getElem?_set_self (by simp)]
    exact fed [] .opened

theorem fed_of_streaming {session : Session σ τ} {current : Family} {stream : Nat} {feed : Feed}
    (family : Family) (frame : Frame)
    (held : session.assembly.slot = .streaming current stream feed)
    (bound : stream < session.assembly.streams.length) :
    (session.fed family frame).assembly.streams.length = session.assembly.streams.length ∧
      (∀ other, other ≠ stream →
        (session.fed family frame).assembly.reader other = session.assembly.reader other) ∧
      ∀ payloads, (session.assembly.reader stream).Fed payloads →
        ((session.fed family frame).assembly.reader stream).Fed (payloads ++ [frame.payload]) := by
  obtain ⟨reader, streams, fed⟩ := session.streams_fed family frame
  have channel : session.assembly.channel = ⟨stream, feed, session.assembly.streams⟩ := by
    rw [Assembly.channel, held]
  simp only [channel] at streams fed
  refine ⟨by rw [streams, List.length_set], fun other different => ?_, fun payloads before => ?_⟩
  · rw [Assembly.reader, streams, List.getElem?_set_ne different.symm, Assembly.reader]
  · rw [Assembly.reader, streams, List.getElem?_set_self bound]
    exact fed payloads before

end Session

end WebSocketSession
