import Mathlib.Data.List.Forall2
import WebSocketSession.Proofs.StreamPair

/-!
# The ways of reading a stream piece by piece

A stream can be read without waiting, by waiting, and by polling. As long as no abort has been
reported these come to the same, whatever the state of the stream is: the same piece or the same end
signal, and the same state afterwards (`Reader.use_take`, `Reader.use_poll`). So the ways can be
mixed at will (`StreamPair.run_likewise`), and an attempt that found nothing yet leaves no trace
(`Reader.use_after_pending`). Once an abort has been reported, a read without waiting is told of it
again, and one that waits is at the end (`reading_styles_agree`).
-/

set_option autoImplicit false
set_option relaxedAutoImplicit false

namespace WebSocketSession

open Utf8

def ReadOutcome.waiting : ReadOutcome → ReadOutcome
  | .empty => .pending
  | .finished => .atEnd
  | .aborted => .failed .aborted
  | outcome => outcome

namespace TextStream

private theorem nextFrom_takeFrom (stream : TextStream) (carried : Bytes) (chunks : List Bytes) :
    ReadOutcome.ofPolled .text (stream.nextFrom carried chunks).1 =
        (ReadOutcome.ofTakenText (stream.takeFrom carried chunks).1).waiting ∧
      (stream.nextFrom carried chunks).2 = (stream.takeFrom carried chunks).2 := by
  induction chunks generalizing carried with
  | nil =>
    rw [nextFrom, takeFrom]
    cases stream.inner.writing with
    | live => exact ⟨rfl, rfl⟩
    | ended => cases carried <;> exact ⟨rfl, rfl⟩
    | aborted => exact ⟨rfl, rfl⟩
  | cons chunk rest ih =>
    rw [nextFrom, takeFrom]
    cases decode carried chunk with
    | error error => exact ⟨rfl, rfl⟩
    | ok result =>
      simp only
      split
      · exact ih result.2
      · exact ⟨rfl, rfl⟩

private theorem takeFrom_resumeAt (stream : TextStream) (unread : List Bytes)
    (other carried : Bytes)
    (chunks : List Bytes) :
    (stream.resumeAt unread other).takeFrom carried chunks = stream.takeFrom carried chunks := by
  induction chunks generalizing carried with
  | nil => rfl
  | cons chunk rest ih =>
    rw [takeFrom, takeFrom]
    cases decode carried chunk with
    | error error => rfl
    | ok result =>
      simp only
      split
      · exact ih result.2
      · rfl

private theorem eq_invalid_of_decode {carried chunk : Bytes} {error : StreamError}
    (decoded : decode carried chunk = .error error) : error = .invalidUtf8 := by
  unfold decode at decoded
  simp only at decoded
  split at decoded
  · cases decoded
    rfl
  · split at decoded <;> cases decoded
    rfl

theorem decode_nothing {carried chunk tail : Bytes} {text : String}
    (decoded : decode carried chunk = .ok (text, tail)) (nothing : text.isEmpty = true) :
    tail = carried ++ chunk := by
  unfold decode at decoded
  simp only at decoded
  split at decoded
  · cases decoded
  · rename_i length whole
    split at decoded
    · rename_i found read
      cases decoded
      have before : (carried ++ chunk).take length = [] := by
        rw [← decode_eq_some_iff.mp read, String.isEmpty_iff.mp nothing]
        rfl
      have parts := List.take_append_drop length (carried ++ chunk)
      rwa [before, List.nil_append] at parts
    · cases decoded

private theorem nextFrom_pending {stream later : TextStream} {carried : Bytes} {chunks : List Bytes}
    (pending : stream.nextFrom carried chunks = (.pending, later)) :
    later = stream.resumeAt [] (carried ++ chunks.flatten) ∧
      ∀ (other : TextStream) (more : List Bytes),
        other.nextFrom carried (chunks ++ more) =
            other.nextFrom (carried ++ chunks.flatten) more ∧
          other.takeFrom carried (chunks ++ more) =
            other.takeFrom (carried ++ chunks.flatten) more := by
  induction chunks generalizing carried with
  | nil =>
    rw [nextFrom] at pending
    rw [List.flatten_nil, List.append_nil]
    refine ⟨?_, fun other more => ⟨rfl, rfl⟩⟩
    cases writes : stream.inner.writing with
    | live =>
      rw [writes] at pending
      exact (congrArg Prod.snd pending).symm
    | _ =>
      rw [writes] at pending
      cases congrArg Prod.fst pending
  | cons chunk rest ih =>
    rw [nextFrom] at pending
    cases decoded : decode carried chunk with
    | error error =>
      rw [decoded] at pending
      cases congrArg Prod.fst pending
    | ok result =>
      obtain ⟨text, tail⟩ := result
      simp only [decoded] at pending
      split at pending
      · rename_i nothing
        cases decode_nothing decoded nothing
        obtain ⟨stands, goesOn⟩ := ih pending
        rw [List.flatten_cons, ← List.append_assoc]
        refine ⟨stands, fun other more => ?_⟩
        rw [List.cons_append, nextFrom, takeFrom, decoded]
        simp only [nothing, if_true]
        exact goesOn other more
      · cases congrArg Prod.fst pending

private theorem takeFrom_aborted {stream : TextStream} {carried : Bytes} {chunks : List Bytes}
    (reports :
      Reading.reportsAbort ⟨.take, .ofTakenText (stream.takeFrom carried chunks).1⟩ = true) :
    (stream.takeFrom carried chunks).2 = stream.aborted := by
  induction chunks generalizing carried with
  | nil =>
    rw [takeFrom] at reports ⊢
    cases writes : stream.inner.writing with
    | live =>
      rw [writes] at reports
      cases reports
    | ended =>
      rw [writes] at reports
      cases carried <;> cases reports
    | aborted => rfl
  | cons chunk rest ih =>
    rw [takeFrom] at reports ⊢
    cases decoded : decode carried chunk with
    | error error =>
      rw [decoded, eq_invalid_of_decode decoded] at reports
      cases reports
    | ok result =>
      obtain ⟨text, tail⟩ := result
      simp only [decoded] at reports ⊢
      split at reports
      · rename_i nothing
        rw [if_pos nothing]
        exact ih reports
      · cases reports

end TextStream

namespace Reader

def abortSeen : Reader → Bool
  | .bytes stream => stream.abortSeen
  | .text stream => stream.inner.abortSeen
  | .gone => false

theorem use_poll (reader : Reader) : reader.use .poll = reader.use .next := by
  cases reader with
  | bytes stream => simp only [use, stream.poll_eq_next]
  | text stream => simp only [use, stream.poll_eq_next]
  | gone => rfl

theorem use_take {reader : Reader} (fresh : reader.abortSeen = false) :
    (reader.use .take).map (fun answer => (answer.1.waiting, answer.2)) = reader.use .next := by
  cases reader with
  | gone => rfl
  | bytes stream =>
    have unseen : stream.abortSeen = false := fresh
    simp only [use, MessageStream.take, MessageStream.next, unseen, Option.map_some]
    cases stream.unread with
    | cons chunk rest => rfl
    | nil => cases stream.writing <;> rfl
  | text stream =>
    have unseen : stream.inner.abortSeen = false := fresh
    obtain ⟨found, state⟩ := stream.nextFrom_takeFrom stream.carried stream.inner.unread
    simp only [use, TextStream.take, TextStream.next, unseen, Option.map_some, Bool.false_eq_true,
      if_false, found, state]

private theorem use_take_of_seen {reader : Reader} (seen : reader.abortSeen = true) :
    ∃ first second later, reader.use .take = some (first, later) ∧
      reader.use .next = some (second, later) ∧
      Reading.chunk? ⟨.take, first⟩ = none ∧ Reading.chunk? ⟨.next, second⟩ = none := by
  cases reader with
  | gone => cases seen
  | bytes stream =>
    have seen : stream.abortSeen = true := seen
    simp only [use, MessageStream.take, MessageStream.next, seen, if_true]
    exact ⟨_, _, _, rfl, rfl, rfl, rfl⟩
  | text stream =>
    have seen : stream.inner.abortSeen = true := seen
    simp only [use, TextStream.take, TextStream.next, seen, if_true]
    refine ⟨_, _, _, rfl, rfl, rfl, ?_⟩
    cases stream.carried <;> rfl

private theorem use_probe (reader : Reader) {style : ReadStyle} (probes : style.probes = true) :
    (reader.use style).map (fun answer => (Reading.chunk? ⟨style, answer.1⟩, answer.2)) =
      (reader.use .next).map fun answer => (Reading.chunk? ⟨.next, answer.1⟩, answer.2) := by
  cases style with
  | next => rfl
  | poll =>
    rw [use_poll]
    rfl
  | take =>
    cases seen : reader.abortSeen with
    | false =>
      rw [← use_take seen, Option.map_map]
      congr 1
      funext ⟨outcome, later⟩
      cases outcome <;> rfl
    | true =>
      obtain ⟨first, second, later, take, next, none, nothing⟩ := use_take_of_seen seen
      rw [take, next, Option.map_some, Option.map_some, none, nothing]
  | _ => cases probes

end Reader

/-- The moves are the same, up to the way in which the next piece is looked for. -/
inductive StreamMove.Alike : StreamMove → StreamMove → Prop where
  | same (move : StreamMove) : Alike move move
  | read {style other : ReadStyle} (probes : style.probes = true) (also : other.probes = true) :
    Alike (.read style) (.read other)

namespace StreamPair

/-- The pairs are in the same state, and their readers have been handed out the same pieces. -/
structure Likewise (first second : StreamPair) : Prop where
  feed : first.feed = second.feed
  reader : first.reader = second.reader
  pieces : first.readings.map Reading.chunk? = second.readings.map Reading.chunk?

private theorem Likewise.refl (pair : StreamPair) : pair.Likewise pair := ⟨rfl, rfl, rfl⟩

private theorem Likewise.read {first second : StreamPair} (same : first.Likewise second)
    {style other : ReadStyle}
    (agree : (first.reader.use style).map (fun answer =>
        (Reading.chunk? ⟨style, answer.1⟩, answer.2)) =
      (first.reader.use other).map fun answer => (Reading.chunk? ⟨other, answer.1⟩, answer.2)) :
    (first.move (.read style)).Likewise (second.move (.read other)) := by
  obtain ⟨feed, reader, pieces⟩ := same
  rw [move, move, ← reader]
  cases used : first.reader.use style with
  | none =>
    rw [used, Option.map_none] at agree
    rw [Option.map_eq_none_iff.mp agree.symm]
    exact ⟨feed, reader, pieces⟩
  | some answer =>
    rw [used, Option.map_some] at agree
    obtain ⟨found, use, answers⟩ := Option.map_eq_some_iff.mp agree.symm
    obtain ⟨piece, state⟩ := Prod.mk.inj answers
    rw [use]
    refine ⟨feed, state.symm, ?_⟩
    simp only [List.map_append, List.map_cons, List.map_nil, pieces, piece]

private theorem Likewise.move {first second : StreamPair} (same : first.Likewise second)
    {move other : StreamMove} (alike : move.Alike other) :
    (first.move move).Likewise (second.move other) := by
  cases alike with
  | read probes also =>
    exact same.read ((first.reader.use_probe probes).trans (first.reader.use_probe also).symm)
  | same =>
    obtain ⟨feed, reader, pieces⟩ := id same
    cases move with
    | read style => exact same.read rfl
    | append payload =>
      simp only [StreamPair.move, ← feed, ← reader]
      cases first.feed with
      | none => exact ⟨feed, reader, pieces⟩
      | some held => exact ⟨rfl, rfl, pieces⟩
    | _ =>
      simp only [StreamPair.move, endBy, ← feed, ← reader]
      cases first.feed with
      | none => exact ⟨feed, reader, pieces⟩
      | some held => exact ⟨rfl, rfl, pieces⟩

/-- Runs that read in different ways hand out the same pieces, reading by reading. -/
theorem run_likewise {moves others : List StreamMove}
    (alike : List.Forall₂ StreamMove.Alike moves others) {first second : StreamPair}
    (same : first.Likewise second) : (first.run moves).Likewise (second.run others) := by
  induction alike generalizing first second with
  | nil => exact same
  | cons step _ ih => exact ih (same.move step)

end StreamPair

namespace MessageStream

private theorem push_eq_withUnread (stream : MessageStream) (payload : Bytes) :
    stream.push payload = stream.withUnread (stream.unread ++ Reader.filled [payload]) := by
  cases payload <;> simp [push, withUnread, unread, Reader.filled]

private theorem foldl_push (stream : MessageStream) (payloads : List Bytes) :
    payloads.foldl push stream = stream.withUnread (stream.unread ++ Reader.filled payloads) := by
  induction payloads generalizing stream with
  | nil => simp [withUnread, unread, Reader.filled]
  | cons payload rest ih =>
    rw [List.foldl_cons, ih, push_eq_withUnread, unread_withUnread, List.append_assoc,
      ← Reader.filled_append]
    rfl

end MessageStream

private theorem ReadOutcome.ofPolled_eq_pending {α : Type} {wrap : α → Chunk}
    {polled : Polled (Option (Except StreamError α))}
    (pending : ReadOutcome.ofPolled wrap polled = .pending) : polled = .pending := by
  cases polled with
  | pending => rfl
  | ready value => rcases value with _ | _ | _ <;> cases pending

private theorem MessageStream.next_pending {stream : MessageStream}
    (pending : stream.next.1 = .pending) : stream.next.2 = stream := by
  rw [next] at pending ⊢
  split at pending
  · cases pending
  · rename_i fresh
    rw [if_neg fresh]
    split at pending
    · cases pending
    · rfl
    · cases pending
    · cases pending

namespace TextStream

private theorem next_pending {stream : TextStream} (pending : stream.next.1 = .pending) :
    stream.inner.abortSeen = false ∧
      stream.nextFrom stream.carried stream.inner.unread = (.pending, stream.next.2) := by
  rw [next] at pending ⊢
  split at pending
  · cases pending
  · rename_i fresh
    rw [if_neg fresh]
    exact ⟨Bool.eq_false_iff.mpr fresh, Prod.ext pending rfl⟩

private theorem read_resumeAt {stream : TextStream} {more : List Bytes} {carried : Bytes}
    (fresh : stream.inner.abortSeen = false)
    (goesOn : stream.nextFrom stream.carried stream.inner.unread = stream.nextFrom carried more ∧
      stream.takeFrom stream.carried stream.inner.unread = stream.takeFrom carried more) :
    (stream.resumeAt more carried).next = stream.next ∧
      (stream.resumeAt more carried).take = stream.take := by
  have left : (stream.resumeAt more carried).inner.unread = more :=
    stream.inner.unread_withUnread more
  have still : (stream.resumeAt more carried).inner.abortSeen = false := fresh
  have held : (stream.resumeAt more carried).carried = carried := rfl
  rw [next, next, take, take, still, fresh, left, held, nextFrom_resumeAt, takeFrom_resumeAt,
    goesOn.1, goesOn.2]
  exact ⟨rfl, rfl⟩

end TextStream

namespace Reader

/-- The reader after more has been written to its stream, and the writing side then stands so. -/
def after (payloads : List Bytes) (writing : Writing) (reader : Reader) : Reader :=
  reader.mapStream fun stream => (payloads.foldl MessageStream.push stream).withWriting writing

/-- An attempt that found nothing yet leaves no trace: what remains is what remained, and whatever
is written next, it is read as if the attempt had not been made. -/
theorem use_after_pending {reader later : Reader}
    (pending : reader.use .next = some (.pending, later)) :
    later.remaining = reader.remaining ∧
      ∀ payloads writing style, style.probes = true →
        (later.after payloads writing).use style = (reader.after payloads writing).use style := by
  cases reader with
  | gone => cases pending
  | bytes stream =>
    obtain ⟨outcome, rfl⟩ := Prod.mk.inj (Option.some.inj pending)
    rw [MessageStream.next_pending (ReadOutcome.ofPolled_eq_pending outcome)]
    exact ⟨rfl, fun _ _ _ _ => rfl⟩
  | text stream =>
    obtain ⟨outcome, rfl⟩ := Prod.mk.inj (Option.some.inj pending)
    obtain ⟨fresh, searched⟩ := TextStream.next_pending (ReadOutcome.ofPolled_eq_pending outcome)
    obtain ⟨stands, goesOn⟩ := TextStream.nextFrom_pending searched
    rw [stands]
    refine ⟨remaining_resumeAt_nil stream _, fun payloads writing style probes => ?_⟩
    let written : TextStream :=
      ⟨(payloads.foldl MessageStream.push stream.inner).withWriting writing, stream.carried⟩
    let tail := stream.carried ++ stream.inner.unread.flatten
    -- Both have the same chunks to read, but for those that the attempt has carried over.
    have line : written.inner.unread = stream.inner.unread ++ filled payloads := by
      simp only [written, MessageStream.foldl_push]
      exact stream.inner.unread_withUnread _
    have resumed : (Reader.text (stream.resumeAt [] tail)).after payloads writing =
        .text (written.resumeAt (filled payloads) tail) := by
      simp only [after, mapStream, written, TextStream.resumeAt, MessageStream.foldl_push,
        MessageStream.unread_withUnread, List.nil_append]
      rfl
    have still : written.inner.abortSeen = false := by
      simp only [written, MessageStream.foldl_push]
      exact fresh
    obtain ⟨next, take⟩ : (written.resumeAt (filled payloads) tail).next = written.next ∧
        (written.resumeAt (filled payloads) tail).take = written.take := by
      refine TextStream.read_resumeAt still ?_
      rw [line]
      exact goesOn written (filled payloads)
    rw [resumed]
    change _ = (Reader.text written).use style
    cases style with
    | take => simp only [use, take]
    | next => simp only [use, next]
    | poll =>
      rw [use_poll, use_poll]
      simp only [use, next]
    | _ => cases probes

def AfterAbort : Reader → Prop
  | .bytes stream => stream.abortSeen = true
  | .text stream => stream.inner.abortSeen = true ∧ stream.carried = []
  | .gone => False

/-- What the ways of looking for the next piece are told after the report of an abort. -/
def abortAnswer (reader : Reader) : ReadStyle → ReadOutcome
  | .take => if reader.isText then .failed .aborted else .aborted
  | _ => .atEnd

theorem AfterAbort.use {reader : Reader} (after : reader.AfterAbort) {style : ReadStyle}
    (probes : style.probes = true) :
    reader.use style = some (reader.abortAnswer style, reader) := by
  suffices reader.use .take = some (reader.abortAnswer .take, reader) ∧
      reader.use .next = some (.atEnd, reader) by
    cases style with
    | take => exact this.1
    | next => exact this.2
    | poll => exact (use_poll reader).trans this.2
    | _ => cases probes
  cases reader with
  | gone => exact after.elim
  | bytes stream =>
    have seen : stream.abortSeen = true := after
    simp [Reader.use, MessageStream.take, MessageStream.next, seen, abortAnswer, isText,
      ReadOutcome.ofTaken, ReadOutcome.ofPolled]
  | text stream =>
    obtain ⟨inner, carried⟩ := stream
    obtain ⟨seen, rfl⟩ : inner.abortSeen = true ∧ carried = [] := after
    simp [Reader.use, TextStream.take, TextStream.next, seen, abortAnswer, isText,
      TextStream.atEnd, TextStream.finish, ReadOutcome.ofTakenText, ReadOutcome.ofPolled]

private theorem afterAbort_of_take {reader later : Reader} {outcome : ReadOutcome}
    (use : reader.use .take = some (outcome, later))
    (reports : Reading.reportsAbort ⟨.take, outcome⟩ = true) :
    later.AfterAbort := by
  cases reader with
  | gone => cases use
  | bytes stream =>
    cases use
    simp only [MessageStream.take] at reports ⊢
    split at reports
    · rename_i seen
      rw [if_pos seen]
      exact seen
    · rename_i fresh
      rw [if_neg fresh]
      split at reports
      · cases reports
      · cases reports
      · cases reports
      · rfl
  | text stream =>
    cases use
    simp only [TextStream.take] at reports ⊢
    split at reports
    · rename_i seen
      rw [if_pos seen]
      exact ⟨seen, rfl⟩
    · rename_i fresh
      rw [if_neg fresh, TextStream.takeFrom_aborted reports]
      exact ⟨rfl, rfl⟩

private theorem not_reportsAbort_of_seen {reader later : Reader} {outcome : ReadOutcome}
    (seen : reader.abortSeen = true) (use : reader.use .next = some (outcome, later)) :
    Reading.reportsAbort ⟨.next, outcome⟩ = false := by
  cases reader with
  | gone => cases use
  | bytes stream =>
    have seen : stream.abortSeen = true := seen
    cases use
    simp only [MessageStream.next, seen, if_true]
    rfl
  | text stream =>
    have seen : stream.inner.abortSeen = true := seen
    cases use
    simp only [TextStream.next, seen, if_true]
    cases stream.carried <;> rfl

private theorem afterAbort_of_next {reader later : Reader} {outcome : ReadOutcome}
    (use : reader.use .next = some (outcome, later))
    (reports : Reading.reportsAbort ⟨.next, outcome⟩ = true) :
    later.AfterAbort := by
  cases seen : reader.abortSeen with
  | true =>
    rw [not_reportsAbort_of_seen seen use] at reports
    cases reports
  | false =>
    -- Not waiting would have been told of the abort as well, and left the same state.
    rw [← use_take seen] at use
    obtain ⟨⟨told, state⟩, take, same⟩ := Option.map_eq_some_iff.mp use
    cases same
    refine afterAbort_of_take take ?_
    cases told with
    | aborted => rfl
    | failed error => exact reports
    | _ => cases reports

private theorem afterAbort_of_use {reader later : Reader} {style : ReadStyle}
    {outcome : ReadOutcome}
    (probes : style.probes = true) (use : reader.use style = some (outcome, later))
    (reports : Reading.reportsAbort ⟨style, outcome⟩ = true) :
    later.AfterAbort := by
  cases style with
  | take => exact afterAbort_of_take use reports
  | next => exact afterAbort_of_next use reports
  | poll => exact afterAbort_of_next ((use_poll reader).symm.trans use) reports
  | _ => cases probes

private theorem AfterAbort.reads {reader last : Reader} {readings : List Reading}
    (after : reader.AfterAbort) (reads : reader.Reads readings last)
    (probes : ∀ reading ∈ readings, reading.style.probes = true) :
    ∀ reading ∈ readings, reading.outcome = reader.abortAnswer reading.style := by
  induction reads with
  | nil => nofun
  | cons style outcome use _ ih =>
    obtain ⟨first, others⟩ := List.forall_mem_cons.mp probes
    have first : style.probes = true := first
    rw [after.use first] at use
    obtain ⟨rfl, rfl⟩ := Prod.mk.inj (Option.some.inj use)
    exact List.forall_mem_cons.mpr ⟨rfl, ih after others⟩

private theorem AfterAbort.intoText {reader made : Reader} {outcome : ReadOutcome}
    (after : reader.AfterAbort) (becomes : reader.use .intoText = some (outcome, made)) :
    made.AfterAbort := by
  cases reader with
  | gone => exact after.elim
  | bytes stream =>
    cases becomes
    exact ⟨after, rfl⟩
  | text stream =>
    cases becomes
    exact after

end Reader

/-- The ways of looking for the next piece agree in every state of a reader in which no abort has
been reported, and can be mixed in every state. An attempt that found nothing yet leaves no trace.
After the report of an abort, reads without waiting are told of it for ever, and all others are at
the end, also if the reader is made one of text only then. -/
theorem reading_styles_agree (reader : Reader) :
    (reader.abortSeen = false →
      (reader.use .take).map (fun answer => (answer.1.waiting, answer.2)) = reader.use .next ∧
        reader.use .poll = reader.use .next) ∧
    (∀ feed readings moves others, List.Forall₂ StreamMove.Alike moves others →
      (StreamPair.run ⟨feed, reader, readings⟩ moves).Likewise
        (StreamPair.run ⟨feed, reader, readings⟩ others)) ∧
    (∀ later, reader.use .next = some (.pending, later) →
      later.remaining = reader.remaining ∧
        ∀ payloads writing style, style.probes = true →
          (later.after payloads writing).use style = (reader.after payloads writing).use style) ∧
    ∀ style outcome later, style.probes = true → reader.use style = some (outcome, later) →
      Reading.reportsAbort ⟨style, outcome⟩ = true →
        ∀ made, made = later ∨ later.use .intoText = some (.quiet, made) →
          ∀ readings last, made.Reads readings last →
            (∀ reading ∈ readings, reading.style.probes = true) →
              ∀ reading ∈ readings, reading.outcome = made.abortAnswer reading.style := by
  refine ⟨fun fresh => ⟨Reader.use_take fresh, reader.use_poll⟩, ?_, ?_, ?_⟩
  · intro feed readings moves others alike
    exact StreamPair.run_likewise alike (.refl _)
  · exact fun later pending => Reader.use_after_pending pending
  · intro style outcome later probes use reports made becomes readings last reads all
    have after := Reader.afterAbort_of_use probes use reports
    have made : made.AfterAbort := by
      rcases becomes with rfl | becomes
      · exact after
      · exact after.intoText becomes
    exact made.reads reads all

/-- A message that is cut short inside a character: whoever has been told of that by polling is told
so again by reads without waiting, and is at the end for all others. -/
theorem cut_character_reported :
    let reader : Reader := .text ⟨⟨[], .aborted, false⟩, [0xE2]⟩
    let later : Reader := .text ⟨⟨[], .aborted, true⟩, []⟩
    let readings : List Reading := [⟨.next, .atEnd⟩, ⟨.take, .failed .aborted⟩, ⟨.poll, .atEnd⟩]
    reader.use .poll = some (.failed .aborted, later) ∧ later.Reads readings later ∧
      ∀ reading ∈ readings, reading.outcome = later.abortAnswer reading.style := by
  intro reader later readings
  have use : reader.use .poll = some (.failed .aborted, later) := by decide +kernel
  have next : later.use .next = some (.atEnd, later) := by decide +kernel
  have take : later.use .take = some (.failed .aborted, later) := by decide +kernel
  have poll : later.use .poll = some (.atEnd, later) := by decide +kernel
  have reads : later.Reads readings later :=
    .cons _ _ next (.cons _ _ take (.cons _ _ poll (.nil later)))
  exact ⟨use, reads, (reading_styles_agree reader).2.2.2 .poll (.failed .aborted) later rfl use rfl
    later (.inl rfl) readings later reads (by decide)⟩

end WebSocketSession
