import WebSocketSession.Proofs.Utf8
import WebSocketSession.Stream.Text

/-!
# Text read from chunks

What is carried from one chunk to the next is always the start of a character (`Carriable`), so
that decoding chunk by chunk is decoding the concatenation (`TextStream.decode_eq`). `scan` is the
search for the next text that every way of reading makes; `TextStream.Scans` says what it finds,
and `gather_eq` what reading everything comes to.
-/

set_option autoImplicit false
set_option relaxedAutoImplicit false

namespace WebSocketSession

namespace Utf8

namespace Decoding

theorem feedAll_latest (latest : List Char) (carried bytes : Bytes) :
    feedAll ⟨latest, carried⟩ bytes =
      ((resume carried).feedAll bytes).map fun d => ⟨d.latest ++ latest, d.carried⟩ := by
  suffices general : ∀ d : Decoding,
      feedAll ⟨d.latest ++ latest, d.carried⟩ bytes =
        (d.feedAll bytes).map fun d => ⟨d.latest ++ latest, d.carried⟩ from
    general (resume carried)
  induction bytes with
  | nil => exact fun d => rfl
  | cons b rest ih =>
    intro d
    have split (e : Decoding) : e.feedAll (b :: rest) = (e.feed b).bind (·.feedAll rest) := rfl
    rw [split, split]
    unfold feed
    cases classify (d.carried ++ [b]) with
    | whole c => exact ih ⟨c :: d.latest, []⟩
    | unfinished => exact ih ⟨d.latest, d.carried ++ [b]⟩
    | malformed => rfl

private theorem text_append (latest : List Char) (d : Decoding) :
    text ⟨d.latest ++ latest, d.carried⟩ = text ⟨latest, []⟩ ++ d.text := by
  simp [text, String.ofList_append]

end Decoding

def Carriable (carried : Bytes) : Prop :=
  (Decoding.resume []).feedAll carried = some (.resume carried)

theorem carriable_nil : Carriable [] := rfl

namespace Carriable

variable {carried : Bytes}

theorem feedAll_append (carriable : Carriable carried) (bytes : Bytes) :
    (Decoding.resume []).feedAll (carried ++ bytes) = (Decoding.resume carried).feedAll bytes := by
  rw [Decoding.feedAll_append, carriable]
  rfl

private theorem feed (carriable : Carriable carried) {latest : List Char} {b : UInt8} {d : Decoding}
    (fed : Decoding.feed ⟨latest, carried⟩ b = some d) : Carriable d.carried := by
  unfold Decoding.feed at fed
  split at fed
  · cases fed
    exact carriable_nil
  · rename_i unfinished
    cases fed
    have again : (Decoding.resume carried).feed b = some (.resume (carried ++ [b])) := by
      unfold Decoding.feed
      rw [Decoding.resume, unfinished]
      rfl
    rw [Carriable, carriable.feedAll_append, Decoding.feedAll, List.foldlM_cons, again]
    rfl
  · cases fed

theorem feedAll (carriable : Carriable carried) {latest : List Char} {bytes : Bytes}
    {d : Decoding} (fed : Decoding.feedAll ⟨latest, carried⟩ bytes = some d) :
    Carriable d.carried := by
  induction bytes generalizing latest carried with
  | nil =>
    cases fed
    exact carriable
  | cons b rest ih =>
    obtain ⟨next, first, others⟩ := Option.bind_eq_some_iff.mp fed
    exact ih (carriable.feed first) others

theorem encode_feedAll {bytes : Bytes} {d : Decoding}
    (fed : (Decoding.resume carried).feedAll bytes = some d) :
    carried ++ bytes = encode d.text ++ d.carried := by
  have accounted := Decoding.encode_feedAll fed
  rw [accounted]
  rfl

end Carriable

theorem not_text_of_malformed {bytes : Bytes}
    (malformed : (Decoding.resume []).feedAll bytes = none) (more : Bytes) (text : String) :
    encode text ≠ bytes ++ more := by
  intro same
  have decoded : decode (bytes ++ more) = some text := decode_eq_some_iff.mpr same
  rw [decode, Decoding.feedAll_append, malformed] at decoded
  cases decoded

theorem decode_of_carried {bytes : Bytes} {d : Decoding}
    (fed : (Decoding.resume []).feedAll bytes = some d) (some : d.carried ≠ []) :
    decode bytes = none := by
  rw [decode, fed]
  simp [some]

end Utf8

namespace TextStream

open Utf8

theorem decode_eq {carried : Bytes} (carriable : Carriable carried) (chunk : Bytes) :
    decode carried chunk =
      match (Decoding.resume carried).feedAll chunk with
      | none => .error .invalidUtf8
      | some d => .ok (d.text, d.carried) := by
  have again := carriable.feedAll_append chunk
  cases fed : (Decoding.resume carried).feedAll chunk with
  | none => simp [decode, wholeLength, again, fed]
  | some d =>
    have accounted := Carriable.encode_feedAll fed
    have whole : (carried ++ chunk).length - d.carried.length = (encode d.text).length := by
      rw [accounted, List.length_append, Nat.add_sub_cancel]
    simp only [decode, wholeLength, again, fed, Option.map_some, whole]
    rw [accounted, List.take_left, List.drop_left, decode_eq_some_iff.mpr rfl]

/-- What a search for the next text finds: a text, a malformed chunk, or the end of the chunks. -/
inductive Scanned where
  | text (text : String) (rest : List Bytes) (tail : Bytes)
  | malformed (rest : List Bytes)
  | dry (tail : Bytes)

def scan (carried : Bytes) : List Bytes → Scanned
  | [] => .dry carried
  | chunk :: rest =>
    match decode carried chunk with
    | .error _ => .malformed rest
    | .ok (text, tail) => if text.isEmpty then scan tail rest else .text text rest tail

inductive Scans (carried : Bytes) (chunks : List Bytes) : Scanned → Prop where
  | text (text : String) (used rest : List Bytes) (tail : Bytes) (line : chunks = used ++ rest)
    (content : carried ++ used.flatten = encode text ++ tail) (some : text.isEmpty = false)
    (carriable : Carriable tail) : Scans carried chunks (.text text rest tail)
  | malformed (used rest : List Bytes) (line : chunks = used ++ rest) (some : used ≠ [])
    (malformed : (Decoding.resume []).feedAll (carried ++ used.flatten) = none) :
    Scans carried chunks (.malformed rest)
  | dry (carriable : Carriable (carried ++ chunks.flatten)) :
    Scans carried chunks (.dry (carried ++ chunks.flatten))

theorem decode_error {carried chunk : Bytes} {error : StreamError} (carriable : Carriable carried)
    (decoded : decode carried chunk = .error error) :
    error = .invalidUtf8 ∧ (Decoding.resume []).feedAll (carried ++ chunk) = none := by
  rw [decode_eq carriable] at decoded
  rw [carriable.feedAll_append]
  split at decoded
  · rename_i malformed
    cases decoded
    exact ⟨rfl, malformed⟩
  · cases decoded

theorem decode_ok {carried chunk tail : Bytes} {text : String} (carriable : Carriable carried)
    (decoded : decode carried chunk = .ok (text, tail)) :
    carried ++ chunk = encode text ++ tail ∧ Carriable tail := by
  rw [decode_eq carriable] at decoded
  split at decoded
  · cases decoded
  · rename_i d fed
    cases decoded
    exact ⟨Carriable.encode_feedAll fed, carriable.feedAll fed⟩

private theorem Scans.cons {carried chunk : Bytes} {chunks : List Bytes} {found : Scanned}
    (scans : Scans (carried ++ chunk) chunks found) : Scans carried (chunk :: chunks) found := by
  cases scans with
  | text text used rest tail line content some carriable =>
    refine .text text (chunk :: used) rest tail (by rw [line, List.cons_append]) ?_ some carriable
    rw [List.flatten_cons, ← List.append_assoc, content]
  | malformed used rest line some malformed =>
    refine .malformed (chunk :: used) rest (by rw [line, List.cons_append]) nofun ?_
    rw [List.flatten_cons, ← List.append_assoc, malformed]
  | dry carriable =>
    rw [List.append_assoc, ← List.flatten_cons] at carriable ⊢
    exact .dry carriable

theorem scan_scans {carried : Bytes} (carriable : Carriable carried) (chunks : List Bytes) :
    Scans carried chunks (scan carried chunks) := by
  induction chunks generalizing carried with
  | nil =>
    have all : carried ++ ([] : List Bytes).flatten = carried := List.append_nil carried
    have dry : Scans carried [] (.dry (carried ++ ([] : List Bytes).flatten)) :=
      .dry (all.symm ▸ carriable)
    rwa [all] at dry
  | cons chunk rest ih =>
    rw [scan]
    split
    · rename_i error decoded
      refine .malformed [chunk] rest rfl nofun ?_
      rw [List.flatten_singleton]
      exact (decode_error carriable decoded).2
    · rename_i text tail decoded
      obtain ⟨content, later⟩ := decode_ok carriable decoded
      split
      · rename_i nothing
        have skipped : tail = carried ++ chunk := by
          rw [content, String.isEmpty_iff.mp nothing]
          rfl
        rw [skipped] at later ⊢
        exact (ih later).cons
      · rename_i some
        refine .text text [chunk] rest tail rfl ?_ (Bool.eq_false_iff.mpr some) later
        rw [List.flatten_singleton, content]

theorem takeFrom_eq {stream : TextStream} {carried : Bytes} (carriable : Carriable carried)
    (chunks : List Bytes) :
    stream.takeFrom carried chunks =
      match scan carried chunks with
      | .text text rest tail => (.ok (.ready text), stream.resumeAt rest tail)
      | .malformed rest => (.error .invalidUtf8, stream.resumeAt rest [])
      | .dry tail =>
        match stream.inner.writing with
        | .live => (.ok .empty, stream.resumeAt [] tail)
        | .ended => ((finish tail).map fun _ => .finished, stream.resumeAt [] [])
        | .aborted => (.error .aborted, stream.aborted) := by
  induction chunks generalizing carried with
  | nil => rfl
  | cons chunk rest ih =>
    rw [takeFrom, scan]
    cases decoded : decode carried chunk with
    | error error => simp only [(decode_error carriable decoded).1]
    | ok result =>
      obtain ⟨text, tail⟩ := result
      simp only
      split
      · exact ih (decode_ok carriable decoded).2
      · rfl

theorem nextFrom_eq {stream : TextStream} {carried : Bytes} (carriable : Carriable carried)
    (chunks : List Bytes) :
    stream.nextFrom carried chunks =
      match scan carried chunks with
      | .text text rest tail => (.ready (some (.ok text)), stream.resumeAt rest tail)
      | .malformed rest => (.ready (some (.error .invalidUtf8)), stream.resumeAt rest [])
      | .dry tail =>
        match stream.inner.writing with
        | .live => (.pending, stream.resumeAt [] tail)
        | .ended => (.ready (atEnd tail), stream.resumeAt [] [])
        | .aborted => (.ready (some (.error .aborted)), stream.aborted) := by
  induction chunks generalizing carried with
  | nil => rfl
  | cons chunk rest ih =>
    rw [nextFrom, scan]
    cases decoded : decode carried chunk with
    | error error => simp only [(decode_error carriable decoded).1]
    | ok result =>
      obtain ⟨text, tail⟩ := result
      simp only
      split
      · exact ih (decode_ok carriable decoded).2
      · rfl

end TextStream

theorem MessageStream.poll_eq_next (stream : MessageStream) : stream.poll = stream.next := by
  cases seen : stream.abortSeen with
  | true => simp [poll, next, seen]
  | false =>
    cases held : stream.unread with
    | cons chunk rest => simp [poll, next, receive, note, seen, held]
    | nil => cases writes : stream.writing <;> simp [poll, next, receive, note, seen, held, writes]

namespace TextStream

open Utf8

theorem nextFrom_resumeAt (stream : TextStream) (unread : List Bytes) (other carried : Bytes)
    (chunks : List Bytes) :
    (stream.resumeAt unread other).nextFrom carried chunks = stream.nextFrom carried chunks := by
  induction chunks generalizing carried with
  | nil => rfl
  | cons chunk rest ih =>
    rw [nextFrom, nextFrom]
    cases decode carried chunk with
    | error error => rfl
    | ok result =>
      simp only
      split
      · exact ih result.2
      · rfl

private theorem pollAtMost_eq {unread : List Bytes} {inner : MessageStream} {carried : Bytes}
    {most : Nat}
    (fresh : inner.abortSeen = false) (line : inner.unread = unread)
    (enough : unread.length ≤ most) :
    pollAtMost most ⟨inner, carried⟩ = (⟨inner, carried⟩ : TextStream).nextFrom carried unread := by
  induction unread generalizing inner carried most with
  | nil =>
    have nothing : inner.withUnread [] = inner := by
      have latest : inner.latest = [] := List.reverse_eq_nil_iff.mp line
      cases inner
      cases latest
      rfl
    rw [pollAtMost.eq_def]
    cases writes : inner.writing <;>
      simp [MessageStream.poll_eq_next, MessageStream.next, fresh, line, writes, nextFrom, resumeAt,
        aborted, nothing]
  | cons chunk rest ih =>
    rw [pollAtMost.eq_def]
    simp only [MessageStream.poll_eq_next, MessageStream.next, fresh, line, Bool.false_eq_true,
      if_false, nextFrom]
    cases decoded : decode carried chunk with
    | error error => rfl
    | ok result =>
      obtain ⟨text, tail⟩ := result
      simp only
      split
      -- Every round takes a chunk, so that the bound is not reached.
      · cases most with
        | zero => simp at enough
        | succ most =>
          have resumed : (inner.withUnread rest).abortSeen = false := fresh
          exact (ih resumed (inner.unread_withUnread rest) (Nat.le_of_succ_le_succ enough)).trans
            (nextFrom_resumeAt ⟨inner, carried⟩ rest tail tail rest)
      · rfl

theorem poll_eq_next (stream : TextStream) : stream.poll = stream.next := by
  cases seen : stream.inner.abortSeen with
  | false =>
    rw [poll, next, seen, pollAtMost_eq seen rfl (Nat.le_refl _)]
    rfl
  | true =>
    rw [poll, pollAtMost.eq_def]
    simp [MessageStream.poll_eq_next, MessageStream.next, next, seen]

theorem gather_eq {carried : Bytes} (carriable : Carriable carried) (writing : Writing)
    (texts : List String) (chunks : List Bytes) :
    gather writing texts carried chunks =
      match (Decoding.resume carried).feedAll chunks.flatten with
      | none => .ready (.error .invalidUtf8)
      | some d =>
        match writing with
        | .live => .pending
        | .ended =>
          .ready ((finish d.carried).map fun _ => String.join texts.reverse ++ d.text)
        | .aborted => .ready (.error .aborted) := by
  induction chunks generalizing carried texts with
  | nil =>
    have nothing : (Decoding.resume carried).feedAll [] = some (.resume carried) := rfl
    rw [List.flatten_nil, nothing]
    cases writing with
    | ended => simp [gather, Decoding.resume, Decoding.text]
    | _ => rfl
  | cons chunk rest ih =>
    rw [gather, List.flatten_cons, Decoding.feedAll_append, decode_eq carriable]
    cases fed : (Decoding.resume carried).feedAll chunk with
    | none => rfl
    | some d =>
      simp only [Option.bind_some]
      have later : d.feedAll rest.flatten =
          ((Decoding.resume d.carried).feedAll rest.flatten).map fun last =>
            ⟨last.latest ++ d.latest, last.carried⟩ := Decoding.feedAll_latest d.latest _ _
      rw [ih (carriable.feedAll fed), later]
      cases (Decoding.resume d.carried).feedAll rest.flatten with
      | none => rfl
      | some last =>
        have texts : String.join (d.text :: texts).reverse ++ last.text =
            String.join texts.reverse ++ Decoding.text ⟨last.latest ++ d.latest, last.carried⟩ := by
          rw [Decoding.text_append]
          simp [String.append_assoc, Decoding.text]
        simp only [Option.map_some, texts]

end TextStream
end WebSocketSession
