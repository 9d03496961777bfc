import WebSocketSession.Proofs.ReadingStyles
import WebSocketSession.Proofs.TextOutcome

/-!
# Text read past malformed bytes

A reader of text that has reported malformed bytes goes on with the next payload. So the payloads
are read in stretches (`Stretches`): what is handed out in each begins it, without a hole, and each
but the last ends where its bytes cannot become a text any more. The other errors are the last thing
that a reader tells of its message (`text_read_in_stretches`).
-/

set_option autoImplicit false
set_option relaxedAutoImplicit false

namespace WebSocketSession

open Utf8

def Reading.breaksOff (reading : Reading) : Bool := reading.outcome == .failed .invalidUtf8

/-- The reading reports that the message has ended inside a character or was cut short. -/
def Reading.endsText (reading : Reading) : Bool :=
  reading.outcome == .failed .truncatedUtf8 || reading.reportsAbort

private theorem Reading.fails_eq (reading : Reading) :
    reading.fails = (reading.breaksOff ^^ reading.endsText) := by
  obtain ⟨style, outcome⟩ := reading
  cases outcome with
  | failed error => cases error <;> rfl
  | _ => rfl

/-- A stretch of payloads that is read without a report of malformed bytes. -/
structure WholeStretch (payloads : List Bytes) (readings : List Reading) : Prop where
  begins : contentOf readings <+: payloads.flatten
  sound : ∀ reading ∈ readings, reading.breaksOff = false

/-- A stretch of payloads of which the last one keeps it from becoming a text, as its last reading
reports. -/
structure BrokenStretch (payloads : List Bytes) (readings : List Reading) : Prop where
  begins : contentOf readings <+: payloads.flatten
  malformed : ∃ before last, payloads = before ++ [last] ∧ Completable before.flatten ∧
    ¬ Completable payloads.flatten
  reports : ∃ earlier last, readings = earlier ++ [last] ∧ last.breaksOff = true ∧
    ∀ reading ∈ earlier, reading.breaksOff = false

/-- Payloads and readings of them, taken apart at the reports of malformed bytes. -/
inductive Stretches : List Bytes → List Reading → Prop where
  | last {payloads : List Bytes} {readings : List Reading}
    (whole : WholeStretch payloads readings) : Stretches payloads readings
  | broken {payloads more : List Bytes} {readings others : List Reading}
    (broken : BrokenStretch payloads readings) (rest : Stretches more others) :
    Stretches (payloads ++ more) (readings ++ others)

private theorem Stretches.begins {payloads : List Bytes} {readings : List Reading}
    (stretches : Stretches payloads readings)
    (sound : ∀ reading ∈ readings, reading.breaksOff = false) :
    contentOf readings <+: payloads.flatten := by
  cases stretches with
  | last whole => exact whole.begins
  | broken broken rest =>
    obtain ⟨earlier, last, rfl, breaks, -⟩ := broken.reports
    have unbroken := sound last (by simp)
    rw [breaks] at unbroken
    cases unbroken

namespace TextStream

private theorem scan_malformed {carried : Bytes} (carriable : Carriable carried)
    {chunks rest : List Bytes} (found : scan carried chunks = .malformed rest) :
    ∃ used chunk, chunks = used ++ chunk :: rest ∧ Completable (carried ++ used.flatten) ∧
      ¬ Completable (carried ++ used.flatten ++ chunk) := by
  induction chunks generalizing carried with
  | nil => cases found
  | cons chunk others ih =>
    rw [scan] at found
    split at found
    · rename_i error decoded
      cases found
      have malformed := not_completable_of_malformed (decode_error carriable decoded).2
      exact ⟨[], chunk, rfl, by simpa using carriable.completable, by simpa using malformed⟩
    · rename_i text tail decoded
      split at found
      · rename_i nothing
        cases decode_nothing decoded nothing
        obtain ⟨used, last, rfl, completable, malformed⟩ := ih (decode_ok carriable decoded).2 found
        refine ⟨chunk :: used, last, rfl, ?_, ?_⟩
        · rwa [List.flatten_cons, ← List.append_assoc]
        · rwa [List.flatten_cons, ← List.append_assoc]
      · cases found

private theorem takeFrom_invalid {stream : TextStream} {carried : Bytes}
    (carriable : Carriable carried)
    {chunks : List Bytes}
    (invalid : ReadOutcome.ofTakenText (stream.takeFrom carried chunks).1 = .failed .invalidUtf8) :
    ∃ rest, scan carried chunks = .malformed rest ∧
      (stream.takeFrom carried chunks).2 = stream.resumeAt rest [] := by
  rw [takeFrom_eq carriable] at invalid ⊢
  cases found : scan carried chunks with
  | text text rest tail =>
    rw [found] at invalid
    cases invalid
  | malformed rest => exact ⟨rest, rfl, rfl⟩
  | dry tail =>
    rw [found] at invalid
    cases writes : stream.inner.writing <;> simp only [writes] at invalid
    · cases invalid
    · cases tail <;> cases invalid
    · cases invalid

end TextStream

namespace Reader

/-- The reader has found the chunk after which what it carries cannot become a text, and goes on
behind it with nothing carried over. -/
structure Breaks (reader later : Reader) : Prop where
  found : ∃ used chunk, reader.unread = used ++ chunk :: later.unread ∧
    Completable (reader.carried ++ used.flatten) ∧
    ¬ Completable (reader.carried ++ used.flatten ++ chunk)
  uncarried : later.carried = []

private theorem breaks_of_invalid {course : Course} {reported : Bool} {reader later : Reader}
    {style : ReadStyle} (stands : reader.Stands course reported) (isText : reader.isText = true)
    (probes : style.probes = true) (use : reader.use style = some (.failed .invalidUtf8, later)) :
    reader.Breaks later := by
  cases reader with
  | bytes stream => cases isText
  | gone => cases isText
  | text stream =>
    obtain ⟨-, carriable, -⟩ := stands
    have waits (next : (Reader.text stream).use .next = some (.failed .invalidUtf8, later)) :
        (Reader.text stream).use .take = some (.failed .invalidUtf8, later) := by
      cases seen : stream.inner.abortSeen with
      | true =>
        simp only [Reader.use, TextStream.next, seen, if_true] at next
        cases carried : stream.carried <;> rw [carried] at next <;> cases next
      | false =>
        have fresh : (Reader.text stream).abortSeen = false := seen
        rw [← use_take fresh] at next
        obtain ⟨⟨told, state⟩, take, same⟩ := Option.map_eq_some_iff.mp next
        cases told <;> cases same
        exact take
    have take : (Reader.text stream).use .take = some (.failed .invalidUtf8, later) := by
      cases style with
      | take => exact use
      | next => exact waits use
      | poll => exact waits ((use_poll _).symm.trans use)
      | _ => cases probes
    obtain ⟨outcome, rfl⟩ := Prod.mk.inj (Option.some.inj take)
    simp only [TextStream.take] at outcome ⊢
    split at outcome
    · cases outcome
    · rename_i fresh
      obtain ⟨rest, found, state⟩ := TextStream.takeFrom_invalid carriable outcome
      rw [if_neg fresh, state]
      refine ⟨?_, rfl⟩
      rw [unread_resumeAt stream rest []]
      exact TextStream.scan_malformed carriable found

/-- The message has ended, and nothing of it is left to be handed out. -/
structure Spent (course : Course) (reader : Reader) : Prop where
  ceased : course ≠ .live
  drained : reader.remaining = []

private theorem Answers.of_spent {course : Course} {reported : Bool} {reader later : Reader}
    {reading : Reading} (answers : Answers course reported reader reading later)
    (isText : reader.isText = true) (probes : reading.style.probes = true)
    (spent : reader.Spent course) :
    reading.chunk? = none ∧ reading.breaksOff = false ∧ later.Spent course := by
  obtain ⟨ceased, drained⟩ := spent
  have stays (still : later.remaining = []) : later.Spent course := ⟨ceased, still⟩
  obtain ⟨uncarried, unread⟩ := List.append_eq_nil_iff.mp drained
  cases answers with
  | chunk style piece bytes later line binary =>
    rw [binary] at isText
    cases isText
  | text style piece text used later line content some =>
    rw [line, List.flatten_append] at unread
    rw [uncarried, (List.append_eq_nil_iff.mp unread).1] at content
    rw [eq_empty_of_encode (List.append_eq_nil_iff.mp content.symm).1] at some
    cases some
  | whole => cases probes
  | waits style outcome later nothing live => exact absurd live ceased
  | ends style outcome later signal _ _ still =>
    rcases signal with rfl | rfl <;> exact ⟨rfl, rfl, stays still⟩
  | cut style outcome later signal _ still =>
    rcases signal with rfl | rfl <;> exact ⟨rfl, rfl, stays still⟩
  | again style outcome later before nothing still =>
    rcases nothing with rfl | ⟨rfl, -⟩
    · exact ⟨rfl, rfl, stays still⟩
    · cases probes
  | malformed style used later line invalid =>
    have nothing : reader.carried ++ used.flatten = [] := by
      rcases line with ⟨-, rfl⟩ | line
      · exact drained
      · rw [line, List.flatten_append] at unread
        rw [uncarried, (List.append_eq_nil_iff.mp unread).1]
        rfl
    exact absurd (by rw [nothing]; rfl) (invalid [] "")
  | truncated style later _ _ still => exact ⟨rfl, rfl, stays still⟩
  | quiet style unread => rcases unread with rfl | rfl <;> cases probes

private theorem Answers.spent {course : Course} {reported : Bool} {reader later : Reader}
    {reading : Reading} (answers : Answers course reported reader reading later)
    (ends : reading.endsText = true) : later.Spent course := by
  cases answers with
  | waits style outcome later nothing => rcases nothing with rfl | rfl <;> cases ends
  | ends style outcome later signal => rcases signal with rfl | rfl <;> cases ends
  | cut style outcome later signal short still =>
    subst short
    exact ⟨nofun, still⟩
  | again style outcome later before nothing =>
    rcases nothing with rfl | ⟨-, chunk, rfl, -⟩ <;> cases ends
  | truncated style later ceased _ still =>
    refine ⟨?_, still⟩
    rintro rfl
    cases ceased
  | _ => cases ends

private theorem Answers.ne_bytes {course : Course} {reported : Bool} {reader later : Reader}
    {reading : Reading} (answers : Answers course reported reader reading later)
    (isText : reader.isText = true) (probes : reading.style.probes = true) (bytes : Bytes) :
    reading.outcome ≠ .ready (.bytes bytes) := by
  rintro outcome
  cases answers with
  | chunk style piece bytes later line binary =>
    rw [binary] at isText
    cases isText
  | whole => cases probes
  | waits style outcome later nothing => rcases nothing with rfl | rfl <;> cases outcome
  | ends style outcome later signal => rcases signal with rfl | rfl <;> cases outcome
  | cut style outcome later signal => rcases signal with rfl | rfl <;> cases outcome
  | again style outcome later before nothing =>
    rcases nothing with rfl | ⟨rfl, -⟩
    · cases outcome
    · cases probes
  | _ => cases outcome

private theorem Stands.spent {course : Course} {reader : Reader}
    (stands : reader.Stands course true)
    (isText : reader.isText = true) : reader.Spent course := by
  cases reader with
  | bytes stream => cases isText
  | gone => cases isText
  | text stream =>
    obtain ⟨inner, -, uncarried⟩ := stands
    obtain ⟨rfl, unread⟩ := inner.ceased rfl
    refine ⟨nofun, ?_⟩
    simp only [remaining, carried, Reader.unread, uncarried rfl, unread]
    rfl

namespace History

variable {payloads : List Bytes} {course : Course} {readings : List Reading} {reader : Reader}

private theorem isText_of_probes (history : History .text payloads course readings reader)
    (probes : ∀ reading ∈ readings, reading.style.probes = true) : reader.isText = true :=
  (history.kind probes).2.mpr rfl

private theorem texts_of_probes (history : History .text payloads course readings reader)
    (probes : ∀ reading ∈ readings, reading.style.probes = true) :
    ∀ reading ∈ readings, ∀ bytes, reading.outcome ≠ .ready (.bytes bytes) := by
  induction history with
  | opened => nofun
  | written payload before ih => exact ih probes
  | ended course before ceased ih => exact ih probes
  | used style outcome before use ih =>
    obtain ⟨earlier, last⟩ := List.forall_mem_append.mp probes
    refine List.forall_mem_append.mpr ⟨ih earlier, List.forall_mem_singleton.mpr ?_⟩
    exact (told_of_use before.stands use).answers.ne_bytes (before.isText_of_probes earlier)
      (last _ (List.mem_singleton_self _))

private theorem spent_of_endsText (history : History .text payloads course readings reader)
    (probes : ∀ reading ∈ readings, reading.style.probes = true)
    (some : ∃ reading ∈ readings, reading.endsText = true) : reader.Spent course := by
  induction history with
  | opened => simp at some
  | written payload before ih => exact absurd rfl (ih probes some).ceased
  | ended course before ceased ih => exact absurd rfl (ih probes some).ceased
  | used style outcome before use ih =>
    obtain ⟨earlier, last⟩ := List.forall_mem_append.mp probes
    have answers := (told_of_use before.stands use).answers
    obtain ⟨reading, member, ends⟩ := some
    rcases List.mem_append.mp member with already | now
    · have spent := ih earlier ⟨reading, already, ends⟩
      have isText := before.isText_of_probes earlier
      exact (answers.of_spent isText (last _ (List.mem_singleton_self _)) spent).2.2
    · rw [List.mem_singleton.mp now] at ends
      exact answers.spent ends

private theorem silent (history : History .text payloads course readings reader)
    (probes : ∀ reading ∈ readings, reading.style.probes = true)
    {earlier more : List Reading} {reading : Reading}
    (split : readings = earlier ++ reading :: more) (ends : reading.endsText = true) :
    more.filterMap Reading.chunk? = [] := by
  induction history generalizing more with
  | opened => simp at split
  | written payload before ih => exact ih probes split
  | ended course before ceased ih => exact ih probes split
  | @used payloads course readings reader later style outcome past use ih =>
    rcases List.eq_nil_or_concat more with rfl | ⟨others, last, rfl⟩
    · rfl
    · rw [List.concat_eq_append, ← List.cons_append, ← List.append_assoc] at split
      obtain ⟨rfl, same⟩ := List.append_inj' split rfl
      obtain ⟨past', now⟩ := List.forall_mem_append.mp probes
      have spent := past.spent_of_endsText past' ⟨reading, by simp, ends⟩
      have none := ((told_of_use past.stands use).answers.of_spent (past.isText_of_probes past')
        (now _ (List.mem_singleton_self _)) spent).1
      rw [List.concat_eq_append, List.filterMap_append, ih past' rfl, ← List.singleton_inj.mp same,
        List.filterMap_cons_none none]
      rfl

end History

/-- What the readings of a stretch have handed out so far and what remains are its payloads, or the
end of the message has been reported as an error. -/
structure InStretch (course : Course) (payloads : List Bytes) (readings : List Reading)
    (reader : Reader) : Prop where
  queue : reader.unread <:+ filled payloads
  content : contentOf readings ++ reader.remaining = payloads.flatten ∨
    reader.Spent course ∧ contentOf readings <+: payloads.flatten
  sound : ∀ reading ∈ readings, reading.breaksOff = false

private theorem contentOf_concat_of_none {readings : List Reading} {last : Reading}
    (none : last.chunk? = none) : contentOf (readings ++ [last]) = contentOf readings := by
  simp [contentOf, none]

namespace InStretch

variable {payloads : List Bytes} {course : Course} {reported : Bool} {readings : List Reading}
  {last : Reading} {reader later : Reader}

private theorem begins (stretch : InStretch course payloads readings reader) :
    contentOf readings <+: payloads.flatten := by
  rcases stretch.content with all | ⟨-, begins⟩
  · exact ⟨_, all⟩
  · exact begins

private theorem written (stretch : InStretch .live payloads readings reader)
    (there : reader ≠ .gone)
    (payload : Bytes) :
    InStretch .live (payloads ++ [payload]) readings (reader.mapStream (·.push payload)) := by
  have unread := unread_push payload there
  refine ⟨?_, .inl ?_, stretch.sound⟩
  · obtain ⟨taken, same⟩ := stretch.queue
    exact ⟨taken, by rw [unread, filled_append, ← same, List.append_assoc]⟩
  · have all := stretch.content.resolve_right fun spent => spent.1.ceased rfl
    rw [remaining, carried_mapStream, unread, List.flatten_append, flatten_filled,
      List.flatten_append, ← all, remaining]
    simp only [List.append_assoc]

private theorem ended (stretch : InStretch .live payloads readings reader) (course : Course) :
    InStretch course payloads readings (reader.mapStream (·.withWriting course.writing)) := by
  have all := stretch.content.resolve_right fun spent => spent.1.ceased rfl
  refine ⟨?_, .inl ?_, stretch.sound⟩
  · rw [unread_withWriting]
    exact stretch.queue
  · rw [remaining, carried_mapStream, unread_withWriting]
    exact all

private theorem broken (stretch : InStretch course payloads readings reader)
    (told : Told course reported reader last later) (isText : reader.isText = true)
    (probes : last.style.probes = true) (reports : last.breaksOff = true)
    (breaks : reader.Breaks later) (whole : IsText (contentOf readings)) :
    ∃ front back, payloads = front ++ back ∧ BrokenStretch front (readings ++ [last]) ∧
      InStretch course back [] later := by
  have all : contentOf readings ++ reader.remaining = payloads.flatten := by
    refine stretch.content.resolve_right fun spent => ?_
    have sound := (told.answers.of_spent isText probes spent.1).2.1
    rw [reports] at sound
    cases sound
  obtain ⟨taken, queue⟩ := stretch.queue
  obtain ⟨used, chunk, line, completable, malformed⟩ := breaks.found
  have parts : filled payloads = (taken ++ used) ++ chunk :: later.unread := by
    rw [← queue, line, List.append_assoc]
  obtain ⟨start, others, rfl, -, second⟩ := List.filter_eq_append_iff.mp parts
  obtain ⟨empties, back, rfl, skipped, -, third⟩ := List.filter_eq_cons_iff.mp second
  have nothing : empties.flatten = [] := by
    rw [← flatten_filled empties, filled, List.filter_eq_nil_iff.mpr skipped, List.flatten_nil]
  have rest : back.flatten = later.unread.flatten := by
    rw [← flatten_filled back, filled, third]
  -- The payloads before those of the last search are what was handed out and what was carried.
  have before : (start ++ empties).flatten =
      contentOf readings ++ (reader.carried ++ used.flatten) := by
    rw [remaining, line] at all
    simp only [List.flatten_append, List.flatten_cons, nothing, rest, ← List.append_assoc,
      List.append_cancel_right_eq] at all
    rw [List.flatten_append, nothing, ← all, List.append_assoc]
  have none : last.chunk? = none := by
    obtain ⟨style, outcome⟩ := last
    obtain rfl : outcome = .failed .invalidUtf8 := by simpa [Reading.breaksOff] using reports
    rfl
  refine ⟨start ++ empties ++ [chunk], back,
    by simp only [List.append_assoc, List.singleton_append],
    ⟨?_, ⟨start ++ empties, chunk, rfl, ?_, ?_⟩, readings, last, rfl, reports, stretch.sound⟩,
    ?_, .inl ?_, List.forall_mem_nil _⟩
  · rw [contentOf_concat_of_none none, List.flatten_append, before, List.append_assoc]
    exact List.prefix_append _ _
  · rw [before, completable_append whole]
    exact completable
  · rw [List.flatten_append, before, List.flatten_singleton, List.append_assoc,
      completable_append whole]
    exact malformed
  · exact ⟨[], third.symm⟩
  · have unread : contentOf [] = [] := rfl
    rw [unread, remaining, breaks.uncarried, List.nil_append, List.nil_append, rest]

private theorem used (stretch : InStretch course payloads readings reader)
    (told : Told course reported reader last later) (stands : reader.Stands course reported)
    (isText : reader.isText = true) (probes : last.style.probes = true) (stays : later ≠ .gone)
    (sound : last.breaksOff = false) : InStretch course payloads (readings ++ [last]) later := by
  refine ⟨told.line.trans stretch.queue, ?_,
    List.forall_mem_append.mpr ⟨stretch.sound, List.forall_mem_singleton.mpr sound⟩⟩
  by_cases spent : reader.Spent course
  · obtain ⟨none, -, stays⟩ := told.answers.of_spent isText probes spent
    rw [contentOf_concat_of_none none]
    exact .inr ⟨stays, stretch.begins⟩
  · have all := stretch.content.resolve_right fun ended => spent ended.1
    have unreported : reported = false := by
      cases reported with
      | false => rfl
      | true => exact absurd (stands.spent isText) spent
    have answers := told.answers
    rw [unreported] at answers
    have kinds := last.fails_eq
    rw [sound, Bool.false_xor] at kinds
    cases ends : last.endsText with
    | true =>
      have none : last.chunk? = none := by
        obtain ⟨style, outcome⟩ := last
        cases outcome <;> first | rfl | cases ends
      rw [contentOf_concat_of_none none]
      exact .inr ⟨answers.spent ends, stretch.begins⟩
    | false =>
      rw [contentOf_append, List.append_assoc, answers.content stays (kinds.trans ends)]
      exact .inl all

end InStretch

/-- The payloads and the readings so far are broken stretches and the one that the reader is in. -/
structure ReadTo (course : Course) (payloads : List Bytes) (readings : List Reading)
    (reader : Reader) : Prop where
  split : ∃ done current before recent, payloads = done ++ current ∧ readings = before ++ recent ∧
    (∀ more others, Stretches more others → Stretches (done ++ more) (before ++ others)) ∧
    InStretch course current recent reader

private theorem ReadTo.stretches {course : Course} {payloads : List Bytes} {readings : List Reading}
    {reader : Reader} (read : ReadTo course payloads readings reader) :
    Stretches payloads readings := by
  obtain ⟨done, current, before, recent, rfl, rfl, context, stretch⟩ := read.split
  exact context current recent (.last ⟨stretch.begins, stretch.sound⟩)

private theorem History.readTo {payloads : List Bytes} {course : Course} {readings : List Reading}
    {reader : Reader} (history : History .text payloads course readings reader)
    (probes : ∀ reading ∈ readings, reading.style.probes = true) :
    ReadTo course payloads readings reader := by
  induction history with
  | opened =>
    exact ⟨[], [], [], [], rfl, rfl, fun _ _ rest => rest, List.suffix_refl _, .inl rfl, nofun⟩
  | @written payloads readings reader payload before ih =>
    obtain ⟨done, current, past, recent, rfl, rfl, context, stretch⟩ := (ih probes).split
    exact ⟨done, current ++ [payload], past, recent, by rw [List.append_assoc], rfl, context,
      stretch.written (before.kind probes).1 payload⟩
  | ended course before ceased ih =>
    obtain ⟨done, current, past, recent, rfl, rfl, context, stretch⟩ := (ih probes).split
    exact ⟨done, current, past, recent, rfl, rfl, context, stretch.ended course⟩
  | @used payloads course readings reader later style outcome before use ih =>
    obtain ⟨earlier, last⟩ := List.forall_mem_append.mp probes
    have now : style.probes = true := last _ (List.mem_singleton_self _)
    have isText := before.isText_of_probes earlier
    have texts := before.texts_of_probes earlier
    obtain ⟨done, current, past, recent, rfl, rfl, context, stretch⟩ := (ih earlier).split
    have whole : IsText (contentOf recent) :=
      isText_contentOf_of_texts (List.forall_mem_append.mp texts).2
    have told := told_of_use before.stands use
    cases breaks : Reading.breaksOff ⟨style, outcome⟩ with
    | false =>
      have stays := (kind_of_use now use).1
      exact ⟨done, current, past, recent ++ [⟨style, outcome⟩], rfl, by rw [List.append_assoc],
        context, stretch.used told before.stands isText now stays breaks⟩
    | true =>
      obtain rfl : outcome = .failed .invalidUtf8 := by simpa [Reading.breaksOff] using breaks
      obtain ⟨front, back, rfl, broken, next⟩ := stretch.broken told isText now rfl
        (breaks_of_invalid before.stands isText now use) whole
      refine ⟨done ++ front, back, past ++ (recent ++ [⟨style, .failed .invalidUtf8⟩]), [],
        by rw [List.append_assoc], by rw [List.append_nil, List.append_assoc], ?_, next⟩
      intro more others rest
      rw [List.append_assoc, List.append_assoc]
      exact context _ _ (.broken broken rest)

end Reader

/-- However a text is read while it is written, and however long after an error, it is read in
stretches of payloads without a hole, which only a report of malformed bytes ends. If there is none,
the texts handed out begin the bytes written. After any other error no text is handed out. -/
theorem text_read_in_stretches {moves : List StreamMove}
    (probes : ∀ move ∈ moves, move.probes = true) :
    let readings := ((StreamPair.opened .text).run moves).readings
    Stretches (payloadsOf moves) readings ∧
      ((∀ reading ∈ readings, reading.breaksOff = false) →
        contentOf readings <+: (payloadsOf moves).flatten) ∧
      ∀ earlier reading more, readings = earlier ++ reading :: more → reading.endsText = true →
        more.filterMap Reading.chunk? = [] := by
  intro readings
  have history := (StreamPair.recorded_run .text moves).history
  have ways := StreamPair.probes_run .text probes
  have stretches := (history.readTo ways).stretches
  exact ⟨stretches, stretches.begins, fun earlier reading more split => history.silent ways split⟩

/-- A text with a malformed payload between two others, read in every way. -/
theorem text_resumes_after_malformed :
    let moves : List StreamMove := [.append [0x41], .append [0xFF], .append [0x42], .finish,
      .read .take, .read .next, .read .poll, .read .take]
    let readings : List Reading := [⟨.take, .ready (.text "A")⟩, ⟨.next, .failed .invalidUtf8⟩,
      ⟨.poll, .ready (.text "B")⟩, ⟨.take, .finished⟩]
    (∀ move ∈ moves, move.probes = true) ∧
      ((StreamPair.opened .text).run moves).readings = readings ∧
      Stretches [[0x41], [0xFF], [0x42]] readings := by
  intro moves readings
  have probes : ∀ move ∈ moves, move.probes = true := by decide
  have read : ((StreamPair.opened .text).run moves).readings = readings := by decide +kernel
  have stretches := (text_read_in_stretches probes).1
  rw [read] at stretches
  exact ⟨probes, read, stretches⟩

/-- Text is handed out after a report of malformed bytes, so that all texts together can have a
hole. -/
theorem text_with_hole :
    ¬ ∀ moves : List StreamMove, (∀ move ∈ moves, move.probes = true) →
      let readings := ((StreamPair.opened .text).run moves).readings
      contentOf readings <+: (payloadsOf moves).flatten ∧
        ∀ earlier reading more, readings = earlier ++ reading :: more → reading.fails = true →
          more.filterMap Reading.chunk? = [] := by
  intro whole
  have begins := (whole [.append [0xFF], .append [0x41], .read .take, .read .take] (by decide)).1
  have read : contentOf ((StreamPair.opened .text).run
      [.append [0xFF], .append [0x41], .read .take, .read .take]).readings = [0x41] := by
    decide +kernel
  rw [read] at begins
  exact absurd begins (by decide)

end WebSocketSession
