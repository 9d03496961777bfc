import WebSocketSession.Proofs.Readings

/-!
# Histories of streams

The history of a stream is the payloads written to it, how its message has ended if it has, and the
readings of its reader, in the order in which they came (`Reader.History`). From that follow where
the reader stands (`History.stands`), that what was handed out and what remains are the payloads
(`History.inLine`), what every reading was told at its time (`History.answered`), and what a reader
finds who has read everything (`signals_of_use`).
-/

set_option autoImplicit false
set_option relaxedAutoImplicit false

namespace WebSocketSession

def ReadStyle.probes : ReadStyle → Bool
  | .take | .next | .poll => true
  | _ => false

namespace Reader

/-- The history of a stream: what has been written to it, how its message stands, and the readings
so far have made this reader of the first one. Nothing is written after the end, and there is one
end. -/
inductive History (family : Family) : List Bytes → Course → List Reading → Reader → Prop where
  | opened : History family [] .live [] (.opened family)
  | written {payloads : List Bytes} {readings : List Reading} {reader : Reader} (payload : Bytes)
    (before : History family payloads .live readings reader) :
    History family (payloads ++ [payload]) .live readings (reader.mapStream (·.push payload))
  | used {payloads : List Bytes} {course : Course} {readings : List Reading}
    {reader later : Reader} (style : ReadStyle) (outcome : ReadOutcome)
    (before : History family payloads course readings reader)
    (use : reader.use style = some (outcome, later)) :
    History family payloads course (readings ++ [⟨style, outcome⟩]) later
  | ended {payloads : List Bytes} {readings : List Reading} {reader : Reader} (course : Course)
    (before : History family payloads .live readings reader) (ceased : course ≠ .live) :
    History family payloads course readings (reader.mapStream (·.withWriting course.writing))

inductive Reads : Reader → List Reading → Reader → Prop where
  | nil (reader : Reader) : Reads reader [] reader
  | cons {reader between later : Reader} {more : List Reading} (style : ReadStyle)
    (outcome : ReadOutcome) (use : reader.use style = some (outcome, between))
    (rest : Reads between more later) : Reads reader (⟨style, outcome⟩ :: more) later

theorem Reads.append {reader between later : Reader} {first second : List Reading}
    (begins : reader.Reads first between) (ends : between.Reads second later) :
    reader.Reads (first ++ second) later := by
  induction begins with
  | nil => exact ends
  | cons style outcome use _ ih => exact .cons style outcome use (ih ends)

theorem History.reads {family : Family} {payloads : List Bytes} {course : Course}
    {readings more : List Reading} {reader later : Reader}
    (history : History family payloads course readings reader) (reads : reader.Reads more later) :
    History family payloads course (readings ++ more) later := by
  induction reads generalizing readings with
  | nil reader =>
    rw [List.append_nil]
    exact history
  | cons style outcome use rest ih =>
    rw [List.append_cons]
    exact ih (history.used style outcome use)

def reported (readings : List Reading) : Bool := readings.any Reading.reportsAbort

private theorem stands_opened (family : Family) : (opened family).Stands .live false := by
  have stands : MessageStream.opened.Stands .live false := ⟨rfl, rfl, nofun⟩
  cases family with
  | text => exact ⟨stands, Utf8.carriable_nil, nofun⟩
  | binary => exact stands

private theorem Stands.push {reader : Reader} (stands : reader.Stands .live false)
    (payload : Bytes) :
    (reader.mapStream (·.push payload)).Stands .live false := by
  have pushed {stream : MessageStream} (inner : stream.Stands .live false) :
      (stream.push payload).Stands .live false := by
    unfold MessageStream.push
    split
    · exact inner
    · exact ⟨inner.writing, inner.seen, nofun⟩
  cases reader with
  | bytes stream => exact pushed stands
  | text stream => exact ⟨pushed stands.1, stands.2.1, nofun⟩
  | gone => trivial

private theorem Stands.ended {reader : Reader} (stands : reader.Stands .live false)
    (course : Course) :
    (reader.mapStream (·.withWriting course.writing)).Stands course false := by
  cases reader with
  | bytes stream => exact ⟨rfl, stands.seen, nofun⟩
  | text stream => exact ⟨⟨rfl, stands.1.seen, nofun⟩, stands.2.1, nofun⟩
  | gone => trivial

private theorem not_reported_of_live {reader : Reader} {reported : Bool}
    (stands : reader.Stands .live reported) (there : reader ≠ .gone) : reported = false := by
  cases reported with
  | false => rfl
  | true =>
    cases reader with
    | bytes stream => cases (stands.ceased rfl).1
    | text stream => cases (stands.1.ceased rfl).1
    | gone => exact absurd rfl there

namespace History

variable {family : Family} {payloads : List Bytes} {course : Course} {readings : List Reading}
  {reader : Reader}

/-- The reader stands as its message does, and knows of an abort if one has been reported. -/
theorem stands (history : History family payloads course readings reader) :
    reader.Stands course (reported readings) := by
  induction history with
  | opened => exact stands_opened family
  | @written payloads readings reader payload before ih =>
    cases reader with
    | gone => trivial
    | _ =>
      have unreported := not_reported_of_live ih nofun
      rw [unreported] at ih ⊢
      exact ih.push payload
  | @used payloads course readings reader later style outcome before use ih =>
    have stands := (told_of_use ih use).stands
    rw [reported, List.any_append, List.any_cons, List.any_nil, Bool.or_false]
    exact stands
  | @ended payloads readings reader course before ceased ih =>
    cases reader with
    | gone => trivial
    | _ =>
      have unreported := not_reported_of_live ih nofun
      rw [unreported] at ih ⊢
      exact ih.ended course

end History

@[simp] theorem carried_mapStream (change : MessageStream → MessageStream) (reader : Reader) :
    (reader.mapStream change).carried = reader.carried := by
  cases reader <;> rfl

@[simp] theorem isText_mapStream (change : MessageStream → MessageStream) (reader : Reader) :
    (reader.mapStream change).isText = reader.isText := by
  cases reader <;> rfl

@[simp] theorem mapStream_eq_gone (change : MessageStream → MessageStream) (reader : Reader) :
    reader.mapStream change = .gone ↔ reader = .gone := by
  cases reader <;> simp [mapStream]

def filled (payloads : List Bytes) : List Bytes := payloads.filter (!·.isEmpty)

theorem filled_append (first second : List Bytes) :
    filled (first ++ second) = filled first ++ filled second :=
  List.filter_append ..

theorem flatten_filled (payloads : List Bytes) : (filled payloads).flatten = payloads.flatten := by
  induction payloads with
  | nil => rfl
  | cons payload rest ih =>
    rw [filled, List.filter_cons]
    cases payload with
    | nil => exact ih
    | cons b bytes => simpa [filled] using ih

theorem unread_push (payload : Bytes) {reader : Reader} (there : reader ≠ .gone) :
    (reader.mapStream (·.push payload)).unread = reader.unread ++ filled [payload] := by
  have pushed (stream : MessageStream) :
      (stream.push payload).unread = stream.unread ++ filled [payload] := by
    rw [stream.unread_push]
    cases payload <;> rfl
  cases reader with
  | bytes stream => exact pushed stream
  | text stream => exact pushed stream.inner
  | gone => exact absurd rfl there

@[simp] theorem unread_withWriting (writing : Writing) (reader : Reader) :
    (reader.mapStream (·.withWriting writing)).unread = reader.unread := by
  cases reader <;> rfl

private theorem carried_of_not_text {reader : Reader} (binary : reader.isText = false) :
    reader.carried = [] := by
  cases reader with
  | text stream => cases binary
  | _ => rfl

structure InLine (payloads : List Bytes) (readings : List Reading) (reader : Reader) : Prop where
  /-- The unread chunks are the last ones written. -/
  queue : reader.unread <:+ filled payloads
  /-- A reader of bytes has handed out the chunks before them, one by one. -/
  chunks : reader.isText = false → reader ≠ .gone →
    readings.filterMap Reading.chunk? ++ reader.unread.map .bytes = (filled payloads).map .bytes
  /-- As long as no reading fails, what was handed out and what remains are all the bytes. -/
  content : reader ≠ .gone → (∀ reading ∈ readings, reading.fails = false) →
    contentOf readings ++ reader.remaining = payloads.flatten

theorem Answers.content {course : Course} {reader later : Reader} {reading : Reading}
    (answers : Answers course false reader reading later) (there : later ≠ .gone)
    (sound : reading.fails = false) :
    contentOf [reading] ++ later.remaining = reader.remaining := by
  cases answers with
  | chunk style piece bytes later line binary stays =>
    simp [contentOf, Reading.chunk?, Chunk.content, remaining, line, carried_of_not_text binary,
      carried_of_not_text stays]
  | text style piece text used later line content some reads =>
    simp only [remaining, line, List.flatten_append]
    rw [← List.append_assoc reader.carried, content]
    simp [contentOf, Reading.chunk?, Chunk.content]
  | whole => exact absurd rfl there
  | waits style outcome later nothing live drained =>
    rcases drained with gone | ⟨-, same⟩
    · exact absurd gone there
    · rcases nothing with rfl | rfl <;> exact same
  | ends style outcome later signal ceased drained still =>
    rw [drained, still]
    rcases signal with rfl | rfl <;> rfl
  | cut style outcome later signal short still => rcases signal with rfl | rfl <;> cases sound
  | again style outcome later before => cases before
  | malformed => cases sound
  | truncated => cases sound
  | quiet style unread later same =>
    rcases same with gone | ⟨line, carried⟩
    · exact absurd gone there
    · simp [contentOf, Reading.chunk?, remaining, line, carried]

private theorem inLine_opened (family : Family) : InLine [] [] (opened family) := by
  cases family <;> exact ⟨List.suffix_refl _, fun _ _ => rfl, fun _ _ => rfl⟩

namespace InLine

variable {payloads : List Bytes} {readings : List Reading} {reader : Reader}

private theorem written (line : InLine payloads readings reader) (payload : Bytes) :
    InLine (payloads ++ [payload]) readings (reader.mapStream (·.push payload)) := by
  by_cases there : reader = .gone
  · subst there
    exact ⟨List.nil_suffix, fun _ there => absurd rfl there, fun there => absurd rfl there⟩
  · have unread := unread_push payload there
    refine ⟨?_, fun binary _ => ?_, fun _ sound => ?_⟩
    · obtain ⟨taken, same⟩ := line.queue
      exact ⟨taken, by rw [unread, filled_append, ← same, List.append_assoc]⟩
    · rw [isText_mapStream] at binary
      rw [unread, filled_append, List.map_append, List.map_append, ← line.chunks binary there,
        List.append_assoc]
    · rw [remaining, carried_mapStream, unread, List.flatten_append, flatten_filled,
        List.flatten_append, ← line.content there sound, remaining]
      simp only [List.append_assoc]

private theorem ended (line : InLine payloads readings reader) (writing : Writing) :
    InLine payloads readings (reader.mapStream (·.withWriting writing)) := by
  refine ⟨?_, fun binary there => ?_, fun there sound => ?_⟩
  · rw [unread_withWriting]
    exact line.queue
  · rw [isText_mapStream] at binary
    rw [ne_eq, mapStream_eq_gone] at there
    rw [unread_withWriting]
    exact line.chunks binary there
  · rw [ne_eq, mapStream_eq_gone] at there
    rw [remaining, carried_mapStream, unread_withWriting]
    exact line.content there sound

private theorem used (line : InLine payloads readings reader) {course : Course} {later : Reader}
    {reading : Reading} (told : Told course (reported readings) reader reading later)
    (there : reader ≠ .gone) : InLine payloads (readings ++ [reading]) later := by
  refine ⟨told.line.trans line.queue, fun binary stays => ?_, fun stays sound => ?_⟩
  · obtain ⟨before, chunks⟩ := told.chunks binary stays
    rw [← line.chunks before there, ← chunks, List.filterMap_append, List.append_assoc]
    cases chunk : reading.chunk? <;> simp [chunk]
  · obtain ⟨earlier, last⟩ := List.forall_mem_append.mp sound
    have unreported : reported readings = false :=
      List.any_eq_false.mpr fun other member => by
        simp [Reading.reportsAbort_eq_false (earlier other member)]
    have answers := told.answers
    rw [unreported] at answers
    rw [contentOf_append, List.append_assoc,
      answers.content stays (last reading (List.mem_singleton_self reading))]
    exact line.content there earlier

end InLine

namespace History

variable {family : Family} {payloads : List Bytes} {course : Course} {readings : List Reading}
  {reader : Reader}

theorem inLine (history : History family payloads course readings reader) :
    InLine payloads readings reader := by
  induction history with
  | opened => exact inLine_opened family
  | written payload before ih => exact ih.written payload
  | used style outcome before use ih =>
    refine ih.used (told_of_use before.stands use) ?_
    rintro rfl
    cases use
  | ended course before ceased ih => exact ih.ended course.writing

/-- The history of the stream at an earlier time: less was written, and the message was in flight
then unless nothing has been written since. -/
structure Earlier (payloads : List Bytes) (course : Course) (before : List Bytes)
    (stood : Course) : Prop where
  written : before <+: payloads
  stood : stood = .live ∨ stood = course ∧ before = payloads

private theorem Earlier.refl (payloads : List Bytes) (course : Course) :
    Earlier payloads course payloads course :=
  ⟨List.prefix_refl payloads, .inr ⟨rfl, rfl⟩⟩

theorem answered (history : History family payloads course readings reader)
    {earlier more : List Reading} {reading : Reading}
    (split : readings = earlier ++ reading :: more) :
    ∃ before stood asked later, History family before stood earlier asked ∧
      Earlier payloads course before stood ∧
      asked.use reading.style = some (reading.outcome, later) ∧
      Answers stood (reported earlier) asked reading later := by
  induction history generalizing more with
  | opened => simp at split
  | written payload past ih =>
    obtain ⟨before, stood, asked, later, history, earlier, use, answers⟩ := ih split
    refine ⟨before, stood, asked, later, history, ⟨?_, ?_⟩, use, answers⟩
    · exact earlier.written.trans (List.prefix_append _ _)
    · rcases earlier.stood with live | ⟨live, -⟩ <;> exact .inl live
  | @used payloads course readings reader later style outcome past use ih =>
    -- The reading asked about is this last one, or one of those before it.
    rcases List.eq_nil_or_concat more with rfl | ⟨others, last, rfl⟩
    · obtain ⟨rfl, same⟩ := List.append_inj' split rfl
      cases same
      exact ⟨payloads, course, reader, later, past, .refl payloads course, use,
        (told_of_use past.stands use).answers⟩
    · have before : readings = earlier ++ reading :: others := by
        rw [List.concat_eq_append, ← List.cons_append, ← List.append_assoc] at split
        exact (List.append_inj' split rfl).1
      exact ih before
  | @ended payloads readings reader course past ceased ih =>
    obtain ⟨before, stood, asked, later, history, earlier, use, answers⟩ := ih split
    refine ⟨before, stood, asked, later, history, ⟨earlier.written, ?_⟩, use, answers⟩
    rcases earlier.stood with live | ⟨live, -⟩ <;> exact .inl live

end History

/-- What a reading finds where everything written has been read and no abort has been reported: how
the message stands. The end of a text inside a character is an error. -/
structure Signals (live ceased short : Prop) (carried : Bytes) (outcome : ReadOutcome) : Prop where
  nothing : outcome = .empty ∨ outcome = .pending ↔ live
  ended : outcome = .finished ∨ outcome = .atEnd ↔ ceased ∧ carried = []
  truncated : outcome = .failed .truncatedUtf8 ↔ ceased ∧ carried ≠ []
  cut : outcome = .aborted ∨ outcome = .failed .aborted ↔ short

theorem signals_of_use {course : Course} {reader later : Reader} {style : ReadStyle}
    {outcome : ReadOutcome} (stands : reader.Stands course false) (drained : reader.unread = [])
    (probes : style.probes = true) (use : reader.use style = some (outcome, later)) :
    Signals (course = .live) (course.writing = .ended) (course = .aborted) reader.carried
      outcome := by
  cases reader with
  | gone => cases use
  | bytes stream =>
    have fresh : stream.abortSeen = false := stands.seen
    have line : stream.unread = [] := drained
    have writes : stream.writing = course.writing := stands.writing
    cases course <;> cases style <;> cases probes <;> cases use <;> constructor <;>
      simp [MessageStream.take, MessageStream.poll_eq_next, MessageStream.next, fresh, line, writes,
        Course.writing, ReadOutcome.ofTaken, ReadOutcome.ofPolled, carried]
  | text stream =>
    have fresh : stream.inner.abortSeen = false := stands.1.seen
    have line : stream.inner.unread = [] := drained
    have writes : stream.inner.writing = course.writing := stands.1.writing
    cases course <;> cases style <;> cases probes <;> cases use <;>
      cases part : stream.carried <;> constructor <;>
      simp [TextStream.take, TextStream.poll_eq_next, TextStream.next, TextStream.takeFrom,
        TextStream.nextFrom, TextStream.finish, TextStream.atEnd, fresh, line, writes, part,
        Course.writing, ReadOutcome.ofTakenText, ReadOutcome.ofTaken, ReadOutcome.ofPolled,
        carried, Except.map]

end Reader

end WebSocketSession
