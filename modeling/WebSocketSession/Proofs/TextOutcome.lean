import WebSocketSession.Proofs.Completion
import WebSocketSession.Proofs.StreamHistory

/-!
# How reading a text comes out

A stream is read as text from its start, in any mix of ways and in turns with the writing
(`Reading.goesOn`). What is handed out is the beginning of the bytes written, and what comes when no
text comes is settled by those bytes and by how the message stands (`Settles`): the way in which the
bytes were cut into payloads, and when they were read, do not matter (`text_read_by_content`).
-/

set_option autoImplicit false
set_option relaxedAutoImplicit false

namespace WebSocketSession

open Utf8

/-- The reading goes on with a text: it hands out a piece, finds nothing yet, or makes the reader
one of text. -/
def Reading.goesOn (reading : Reading) : Bool :=
  match reading.outcome with
  | .ready (.text _) | .empty | .pending => reading.style.probes
  | .quiet => reading.style == .intoText
  | _ => false

def ReadOutcome.signal : ReadOutcome → ReadOutcome
  | .pending => .empty
  | .atEnd => .finished
  | outcome => outcome

private theorem Reading.sound_of_goesOn {reading : Reading} (goes : reading.goesOn = true) :
    reading.fails = false := by
  obtain ⟨style, outcome⟩ := reading
  cases outcome <;> first | rfl | cases goes

theorem isText_contentOf_of_texts {readings : List Reading}
    (texts : ∀ reading ∈ readings, ∀ bytes, reading.outcome ≠ .ready (.bytes bytes)) :
    IsText (contentOf readings) := by
  induction readings with
  | nil => exact isText_nil
  | cons reading rest ih =>
    obtain ⟨first, others⟩ := List.forall_mem_cons.mp texts
    rw [← List.singleton_append, contentOf_append]
    refine IsText.append ?_ (ih others)
    obtain ⟨style, outcome⟩ := reading
    cases outcome with
    | ready chunk =>
      cases chunk with
      | bytes value => exact absurd rfl (first value)
      | text value => exact ⟨value, (List.append_nil _).symm⟩
    | _ => exact isText_nil

private theorem isText_contentOf {readings : List Reading}
    (goes : ∀ reading ∈ readings, reading.goesOn = true) : IsText (contentOf readings) :=
  isText_contentOf_of_texts fun reading member bytes outcome => by
    have goesOn := goes reading member
    rw [Reading.goesOn, outcome] at goesOn
    cases goesOn

/-- What comes when no text comes: bytes that cannot become a text are an error; else the longest
text there is has been handed out, and what comes tells how the message stands, an end inside a
character apart. -/
structure Settles (bytes done : Bytes) (writing : Writing) (outcome : ReadOutcome) : Prop where
  invalid : outcome = .failed .invalidUtf8 ↔ ¬ Completable bytes
  longest : Completable bytes → LongestText done bytes
  aborted : outcome = .failed .aborted ↔ Completable bytes ∧ writing = .aborted
  truncated : outcome = .failed .truncatedUtf8 ↔
    Completable bytes ∧ writing = .ended ∧ ¬ IsText bytes
  ended : outcome = .finished ∨ outcome = .atEnd ↔ writing = .ended ∧ IsText bytes
  waits : outcome = .empty ∨ outcome = .pending ↔ Completable bytes ∧ writing = .live

private theorem Settles.of_invalid {bytes : Bytes} (invalid : ¬ Completable bytes) (done : Bytes)
    (writing : Writing) : Settles bytes done writing (.failed .invalidUtf8) := by
  have notText : ¬ IsText bytes := fun isText => invalid isText.completable
  constructor <;> simp [invalid, notText]

def TextStream.Scanned.Shows (writing : Writing) (outcome : ReadOutcome) : Scanned → Prop
  | .text piece _ _ => outcome = .ready (.text piece)
  | .malformed _ => outcome = .failed .invalidUtf8
  | .dry tail =>
    match writing with
    | .live => outcome = .empty ∨ outcome = .pending
    | .ended =>
      if tail = [] then outcome = .finished ∨ outcome = .atEnd else outcome = .failed .truncatedUtf8
    | .aborted => outcome = .failed .aborted

private theorem Settles.of_dry {done tail : Bytes} {writing : Writing} {outcome : ReadOutcome}
    (whole : IsText done) (carriable : Carriable tail)
    (shows : (TextStream.Scanned.dry tail).Shows writing outcome) :
    Settles (done ++ tail) done writing outcome := by
  have completable : Completable (done ++ tail) :=
    (completable_append whole).mpr carriable.completable
  have isText : IsText (done ++ tail) ↔ tail = [] :=
    (isText_append whole).trans carriable.isText_iff
  have longest := carriable.longestText whole
  generalize done ++ tail = bytes at completable isText longest
  cases writing with
  | live => rcases shows with rfl | rfl <;> constructor <;> simp [completable, longest]
  | ended =>
    by_cases none : tail = []
    · have signal : outcome = .finished ∨ outcome = .atEnd := by
        simpa [TextStream.Scanned.Shows, none] using shows
      rcases signal with rfl | rfl <;> constructor <;> simp [completable, isText, none, longest]
    · obtain rfl : outcome = .failed .truncatedUtf8 := by
        simpa [TextStream.Scanned.Shows, none] using shows
      constructor <;> simp [completable, isText, none, longest]
  | aborted =>
    cases shows
    constructor <;> simp [completable, longest]

private theorem Settles.signal_eq {bytes done other : Bytes} {writing : Writing}
    {outcome second : ReadOutcome} (first : Settles bytes done writing outcome)
    (also : Settles bytes other writing second) : outcome.signal = second.signal := by
  by_cases completable : Completable bytes
  · cases writing with
    | live =>
      rcases first.waits.mpr ⟨completable, rfl⟩ with rfl | rfl <;>
        rcases also.waits.mpr ⟨completable, rfl⟩ with rfl | rfl <;> rfl
    | ended =>
      by_cases isText : IsText bytes
      · rcases first.ended.mpr ⟨rfl, isText⟩ with rfl | rfl <;>
          rcases also.ended.mpr ⟨rfl, isText⟩ with rfl | rfl <;> rfl
      · rw [first.truncated.mpr ⟨completable, rfl, isText⟩,
          also.truncated.mpr ⟨completable, rfl, isText⟩]
    | aborted => rw [first.aborted.mpr ⟨completable, rfl⟩, also.aborted.mpr ⟨completable, rfl⟩]
  · rw [first.invalid.mpr completable, also.invalid.mpr completable]

private theorem Settles.ne_ready {bytes done : Bytes} {writing : Writing} {outcome : ReadOutcome}
    (settles : Settles bytes done writing outcome) (chunk : Chunk) : outcome ≠ .ready chunk := by
  rintro rfl
  by_cases completable : Completable bytes
  · cases writing with
    | live => rcases settles.waits.mpr ⟨completable, rfl⟩ with none | none <;> cases none
    | ended =>
      by_cases isText : IsText bytes
      · rcases settles.ended.mpr ⟨rfl, isText⟩ with none | none <;> cases none
      · cases settles.truncated.mpr ⟨completable, rfl, isText⟩
    | aborted => cases settles.aborted.mpr ⟨completable, rfl⟩
  · cases settles.invalid.mpr completable

namespace Reader

private theorem shows_of_use {stream : TextStream} {style : ReadStyle} {outcome : ReadOutcome}
    {later : Reader} (fresh : stream.inner.abortSeen = false)
    (carriable : Carriable stream.carried) (probes : style.probes = true)
    (use : (Reader.text stream).use style = some (outcome, later)) :
    (TextStream.scan stream.carried stream.inner.unread).Shows stream.inner.writing outcome := by
  have waiting : TextStream.Scanned.Shows stream.inner.writing (.ofPolled .text stream.next.1)
      (TextStream.scan stream.carried stream.inner.unread) := by
    simp only [TextStream.next, fresh, TextStream.nextFrom_eq carriable]
    cases TextStream.scan stream.carried stream.inner.unread with
    | text text rest tail => rfl
    | malformed rest => rfl
    | dry tail =>
      cases stream.inner.writing with
      | live => exact .inr rfl
      | ended =>
        cases tail <;>
          simp [TextStream.Scanned.Shows, TextStream.atEnd, TextStream.finish, ReadOutcome.ofPolled]
      | aborted => rfl
  cases style with
  | take =>
    cases use
    simp only [TextStream.take, fresh, TextStream.takeFrom_eq carriable]
    cases TextStream.scan stream.carried stream.inner.unread with
    | text text rest tail => rfl
    | malformed rest => rfl
    | dry tail =>
      cases stream.inner.writing with
      | live => exact .inl rfl
      | ended =>
        cases tail <;>
          simp [TextStream.Scanned.Shows, TextStream.finish, Except.map, ReadOutcome.ofTakenText,
            ReadOutcome.ofTaken]
      | aborted => rfl
  | next =>
    cases use
    exact waiting
  | poll =>
    cases use
    rw [stream.poll_eq_next]
    exact waiting
  | readAll => cases probes
  | intoText => cases probes
  | discard => cases probes

private theorem Stands.carriable {course : Course} {reported : Bool} {reader : Reader}
    (stands : reader.Stands course reported) : Carriable reader.carried := by
  cases reader with
  | text stream => exact stands.2.1
  | _ => exact carriable_nil

private theorem Answers.text_some {course : Course} {reader later : Reader} {style : ReadStyle}
    {text : String} (carriable : Carriable reader.carried) (probes : style.probes = true)
    (answers : Answers course false reader ⟨style, .ready (.text text)⟩ later) :
    text.isEmpty = false ∧ later.unread.length < reader.unread.length := by
  cases answers with
  | text style piece text used later line content some reads =>
    refine ⟨some, ?_⟩
    cases used with
    | cons chunk others =>
      rw [line, List.length_append, List.length_cons]
      omega
    | nil =>
      rw [List.flatten_nil, List.append_nil] at content
      rw [content] at carriable
      rw [eq_empty_of_encode (carriable.eq_nil_of_isText ⟨text, rfl⟩)] at some
      cases some
  | whole => cases probes
  | waits style outcome later nothing => rcases nothing with none | none <;> cases none
  | ends style outcome later signal => rcases signal with none | none <;> cases none
  | cut style outcome later signal => rcases signal with none | none <;> cases none
  | again style outcome later before => cases before

private theorem not_reported_of_goesOn {readings : List Reading}
    (goes : ∀ reading ∈ readings, reading.goesOn = true) : reported readings = false :=
  List.any_eq_false.mpr fun reading member => by
    simp [Reading.reportsAbort_eq_false (Reading.sound_of_goesOn (goes reading member))]

namespace History

variable {family : Family} {payloads : List Bytes} {course : Course} {readings : List Reading}
  {reader : Reader}

private theorem text_some (history : History family payloads course readings reader)
    (goes : ∀ reading ∈ readings, reading.goesOn = true) {style : ReadStyle} {text : String}
    (member : ⟨style, .ready (.text text)⟩ ∈ readings) : text.isEmpty = false := by
  have probes : style.probes = true := goes _ member
  obtain ⟨earlier, more, split⟩ := List.append_of_mem member
  obtain ⟨before, stood, asked, later, past, -, -, answers⟩ := history.answered split
  have quiet : reported earlier = false := not_reported_of_goesOn fun reading among =>
    goes reading (split ▸ List.mem_append_left _ among)
  rw [quiet] at answers
  exact (answers.text_some past.stands.carriable probes).1

private theorem texts_le (history : History family payloads course readings reader)
    (goes : ∀ reading ∈ readings, reading.goesOn = true) :
    (readings.filterMap Reading.chunk?).length + reader.unread.length ≤ payloads.length := by
  induction history with
  | opened => cases family <;> exact Nat.le_refl 0
  | @written payloads readings reader payload before ih =>
    by_cases there : reader = .gone
    · subst there
      have earlier := ih goes
      rw [List.length_append]
      exact Nat.le_add_right_of_le earlier
    · have earlier := ih goes
      have kept : (filled [payload]).length ≤ 1 := List.length_filter_le ..
      rw [unread_push payload there, List.length_append, List.length_append, List.length_singleton]
      omega
  | @used payloads course readings reader later style outcome before use ih =>
    obtain ⟨others, last⟩ := List.forall_mem_append.mp goes
    have goesOn := last _ (List.mem_singleton_self _)
    have earlier := ih others
    have stands := before.stands
    rw [not_reported_of_goesOn others] at stands
    have told := told_of_use stands use
    have line := told.line.length_le
    rw [List.filterMap_append, List.length_append]
    cases outcome with
    | ready chunk =>
      cases chunk with
      | bytes value => cases goesOn
      | text value =>
        have less := (told.answers.text_some stands.carriable goesOn).2
        simp only [List.filterMap_cons, Reading.chunk?, List.filterMap_nil, List.length_singleton]
        omega
    | _ =>
      simp only [List.filterMap_cons, Reading.chunk?, List.filterMap_nil, List.length_nil]
      omega
  | ended course before ceased ih =>
    rw [unread_withWriting]
    exact ih goes

private theorem begins (history : History family payloads course readings reader)
    (goes : ∀ reading ∈ readings, reading.goesOn = true) (there : reader ≠ .gone) :
    contentOf readings <+: payloads.flatten :=
  ⟨reader.remaining, history.inLine.content there fun reading member =>
    Reading.sound_of_goesOn (goes reading member)⟩

private theorem settles {stream : TextStream}
    (history : History family payloads course readings (.text stream))
    (goes : ∀ reading ∈ readings, reading.goesOn = true) {style : ReadStyle}
    (probes : style.probes = true) {outcome : ReadOutcome} {later : Reader}
    (use : (Reader.text stream).use style = some (outcome, later)) :
    (∃ text, outcome = .ready (.text text)) ∨
      Settles payloads.flatten (contentOf readings) course.writing outcome := by
  have stands := history.stands
  rw [not_reported_of_goesOn goes] at stands
  obtain ⟨inner, carriable, -⟩ := stands
  have shows := shows_of_use inner.seen carriable probes use
  have content : contentOf readings ++ (stream.carried ++ stream.inner.unread.flatten) =
      payloads.flatten := history.inLine.content nofun fun reading member =>
    Reading.sound_of_goesOn (goes reading member)
  have whole := isText_contentOf goes
  have scans := TextStream.scan_scans carriable stream.inner.unread
  rw [inner.writing] at shows
  generalize TextStream.scan stream.carried stream.inner.unread = found at scans shows
  cases scans with
  | text text used rest tail => exact .inl ⟨text, shows⟩
  | malformed used rest line some malformed =>
    refine .inr ?_
    have invalid : ¬ Completable payloads.flatten := by
      rw [← content, completable_append whole, line, List.flatten_append, ← List.append_assoc]
      exact fun completable => not_completable_of_malformed malformed completable.of_append
    cases shows
    exact .of_invalid invalid _ _
  | dry carriable =>
    refine .inr ?_
    rw [← content]
    exact .of_dry whole carriable shows

end History

/-- What is known of a text read so far and probed once more: no piece of it is empty, together they
begin what has been written, there are no more of them than payloads, and what comes when no text
comes is settled. -/
structure TextAccount (payloads : List Bytes) (writing : Writing) (readings : List Reading)
    (last : Reading) : Prop where
  some : ∀ style text, ⟨style, .ready (.text text)⟩ ∈ readings ++ [last] → text.isEmpty = false
  begins : contentOf (readings ++ [last]) <+: payloads.flatten
  few : ((readings ++ [last]).filterMap Reading.chunk?).length ≤ payloads.length
  settles : last.chunk? = none →
    Settles payloads.flatten (contentOf readings) writing last.outcome

/-- A stream was read as text from its start, the readings went on, and one more probe was the
last. -/
inductive TextRead (payloads : List Bytes) (writing : Writing) (readings : List Reading)
    (last : Reading) : Prop where
  | probed {family : Family} {course : Course} {reader later : Reader}
    (history : History family payloads course readings reader) (writes : course.writing = writing)
    (goes : ∀ reading ∈ readings, reading.goesOn = true) (isText : reader.isText = true)
    (probes : last.style.probes = true)
    (use : reader.use last.style = some (last.outcome, later))

private theorem isText_of_probe (stream : TextStream) {style : ReadStyle}
    (probes : style.probes = true) :
    ∃ outcome later, (Reader.text stream).use style = some (outcome, later) ∧
      later.isText = true := by
  cases style <;> first | exact ⟨_, _, rfl, rfl⟩ | cases probes

private theorem TextRead.account {payloads : List Bytes} {writing : Writing}
    {readings : List Reading}
    {last : Reading} (read : TextRead payloads writing readings last) :
    TextAccount payloads writing readings last := by
  obtain ⟨history, rfl, goes, isText, probes, use⟩ := read
  rename_i course reader later
  cases reader with
  | bytes stream => cases isText
  | gone => cases isText
  | text stream =>
    obtain ⟨style, outcome⟩ := last
    have more := history.used style outcome use
    rcases history.settles goes probes use with ⟨text, rfl⟩ | settles
    · -- The probe went on, so that what holds of such readings holds with it.
      have goes : ∀ reading ∈ readings ++ [⟨style, .ready (.text text)⟩],
          reading.goesOn = true :=
        List.forall_mem_append.mpr ⟨goes, by simpa [Reading.goesOn] using probes⟩
      have there : later ≠ .gone := by
        rintro rfl
        obtain ⟨_, _, again, stays⟩ := isText_of_probe stream probes
        rw [use] at again
        cases again
        cases stays
      refine ⟨fun style text member => more.text_some goes member, more.begins goes there, ?_,
        fun none => by cases none⟩
      exact Nat.le_trans (Nat.le_add_right _ _) (more.texts_le goes)
    · have none : Reading.chunk? ⟨style, outcome⟩ = none := by
        cases outcome with
        | ready chunk => exact absurd rfl (settles.ne_ready chunk)
        | _ => rfl
      have same : (readings ++ [(⟨style, outcome⟩ : Reading)]).filterMap Reading.chunk? =
          readings.filterMap Reading.chunk? := by
        rw [List.filterMap_append, List.filterMap_cons_none none, List.filterMap_nil,
          List.append_nil]
      refine ⟨fun style text member => ?_, ?_, ?_, fun _ => settles⟩
      · rcases List.mem_append.mp member with earlier | last
        · exact history.text_some goes earlier
        · cases List.mem_singleton.mp last
          cases none
      · rw [contentOf, same]
        exact history.begins goes (fun gone => by cases gone)
      · rw [same]
        exact Nat.le_trans (Nat.le_add_right _ _) (history.texts_le goes)

end Reader

/-- A stream that is read as text from its start can always be read on, and what it gives is
accounted for by the bytes written. Once no more text comes, neither the way in which the bytes were
cut and the readings were made nor their turns make a difference. -/
theorem text_read_by_content {family : Family} {payloads : List Bytes} {course : Course}
    {readings : List Reading} {reader : Reader}
    (history : Reader.History family payloads course readings reader)
    (goes : ∀ reading ∈ readings, reading.goesOn = true) (isText : reader.isText = true)
    {style : ReadStyle} (probes : style.probes = true) :
    ∃ outcome later, reader.use style = some (outcome, later) ∧
      Reader.TextAccount payloads course.writing readings ⟨style, outcome⟩ ∧
      ∀ payloads' readings' last',
        Reader.TextRead payloads' course.writing readings' last' →
        payloads'.flatten = payloads.flatten → last'.chunk? = none →
        Reading.chunk? ⟨style, outcome⟩ = none →
        last'.outcome.signal = outcome.signal ∧
          (Completable payloads.flatten → contentOf readings' = contentOf readings) := by
  cases reader with
  | bytes stream => cases isText
  | gone => cases isText
  | text stream =>
    obtain ⟨outcome, later, use, -⟩ := Reader.isText_of_probe stream probes
    have account : Reader.TextAccount payloads course.writing readings ⟨style, outcome⟩ :=
      Reader.TextRead.account (.probed history rfl goes isText probes use)
    refine ⟨outcome, later, use, account, ?_⟩
    intro payloads' readings' last' read same none' none
    have settles := account.settles none
    have settles' := read.account.settles none'
    rw [same] at settles'
    exact ⟨settles'.signal_eq settles, fun completable =>
      (settles'.longest completable).eq (settles.longest completable)⟩

/-- The history of a message that has ended inside its second character, which came in another
payload than its lead byte. -/
private theorem cut_inside_character : Reader.History .text [[0x41, 0xE2], [0x82]] .finished
    [⟨.take, .ready (.text "A")⟩, ⟨.poll, .pending⟩] (.text ⟨⟨[], .ended, false⟩, [0xE2, 0x82]⟩) :=
  have first := (Reader.History.opened : Reader.History .text ..).written [0x41, 0xE2]
  have letter : Reader.History .text [[0x41, 0xE2]] .live [⟨.take, .ready (.text "A")⟩]
      (.text ⟨⟨[], .live, false⟩, [0xE2]⟩) := first.used .take _ (by decide +kernel)
  have waiting : Reader.History .text [[0x41, 0xE2], [0x82]] .live
      [⟨.take, .ready (.text "A")⟩, ⟨.poll, .pending⟩] (.text ⟨⟨[], .live, false⟩, [0xE2, 0x82]⟩) :=
    (letter.written [0x82]).used .poll _ (by decide +kernel)
  waiting.ended .finished nofun

/-- Reading on is told of the character that is not whole. -/
theorem ended_inside_character :
    let reader : Reader := .text ⟨⟨[], .ended, false⟩, [0xE2, 0x82]⟩
    let readings : List Reading := [⟨.take, .ready (.text "A")⟩, ⟨.poll, .pending⟩]
    let payloads : List Bytes := [[0x41, 0xE2], [0x82]]
    Reader.History .text payloads .finished readings reader ∧
      (∀ reading ∈ readings, reading.goesOn = true) ∧ reader.isText = true ∧
      ReadStyle.next.probes = true ∧
      ∃ outcome later, reader.use .next = some (outcome, later) ∧
        outcome = .failed .truncatedUtf8 ∧
        Reader.TextAccount payloads .ended readings ⟨.next, outcome⟩ := by
  intro reader readings payloads
  have goes : ∀ reading ∈ readings, reading.goesOn = true := by decide
  obtain ⟨outcome, later, use, account, -⟩ :=
    text_read_by_content cut_inside_character goes rfl (rfl : ReadStyle.next.probes = true)
  exact ⟨cut_inside_character, goes, rfl, rfl, outcome, later, use, by cases use; rfl, account⟩

end WebSocketSession
