import WebSocketSession.Proofs.Streams
import WebSocketSession.Proofs.TextReading

/-!
# What readers are told

A reading is one use of a reader. `Reader.Answers` lists what a reading can be told, each answer
with what it says of the message and of what remains to be read; `Reader.told_of_use` shows that
every reading of a reader that stands as its message does is told one of these.
-/

set_option autoImplicit false
set_option relaxedAutoImplicit false

namespace WebSocketSession

/-- One use of a reader: the way, and what it gave. -/
structure Reading where
  style : ReadStyle
  outcome : ReadOutcome
  deriving DecidableEq

/-- How far a streamed message has come: it is in flight, its last fragment has been accepted, it
was cut short, or its session let go of it. -/
inductive Course where
  | live
  | finished
  | aborted
  | dropped
  deriving DecidableEq

def Course.writing : Course → Writing
  | .live => .live
  | .finished => .ended
  | .aborted => .aborted
  | .dropped => .ended

private theorem Course.eq_live {course : Course} (writes : course.writing = .live) :
    course = .live := by
  cases course <;> first | rfl | cases writes

private theorem Course.eq_aborted {course : Course} (writes : course.writing = .aborted) :
    course = .aborted := by
  cases course <;> first | rfl | cases writes

def Chunk.content : Chunk → Bytes
  | .bytes value => value
  | .text value => Utf8.encode value

namespace Reading

def reportsAbort (reading : Reading) : Bool :=
  reading.outcome == .aborted || reading.outcome == .failed .aborted

def fails (reading : Reading) : Bool :=
  match reading.outcome with
  | .failed _ | .aborted => true
  | _ => false

def chunk? (reading : Reading) : Option Chunk :=
  match reading.outcome with
  | .ready chunk => some chunk
  | _ => none

theorem reportsAbort_eq_false {reading : Reading} (sound : reading.fails = false) :
    reading.reportsAbort = false := by
  obtain ⟨style, outcome⟩ := reading
  cases outcome <;> first | rfl | cases sound

end Reading

def contentOf (readings : List Reading) : Bytes :=
  (readings.filterMap Reading.chunk?).flatMap Chunk.content

theorem contentOf_append (first second : List Reading) :
    contentOf (first ++ second) = contentOf first ++ contentOf second := by
  simp [contentOf]

/-- The stream stands as its message does, and `reported` is whether its reader knows of an
abort. -/
structure MessageStream.Stands (course : Course) (reported : Bool) (stream : MessageStream) :
    Prop where
  writing : stream.writing = course.writing
  seen : stream.abortSeen = reported
  ceased : reported = true → course = .aborted ∧ stream.unread = []

namespace Reader

def opened : Family → Reader
  | .text => .text MessageStream.opened.intoText
  | .binary => .bytes .opened

def unread : Reader → List Bytes
  | .bytes stream => stream.unread
  | .text stream => stream.inner.unread
  | .gone => []

def carried : Reader → Bytes
  | .text stream => stream.carried
  | _ => []

def remaining (reader : Reader) : Bytes := reader.carried ++ reader.unread.flatten

def isText : Reader → Bool
  | .text _ => true
  | _ => false

/-- Where a reader stands: as its stream does, and what it carries is the start of a character. -/
def Stands (course : Course) (reported : Bool) : Reader → Prop
  | .bytes stream => stream.Stands course reported
  | .text stream =>
    stream.inner.Stands course reported ∧ Utf8.Carriable stream.carried ∧
      (reported = true → stream.carried = [])
  | .gone => True

/-- What a reading is told, by how the message stands, by whether an abort has been reported, and
by what remains. -/
inductive Answers (course : Course) (reported : Bool) (reader : Reader) :
    Reading → Reader → Prop where
  | chunk (style : ReadStyle) (piece : style ≠ .readAll) (bytes : Bytes) (later : Reader)
    (line : reader.unread = bytes :: later.unread) (binary : reader.isText = false)
    (stays : later.isText = false) :
    Answers course reported reader ⟨style, .ready (.bytes bytes)⟩ later
  | text (style : ReadStyle) (piece : style ≠ .readAll) (text : String) (used : List Bytes)
    (later : Reader) (line : reader.unread = used ++ later.unread)
    (content : reader.carried ++ used.flatten = Utf8.encode text ++ later.carried)
    (some : text.isEmpty = false) (reads : reader.isText = true) :
    Answers course reported reader ⟨style, .ready (.text text)⟩ later
  | whole (chunk : Chunk) (ceased : course.writing = .ended)
    (content : chunk.content = reader.remaining)
    (kind : reader.isText = true ↔ ∃ text, chunk = .text text) :
    Answers course reported reader ⟨.readAll, .ready chunk⟩ .gone
  | waits (style : ReadStyle) (outcome : ReadOutcome) (later : Reader)
    (nothing : outcome = .empty ∨ outcome = .pending) (live : course = .live)
    (drained : later = .gone ∨ later.unread = [] ∧ later.remaining = reader.remaining) :
    Answers course reported reader ⟨style, outcome⟩ later
  | ends (style : ReadStyle) (outcome : ReadOutcome) (later : Reader)
    (signal : outcome = .finished ∨ outcome = .atEnd) (ceased : course.writing = .ended)
    (drained : reader.remaining = []) (still : later.remaining = []) :
    Answers course reported reader ⟨style, outcome⟩ later
  | cut (style : ReadStyle) (outcome : ReadOutcome) (later : Reader)
    (signal : outcome = .aborted ∨ outcome = .failed .aborted) (short : course = .aborted)
    (still : later.remaining = []) : Answers course reported reader ⟨style, outcome⟩ later
  /-- Nothing comes after the report of an abort. -/
  | again (style : ReadStyle) (outcome : ReadOutcome) (later : Reader) (before : reported = true)
    (nothing : outcome = .atEnd ∨
      style = .readAll ∧ ∃ chunk, outcome = .ready chunk ∧ chunk.content = [])
    (still : later.remaining = []) : Answers course reported reader ⟨style, outcome⟩ later
  | malformed (style : ReadStyle) (used : List Bytes) (later : Reader)
    (line : later = .gone ∧ used = reader.unread ∨ reader.unread = used ++ later.unread)
    (invalid : ∀ more text, Utf8.encode text ≠ reader.carried ++ used.flatten ++ more)
    (reads : reader.isText = true) :
    Answers course reported reader ⟨style, .failed .invalidUtf8⟩ later
  | truncated (style : ReadStyle) (later : Reader) (ceased : course.writing = .ended)
    (part : ∀ text, Utf8.encode text ≠ reader.remaining) (still : later.remaining = [])
    (reads : reader.isText = true) :
    Answers course reported reader ⟨style, .failed .truncatedUtf8⟩ later
  /-- The reader is made one of text, or is thrown away. -/
  | quiet (style : ReadStyle) (unread : style = .intoText ∨ style = .discard) (later : Reader)
    (same : later = .gone ∨ later.unread = reader.unread ∧ later.carried = reader.carried) :
    Answers course reported reader ⟨style, .quiet⟩ later

structure Told (course : Course) (reported : Bool) (reader : Reader) (reading : Reading)
    (later : Reader) : Prop where
  answers : Answers course reported reader reading later
  stands : later.Stands course (reported || reading.reportsAbort)
  line : later.unread <:+ reader.unread
  /-- A reader of bytes skips nothing. -/
  chunks : later.isText = false → later ≠ .gone → reader.isText = false ∧
    reading.chunk?.toList ++ later.unread.map .bytes = reader.unread.map .bytes

section Bytes

variable {course : Course} {reported : Bool} {stream : MessageStream}

private theorem told_of_chunk (stands : stream.Stands course false) (style : ReadStyle)
    (piece : style ≠ .readAll) {bytes : Bytes} {rest : List Bytes}
    (line : stream.unread = bytes :: rest) :
    Told course false (.bytes stream) ⟨style, .ready (.bytes bytes)⟩
      (.bytes (stream.withUnread rest)) := by
  have left : (stream.withUnread rest).unread = rest := stream.unread_withUnread rest
  refine ⟨.chunk style piece bytes _ ?_ rfl rfl, ⟨stands.writing, stands.seen, nofun⟩, ?_,
    fun _ _ => ⟨rfl, ?_⟩⟩
  · simp only [unread, left, line]
  · simp only [unread, left, line]
    exact List.suffix_cons bytes rest
  · simp only [unread, left, line]
    rfl

private theorem told_of_drained (stands : stream.Stands course false) (style : ReadStyle)
    (drained : stream.unread = []) {outcome : ReadOutcome}
    (signal : course = .live ∧ (outcome = .empty ∨ outcome = .pending) ∨
      course.writing = .ended ∧ (outcome = .finished ∨ outcome = .atEnd)) :
    Told course false (.bytes stream) ⟨style, outcome⟩ (.bytes stream) := by
  have remaining : (Reader.bytes stream).remaining = [] := by
    simp [Reader.remaining, carried, unread, drained]
  have quiet : Reading.reportsAbort ⟨style, outcome⟩ = false := by
    rcases signal with ⟨-, rfl | rfl⟩ | ⟨-, rfl | rfl⟩ <;> rfl
  have none : Reading.chunk? ⟨style, outcome⟩ = none := by
    rcases signal with ⟨-, rfl | rfl⟩ | ⟨-, rfl | rfl⟩ <;> rfl
  refine ⟨?_, ?_, List.suffix_refl _, fun _ _ => ⟨rfl, by rw [none]; rfl⟩⟩
  · rcases signal with ⟨live, nothing⟩ | ⟨ceased, ends⟩
    · exact .waits style outcome _ nothing live (.inr ⟨drained, rfl⟩)
    · exact .ends style outcome _ ends ceased remaining remaining
  · rw [quiet]
    exact stands

private theorem told_of_cut (stands : stream.Stands .aborted false) (style : ReadStyle)
    (drained : stream.unread = []) {outcome : ReadOutcome}
    (signal : outcome = .aborted ∨ outcome = .failed .aborted) :
    Told .aborted false (.bytes stream) ⟨style, outcome⟩
      (.bytes { stream with abortSeen := true }) := by
  have reports : Reading.reportsAbort ⟨style, outcome⟩ = true := by
    rcases signal with rfl | rfl <;> rfl
  have none : Reading.chunk? ⟨style, outcome⟩ = none := by
    rcases signal with rfl | rfl <;> rfl
  have nothing : ({ stream with abortSeen := true } : MessageStream).unread = [] := drained
  refine ⟨.cut style outcome _ signal rfl ?_, ?_, ?_, fun _ _ => ⟨rfl, by rw [none]; rfl⟩⟩
  · simp [Reader.remaining, carried, unread, nothing]
  · rw [reports]
    exact ⟨stands.writing, rfl, fun _ => ⟨rfl, nothing⟩⟩
  · simp [unread, nothing]

private theorem told_again (stands : stream.Stands course true) (style : ReadStyle)
    {outcome : ReadOutcome}
    (nothing : outcome = .atEnd ∨ outcome = .aborted) :
    Told course true (.bytes stream) ⟨style, outcome⟩ (.bytes stream) := by
  obtain ⟨short, drained⟩ := stands.ceased rfl
  have remaining : (Reader.bytes stream).remaining = [] := by
    simp [Reader.remaining, carried, unread, drained]
  have none : Reading.chunk? ⟨style, outcome⟩ = none := by
    rcases nothing with rfl | rfl <;> rfl
  refine ⟨?_, stands, List.suffix_refl _, fun _ _ => ⟨rfl, by rw [none]; rfl⟩⟩
  rcases nothing with rfl | rfl
  · exact .again style _ _ rfl (.inl rfl) remaining
  · exact .cut style _ _ (.inl rfl) short remaining

private theorem told_take (stands : stream.Stands course reported) :
    Told course reported (.bytes stream) ⟨.take, .ofTaken .bytes stream.take.1⟩
      (.bytes stream.take.2) := by
  have seen := stands.seen
  cases reported with
  | true =>
    have took : stream.take = (.aborted, stream) := by simp [MessageStream.take, seen]
    rw [took]
    exact told_again stands .take (.inr rfl)
  | false =>
    cases line : stream.unread with
    | cons bytes rest =>
      have took : stream.take = (.ready bytes, stream.withUnread rest) := by
        simp [MessageStream.take, seen, line]
      rw [took]
      exact told_of_chunk stands .take nofun line
    | nil =>
      cases writes : stream.writing with
      | live =>
        have took : stream.take = (.empty, stream) := by
          simp [MessageStream.take, seen, line, writes]
        rw [took]
        exact told_of_drained stands .take line
          (.inl ⟨Course.eq_live (stands.writing.symm.trans writes), .inl rfl⟩)
      | ended =>
        have took : stream.take = (.finished, stream) := by
          simp [MessageStream.take, seen, line, writes]
        rw [took]
        exact told_of_drained stands .take line
          (.inr ⟨stands.writing.symm.trans writes, .inl rfl⟩)
      | aborted =>
        have took : stream.take = (.aborted, { stream with abortSeen := true }) := by
          simp [MessageStream.take, seen, line, writes]
        obtain rfl := Course.eq_aborted (stands.writing.symm.trans writes)
        rw [took]
        exact told_of_cut stands .take line (.inl rfl)

private theorem told_next (stands : stream.Stands course reported) (style : ReadStyle)
    (piece : style ≠ .readAll) :
    Told course reported (.bytes stream) ⟨style, .ofPolled .bytes stream.next.1⟩
      (.bytes stream.next.2) := by
  have seen := stands.seen
  cases reported with
  | true =>
    have came : stream.next = (.ready none, stream) := by simp [MessageStream.next, seen]
    rw [came]
    exact told_again stands style (.inl rfl)
  | false =>
    cases line : stream.unread with
    | cons bytes rest =>
      have came : stream.next = (.ready (some (.ok bytes)), stream.withUnread rest) := by
        simp [MessageStream.next, seen, line]
      rw [came]
      exact told_of_chunk stands style piece line
    | nil =>
      cases writes : stream.writing with
      | live =>
        have came : stream.next = (.pending, stream) := by
          simp [MessageStream.next, seen, line, writes]
        rw [came]
        exact told_of_drained stands style line
          (.inl ⟨Course.eq_live (stands.writing.symm.trans writes), .inr rfl⟩)
      | ended =>
        have came : stream.next = (.ready none, stream) := by
          simp [MessageStream.next, seen, line, writes]
        rw [came]
        exact told_of_drained stands style line
          (.inr ⟨stands.writing.symm.trans writes, .inr rfl⟩)
      | aborted =>
        have came : stream.next =
            (.ready (some (.error .aborted)), { stream with abortSeen := true }) := by
          simp [MessageStream.next, seen, line, writes]
        obtain rfl := Course.eq_aborted (stands.writing.symm.trans writes)
        rw [came]
        exact told_of_cut stands style line (.inr rfl)

theorem gather_eq (writing : Writing) (parts chunks : List Bytes) :
    MessageStream.gather writing parts chunks =
      match writing with
      | .live => .pending
      | .ended => .ready (.ok (parts.reverse.flatten ++ chunks.flatten))
      | .aborted => .ready (.error .aborted) := by
  induction chunks generalizing parts with
  | nil => cases writing <;> simp [MessageStream.gather]
  | cons chunk rest ih =>
    rw [MessageStream.gather, ih]
    cases writing <;> simp

private theorem told_readAll (stands : stream.Stands course reported) :
    Told course reported (.bytes stream) ⟨.readAll, .ofWhole .bytes stream.readAll⟩ .gone := by
  refine ⟨?_, trivial, List.nil_suffix, fun _ there => absurd rfl there⟩
  cases reported with
  | true =>
    simp only [MessageStream.readAll, stands.seen, if_true]
    exact .again .readAll _ _ rfl (.inr ⟨rfl, _, rfl, rfl⟩) rfl
  | false =>
    simp only [MessageStream.readAll, stands.seen, Bool.false_eq_true, if_false, gather_eq]
    cases writes : stream.writing with
    | live =>
      have live := Course.eq_live (stands.writing.symm.trans writes)
      exact .waits .readAll _ _ (.inr rfl) live (.inl rfl)
    | ended =>
      refine .whole _ (stands.writing.symm.trans writes) ?_ (by simp [isText])
      simp [Chunk.content, remaining, carried, unread]
    | aborted =>
      have short := Course.eq_aborted (stands.writing.symm.trans writes)
      exact .cut .readAll _ _ (.inr rfl) short rfl

end Bytes

section Text

variable {course : Course} {reported : Bool} {stream : TextStream}

private theorem stands_resumeAt (stands : stream.inner.Stands course false) (rest : List Bytes)
    {tail : Bytes} (carriable : Utf8.Carriable tail) :
    (Reader.text (stream.resumeAt rest tail)).Stands course false :=
  ⟨⟨stands.writing, stands.seen, nofun⟩, carriable, nofun⟩

theorem unread_resumeAt (stream : TextStream) (rest : List Bytes) (tail : Bytes) :
    (Reader.text (stream.resumeAt rest tail)).unread = rest :=
  stream.inner.unread_withUnread rest

theorem remaining_resumeAt_nil (stream : TextStream) (tail : Bytes) :
    (Reader.text (stream.resumeAt [] tail)).remaining = tail :=
  List.append_nil tail

private theorem told_of_text (stands : stream.inner.Stands course false) (style : ReadStyle)
    (piece : style ≠ .readAll) {text : String} {rest : List Bytes} {tail : Bytes}
    (scans : TextStream.Scans stream.carried stream.inner.unread (.text text rest tail)) :
    Told course false (.text stream) ⟨style, .ready (.text text)⟩
      (.text (stream.resumeAt rest tail)) := by
  have left := unread_resumeAt stream rest tail
  cases scans with
  | text text used rest tail line content some carriable =>
    refine ⟨.text style piece text used _ ?_ content some rfl,
      stands_resumeAt stands rest carriable, ?_, nofun⟩
    · rw [left]
      exact line
    · rw [left]
      exact ⟨used, line.symm⟩

private theorem told_of_malformed (stands : stream.inner.Stands course false) (style : ReadStyle)
    {rest : List Bytes}
    (scans : TextStream.Scans stream.carried stream.inner.unread (.malformed rest)) :
    Told course false (.text stream) ⟨style, .failed .invalidUtf8⟩
      (.text (stream.resumeAt rest [])) := by
  have left := unread_resumeAt stream rest []
  cases scans with
  | malformed used rest line some malformed =>
    refine ⟨.malformed style used _ (.inr ?_) ?_ rfl,
      stands_resumeAt stands rest Utf8.carriable_nil, ?_, nofun⟩
    · rw [left]
      exact line
    · exact Utf8.not_text_of_malformed malformed
    · rw [left]
      exact ⟨used, line.symm⟩

private theorem told_of_waiting (stands : stream.inner.Stands .live false) (style : ReadStyle)
    {outcome : ReadOutcome} (nothing : outcome = .empty ∨ outcome = .pending) {tail : Bytes}
    (scans : TextStream.Scans stream.carried stream.inner.unread (.dry tail)) :
    Told .live false (.text stream) ⟨style, outcome⟩ (.text (stream.resumeAt [] tail)) := by
  have left := unread_resumeAt stream [] tail
  have quiet : Reading.reportsAbort ⟨style, outcome⟩ = false := by
    rcases nothing with rfl | rfl <;> rfl
  cases scans with
  | dry carriable =>
    have still := remaining_resumeAt_nil stream (stream.carried ++ stream.inner.unread.flatten)
    refine ⟨.waits style outcome _ nothing rfl (.inr ⟨left, still⟩), ?_, ?_, nofun⟩
    · rw [quiet]
      exact stands_resumeAt stands [] carriable
    · rw [left]
      exact List.nil_suffix

private theorem not_text_of_carriable {tail : Bytes} (carriable : Utf8.Carriable tail)
    (some : tail.isEmpty = false) (text : String) : Utf8.encode text ≠ tail := by
  intro same
  have decoded : Utf8.decode tail = .some text := Utf8.decode_eq_some_iff.mpr same
  rw [Utf8.decode_of_carried carriable (by simpa [Utf8.Decoding.resume] using some)] at decoded
  cases decoded

private theorem told_of_ended (stands : stream.inner.Stands course false)
    (ceased : course.writing = .ended) (style : ReadStyle) {outcome : ReadOutcome} {tail : Bytes}
    (scans : TextStream.Scans stream.carried stream.inner.unread (.dry tail))
    (signal : if tail.isEmpty then outcome = .finished ∨ outcome = .atEnd
      else outcome = .failed .truncatedUtf8) :
    Told course false (.text stream) ⟨style, outcome⟩ (.text (stream.resumeAt [] [])) := by
  have left := unread_resumeAt stream [] []
  have still := remaining_resumeAt_nil stream []
  have line : (Reader.text (stream.resumeAt [] [])).unread <:+ (Reader.text stream).unread := by
    rw [left]
    exact List.nil_suffix
  cases scans with
  | dry carriable =>
    have stands' := stands_resumeAt stands [] Utf8.carriable_nil
    cases empty : (stream.carried ++ stream.inner.unread.flatten).isEmpty with
    | true =>
      rw [empty] at signal
      have drained : (Reader.text stream).remaining = [] := List.isEmpty_iff.mp empty
      have quiet : Reading.reportsAbort ⟨style, outcome⟩ = false := by
        rcases signal with rfl | rfl <;> rfl
      refine ⟨.ends style outcome _ signal ceased drained still, ?_, line, nofun⟩
      rw [quiet]
      exact stands'
    | false =>
      rw [empty] at signal
      cases signal
      have part := not_text_of_carriable carriable empty
      exact ⟨.truncated style _ ceased part still rfl, stands', line, nofun⟩

private theorem told_of_aborted (stands : stream.inner.Stands .aborted false) (style : ReadStyle) :
    Told .aborted false (.text stream) ⟨style, .failed .aborted⟩ (.text stream.aborted) := by
  have left : stream.aborted.inner.unread = [] := stream.inner.unread_withUnread []
  refine ⟨.cut style _ _ (.inr rfl) rfl ?_, ⟨⟨stands.writing, rfl, fun _ => ⟨rfl, left⟩⟩, ?_⟩,
    ?_, nofun⟩
  · simp only [remaining, carried, unread, left]
    rfl
  · exact ⟨Utf8.carriable_nil, fun _ => rfl⟩
  · simp only [unread, left]
    exact List.nil_suffix

private theorem told_text_again (stands : (Reader.text stream).Stands course true)
    (style : ReadStyle)
    {outcome : ReadOutcome} (nothing : outcome = .atEnd ∨ outcome = .failed .aborted) :
    Told course true (.text stream) ⟨style, outcome⟩ (.text { stream with carried := [] }) := by
  obtain ⟨inner, carriable, uncarried⟩ := stands
  obtain ⟨short, drained⟩ := inner.ceased rfl
  have still : (Reader.text { stream with carried := [] }).remaining = [] := by
    simp only [remaining, carried, unread, drained]
    rfl
  refine ⟨?_, ⟨inner, Utf8.carriable_nil, fun _ => rfl⟩, List.suffix_refl _, nofun⟩
  rcases nothing with rfl | rfl
  · exact .again style _ _ rfl (.inl rfl) still
  · exact .cut style _ _ (.inr rfl) short still

private theorem told_text_take (stands : (Reader.text stream).Stands course reported) :
    Told course reported (.text stream) ⟨.take, .ofTakenText stream.take.1⟩
      (.text stream.take.2) := by
  obtain ⟨inner, carriable, -⟩ := id stands
  cases reported with
  | true =>
    simp only [TextStream.take, inner.seen, if_true]
    exact told_text_again stands .take (.inr rfl)
  | false =>
    have scans := TextStream.scan_scans carriable stream.inner.unread
    simp only [TextStream.take, inner.seen, TextStream.takeFrom_eq carriable]
    cases found : TextStream.scan stream.carried stream.inner.unread with
    | text text rest tail => exact told_of_text inner .take nofun (found ▸ scans)
    | malformed rest => exact told_of_malformed inner .take (found ▸ scans)
    | dry tail =>
      rw [found] at scans
      cases writes : stream.inner.writing with
      | live =>
        obtain rfl := Course.eq_live (inner.writing.symm.trans writes)
        exact told_of_waiting inner .take (.inl rfl) scans
      | ended =>
        refine told_of_ended inner (inner.writing.symm.trans writes) .take scans ?_
        cases empty : tail.isEmpty <;>
          simp [TextStream.finish, empty, Except.map, ReadOutcome.ofTakenText, ReadOutcome.ofTaken]
      | aborted =>
        obtain rfl := Course.eq_aborted (inner.writing.symm.trans writes)
        exact told_of_aborted inner .take

private theorem told_text_next (stands : (Reader.text stream).Stands course reported)
    (style : ReadStyle)
    (piece : style ≠ .readAll) :
    Told course reported (.text stream) ⟨style, .ofPolled .text stream.next.1⟩
      (.text stream.next.2) := by
  obtain ⟨inner, carriable, uncarried⟩ := id stands
  cases reported with
  | true =>
    have ended : TextStream.atEnd stream.carried = none := by
      rw [uncarried rfl]
      rfl
    simp only [TextStream.next, inner.seen, if_true, ended]
    exact told_text_again stands style (.inl rfl)
  | false =>
    have scans := TextStream.scan_scans carriable stream.inner.unread
    simp only [TextStream.next, inner.seen, TextStream.nextFrom_eq carriable]
    cases found : TextStream.scan stream.carried stream.inner.unread with
    | text text rest tail => exact told_of_text inner style piece (found ▸ scans)
    | malformed rest => exact told_of_malformed inner style (found ▸ scans)
    | dry tail =>
      rw [found] at scans
      cases writes : stream.inner.writing with
      | live =>
        obtain rfl := Course.eq_live (inner.writing.symm.trans writes)
        exact told_of_waiting inner style (.inr rfl) scans
      | ended =>
        refine told_of_ended inner (inner.writing.symm.trans writes) style scans ?_
        cases empty : tail.isEmpty <;>
          simp [TextStream.atEnd, TextStream.finish, empty, ReadOutcome.ofPolled]
      | aborted =>
        obtain rfl := Course.eq_aborted (inner.writing.symm.trans writes)
        exact told_of_aborted inner style

private theorem told_text_readAll (stands : (Reader.text stream).Stands course reported) :
    Told course reported (.text stream) ⟨.readAll, .ofWhole .text stream.readAll⟩ .gone := by
  obtain ⟨inner, carriable, uncarried⟩ := stands
  refine ⟨?_, trivial, List.nil_suffix, fun _ there => absurd rfl there⟩
  cases reported with
  | true =>
    simp only [TextStream.readAll, inner.seen, if_true, uncarried rfl]
    exact .again .readAll _ _ rfl (.inr ⟨rfl, _, rfl, rfl⟩) rfl
  | false =>
    have again := carriable.feedAll_append stream.inner.unread.flatten
    simp only [TextStream.readAll, inner.seen, Bool.false_eq_true, if_false,
      TextStream.gather_eq carriable]
    cases fed : (Utf8.Decoding.resume stream.carried).feedAll stream.inner.unread.flatten with
    | none =>
      exact .malformed .readAll _ _ (.inl ⟨rfl, rfl⟩)
        (Utf8.not_text_of_malformed (again.trans fed)) rfl
    | some d =>
      have content : stream.carried ++ stream.inner.unread.flatten =
          Utf8.encode d.text ++ d.carried := Utf8.Carriable.encode_feedAll fed
      cases writes : stream.inner.writing with
      | live =>
        have live := Course.eq_live (inner.writing.symm.trans writes)
        exact .waits .readAll _ _ (.inr rfl) live (.inl rfl)
      | ended =>
        have ceased := inner.writing.symm.trans writes
        cases empty : d.carried.isEmpty with
        | true =>
          simp only [TextStream.finish, empty, if_true]
          refine .whole _ ceased ?_ (by simp [isText])
          simp only [Chunk.content]
          rw [List.isEmpty_iff.mp empty, List.append_nil] at content
          simp [Reader.remaining, Reader.carried, unread, content, String.join_nil]
        | false =>
          simp only [TextStream.finish, empty]
          refine .truncated .readAll _ ceased (fun text same => ?_) rfl rfl
          have decoded := Utf8.decode_eq_some_iff.mpr same
          have none := Utf8.decode_of_carried (again.trans fed) (by simpa using empty)
          rw [Reader.remaining, Reader.carried, unread, none] at decoded
          cases decoded
      | aborted =>
        have short := Course.eq_aborted (inner.writing.symm.trans writes)
        exact .cut .readAll _ _ (.inr rfl) short rfl

end Text

theorem told_of_use {course : Course} {reported : Bool} {reader later : Reader} {style : ReadStyle}
    {outcome : ReadOutcome} (stands : reader.Stands course reported)
    (use : reader.use style = some (outcome, later)) :
    Told course reported reader ⟨style, outcome⟩ later := by
  cases reader with
  | gone => cases use
  | bytes stream =>
    cases style with
    | take =>
      cases use
      exact told_take stands
    | next =>
      cases use
      exact told_next stands .next nofun
    | poll =>
      cases use
      rw [stream.poll_eq_next]
      exact told_next stands .poll nofun
    | readAll =>
      cases use
      exact told_readAll stands
    | intoText =>
      cases use
      have still : (Reader.text stream.intoText).Stands course reported :=
        ⟨stands, Utf8.carriable_nil, fun _ => rfl⟩
      refine ⟨.quiet .intoText (.inl rfl) _ (.inr ⟨rfl, rfl⟩), ?_, List.suffix_refl _, nofun⟩
      rw [Reading.reportsAbort_eq_false rfl, Bool.or_false]
      exact still
    | discard =>
      cases use
      exact ⟨.quiet .discard (.inr rfl) _ (.inl rfl), trivial, List.nil_suffix,
        fun _ there => absurd rfl there⟩
  | text stream =>
    cases style with
    | take =>
      cases use
      exact told_text_take stands
    | next =>
      cases use
      exact told_text_next stands .next nofun
    | poll =>
      cases use
      rw [stream.poll_eq_next]
      exact told_text_next stands .poll nofun
    | readAll =>
      cases use
      exact told_text_readAll stands
    | intoText =>
      cases use
      refine ⟨.quiet .intoText (.inl rfl) _ (.inr ⟨rfl, rfl⟩), ?_, List.suffix_refl _, nofun⟩
      rw [Reading.reportsAbort_eq_false rfl, Bool.or_false]
      exact stands
    | discard =>
      cases use
      exact ⟨.quiet .discard (.inr rfl) _ (.inl rfl), trivial, List.nil_suffix,
        fun _ there => absurd rfl there⟩

end Reader
end WebSocketSession
