import WebSocketSession.Proofs.DemoRun
import WebSocketSession.Proofs.FragmentSize

/-!
# The output of the demonstration

`printout` says which lines the demonstration prints for a message, and `program_output` that it
prints these and no others, for every message and every size of its frames. The size shows in one
number only, the length at which a message is found too large. What else comes to the standard
output are log records, as far as the subscriber lets them through; of the notable ones one tells
how many frames there are (`transcriptOf`).
-/

set_option autoImplicit false
set_option relaxedAutoImplicit false

namespace WebSocketSession.Demo

open CommandLine (Options)
open Session (arrivals messageEvent streamEvent)

def connectedLine : Role → String
  | .server => "connected (Server)"
  | .client => "connected (Client)"

def tooLargeLine : Role → String
  | .server => "close sent: 1011 MessageTooLarge"
  | .client => "close sent: 1008 MessageTooLarge"

def messageLine (message : String) : Family → String
  | .text => "text message: " ++ message
  | .binary => "binary message: " ++ toString (Utf8.encode message).length ++ " bytes"

def openedLine : Family → String
  | .text => "text stream opened"
  | .binary => "binary stream opened"

def streamedLine (message : String) : Family → String
  | .text => "text stream: " ++ message
  | .binary => "binary stream: " ++ toString (Utf8.encode message).length ++ " bytes"

/-- The line for a message that is longer than the buffer and the limit of its family; it tells at
which length that was found out. -/
def exceedsLine (family : Family) (attempted limit : Nat) : String :=
  "error: " ++ family.label ++ " message exceeds buffer: " ++ toString attempted ++ " bytes > " ++
    toString limit ++ " bytes"

/-- The lines for a message: the stream and all that it carries, or the whole message, or if it is
too large the close and the error. -/
def received (message : String) (delivery : Delivery) (family : Family) (role : Role)
    (bufferSize attempted : Nat) : List String :=
  let limit := min bufferSize 65536
  match delivery with
  | .streaming => [openedLine family, streamedLine message family]
  | .buffered =>
    if (Utf8.encode message).length ≤ limit then [messageLine message family]
    else [tooLargeLine role, exceedsLine family attempted limit]

/-- The lines of a run: the one for the connection, and those for the message. -/
def printout (message : String) (delivery : Delivery) (family : Family) (role : Role)
    (bufferSize attempted : Nat) : List String :=
  connectedLine role :: received message delivery family role bufferSize attempted

def warnings (message : String) (delivery : Delivery) (family : Family)
    (bufferSize attempted : Nat) : List Record :=
  let limit := min bufferSize 65536
  match delivery with
  | .streaming => []
  | .buffered =>
    if (Utf8.encode message).length ≤ limit then []
    else [.session (.unhandled (.messageTooLarge family attempted limit))]

/-- The length at which a message in frames of `size` bytes is found to be too large: that of its
frames up to the one that the limit lies in. -/
def attempted (length limit size : Nat) : Nat := min length (size * (limit / size + 1))

def linesOf (options : Options) : List String :=
  printout options.message options.delivery options.family options.role options.bufferSize
    (attempted (Utf8.encode options.message).length (min options.bufferSize 65536)
      options.fragmentSize)

/-- The lines for the options of a run with the notable records among them: how many frames there
are, once the connection is up, and the warning before the close. -/
def transcriptOf (options : Options) : List Entry :=
  let message := Utf8.encode options.message
  let found := attempted message.length (min options.bufferSize 65536) options.fragmentSize
  .line (connectedLine options.role) ::
    .record (.dispatching (fragment options.family message options.fragmentSize).length) ::
    ((warnings options.message options.delivery options.family options.bufferSize found).map
        .record ++
      (received options.message options.delivery options.family options.role options.bufferSize
        found).map .line)

/-- A run that succeeds and puts out these entries, records that are not notable left out. -/
structure PutsOut (entries : List Entry) (output : Output) : Prop where
  succeeds : output.exitCode = 0
  uncomplaining : output.complaints = []
  notable : output.standard .standard = entries

def policyOf (options : Options) : Policy :=
  { Policy.ofRole options.role with bufferSize := options.bufferSize }

def arrived (options : Options) : Session Unit Unit :=
  (session options).receive host
    (fragment options.family (Utf8.encode options.message) options.fragmentSize)

private theorem session_serves (options : Options) :
    Serves options.delivery (policyOf options) (session options) where
  handlers := rfl
  policy := by
    obtain ⟨message, size, delivery, family, role, buffer⟩ := options
    cases delivery <;> rfl
  attached := rfl
  coherent := Session.coherent_of_idle rfl

private theorem bufferedLimit_policyOf (options : Options) (family : Family) :
    (policyOf options).bufferedLimit family = min options.bufferSize 65536 := by
  cases family <;> rfl

private theorem connected_eq (options : Options) :
    Running.after ⟨session options, []⟩ (Session.onConnect host) =
      ⟨session options, [.line (line .connect (policyOf options)),
        .record (.session .connected)]⟩ := by
  have serves := session_serves options
  have wanted : (session options).handlers.connect = true := by
    rw [serves.handlers]
    cases options.delivery <;> rfl
  have attempted : Input.connect.attempt host (session options) =
      ⟨.value (), session options,
        [.called .connect, .noted (line .connect (policyOf options))]⟩ := by
    rw [Input.attempt, Session.invoke_run, call_host, serves.policy]
    simp [Event.registration, Handlers.handles, wanted, Ending.mapFault]
  have handled : (Input.connect.handle host : Session.Step Unit Unit String Empty Unit)
      (session options) = _ := Session.handle_of_none (by rw [attempted]; rfl)
  rw [attempted] at handled
  change Running.after _ (Input.connect.handle host) = _
  rw [Running.after, handled]
  rfl

private theorem foldl_after (frames : List Frame) (running : Running) :
    frames.foldl (fun running frame => running.after (Session.onFrame host frame)) running =
      ⟨running.session.receive host frames,
        ((running.session.runTrace host (arrivals frames)).filterMap entry?).reverse ++
          running.entries⟩ := by
  induction frames generalizing running with
  | nil => rfl
  | cons frame rest ih =>
    have trace : running.session.runTrace host (arrivals (frame :: rest)) =
        (running.session.handled host frame).trace ++
          (running.session.handled host frame).state.runTrace host (arrivals rest) :=
      Session.runTrace_cons host running.session _ (arrivals rest)
    rw [List.foldl_cons, ih, trace, List.filterMap_append, List.reverse_append, List.append_assoc]
    rfl

private theorem run_of_idle {options : Options} (idle : (arrived options).assembly.slot = .idle) :
    (run options).session = arrived options ∧ (run options).entries.reverse =
      .record (.session .connected) :: .line (line .connect (policyOf options)) ::
        .record (.dispatching
          (fragment options.family (Utf8.encode options.message) options.fragmentSize).length) ::
        ((session options).runTrace host (arrivals (fragment options.family
          (Utf8.encode options.message) options.fragmentSize))).filterMap entry? := by
  have disposed : (Session.dispose : Session.Step Unit Unit String Empty Unit) (arrived options) =
      ⟨.value (), arrived options, []⟩ := by
    simp [Session.dispose, Assembly.disposed, idle]
  rw [run, connected_eq, foldl_after]
  change (Running.after ⟨arrived options, _⟩ Session.dispose).session = _ ∧
    (Running.after ⟨arrived options, _⟩ Session.dispose).entries.reverse = _
  rw [Running.after, disposed]
  simp [Running.log]

/-- A run that leaves nothing in flight puts out the connection, the number of its frames, what the
frames do, and its streams. -/
private theorem output_of_arrived {options : Options} {printed : List Entry} (streams : List String)
    (idle : (arrived options).assembly.slot = .idle)
    (shown : notable ((session options).runTrace host (arrivals
      (fragment options.family (Utf8.encode options.message) options.fragmentSize))) = printed)
    (read : streamOutput (arrived options).assembly.streams = ⟨streams.map .line, [], 0⟩) :
    PutsOut
      (.line (line .connect (policyOf options)) ::
        .record (.dispatching
          (fragment options.family (Utf8.encode options.message) options.fragmentSize).length) ::
        (printed ++ streams.map .line))
      (output options) := by
  obtain ⟨last, entries⟩ := run_of_idle idle
  have lines : (streams.map Entry.line).filter Subscriber.standard.shows = streams.map .line := by
    rw [List.filter_eq_self]
    simp [Subscriber.shows]
  constructor
  case succeeds => rw [output, last, read]
  case uncomplaining => rw [output, last, read]
  case notable =>
    rw [output, last, entries, read, Output.standard, List.filter_append, lines, ← shown]
    rfl

def wholeEvent (family : Family) (message : String) : Event :=
  match family with
  | .text => .text message
  | .binary => .binary (Utf8.encode message)

private theorem messageEvent_encode (family : Family) (message : String) :
    messageEvent family (Utf8.encode message) = some (wholeEvent family message) := by
  rw [Session.messageEvent_eq_some_iff]
  cases family <;> rfl

private theorem attempted_le {size limit : Nat} (bounded : size ≤ Numeral.sizeMax)
    (small : limit ≤ 65536) (length : Nat) :
    min length (size * (limit / size + 1)) ≤ Numeral.sizeMax := by
  refine Nat.le_trans (Nat.min_le_right ..) ?_
  rw [Nat.mul_succ]
  by_cases one : limit < size
  · rw [Nat.div_eq_of_lt one]
    omega
  · have whole := Nat.mul_div_le limit size
    have room : 131072 ≤ Numeral.sizeMax := by decide
    omega

private theorem faultEntries_tooLarge (options : Options) (family : Family)
    (attempted limit : Nat) :
    faultEntries (policyOf options) (.messageTooLarge family attempted limit) =
      [.record (.session (.unhandled (.messageTooLarge family attempted limit))),
        .line (tooLargeLine options.role), .line (exceedsLine family attempted limit)] := by
  have closed : "close sent: " ++ options.role.failureCode.label ++ " " ++
      trimReason "MessageTooLarge" = tooLargeLine options.role := by
    cases options.role <;> decide +kernel
  have told : "error: " ++ (Fault.messageTooLarge family attempted limit).message =
      exceedsLine family attempted limit := by
    unfold Fault.message exceedsLine
    simp only [← String.append_assoc]
  rw [← closed, ← told]
  rfl

private theorem line_connect (options : Options) :
    line .connect (policyOf options) = connectedLine options.role := by
  have connected : ∀ role : Role, "connected (" ++ role.label ++ ")" = connectedLine role := by
    intro role
    cases role <;> decide +kernel
  exact connected options.role

/-- What the frames of a message put out that is delivered whole: its line, or the warning, the
close and the error if it is too large. -/
private theorem wholeEntries_chunks {options : Options} (sound : options.Sound) :
    let found := attempted (Utf8.encode options.message).length (min options.bufferSize 65536)
      options.fragmentSize
    wholeEntries (policyOf options) options.family (wholeEvent options.family options.message)
        (Fragments.pastLimit? ((policyOf options).bufferedLimit options.family)
          ((session options).loan options.family).length
          (Fragments.chunks options.fragmentSize (Utf8.encode options.message))) =
      (warnings options.message .buffered options.family options.bufferSize found).map .record ++
        (received options.message .buffered options.family options.role options.bufferSize
          found).map .line := by
  intro found
  have past := Fragments.pastLimit?_chunks sound.1 (Utf8.encode options.message) 0
    (Nat.zero_le (min options.bufferSize 65536))
  simp only [Nat.mul_zero, Nat.zero_add] at past
  rw [bufferedLimit_policyOf]
  change wholeEntries _ _ _ (Fragments.pastLimit? (min options.bufferSize 65536) 0 _) = _
  rw [past, warnings, received]
  split
  · cases options.family <;> rfl
  · rw [wholeEntries, bufferedLimit_policyOf, Nat.min_eq_left (attempted_le sound.2
      (Nat.min_le_right ..) _), faultEntries_tooLarge]
    rfl

private theorem output_buffered {options : Options} (sound : options.Sound)
    (buffered : options.delivery = .buffered) :
    PutsOut (transcriptOf options) (output options) := by
  have serves := session_serves options
  rw [buffered] at serves
  have cut := fragment_eq_ofParts options.family (Utf8.encode options.message) sound.1
  have delivers : messageEvent options.family (((session options).loan options.family).bytes ++
      (Fragments.chunks options.fragmentSize (Utf8.encode options.message)).flatten) =
        some (wholeEvent options.family options.message) := by
    rw [Fragments.flatten_chunks]
    exact messageEvent_encode options.family options.message
  have yields := parts_yield _ serves (.inl ⟨rfl, rfl⟩) delivers
  rw [← cut, wholeEntries_chunks sound] at yields
  have empty : (arrived options).assembly.streams = [] := yields.unopened
  have puts := output_of_arrived [] yields.idle yields.shown (by rw [empty]; rfl)
  rw [line_connect, List.map_nil, List.append_nil] at puts
  rw [transcriptOf, buffered]
  exact puts

private theorem streamLine?_of_history {family : Family} {message : String} {payloads : List Bytes}
    {reader : Reader} (history : Reader.History family payloads .finished [] reader)
    (whole : payloads.flatten = Utf8.encode message) :
    streamLine? reader = some (streamedLine message family) := by
  obtain ⟨there, kind⟩ := history.untouched rfl
  have remaining : reader.remaining = Utf8.encode message :=
    (history.inLine.content there nofun).trans whole
  obtain ⟨outcome, use, told⟩ := Reader.read_rest history.stands there kind
  rw [remaining, messageEvent_encode] at told
  obtain ⟨chunk, rfl, delivers⟩ | ⟨-, invalid⟩ := told
  · have same := Option.some.inj delivers
    cases family with
    | text =>
      cases chunk with
      | bytes value => cases same
      | text value =>
        cases same
        rw [streamLine?, use]
        rfl
    | binary =>
      cases chunk with
      | bytes value =>
        cases same
        rw [streamLine?, use]
        rfl
      | text value => cases same
  · cases invalid

private theorem line_streamEvent (family : Family) (stream : Nat) (policy : Policy) :
    line (streamEvent family stream) policy = openedLine family := by
  cases family <;> rfl

private theorem output_streaming {options : Options} (positive : 0 < options.fragmentSize)
    (streaming : options.delivery = .streaming) :
    PutsOut (transcriptOf options) (output options) := by
  have serves := session_serves options
  rw [streaming] at serves
  have cut := fragment_eq_ofParts options.family (Utf8.encode options.message) positive
  have fills := message_fills options.family
    (Fragments.chunks options.fragmentSize (Utf8.encode options.message)) serves rfl
  have succeeds : Session.ObserverSucceeds host (session options).handlers :=
    fun frame session _ => congrArg Outcome.ending (call_host (.frame frame) session)
  have ends := (Session.streamed_frames
    (Fragments.chunks options.fragmentSize (Utf8.encode options.message)) succeeds rfl
    (serves.delivery_eq options.family)).1
  rw [← cut] at fills ends
  have idle : (arrived options).assembly.slot = .idle := Slot.inFlight_eq_none.mp ends
  obtain ⟨reader, only⟩ : ∃ reader, (arrived options).assembly.streams = [reader] :=
    List.length_eq_one_iff.mp fills.opened
  have history := fills.tracks.history
  change Reader.History _ _ _ _ ((arrived options).assembly.reader 0) at history
  rw [Assembly.reader, only] at history
  have whole : ([] ++ (fragment options.family (Utf8.encode options.message)
      options.fragmentSize).map Frame.payload).flatten = Utf8.encode options.message := by
    rw [List.nil_append, cut, ← List.flatMap_def, Fragments.flatMap_payload_ofParts,
      Fragments.flatten_chunks]
  have read : streamLine? reader = some (streamedLine options.message options.family) :=
    streamLine?_of_history history whole
  have puts := output_of_arrived [streamedLine options.message options.family] idle
    fills.shown (by simp [only, streamOutput, read])
  rw [line_connect, line_streamEvent] at puts
  rw [transcriptOf, streaming]
  exact puts

/-- No record is let through, as with logging switched off. -/
def Subscriber.Silent (subscriber : Subscriber) : Prop :=
  ∀ record, subscriber.passes record = false

/-- Only notable records are let through, if any. -/
def Subscriber.Terse (subscriber : Subscriber) : Prop :=
  ∀ record, subscriber.passes record = true → record.level.isNotable = true

/-- What the standard output and the exit code are after a run with the options. -/
structure Prints (options : Options) (output : Output) : Prop where
  succeeds : output.exitCode = 0
  uncomplaining : output.complaints = []
  /-- These are the lines of the program itself, whatever the subscriber lets through. -/
  lines : output.lines = linesOf options
  /-- Without records they are the whole standard output. -/
  alone : ∀ subscriber : Subscriber, subscriber.Silent →
    output.standard subscriber = (linesOf options).map .line
  /-- Notable records have their places among them. -/
  among : ∀ subscriber : Subscriber, subscriber.Terse →
    output.standard subscriber = (transcriptOf options).filter subscriber.shows

private theorem Output.standard_eq_filter (output : Output) {subscriber : Subscriber}
    (terse : subscriber.Terse) :
    output.standard subscriber = (output.standard .standard).filter subscriber.shows := by
  rw [Output.standard, Output.standard, List.filter_filter]
  apply List.filter_congr
  intro entry _
  cases entry with
  | line text => rfl
  | record record =>
    have notable := terse record
    simp only [Subscriber.shows, Subscriber.standard]
    cases passed : subscriber.passes record with
    | false => rfl
    | true => rw [notable passed, Bool.and_true]

private theorem filterMap_line (text : String) (rest : List Entry) :
    (Entry.line text :: rest).filterMap Entry.line? = text :: rest.filterMap Entry.line? := rfl

private theorem filterMap_record (record : Record) (rest : List Entry) :
    (Entry.record record :: rest).filterMap Entry.line? = rest.filterMap Entry.line? := rfl

private theorem Output.lines_eq_filterMap (output : Output) (subscriber : Subscriber) :
    output.lines = (output.standard subscriber).filterMap Entry.line? := by
  rw [Output.lines, Output.standard]
  induction output.entries with
  | nil => rfl
  | cons entry rest ih =>
    cases entry with
    | line text => rw [List.filter_cons_of_pos rfl, filterMap_line, filterMap_line, ih]
    | record record =>
      rw [filterMap_record, ih, List.filter_cons]
      split <;> rfl

private theorem Output.standard_of_silent (output : Output) {subscriber : Subscriber}
    (silent : subscriber.Silent) :
    output.standard subscriber = output.lines.map .line := by
  rw [Output.lines, Output.standard]
  induction output.entries with
  | nil => rfl
  | cons entry rest ih =>
    cases entry with
    | line text => rw [List.filter_cons_of_pos rfl, filterMap_line, ih, List.map_cons]
    | record record =>
      have hidden : ¬ subscriber.shows (.record record) = true := by
        simp [Subscriber.shows, silent record]
      rw [List.filter_cons_of_neg hidden, filterMap_record, ih]

private theorem lines_transcriptOf (options : Options) :
    (transcriptOf options).filterMap Entry.line? = linesOf options := by
  have records (records : List Record) :
      (records.map Entry.record).filterMap Entry.line? = [] := by
    simp [Entry.line?]
  have lines (texts : List String) : (texts.map Entry.line).filterMap Entry.line? = texts := by
    rw [List.filterMap_map]
    exact List.filterMap_some
  rw [transcriptOf, linesOf, printout, filterMap_line, filterMap_record, List.filterMap_append,
    records, lines, List.nil_append]

private theorem PutsOut.prints {options : Options} {output : Output}
    (puts : PutsOut (transcriptOf options) output) : Prints options output := by
  have lines : output.lines = linesOf options := by
    rw [output.lines_eq_filterMap .standard, puts.notable, lines_transcriptOf]
  constructor
  case succeeds => exact puts.succeeds
  case uncomplaining => exact puts.uncomplaining
  case lines => exact lines
  case alone =>
    intro subscriber silent
    rw [output.standard_of_silent silent, lines]
  case among =>
    intro subscriber terse
    rw [output.standard_eq_filter terse, puts.notable]

private theorem prints_of_sound {options : Options} (sound : options.Sound) :
    Prints options (output options) := by
  apply PutsOut.prints
  cases delivery : options.delivery with
  | buffered => exact output_buffered sound delivery
  | streaming => exact output_streaming sound.1 delivery

end WebSocketSession.Demo
