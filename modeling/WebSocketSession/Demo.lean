import WebSocketSession.CommandLine
import WebSocketSession.Session.Dispatch

/-!
# Demonstration

A message is cut into frames and fed to a session; what the application sees is printed line by
line. Among these lines come the log records of the program and of its session (`output`). Which of
them are on the standard output too is up to a subscriber (`Output.standard`).
-/

set_option autoImplicit false
set_option relaxedAutoImplicit false

namespace WebSocketSession.Demo

open CommandLine (Options Stop)

/-- A message cut by position: the frame at `index` carries the bytes from `index * size` on. -/
def fragment (family : Family) (message : Bytes) (size : Nat) : List Frame :=
  if message.isEmpty then [⟨.ofFamily family, true, []⟩]
  else
    let bytes := message.toArray
    let count := (bytes.size + size - 1) / size
    (List.range count).map fun index =>
      { opcode := if index = 0 then .ofFamily family else .continuation
        fin := index + 1 == count
        payload := (bytes.extract (index * size) ((index + 1) * size)).toList }

def line : Event → Policy → String
  | .connect, policy => "connected (" ++ policy.role.label ++ ")"
  | .text message, _ => "text message: " ++ message
  | .binary message, _ => "binary message: " ++ toString message.length ++ " bytes"
  | .textStream _, _ => "text stream opened"
  | .binaryStream _, _ => "binary stream opened"
  | .error fault, _ => "error: " ++ fault.message
  | .close notice, _ => "closed: " ++ notice.code.label
  | .frame frame, _ => "frame: " ++ frame.label

/-- The application prints a line for each callback, over a connection that accepts everything. -/
def host : Host Unit String Unit where
  -- The queue for the streams outlives the session, so every stream that is opened is taken.
  react event policy _ := .note (line event policy) .succeed
  transport := ⟨fun _ _ _ => (.accepted, ()), fun _ _ => (.accepted, ()), fun _ => true⟩

def handlers (delivery : Delivery) : Handlers :=
  .ofRegistrations [.connect, .error, .message .text delivery, .message .binary delivery]

/-- A log record of the program: its own, or one of its session. -/
inductive Record where
  | dispatching (frames : Nat)
  | session (record : LogRecord)
  deriving DecidableEq

namespace Record

def level : Record → LogLevel
  | .dispatching _ => .info
  | .session record => record.level

def message : Record → String
  | .dispatching _ => "dispatching frames"
  | .session record => record.message

def fields : Record → List (String × LogField)
  | .dispatching frames => [("frames", .number frames)]
  | .session record => record.fields

end Record

/-- What a run puts out: a line of its own, or a record that is left to a subscriber to write. -/
inductive Entry where
  | line (text : String)
  | record (record : Record)
  deriving DecidableEq

def Entry.line? : Entry → Option String
  | .line text => some text
  | .record _ => none

/-- A subscriber writes the log records that it lets through to the standard output, each at its
place among the lines of the program. An entry stands for all that it writes of a record, the time
included. -/
structure Subscriber where
  passes : Record → Bool

namespace Subscriber

def shows (subscriber : Subscriber) : Entry → Bool
  | .line _ => true
  | .record record => subscriber.passes record

/-- The subscriber that the program has unless its surroundings ask for another one. -/
def standard : Subscriber := ⟨fun record => record.level.isNotable⟩

end Subscriber

def entry? : Occurrence String → Option Entry
  | .noted line => some (.line line)
  | .closed _ code reason => some (.line ("close sent: " ++ code.label ++ " " ++ reason))
  | .sent frame => some (.line ("frame sent: " ++ frame.label))
  | .logged record => some (.record (.session record))
  | _ => none

/-- A session and what has been put out, the latest first. -/
structure Running where
  session : Session Unit Unit
  entries : List Entry

def Running.after (running : Running) (work : Session.Step Unit Unit String Empty Unit) :
    Running :=
  let done := work running.session
  ⟨done.state, (done.trace.filterMap entry?).reverse ++ running.entries⟩

def Running.log (running : Running) (record : Record) : Running :=
  { running with entries := .record record :: running.entries }

/-- The session of a run, with its connection attached. -/
def session (options : Options) : Session Unit Unit :=
  (Session.start () (handlers options.delivery)
    { Policy.ofRole options.role with bufferSize := options.bufferSize }
    (.empty defaultRetainedPerBucket)).attach ()

/-- The connection comes up, the frames arrive, and the session is let go. -/
def run (options : Options) : Running :=
  let frames := fragment options.family (Utf8.encode options.message) options.fragmentSize
  let connected := Running.after ⟨session options, []⟩ (Session.onConnect host)
  let dispatching := connected.log (.dispatching frames.length)
  (frames.foldl (fun running frame => running.after (Session.onFrame host frame)) dispatching).after
    Session.dispose

/-- The line for a whole stream; `none` if it cannot be read to its end. -/
def streamLine? (reader : Reader) : Option String :=
  match reader.use .readAll with
  | some (.ready (.text message), _) => some ("text stream: " ++ message)
  | some (.ready (.bytes message), _) =>
    some ("binary stream: " ++ toString message.length ++ " bytes")
  | _ => none

/-- What a program puts out, its lines on the error output, and its exit code. -/
structure Output where
  entries : List Entry
  complaints : List String
  exitCode : Nat
  deriving DecidableEq

namespace Output

def lines (output : Output) : List String := output.entries.filterMap Entry.line?

/-- What is on the standard output, given the subscriber. -/
def standard (output : Output) (subscriber : Subscriber) : List Entry :=
  output.entries.filter subscriber.shows

end Output

/-- The lines of the streams in turn; the first one that cannot be read ends the run. -/
def streamOutput : List Reader → Output
  | [] => ⟨[], [], 0⟩
  | reader :: rest =>
    match streamLine? reader with
    | none => ⟨[], ["error: a stream could not be read to its end"], 1⟩
    | some text =>
      let others := streamOutput rest
      { others with entries := .line text :: others.entries }

/-- What a run puts out: what happens in the session, and then every stream read to its end. -/
def output (options : Options) : Output :=
  let done := run options
  let streams := streamOutput done.session.assembly.streams
  { streams with entries := done.entries.reverse ++ streams.entries }

def version : String := "wsdriver 0.1.0"

def usage : List String :=
  ["Fragment a message and dispatch it through a WebSocket event driver", "",
    "Usage: wsdriver [OPTIONS] [MESSAGE]", "",
    "  -f, --fragment-size <N>  most payload bytes in a frame (4)",
    "  -m, --mode <MODE>        buffered or streaming (buffered)",
    "  -k, --kind <KIND>        text or binary (text)",
    "  -r, --role <ROLE>        server or client (server)",
    "  -b, --buffer-size <N>    bytes of the reassembly buffer (65536)",
    "  -h, --help               print help",
    "  -V, --version            print version"]

def stopped (stop : Stop) : Output :=
  match stop with
  | .help => ⟨usage.map .line, [], stop.exitCode⟩
  | .version => ⟨[.line version], [], stop.exitCode⟩
  | _ => ⟨[], ["error: " ++ stop.message], stop.exitCode⟩

/-- What a command line leads to. -/
def respond (arguments : List String) : Output :=
  match CommandLine.parse arguments with
  | .ok options => output options
  | .error stop => stopped stop

end WebSocketSession.Demo
