import WebSocketSession.Frame

/-!
# Message streams

A streamed message is read while it arrives. The writing side appends payloads and at last ends
the stream, cleanly or by an abort; the reading side takes the chunks in order and then sees how
the stream ended. A stream can be read without waiting (`take`), by waiting (`next`, shown as one
attempt) and by polling (`poll`).
-/

set_option autoImplicit false
set_option relaxedAutoImplicit false

namespace WebSocketSession

inductive StreamError where
  | invalidUtf8
  | truncatedUtf8
  | aborted
  deriving DecidableEq

namespace StreamError

def label : StreamError → String
  | .invalidUtf8 => "InvalidUtf8"
  | .truncatedUtf8 => "TruncatedUtf8"
  | .aborted => "Aborted"

def message : StreamError → String
  | .invalidUtf8 => "text stream is not valid UTF-8"
  | .truncatedUtf8 => "text stream ended inside a UTF-8 sequence"
  | .aborted => "message aborted before its final fragment"

end StreamError

inductive Taken (α : Type) where
  | ready (chunk : α)
  | empty
  | finished
  | aborted
  deriving DecidableEq

inductive Polled (α : Type) where
  | pending
  | ready (value : α)

/-- How far the writing side has come. -/
inductive Writing where
  | live
  | ended
  | aborted
  deriving DecidableEq

/-- A stream as its reader holds it: the chunks not read yet, the latest first, the state of the
writing side, and whether an abort has been reported. -/
structure MessageStream where
  latest : List Bytes
  writing : Writing
  abortSeen : Bool
  deriving DecidableEq

namespace MessageStream

def opened : MessageStream := ⟨[], .live, false⟩

def unread (stream : MessageStream) : List Bytes := stream.latest.reverse

def withUnread (stream : MessageStream) (chunks : List Bytes) : MessageStream :=
  { stream with latest := chunks.reverse }

/-- A payload at the end of the stream; an empty one leaves no chunk. -/
def push (stream : MessageStream) (payload : Bytes) : MessageStream :=
  if payload.isEmpty then stream else { stream with latest := payload :: stream.latest }

def withWriting (stream : MessageStream) (writing : Writing) : MessageStream :=
  { stream with writing := writing }

/-- Takes the next chunk without waiting; an abort is reported by every call after it. -/
def take (stream : MessageStream) : Taken Bytes × MessageStream :=
  if stream.abortSeen then (.aborted, stream)
  else
    match stream.unread, stream.writing with
    | chunk :: rest, _ => (.ready chunk, stream.withUnread rest)
    | [], .live => (.empty, stream)
    | [], .ended => (.finished, stream)
    | [], .aborted => (.aborted, { stream with abortSeen := true })

/-- Waits for the next chunk; an abort is reported once, and then the stream is at its end. -/
def next (stream : MessageStream) :
    Polled (Option (Except StreamError Bytes)) × MessageStream :=
  if stream.abortSeen then (.ready none, stream)
  else
    match stream.unread, stream.writing with
    | chunk :: rest, _ => (.ready (some (.ok chunk)), stream.withUnread rest)
    | [], .live => (.pending, stream)
    | [], .ended => (.ready none, stream)
    | [], .aborted => (.ready (some (.error .aborted)), { stream with abortSeen := true })

/-- The next thing in the queue, without regard to an abort reported before. -/
def receive (stream : MessageStream) :
    Polled (Option (Except StreamError Bytes)) × MessageStream :=
  match stream.unread with
  | chunk :: rest => (.ready (some (.ok chunk)), stream.withUnread rest)
  | [] =>
    match stream.writing with
    | .live => (.pending, stream)
    | .ended => (.ready none, stream)
    | .aborted => (.ready (some (.error .aborted)), stream)

def note (stream : MessageStream) : Option (Except StreamError Bytes) → MessageStream
  | some (.error _) => { stream with abortSeen := true }
  | _ => stream

/-- Polls for the next chunk: the queue's next thing, noted if it is an error. -/
def poll (stream : MessageStream) :
    Polled (Option (Except StreamError Bytes)) × MessageStream :=
  if stream.abortSeen then (.ready none, stream)
  else
    match stream.receive with
    | (.pending, rest) => (.pending, rest)
    | (.ready item, rest) => (.ready item, rest.note item)

/-- Chunk after chunk until the end; `parts` are those read already, the latest first. -/
def gather (writing : Writing) (parts : List Bytes) :
    List Bytes → Polled (Except StreamError Bytes)
  | chunk :: rest => gather writing (chunk :: parts) rest
  | [] =>
    match writing with
    | .live => .pending
    | .ended => .ready (.ok parts.reverse.flatten)
    | .aborted => .ready (.error .aborted)

/-- One attempt at reading the rest of the message as a whole; it uses up the reader. -/
def readAll (stream : MessageStream) : Polled (Except StreamError Bytes) :=
  if stream.abortSeen then .ready (.ok []) else gather stream.writing [] stream.unread

theorem unread_push (stream : MessageStream) (payload : Bytes) :
    (stream.push payload).unread =
      stream.unread ++ if payload.isEmpty then [] else [payload] := by
  unfold push
  split <;> simp [unread]

theorem unread_withUnread (stream : MessageStream) (chunks : List Bytes) :
    (stream.withUnread chunks).unread = chunks :=
  List.reverse_reverse chunks

end MessageStream

end WebSocketSession
