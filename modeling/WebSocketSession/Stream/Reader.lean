import WebSocketSession.Log
import WebSocketSession.Text.Numeral
import WebSocketSession.Stream.Text

/-!
# Both sides of a stream

A reader holds a stream as bytes or as text until it is used up. The writing side keeps count of
what it appended and says in the log when nobody reads any more.
-/

set_option autoImplicit false
set_option relaxedAutoImplicit false

namespace WebSocketSession

inductive Chunk where
  | bytes (value : Bytes)
  | text (value : String)
  deriving DecidableEq

inductive ReadStyle where
  | take
  | next
  | poll
  | readAll
  | intoText
  | discard
  deriving DecidableEq

/-- What using a reader gives; `quiet` is the answer of the ways that read nothing. -/
inductive ReadOutcome where
  | ready (chunk : Chunk)
  | empty
  | finished
  | aborted
  | pending
  | atEnd
  | failed (error : StreamError)
  | quiet
  deriving DecidableEq

namespace ReadOutcome

def ofTaken {α : Type} (wrap : α → Chunk) : Taken α → ReadOutcome
  | .ready chunk => .ready (wrap chunk)
  | .empty => .empty
  | .finished => .finished
  | .aborted => .aborted

def ofTakenText : Except StreamError (Taken String) → ReadOutcome
  | .ok taken => ofTaken .text taken
  | .error error => .failed error

def ofPolled {α : Type} (wrap : α → Chunk) :
    Polled (Option (Except StreamError α)) → ReadOutcome
  | .pending => .pending
  | .ready none => .atEnd
  | .ready (some (.ok chunk)) => .ready (wrap chunk)
  | .ready (some (.error error)) => .failed error

def ofWhole {α : Type} (wrap : α → Chunk) : Polled (Except StreamError α) → ReadOutcome
  | .pending => .pending
  | .ready (.ok message) => .ready (wrap message)
  | .ready (.error error) => .failed error

end ReadOutcome

/-- The reading side of a stream, until it is used up. -/
inductive Reader where
  | bytes (stream : MessageStream)
  | text (stream : TextStream)
  | gone
  deriving DecidableEq

namespace Reader

/-- Uses a reader in one of the ways; one that is gone cannot be used. -/
def use (style : ReadStyle) : Reader → Option (ReadOutcome × Reader)
  | .gone => none
  | .bytes stream =>
    match style with
    | .take => some (.ofTaken .bytes stream.take.1, .bytes stream.take.2)
    | .next => some (.ofPolled .bytes stream.next.1, .bytes stream.next.2)
    | .poll => some (.ofPolled .bytes stream.poll.1, .bytes stream.poll.2)
    | .readAll => some (.ofWhole .bytes stream.readAll, .gone)
    | .intoText => some (.quiet, .text stream.intoText)
    | .discard => some (.quiet, .gone)
  | .text stream =>
    match style with
    | .take => some (.ofTakenText stream.take.1, .text stream.take.2)
    | .next => some (.ofPolled .text stream.next.1, .text stream.next.2)
    | .poll => some (.ofPolled .text stream.poll.1, .text stream.poll.2)
    | .readAll => some (.ofWhole .text stream.readAll, .gone)
    | .intoText => some (.quiet, .text stream)
    | .discard => some (.quiet, .gone)

/-- The reader after something happened on the writing side. -/
def mapStream (change : MessageStream → MessageStream) : Reader → Reader
  | .bytes stream => .bytes (change stream)
  | .text stream => .text ⟨change stream.inner, stream.carried⟩
  | .gone => .gone

def isGone : Reader → Bool
  | .gone => true
  | _ => false

end Reader

/-- The writing side of a stream: the bytes appended so far. -/
structure Feed where
  appended : Nat
  deriving DecidableEq

namespace Feed

def opened : Feed := ⟨0⟩

/-- Appends a payload: an empty one does nothing, and one without a reader is only counted. -/
def append (feed : Feed) (payload : Bytes) (reader : Reader) : Feed × Reader × List LogRecord :=
  if payload.isEmpty then (feed, reader, [])
  else
    (⟨min (feed.appended + payload.length) Numeral.sizeMax⟩, reader.mapStream (·.push payload),
      if reader.isGone then [.fragmentDiscarded] else [])

def finish (feed : Feed) (reader : Reader) : Reader × List LogRecord :=
  (reader.mapStream (·.withWriting .ended), [.streamComplete feed.appended])

/-- Cuts the stream short; the reader sees an abort after what was appended. -/
def abort (feed : Feed) (reader : Reader) : Reader × List LogRecord :=
  (reader.mapStream (·.withWriting .aborted),
    .streamAborted feed.appended :: if reader.isGone then [.abortUnread] else [])

/-- Lets go of the stream without a word, which its reader takes for an ordinary end. -/
def drop (reader : Reader) : Reader :=
  reader.mapStream (·.withWriting .ended)

end Feed

end WebSocketSession
