import WebSocketSession.Stream
import WebSocketSession.Text.Utf8

/-!
# Text streams

A stream read as text. A chunk may end inside a character; its bytes are carried over to the next
chunk, so that every text handed out is whole, and no text is empty.
-/

set_option autoImplicit false
set_option relaxedAutoImplicit false

namespace WebSocketSession

/-- A stream read as text, and the bytes of the character that the chunks so far ended in. -/
structure TextStream where
  inner : MessageStream
  carried : Bytes
  deriving DecidableEq

def MessageStream.intoText (stream : MessageStream) : TextStream := ⟨stream, []⟩

namespace TextStream

/-- The text that a chunk completes, and the bytes to carry over. -/
def decode (carried chunk : Bytes) : Except StreamError (String × Bytes) :=
  let bytes := carried ++ chunk
  match Utf8.wholeLength bytes with
  | none => .error .invalidUtf8
  | some length =>
    match Utf8.decode (bytes.take length) with
    | some text => .ok (text, bytes.drop length)
    | none => .error .invalidUtf8

/-- The stream after reading up to `unread`, with other bytes carried over. -/
def resumeAt (stream : TextStream) (unread : List Bytes) (carried : Bytes) : TextStream :=
  ⟨stream.inner.withUnread unread, carried⟩

def aborted (stream : TextStream) : TextStream :=
  ⟨{ stream.inner.withUnread [] with abortSeen := true }, []⟩

/-- A clean end inside a character is an error, and nothing is carried past it. -/
def finish (carried : Bytes) : Except StreamError Unit :=
  if carried.isEmpty then .ok () else .error .truncatedUtf8

/-- Takes text from the chunks in turn, without waiting. -/
def takeFrom (stream : TextStream) (carried : Bytes) :
    List Bytes → Except StreamError (Taken String) × TextStream
  | chunk :: rest =>
    match decode carried chunk with
    | .error e => (.error e, stream.resumeAt rest [])
    | .ok (text, tail) =>
      if text.isEmpty then takeFrom stream tail rest
      else (.ok (.ready text), stream.resumeAt rest tail)
  | [] =>
    match stream.inner.writing with
    | .live => (.ok .empty, stream.resumeAt [] carried)
    | .ended => ((finish carried).map fun _ => .finished, stream.resumeAt [] [])
    | .aborted => (.error .aborted, stream.aborted)

def take (stream : TextStream) : Except StreamError (Taken String) × TextStream :=
  if stream.inner.abortSeen then (.error .aborted, { stream with carried := [] })
  else takeFrom stream stream.carried stream.inner.unread

/-- How the end of the chunks shows to a reader that waits. -/
def atEnd (carried : Bytes) : Option (Except StreamError String) :=
  match finish carried with
  | .ok () => none
  | .error e => some (.error e)

/-- Waits for text from the chunks in turn. -/
def nextFrom (stream : TextStream) (carried : Bytes) :
    List Bytes → Polled (Option (Except StreamError String)) × TextStream
  | chunk :: rest =>
    match decode carried chunk with
    | .error e => (.ready (some (.error e)), stream.resumeAt rest [])
    | .ok (text, tail) =>
      if text.isEmpty then nextFrom stream tail rest
      else (.ready (some (.ok text)), stream.resumeAt rest tail)
  | [] =>
    match stream.inner.writing with
    | .live => (.pending, stream.resumeAt [] carried)
    | .ended => (.ready (atEnd carried), stream.resumeAt [] [])
    | .aborted => (.ready (some (.error .aborted)), stream.aborted)

def next (stream : TextStream) :
    Polled (Option (Except StreamError String)) × TextStream :=
  if stream.inner.abortSeen then (.ready (atEnd stream.carried), { stream with carried := [] })
  else nextFrom stream stream.carried stream.inner.unread

/-- A polled chunk is decoded; one that completes no character lets the polling go on, at most
`chunks` times. -/
def pollAtMost : Nat → TextStream → Polled (Option (Except StreamError String)) × TextStream
  | chunks, stream =>
    match stream.inner.poll with
    | (.pending, inner) => (.pending, ⟨inner, stream.carried⟩)
    | (.ready none, inner) => (.ready (atEnd stream.carried), ⟨inner, []⟩)
    | (.ready (some (.error e)), inner) => (.ready (some (.error e)), ⟨inner, []⟩)
    | (.ready (some (.ok chunk)), inner) =>
      match decode stream.carried chunk with
      | .error e => (.ready (some (.error e)), ⟨inner, []⟩)
      | .ok (text, tail) =>
        if text.isEmpty then
          match chunks with
          | 0 => (.pending, ⟨inner, tail⟩)
          | chunks + 1 => pollAtMost chunks ⟨inner, tail⟩
        else (.ready (some (.ok text)), ⟨inner, tail⟩)

/-- Polls for the next text; no more chunks can complete nothing than are unread. -/
def poll (stream : TextStream) :
    Polled (Option (Except StreamError String)) × TextStream :=
  pollAtMost stream.inner.unread.length stream

/-- Text after text until the end; `texts` are those read already, the latest first. -/
def gather (writing : Writing) (texts : List String) (carried : Bytes) :
    List Bytes → Polled (Except StreamError String)
  | chunk :: rest =>
    match decode carried chunk with
    | .error e => .ready (.error e)
    | .ok (text, tail) => gather writing (text :: texts) tail rest
  | [] =>
    match writing with
    | .live => .pending
    | .ended => .ready ((finish carried).map fun _ => String.join texts.reverse)
    | .aborted => .ready (.error .aborted)

/-- One attempt at reading the rest of the message as a whole; it uses up the reader. -/
def readAll (stream : TextStream) : Polled (Except StreamError String) :=
  if stream.inner.abortSeen then .ready ((finish stream.carried).map fun _ => "")
  else gather stream.inner.writing [] stream.carried stream.inner.unread

end TextStream

end WebSocketSession
