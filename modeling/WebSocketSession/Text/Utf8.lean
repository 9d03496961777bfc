import WebSocketSession.Frame

/-!
# UTF-8

A text is encoded character by character. Decoding reads one byte at a time and carries the bytes
of a character that is not whole yet, so that a text may arrive in pieces cut anywhere:
`Decoding.feedAll` of a concatenation is `feedAll` of its parts in turn (`feedAll_append`).
-/

set_option autoImplicit false
set_option relaxedAutoImplicit false

namespace WebSocketSession.Utf8

def encode (text : String) : Bytes :=
  text.toList.flatMap String.utf8EncodeChar

/-- What the bytes since the last whole character amount to. -/
inductive Reading where
  | whole (c : Char)
  | unfinished
  | malformed
  deriving DecidableEq

def within (low high b : UInt8) : Bool :=
  low ≤ b && b ≤ high

/-- How many bytes the character takes that starts with this byte; zero where none does. -/
def lengthFrom (lead : UInt8) : Nat :=
  if lead ≤ 0x7F then 1
  else if within 0xC2 0xDF lead then 2
  else if within 0xE0 0xEF lead then 3
  else if within 0xF0 0xF4 lead then 4
  else 0

/-- The second byte is narrowed after four leads, which keeps out longer forms than needed,
surrogates and values past the last character. -/
def secondAllowed (lead second : UInt8) : Bool :=
  if lead = 0xE0 then within 0xA0 0xBF second
  else if lead = 0xED then within 0x80 0x9F second
  else if lead = 0xF0 then within 0x90 0xBF second
  else if lead = 0xF4 then within 0x80 0x8F second
  else within 0x80 0xBF second

def tailBits (b : UInt8) : Nat := b.toNat % 64

def classify : Bytes → Reading
  | [a] =>
    match lengthFrom a with
    | 0 => .malformed
    | 1 => .whole (Char.ofNat a.toNat)
    | _ => .unfinished
  | [a, b] =>
    if lengthFrom a < 2 || !secondAllowed a b then .malformed
    else if lengthFrom a = 2 then .whole (Char.ofNat (a.toNat % 32 * 64 + tailBits b))
    else .unfinished
  | [a, b, c] =>
    if lengthFrom a < 3 || !secondAllowed a b || !within 0x80 0xBF c then .malformed
    else if lengthFrom a = 3 then
      .whole (Char.ofNat ((a.toNat % 16 * 64 + tailBits b) * 64 + tailBits c))
    else .unfinished
  | [a, b, c, d] =>
    if lengthFrom a < 4 || !secondAllowed a b || !within 0x80 0xBF c || !within 0x80 0xBF d then
      .malformed
    else
      .whole (Char.ofNat (((a.toNat % 8 * 64 + tailBits b) * 64 + tailBits c) * 64 + tailBits d))
  | _ => .malformed

/-- Where decoding stands: the characters read, the latest first, and the bytes carried over. -/
structure Decoding where
  latest : List Char
  carried : Bytes
  deriving DecidableEq

namespace Decoding

def resume (carried : Bytes) : Decoding := ⟨[], carried⟩

/-- One more byte completes a character, is carried over, or rules the text out. -/
def feed (d : Decoding) (b : UInt8) : Option Decoding :=
  match classify (d.carried ++ [b]) with
  | .whole c => some ⟨c :: d.latest, []⟩
  | .unfinished => some ⟨d.latest, d.carried ++ [b]⟩
  | .malformed => none

def feedAll (d : Decoding) (bytes : Bytes) : Option Decoding :=
  bytes.foldlM feed d

def text (d : Decoding) : String :=
  String.ofList d.latest.reverse

theorem feedAll_append (d : Decoding) (x y : Bytes) :
    d.feedAll (x ++ y) = (d.feedAll x).bind (·.feedAll y) := by
  simp [feedAll, List.foldlM_append]

end Decoding

def decode (bytes : Bytes) : Option String :=
  match (Decoding.resume []).feedAll bytes with
  | some d => if d.carried.isEmpty then some d.text else none
  | none => none

/-- How many leading bytes make whole characters, unless no further bytes could make the rest
one. -/
def wholeLength (bytes : Bytes) : Option Nat :=
  ((Decoding.resume []).feedAll bytes).map fun d => bytes.length - d.carried.length

end WebSocketSession.Utf8
