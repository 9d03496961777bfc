/-!
# Decimal integers of bounded range

A sign and decimal digits, read from the left: the first character that is no digit, or the first
digit that leaves the range, is the error.
-/

set_option autoImplicit false
set_option relaxedAutoImplicit false

namespace WebSocketSession

inductive NumeralError where
  | empty
  | invalidDigit
  | tooLarge
  | tooSmall
  deriving DecidableEq

def NumeralError.message : NumeralError → String
  | .empty => "cannot parse integer from empty string"
  | .invalidDigit => "invalid digit found in string"
  | .tooLarge => "number too large to fit in target type"
  | .tooSmall => "number too small to fit in target type"

namespace Numeral

/-- The largest size: sizes take 64 bits. -/
def sizeMax : Nat := Nat.pow 2 64 - 1

def digit? (c : Char) : Option Nat :=
  if '0' ≤ c ∧ c ≤ '9' then some (c.toNat - '0'.toNat) else none

def extend (bound : Nat) (beyond : NumeralError) (value : Nat) :
    List Char → Except NumeralError Nat
  | [] => .ok value
  | c :: rest =>
    match digit? c with
    | none => .error .invalidDigit
    | some d =>
      if value * 10 + d ≤ bound then extend bound beyond (value * 10 + d) rest
      else .error beyond

def magnitude (bound : Nat) (beyond : NumeralError) : List Char → Except NumeralError Nat
  | [] => .error .invalidDigit
  | digits => extend bound beyond 0 digits

/-- An unsigned integer up to `bound`; a plus sign may come first. -/
def unsigned (bound : Nat) (text : String) : Except NumeralError Nat :=
  match text.toList with
  | [] => .error .empty
  | '+' :: digits => magnitude bound .tooLarge digits
  | digits => magnitude bound .tooLarge digits

/-- A signed integer of the given number of bits, from `-2 ^ (bits - 1)` up to one less than
`2 ^ (bits - 1)`. -/
def signed (bits : Nat) (text : String) : Except NumeralError Int :=
  match text.toList with
  | [] => .error .empty
  | '-' :: digits => (magnitude (Nat.pow 2 (bits - 1)) .tooSmall digits).map fun n => -(n : Int)
  | '+' :: digits => (magnitude (Nat.pow 2 (bits - 1) - 1) .tooLarge digits).map Int.ofNat
  | digits => (magnitude (Nat.pow 2 (bits - 1) - 1) .tooLarge digits).map Int.ofNat

end Numeral

end WebSocketSession
