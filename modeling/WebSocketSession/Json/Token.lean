import WebSocketSession.Json.Number

/-!
# JSON tokens

A text is cut into tokens up to the first place where none starts, which is a token of its own. A
string whose escapes leave half a surrogate pair is a string without a text: it may stand where
nobody reads it.
-/

set_option autoImplicit false
set_option relaxedAutoImplicit false

namespace WebSocketSession.Json

/-- The tokens; `malformed` stands for a place where no token starts. -/
inductive Token where
  | openBrace
  | closeBrace
  | openBracket
  | closeBracket
  | comma
  | colon
  | null
  | bool (value : Bool)
  | string (text : Option String)
  | number (kind : NumberKind)
  | malformed
  deriving DecidableEq

/-- A piece of a string: a character, or one half of a surrogate pair. -/
inductive Piece where
  | char (c : Char)
  | half (unit : Nat)
  deriving DecidableEq

def hexDigit? (c : Char) : Option Nat :=
  if '0' ≤ c ∧ c ≤ '9' then some (c.toNat - '0'.toNat)
  else if 'a' ≤ c ∧ c ≤ 'f' then some (c.toNat - 'a'.toNat + 10)
  else if 'A' ≤ c ∧ c ≤ 'F' then some (c.toNat - 'A'.toNat + 10)
  else none

def escapedUnit (a b c d : Char) : Option Piece := do
  let unit := (((← hexDigit? a) * 16 + (← hexDigit? b)) * 16 + (← hexDigit? c)) * 16 +
    (← hexDigit? d)
  return if 0xD800 ≤ unit ∧ unit ≤ 0xDFFF then .half unit else .char (Char.ofNat unit)

def escapedChar : Char → Option Char
  | '"' => some '"'
  | '\\' => some '\\'
  | '/' => some '/'
  | 'b' => some '\x08'
  | 'f' => some '\x0c'
  | 'n' => some '\n'
  | 'r' => some '\r'
  | 't' => some '\t'
  | _ => none

def pieces : List Char → Option (List Piece × List Char)
  | [] => none
  | '"' :: rest => some ([], rest)
  | '\\' :: 'u' :: a :: b :: c :: d :: rest => do
    let piece ← escapedUnit a b c d
    let (others, after) ← pieces rest
    return (piece :: others, after)
  | '\\' :: c :: rest => do
    let escaped ← escapedChar c
    let (others, after) ← pieces rest
    return (.char escaped :: others, after)
  | c :: rest =>
    if c < ' ' then none
    else do
      let (others, after) ← pieces rest
      return (.char c :: others, after)

/-- The characters of the pieces, if every half has its other half right after it. -/
def joinHalves : List Piece → Option (List Char)
  | [] => some []
  | .char c :: rest => (joinHalves rest).map (c :: ·)
  | .half high :: .half low :: rest =>
    if high ≤ 0xDBFF ∧ 0xDC00 ≤ low then
      (joinHalves rest).map
        (Char.ofNat ((high - 0xD800) * 0x400 + (low - 0xDC00) + 0x10000) :: ·)
    else none
  | .half _ :: _ => none

def string (cs : List Char) : Option (Token × List Char) :=
  (pieces cs).map fun (found, rest) => (.string ((joinHalves found).map String.ofList), rest)

def token? : List Char → Option (Token × List Char)
  | '\x7b' :: rest => some (.openBrace, rest)
  | '\x7d' :: rest => some (.closeBrace, rest)
  | '[' :: rest => some (.openBracket, rest)
  | ']' :: rest => some (.closeBracket, rest)
  | ',' :: rest => some (.comma, rest)
  | ':' :: rest => some (.colon, rest)
  | 'n' :: 'u' :: 'l' :: 'l' :: rest => some (.null, rest)
  | 't' :: 'r' :: 'u' :: 'e' :: rest => some (.bool true, rest)
  | 'f' :: 'a' :: 'l' :: 's' :: 'e' :: rest => some (.bool false, rest)
  | '"' :: rest => string rest
  | cs => (number cs).map fun (kind, rest) => (.number kind, rest)

private theorem length_pieces {cs : List Char} {found : List Piece × List Char}
    (h : pieces cs = some found) : found.2.length < cs.length := by
  fun_induction pieces cs generalizing found with
  | case1 => cases h
  | case2 rest => cases h; simp
  | case3 a b c d rest ih =>
    obtain ⟨piece, _, h⟩ := Option.bind_eq_some_iff.1 h
    obtain ⟨others, ho, h⟩ := Option.bind_eq_some_iff.1 h
    cases h
    have := ih ho
    simp only [List.length_cons]
    omega
  | case4 c rest _ ih =>
    obtain ⟨escaped, _, h⟩ := Option.bind_eq_some_iff.1 h
    obtain ⟨others, ho, h⟩ := Option.bind_eq_some_iff.1 h
    cases h
    have := ih ho
    simp only [List.length_cons]
    omega
  | case5 => cases h
  | case6 c rest _ _ _ _ ih =>
    obtain ⟨others, ho, h⟩ := Option.bind_eq_some_iff.1 h
    cases h
    have := ih ho
    simp only [List.length_cons]
    omega

private theorem length_token? {cs : List Char} {found : Token × List Char}
    (h : token? cs = some found) : found.2.length < cs.length := by
  unfold token? at h
  split at h
  case h_10 =>
    obtain ⟨inner, hp, rfl⟩ := Option.map_eq_some_iff.1 h
    exact Nat.lt_succ_of_lt (length_pieces hp)
  case h_11 =>
    obtain ⟨inner, hn, rfl⟩ := Option.map_eq_some_iff.1 h
    exact length_number hn
  all_goals
    cases h
    simp only [List.length_cons]
    omega

def isBlank (c : Char) : Bool :=
  c = ' ' || c = '\n' || c = '\t' || c = '\r'

def tokens (cs : List Char) : List Token :=
  match cs with
  | [] => []
  | c :: rest =>
    if isBlank c then tokens rest
    else
      match _h : token? (c :: rest) with
      | none => [.malformed]
      | some (token, after) => token :: tokens after
termination_by cs.length
decreasing_by
  · exact Nat.lt_succ_self _
  · exact length_token? _h

end WebSocketSession.Json
