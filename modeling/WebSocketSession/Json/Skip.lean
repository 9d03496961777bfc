import WebSocketSession.Json.Token

/-!
# Skipping a JSON value

A value that nobody asked for is checked for its form only: brackets that match, commas and
colons in place, strings as keys. What its strings and numbers say does not matter.
-/

set_option autoImplicit false
set_option relaxedAutoImplicit false

namespace WebSocketSession.Json

inductive Container where
  | object
  | list
  deriving DecidableEq

inductive Expect where
  | value
  | valueOrClose
  | key
  | keyOrClose
  | colon
  | commaOrClose
  deriving DecidableEq

namespace Expect

def afterOpening : Container → Expect
  | .object => .keyOrClose
  | .list => .valueOrClose

def afterComma : Container → Expect
  | .object => .key
  | .list => .value

end Expect

inductive Move where
  | expect (next : Expect)
  | enter (container : Container)
  | leave
  | complete
  | refuse
  deriving DecidableEq

def Move.atValue : Token → Move
  | .null | .bool _ | .string _ | .number _ => .complete
  | .openBrace => .enter .object
  | .openBracket => .enter .list
  | _ => .refuse

def Move.of (inside : Container) : Expect → Token → Move
  | .value, token => .atValue token
  | .valueOrClose, .closeBracket => .leave
  | .valueOrClose, token => .atValue token
  | .key, .string _ => .expect .colon
  | .keyOrClose, .string _ => .expect .colon
  | .keyOrClose, .closeBrace => .leave
  | .colon, .colon => .expect .value
  | .commaOrClose, .comma => .expect (.afterComma inside)
  | .commaOrClose, .closeBrace => if inside = .object then .leave else .refuse
  | .commaOrClose, .closeBracket => if inside = .list then .leave else .refuse
  | _, _ => .refuse

/-- Skips to the end of a value inside the containers `inside` and `outside`. -/
def skipWithin (inside : Container) (outside : List Container) (expected : Expect) :
    List Token → Option (List Token)
  | [] => none
  | token :: rest =>
    match Move.of inside expected token, outside with
    | .expect next, _ => skipWithin inside outside next rest
    | .enter container, _ =>
      skipWithin container (inside :: outside) (.afterOpening container) rest
    | .complete, _ => skipWithin inside outside .commaOrClose rest
    | .leave, enclosing :: others => skipWithin enclosing others .commaOrClose rest
    | .leave, [] => some rest
    | .refuse, _ => none

def skipValue : List Token → Option (List Token)
  | [] => none
  | token :: rest =>
    match Move.atValue token with
    | .complete => some rest
    | .enter container => skipWithin container [] (.afterOpening container) rest
    | _ => none

private theorem length_skipWithin {inside : Container} {outside : List Container}
    {expected : Expect} {ts rest : List Token}
    (h : skipWithin inside outside expected ts = some rest) : rest.length < ts.length := by
  fun_induction skipWithin inside outside expected ts with
  | case1 => cases h
  | case6 => cases h; simp
  | case7 => cases h
  | _ =>
    rename_i ih
    exact Nat.lt_succ_of_lt (ih h)

theorem length_skipValue {ts rest : List Token} (h : skipValue ts = some rest) :
    rest.length < ts.length := by
  unfold skipValue at h
  split at h
  · cases h
  · split at h
    · cases h; simp
    · exact Nat.lt_succ_of_lt (length_skipWithin h)
    · cases h

end WebSocketSession.Json
