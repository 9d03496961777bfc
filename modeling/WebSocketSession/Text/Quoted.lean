import WebSocketSession.Text.Printable

/-!
# Quoted texts

A text between double quotes. Quotes, backslashes and the four named controls take a backslash;
any other character that is not printable, or that would attach to the one before it, is written
by its number in braces.
-/

set_option autoImplicit false
set_option relaxedAutoImplicit false

namespace WebSocketSession.Quoted

/-- A number in lower-case hexadecimal digits, without leading zeros. -/
def hex (n : Nat) : String := String.ofList (Nat.toDigits 16 n)

def escape (c : Char) : String :=
  if c = '"' then "\\\""
  else if c = '\\' then "\\\\"
  else if c = '\n' then "\\n"
  else if c = '\r' then "\\r"
  else if c = '\t' then "\\t"
  else if c = Char.ofNat 0 then "\\0"
  else if Printable.isExtending c || !Printable.isPrintable c then
    "\\u\x7b" ++ hex c.toNat ++ "\x7d"
  else c.toString

def quote (text : String) : String :=
  "\"" ++ String.join (text.toList.map escape) ++ "\""

end WebSocketSession.Quoted
