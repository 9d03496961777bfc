import WebSocketSession.Demo

/-!
# Program

Runs the demonstration on its command line.
-/

set_option autoImplicit false
set_option relaxedAutoImplicit false

namespace WebSocketSession.Demo

def valueText : LogField → String
  | .text value => value
  | .number value => toString value
  | .flag value => toString value

/-- A record takes one line; the time is left out. -/
def entryText : Entry → String
  | .line text => text
  | .record record =>
    let fields := record.fields.map fun (name, value) => " " ++ name ++ "=" ++ valueText value
    record.level.label ++ " " ++ record.message ++ String.join fields

end WebSocketSession.Demo

open WebSocketSession.Demo in
/-- Prints what the command line leads to. -/
def main (arguments : List String) : IO UInt32 := do
  let output := respond arguments
  (output.standard .standard).forM fun entry => IO.println (entryText entry)
  output.complaints.forM IO.eprintln
  return UInt32.ofNat output.exitCode
