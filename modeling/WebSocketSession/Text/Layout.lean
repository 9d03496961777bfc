/-!
# Layout of shown values

A record is shown as its name and its fields in braces; a record that keeps fields to itself ends
in two dots. An optional value is shown as present or absent.
-/

set_option autoImplicit false
set_option relaxedAutoImplicit false

namespace WebSocketSession.Layout

def fields (shown : List (String × String)) : List String :=
  shown.map fun field => field.1 ++ ": " ++ field.2

def closed (name : String) (shown : List (String × String)) : String :=
  name ++ " \x7b " ++ ", ".intercalate (fields shown) ++ " \x7d"

def partly (name : String) (shown : List (String × String)) : String :=
  name ++ " \x7b " ++ ", ".intercalate (fields shown ++ [".."]) ++ " \x7d"

def option : Option String → String
  | none => "None"
  | some value => "Some(" ++ value ++ ")"

end WebSocketSession.Layout
