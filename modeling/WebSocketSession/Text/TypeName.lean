/-!
# Short type names

The name of a type is shown without the path before it and without its generic arguments.
-/

set_option autoImplicit false
set_option relaxedAutoImplicit false

namespace WebSocketSession.TypeName

/-- What follows the last double colon, if there is one. -/
def afterLastColons : List Char → Option (List Char)
  | [] => none
  | c :: rest =>
    match afterLastColons rest with
    | some tail => some tail
    | none =>
      match c, rest with
      | ':', ':' :: tail => some tail
      | _, _ => none

/-- The last segment of the path before the first angle bracket. -/
def shorten (path : String) : String :=
  let base := path.toList.takeWhile (· != '<')
  String.ofList ((afterLastColons base).getD base)

example : shorten "my::Wrapper<alloc::string::String>" = "Wrapper" := by decide +kernel
example : shorten "Plain" = "Plain" := by decide +kernel

end WebSocketSession.TypeName
