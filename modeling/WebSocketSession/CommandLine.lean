import WebSocketSession.Handlers
import WebSocketSession.Text.Numeral

/-!
# Command line

A message and five options with values. Arguments are read from left to right. The value of an
option may be attached to it or follow it; a value that follows is judged only when the next
option, the message or the end comes, so that an argument nobody knows is reported before it.
-/

set_option autoImplicit false
set_option relaxedAutoImplicit false

namespace WebSocketSession.CommandLine

structure Options where
  message : String
  fragmentSize : Nat
  delivery : Delivery
  family : Family
  role : Role
  bufferSize : Nat
  deriving DecidableEq

def Options.default : Options :=
  ⟨"Hello, WebSocket!", 4, .buffered, .text, .server, defaultBufferSize⟩

/-- Why a command line gives no options: a request for information, or a mistake. -/
inductive Stop where
  | help
  | version
  | unknownArgument
  | surplusValue
  | invalidValue
  | valueOutOfRange
  | repeatedOption
  deriving DecidableEq

namespace Stop

def message : Stop → String
  | .help => "help was asked for"
  | .version => "the version was asked for"
  | .unknownArgument => "unexpected argument"
  | .surplusValue => "unexpected value for an option that takes none"
  | .invalidValue => "a value is missing or is none of the possible values"
  | .valueOutOfRange => "a value is no number of the range allowed"
  | .repeatedOption => "an option cannot be used more than once"

def exitCode : Stop → Nat
  | .help | .version => 0
  | _ => 2

end Stop

inductive Setting where
  | fragmentSize
  | mode
  | kind
  | role
  | bufferSize
  deriving DecidableEq

namespace Setting

def all : List Setting := [.fragmentSize, .mode, .kind, .role, .bufferSize]

def name : Setting → String
  | .fragmentSize => "fragment-size"
  | .mode => "mode"
  | .kind => "kind"
  | .role => "role"
  | .bufferSize => "buffer-size"

def letter : Setting → Char
  | .fragmentSize => 'f'
  | .mode => 'm'
  | .kind => 'k'
  | .role => 'r'
  | .bufferSize => 'b'

end Setting

def size (value : String) : Except Stop Nat :=
  match Numeral.unsigned Numeral.sizeMax value with
  | .ok n => .ok n
  | .error _ => .error .valueOutOfRange

def choice {α : Type} (words : List (String × α)) (value : String) : Except Stop α :=
  match words.lookup value with
  | some chosen => .ok chosen
  | none => .error .invalidValue

def Options.set (options : Options) (setting : Setting) (value : String) :
    Except Stop Options :=
  match setting with
  | .fragmentSize => do
    let n ← size value
    if n = 0 then .error .valueOutOfRange else .ok { options with fragmentSize := n }
  | .mode => do
    let delivery ← choice [("buffered", .buffered), ("streaming", .streaming)] value
    .ok { options with delivery := delivery }
  | .kind => do
    let family ← choice [("text", .text), ("binary", .binary)] value
    .ok { options with family := family }
  | .role => do
    let role ← choice [("server", .server), ("client", .client)] value
    .ok { options with role := role }
  | .bufferSize => do
    let n ← size value
    .ok { options with bufferSize := n }

inductive Argument where
  | separator
  | setting (setting : Setting) (attached : Option String)
  | stop (stop : Stop)
  | plain
  deriving DecidableEq

namespace Argument

/-- An argument after two hyphens: a name, and perhaps a value behind an equals sign. -/
def long (chars : List Char) : Argument :=
  let name := String.ofList (chars.takeWhile (· != '='))
  let attached :=
    match chars.dropWhile (· != '=') with
    | [] => none
    | _ :: value => some (String.ofList value)
  match Setting.all.find? fun setting => setting.name == name with
  | some found => .setting found attached
  | none =>
    if name == "help" then .stop (if attached.isSome then .surplusValue else .help)
    else if name == "version" then .stop (if attached.isSome then .surplusValue else .version)
    else .stop .unknownArgument

/-- The value attached to a letter: all that follows it, but for an equals sign in front. -/
def attachedTo : List Char → Option String
  | [] => none
  | '=' :: value => some (String.ofList value)
  | value => some (String.ofList value)

def short (letter : Char) (rest : List Char) : Argument :=
  match Setting.all.find? fun setting => setting.letter == letter with
  | some found => .setting found (attachedTo rest)
  | none =>
    if letter = 'h' then .stop .help
    else if letter = 'V' then .stop .version
    else .stop .unknownArgument

def ofText (text : String) : Argument :=
  match text.toList with
  | ['-', '-'] => .separator
  | '-' :: '-' :: rest => long rest
  | '-' :: letter :: rest => short letter rest
  | _ => .plain

end Argument

/-- How far the reading has come: the options set, those named before, whether the message has
been given, an option that waits to be judged with the value that followed it, and whether only
plain arguments are left. -/
structure Progress where
  options : Options
  named : List Setting
  messageGiven : Bool
  waiting : Option (Setting × Option String)
  plainOnly : Bool
  deriving DecidableEq

namespace Progress

def start : Progress := ⟨.default, [], false, none, false⟩

def set (progress : Progress) (setting : Setting) (value : Option String) :
    Except Stop Progress :=
  match value with
  | none => .error .invalidValue
  | some value =>
    if setting ∈ progress.named then .error .repeatedOption
    else
      match progress.options.set setting value with
      | .ok options => .ok { progress with options := options, named := setting :: progress.named }
      | .error stop => .error stop

def settle (progress : Progress) : Except Stop Progress :=
  match progress.waiting with
  | none => .ok progress
  | some (setting, value) => { progress with waiting := none }.set setting value

def takeMessage (progress : Progress) (text : String) : Except Stop Progress :=
  if progress.messageGiven then .error .unknownArgument
  else
    progress.settle.map fun settled =>
      { settled with options := { settled.options with message := text }, messageGiven := true }

/-- A plain argument: the value that an option waits for, or the message. -/
def takePlain (progress : Progress) (text : String) : Except Stop Progress :=
  match progress.waiting with
  | some (setting, none) => .ok { progress with waiting := some (setting, some text) }
  | _ => progress.takeMessage text

def takeSetting (progress : Progress) (setting : Setting) (attached : Option String) :
    Except Stop Progress := do
  let settled ← progress.settle
  match attached with
  | some value => settled.set setting (some value)
  | none => .ok { settled with waiting := some (setting, none) }

/-- An argument that stops the reading. A request for information comes after what waits. -/
def takeStop (progress : Progress) (stop : Stop) : Except Stop Progress :=
  match stop with
  | .help | .version => progress.settle.bind fun _ => .error stop
  | _ => .error stop

def take (progress : Progress) (text : String) : Except Stop Progress :=
  if progress.plainOnly then progress.takeMessage text
  else
    match Argument.ofText text with
    | .separator => .ok { progress with plainOnly := true }
    | .setting setting attached => progress.takeSetting setting attached
    | .stop stop => progress.takeStop stop
    | .plain => progress.takePlain text

end Progress

def parse (arguments : List String) : Except Stop Options := do
  let read ← arguments.foldlM Progress.take .start
  let settled ← read.settle
  return settled.options

end WebSocketSession.CommandLine
