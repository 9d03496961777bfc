import WebSocketSession.Handlers

/-!
# A cache of tables

Each type of application has its table built once; every session of that type shares it. An entry
is numbered when it is built, so that sharing can be seen.
-/

set_option autoImplicit false
set_option relaxedAutoImplicit false

namespace WebSocketSession

/-- A table as the cache holds it: its number in order of building, and the table. -/
structure SharedHandlers where
  serial : Nat
  handlers : Handlers
  deriving DecidableEq

/-- The tables built so far, by type of application. -/
structure HandlersCache (κ : Type) where
  entries : List (κ × SharedHandlers)

namespace HandlersCache

variable {κ : Type} [BEq κ]

def empty : HandlersCache κ := ⟨[]⟩

def size (cache : HandlersCache κ) : Nat := cache.entries.length

/-- The table of a type, built if it is the first call for that type. -/
def get (cache : HandlersCache κ) (type : κ) (build : Handlers) :
    SharedHandlers × HandlersCache κ :=
  match cache.entries.lookup type with
  | some shared => (shared, cache)
  | none =>
    let shared : SharedHandlers := ⟨cache.size, build⟩
    (shared, ⟨(type, shared) :: cache.entries⟩)

def layout (cache : HandlersCache κ) : String :=
  Layout.closed "EventTableCache" [("types", toString cache.size)]

end HandlersCache

end WebSocketSession
