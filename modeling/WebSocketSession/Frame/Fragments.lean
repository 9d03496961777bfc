import WebSocketSession.Frame

/-!
# Fragmented messages

A message may travel as several frames: the first carries the opcode, the others are
continuations, and FIN marks the last. `ofParts` frames given parts, `bySize` cuts the message
itself.
-/

set_option autoImplicit false
set_option relaxedAutoImplicit false

namespace WebSocketSession.Fragments

/-- The parts of a message as frames, the first under `opcode`. -/
def ofParts (opcode : Opcode) : List Bytes → List Frame
  | [] => [⟨opcode, true, []⟩]
  | [part] => [⟨opcode, true, part⟩]
  | part :: next :: rest => ⟨opcode, false, part⟩ :: ofParts .continuation (next :: rest)

/-- Consecutive pieces of `size` bytes, or of one byte if that is zero; the last may be
shorter. -/
def chunks (size : Nat) : Bytes → List Bytes
  | [] => []
  | b :: rest => (b :: rest.take (size - 1)) :: chunks size (rest.drop (size - 1))
termination_by message => message.length
decreasing_by simp only [List.length_drop, List.length_cons]; omega

def zeroSizeMessage : String := "fragment size must be non-zero"

/-- A message cut into frames of at most `size` bytes; no size of zero cuts anything. -/
def bySize (opcode : Opcode) (message : Bytes) (size : Nat) : Option (List Frame) :=
  if size = 0 then none else some (ofParts opcode (chunks size message))

theorem flatten_chunks (size : Nat) (message : Bytes) :
    (chunks size message).flatten = message := by
  fun_induction chunks size message with
  | case1 => rfl
  | case2 b rest ih => rw [List.flatten_cons, ih, List.cons_append, List.take_append_drop]

theorem flatMap_payload_ofParts (opcode : Opcode) (parts : List Bytes) :
    (ofParts opcode parts).flatMap Frame.payload = parts.flatten := by
  fun_induction ofParts opcode parts with
  | case1 => rfl
  | case2 => simp
  | case3 opcode part next rest ih => rw [List.flatMap_cons, ih]; simp

end WebSocketSession.Fragments
