import Mathlib.Algebra.Order.Floor.Div
import WebSocketSession.Proofs.Cutting

/-!
# The frames of a message

A message of some bytes is cut where its size says: every frame but the last is full, and the last
holds what remains. The two ways to cut it, by position and into consecutive pieces, give the same
frames (`fragmentations_agree`), whatever the size is compared with the message.
-/

set_option autoImplicit false
set_option relaxedAutoImplicit false

namespace WebSocketSession

/-- What the frames of a message cut at `size` are. -/
structure SentInPieces (family : Family) (message : Bytes) (size : Nat) (frames : List Frame) :
    Prop where
  whole : frames.flatMap Frame.payload = message
  /-- No bytes take one frame too. -/
  count : frames.length = max 1 (message.length ⌈/⌉ size)
  full : ∀ index frame, frames[index]? = some frame → index + 1 < frames.length →
    frame.payload.length = size
  within : ∀ frame ∈ frames, frame.payload.length ≤ size
  nonempty : ∀ frame ∈ frames, frame.payload = [] → message = []
  opcode : ∀ index frame, frames[index]? = some frame →
    frame.opcode = if index = 0 then .ofFamily family else .continuation
  fin : ∀ index frame, frames[index]? = some frame →
    (frame.fin = true ↔ index + 1 = frames.length)

namespace Fragments

variable {size : Nat} {message : Bytes}

private theorem sentInPieces_nil (family : Family) (size : Nat) :
    SentInPieces family [] size [⟨.ofFamily family, true, []⟩] := by
  have first {index : Nat} {frame : Frame}
      (there : [(⟨.ofFamily family, true, []⟩ : Frame)][index]? = some frame) :
      index = 0 ∧ frame = ⟨.ofFamily family, true, []⟩ := by
    cases index with
    | zero => exact ⟨rfl, (Option.some.inj there).symm⟩
    | succ index => cases there
  constructor
  · rfl
  · rw [List.length_singleton, List.length_nil, zero_ceilDiv]
    rfl
  · intro index frame there more
    obtain ⟨rfl, -⟩ := first there
    exact absurd more (Nat.lt_irrefl 1)
  · intro frame member
    rw [List.mem_singleton.mp member]
    exact Nat.zero_le size
  · intro frame member empty
    rfl
  · intro index frame there
    obtain ⟨rfl, rfl⟩ := first there
    rfl
  · intro index frame there
    obtain ⟨rfl, rfl⟩ := first there
    exact iff_of_true rfl rfl

private theorem length_chunks_eq_ceilDiv (positive : 0 < size) (message : Bytes) :
    (chunks size message).length = message.length ⌈/⌉ size := by
  rw [length_chunks positive, Nat.ceilDiv_eq_add_pred_div]

private theorem lt_length_chunks_iff (positive : 0 < size) {index : Nat} :
    index < (chunks size message).length ↔ index * size < message.length := by
  rw [length_chunks_eq_ceilDiv positive, ← not_le, ceilDiv_le_iff_le_mul positive, not_le,
    Nat.mul_comm]

private theorem chunks_ne_nil (positive : 0 < size) (nonempty : message ≠ []) :
    chunks size message ≠ [] := by
  rw [chunks_of_ne_nil positive nonempty]
  exact List.cons_ne_nil _ _

private theorem frame_of_getElem? {opcode : Opcode} (positive : 0 < size) (nonempty : message ≠ [])
    {index : Nat} {frame : Frame}
    (there : (ofParts opcode (chunks size message))[index]? = some frame) :
    index < (chunks size message).length ∧
      frame.opcode = (if index = 0 then opcode else .continuation) ∧
      frame.fin = (index + 1 == (chunks size message).length) ∧
      frame.payload = (message.drop (index * size)).take size := by
  rw [ofParts_eq_map_range opcode (chunks_ne_nil positive nonempty), List.getElem?_map] at there
  obtain ⟨number, inRange, rfl⟩ := Option.map_eq_some_iff.mp there
  obtain ⟨less, same⟩ := List.getElem?_eq_some_iff.mp inRange
  rw [List.getElem_range] at same
  subst same
  rw [List.length_range] at less
  exact ⟨less, rfl, rfl, getElem?_chunks positive message index⟩

private theorem length_ofParts (opcode : Opcode) {parts : List Bytes} (nonempty : parts ≠ []) :
    (ofParts opcode parts).length = parts.length := by
  rw [ofParts_eq_map_range opcode nonempty, List.length_map, List.length_range]

private theorem sentInPieces_of_ne_nil (family : Family) (positive : 0 < size)
    (nonempty : message ≠ []) :
    SentInPieces family message size (ofParts (.ofFamily family) (chunks size message)) := by
  have length := length_ofParts (.ofFamily family) (chunks_ne_nil positive nonempty)
  constructor
  · rw [flatMap_payload_ofParts, flatten_chunks]
  · have first : 0 < (chunks size message).length :=
      List.length_pos_iff.mpr (chunks_ne_nil positive nonempty)
    rw [length, ← length_chunks_eq_ceilDiv positive, Nat.max_eq_right first]
  · intro index frame there more
    obtain ⟨-, -, -, payload⟩ := frame_of_getElem? positive nonempty there
    rw [length, lt_length_chunks_iff positive, Nat.succ_mul] at more
    rw [payload, List.length_take, List.length_drop]
    omega
  · intro frame member
    obtain ⟨index, there⟩ := List.getElem?_of_mem member
    obtain ⟨-, -, -, payload⟩ := frame_of_getElem? positive nonempty there
    rw [payload, List.length_take]
    exact Nat.min_le_left ..
  · intro frame member empty
    obtain ⟨index, there⟩ := List.getElem?_of_mem member
    obtain ⟨less, -, -, payload⟩ := frame_of_getElem? positive nonempty there
    rw [lt_length_chunks_iff positive] at less
    have none := congrArg List.length (payload.symm.trans empty)
    rw [List.length_take, List.length_drop, List.length_nil] at none
    omega
  · intro index frame there
    exact (frame_of_getElem? positive nonempty there).2.1
  · intro index frame there
    obtain ⟨-, -, fin, -⟩ := frame_of_getElem? positive nonempty there
    rw [fin, length, beq_iff_eq]

private theorem sentInPieces (family : Family) (message : Bytes) (positive : 0 < size) :
    SentInPieces family message size (ofParts (.ofFamily family) (chunks size message)) := by
  by_cases empty : message = []
  · rw [empty, chunks_nil]
    exact sentInPieces_nil family size
  · exact sentInPieces_of_ne_nil family positive empty

end Fragments

/-- Cutting a message by position and cutting it into consecutive pieces give the same frames: every
frame but the last is full, and the frames say where the message starts and ends. -/
theorem fragmentations_agree (family : Family) (message : Bytes) {size : Nat}
    (positive : 0 < size) :
    Fragments.bySize (.ofFamily family) message size = some (Demo.fragment family message size) ∧
      SentInPieces family message size (Demo.fragment family message size) := by
  rw [Demo.fragment_eq_ofParts family message positive]
  constructor
  · rw [Fragments.bySize, if_neg (Nat.ne_of_gt positive)]
  · exact Fragments.sentInPieces family message positive

/-- Six bytes cut at three are two full frames: none is left for a third. -/
theorem exact_multiple_cut :
    Fragments.bySize .text [1, 2, 3, 4, 5, 6] 3 =
        some [⟨.text, false, [1, 2, 3]⟩, ⟨.continuation, true, [4, 5, 6]⟩] ∧
      SentInPieces .text [1, 2, 3, 4, 5, 6] 3
        [⟨.text, false, [1, 2, 3]⟩, ⟨.continuation, true, [4, 5, 6]⟩] :=
  fragmentations_agree .text [1, 2, 3, 4, 5, 6] (by decide : 0 < 3)

end WebSocketSession
