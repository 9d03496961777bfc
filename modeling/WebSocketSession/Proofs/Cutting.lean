import WebSocketSession.Demo
import WebSocketSession.Frame.Fragments

/-!
# Cutting a message by position

The pieces of a message by their number, the frames of a message by theirs, and from both that
cutting by position comes to the frames of the consecutive pieces (`fragment_eq_ofParts`). Then the
first piece that takes a message past a limit: `pastLimit?_chunks` says at which length that is.
-/

set_option autoImplicit false
set_option relaxedAutoImplicit false

namespace WebSocketSession

namespace Fragments

variable {size : Nat}

@[simp] theorem chunks_nil (size : Nat) : chunks size [] = [] := by
  rw [chunks]

theorem chunks_of_ne_nil (positive : 0 < size) {message : Bytes} (nonempty : message ≠ []) :
    chunks size message = message.take size :: chunks size (message.drop size) := by
  obtain ⟨before, rfl⟩ := Nat.exists_eq_add_one.mpr positive
  cases message with
  | nil => exact absurd rfl nonempty
  | cons b rest => rw [chunks, Nat.add_sub_cancel, List.take_succ_cons, List.drop_succ_cons]

private theorem piecewise (positive : 0 < size) {motive : Bytes → Prop} (nil : motive [])
    (piece : ∀ message, message ≠ [] → motive (message.drop size) → motive message)
    (message : Bytes) : motive message := by
  by_cases empty : message = []
  · rw [empty]
    exact nil
  · exact piece message empty (piecewise positive nil piece (message.drop size))
termination_by message.length
decreasing_by
  have some := List.length_pos_iff.mpr empty
  rw [List.length_drop]
  omega

theorem length_chunks (positive : 0 < size) (message : Bytes) :
    (chunks size message).length = (message.length + size - 1) / size := by
  induction message using piecewise positive with
  | nil =>
    rw [chunks_nil, List.length_nil, List.length_nil, Nat.div_eq_of_lt]
    omega
  | piece message nonempty ih =>
    have some := List.length_pos_iff.mpr nonempty
    rw [chunks_of_ne_nil positive nonempty, List.length_cons, ih, List.length_drop,
      ← Nat.add_div_right _ positive]
    by_cases last : message.length ≤ size
    · rw [Nat.div_eq_of_lt_le (k := 1), Nat.div_eq_of_lt_le (k := 1)] <;> omega
    · congr 1
      omega

theorem getElem?_chunks (positive : 0 < size) (message : Bytes) (index : Nat) :
    (chunks size message)[index]?.getD [] = (message.drop (index * size)).take size := by
  induction message using piecewise positive generalizing index with
  | nil => simp
  | piece message nonempty ih =>
    rw [chunks_of_ne_nil positive nonempty]
    cases index with
    | zero => simp
    | succ index => simp [ih index, Nat.succ_mul, Nat.add_comm]

theorem ofParts_eq_map_range (opcode : Opcode) {parts : List Bytes} (nonempty : parts ≠ []) :
    ofParts opcode parts = (List.range parts.length).map fun index =>
      { opcode := if index = 0 then opcode else .continuation
        fin := index + 1 == parts.length
        payload := parts[index]?.getD [] } := by
  fun_induction ofParts opcode parts with
  | case1 => exact absurd rfl nonempty
  | case2 opcode part => rfl
  | case3 opcode part next rest ih =>
    have length : (part :: next :: rest).length = (next :: rest).length + 1 := rfl
    rw [ih (List.cons_ne_nil next rest), length, List.range_succ_eq_map, List.map_cons,
      List.map_map]
    congr 1
    refine List.map_congr_left fun index _ => ?_
    simp

/-- The length that the parts of a message take it to when first they take it past a limit, if it
had `held` bytes before them. -/
def pastLimit? (limit held : Nat) : List Bytes → Option Nat
  | [] => none
  | part :: rest =>
    if limit < held + part.length then some (held + part.length)
    else pastLimit? limit (held + part.length) rest

theorem pastLimit?_empty {limit held : Nat} (within : held ≤ limit) :
    pastLimit? limit held [[]] = none := by
  simp [pastLimit?, within]

/-- After whole pieces that fit, a message goes past the limit with the piece that the limit lies
in, unless it ends before. -/
theorem pastLimit?_chunks (positive : 0 < size) (message : Bytes) (count : Nat) {limit : Nat}
    (within : size * count ≤ limit) :
    pastLimit? limit (size * count) (chunks size message) =
      if size * count + message.length ≤ limit then none
      else some (min (size * count + message.length) (size * (limit / size + 1))) := by
  induction message using piecewise positive generalizing count with
  | nil => simp [pastLimit?, within]
  | piece message nonempty ih =>
    rw [chunks_of_ne_nil positive nonempty, pastLimit?, List.length_take]
    by_cases exceeds : limit < size * count + min size message.length
    · have pieces : limit / size = count :=
        Nat.div_eq_of_lt_le (by rwa [Nat.mul_comm]) (by rw [Nat.succ_mul, Nat.mul_comm]; omega)
      rw [if_pos exceeds, if_neg (by omega), pieces, Nat.mul_succ, Nat.add_min_add_left,
        Nat.min_comm]
    · rw [if_neg exceeds]
      by_cases last : message.length ≤ size
      · rw [List.drop_eq_nil_of_le last, if_pos (by omega), chunks_nil, pastLimit?]
      · have next : size * count + min size message.length = size * (count + 1) := by
          rw [Nat.mul_succ]
          omega
        have total : size * (count + 1) + (message.drop size).length =
            size * count + message.length := by
          rw [Nat.mul_succ, List.length_drop]
          omega
        rw [next, ih (count + 1) (by omega), total]

end Fragments

namespace Demo

theorem fragment_eq_ofParts (family : Family) (message : Bytes) {size : Nat}
    (positive : 0 < size) :
    fragment family message size =
      Fragments.ofParts (.ofFamily family) (Fragments.chunks size message) := by
  by_cases empty : message = []
  · rw [empty, Fragments.chunks_nil]
    rfl
  · have pieces : Fragments.chunks size message ≠ [] := by
      rw [Fragments.chunks_of_ne_nil positive empty]
      exact List.cons_ne_nil _ _
    have whole : message.isEmpty = false := List.isEmpty_eq_false_iff.mpr empty
    rw [Fragments.ofParts_eq_map_range _ pieces, Fragments.length_chunks positive]
    simp only [fragment, whole, Bool.false_eq_true, if_false, List.size_toArray]
    refine List.map_congr_left fun index _ => ?_
    rw [Fragments.getElem?_chunks positive]
    congr 1
    simp [Nat.succ_mul]

end Demo

end WebSocketSession
