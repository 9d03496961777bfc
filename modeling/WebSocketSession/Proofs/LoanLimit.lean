import Mathlib.Algebra.Group.Nat.Defs
import Mathlib.Data.List.Induction
import WebSocketSession.Proofs.Assembly

/-!
# A loan keeps to its limit

Payloads are offered to a loan one after another. Which of them are accepted depends on nothing but
the limit and on what has been accepted before (`accepted`): neither the capacity of the buffer that
the pool gave nor what the buffer held makes a difference, and a payload that is refused leaves
room for those that fit (`appends_keep_to_limit`).
-/

set_option autoImplicit false
set_option relaxedAutoImplicit false

namespace WebSocketSession

namespace Loan

/-- What has been accepted, and with it a payload if the total stays within the limit. -/
def accept (limit : Nat) (before : List Bytes) (payload : Bytes) : List Bytes :=
  if before.flatten.length + payload.length ≤ limit then before ++ [payload] else before

/-- The payloads that are accepted of those offered in turn to a message of at most `limit`
bytes. -/
def accepted (limit : Nat) (payloads : List Bytes) : List Bytes :=
  payloads.foldl (accept limit) []

private theorem accepted_concat (limit : Nat) (payloads : List Bytes) (payload : Bytes) :
    accepted limit (payloads ++ [payload]) = accept limit (accepted limit payloads) payload := by
  rw [accepted, List.foldl_append]
  rfl

private theorem length_accepted_le (limit : Nat) (payloads : List Bytes) :
    (accepted limit payloads).flatten.length ≤ limit := by
  induction payloads using List.reverseRecOn with
  | nil => exact Nat.zero_le limit
  | append_singleton payloads payload ih =>
    rw [accepted_concat, accept]
    split
    · rename_i fits
      rw [List.flatten_append, List.flatten_singleton, List.length_append]
      exact fits
    · exact ih

def offer (loan : Loan) (payload : Bytes) : Loan :=
  match loan.append payload with
  | .ok extended => extended
  | .error _ => loan

def offerAll (loan : Loan) (payloads : List Bytes) : Loan := payloads.foldl offer loan

private theorem offerAll_concat (loan : Loan) (payloads : List Bytes) (payload : Bytes) :
    loan.offerAll (payloads ++ [payload]) = (loan.offerAll payloads).offer payload := by
  rw [offerAll, List.foldl_append]
  rfl

variable {loan : Loan} {payload : Bytes}

private theorem append_eq_offer (fits : loan.length + payload.length ≤ loan.limit) :
    loan.append payload = .ok (loan.offer payload) := by
  have kept : loan.append payload = .ok { loan with buffer := loan.buffer.extend payload } := by
    rw [append_eq payload (by omega), if_neg (by omega)]
  rw [offer, kept]

private theorem offer_of_exceeds (within : loan.length ≤ loan.limit)
    (exceeds : loan.limit < loan.length + payload.length) : loan.offer payload = loan := by
  rw [offer, append_eq payload within, if_pos exceeds]

private theorem bytes_offer_of_fits (fits : loan.length + payload.length ≤ loan.limit) :
    (loan.offer payload).bytes = loan.bytes ++ payload ∧
      (loan.offer payload).limit = loan.limit :=
  bytes_of_append (append_eq_offer fits)

private theorem sized_of_short {held more : Nat} (short : held < 2 ^ 63)
    (shortMore : more < 2 ^ 63) :
    held + more ≤ Numeral.sizeMax := by
  simp only [Numeral.sizeMax, Nat.pow_eq]
  omega

/-- What a loan for a message of at most `limit` bytes is after these payloads were offered to
it. -/
structure Holds (limit : Nat) (payloads : List Bytes) (loan : Loan) : Prop where
  bytes : loan.bytes = (accepted limit payloads).flatten
  kept : loan.limit = limit
  within : loan.length ≤ limit
  account : loan.length + loan.remaining = limit

structure Answers (loan : Loan) (payload : Bytes) : Prop where
  accepts : (∃ extended, loan.append payload = .ok extended) ↔
    loan.length + payload.length ≤ loan.limit
  /-- What is accepted comes after what there was. -/
  adds : ∀ extended, loan.append payload = .ok extended →
    loan.offer payload = extended ∧ extended.bytes = loan.bytes ++ payload ∧
      extended.limit = loan.limit
  /-- What is refused changes nothing. -/
  keeps : ∀ overflow, loan.append payload = .error overflow → loan.offer payload = loan
  /-- The total reported is exact for payloads and contents of less than half of all sizes. -/
  reports : ∀ overflow, loan.append payload = .error overflow → overflow.limit = loan.limit ∧
    (loan.length < 2 ^ 63 → payload.length < 2 ^ 63 →
      overflow.attempted = loan.length + payload.length)

private theorem holds_of_bytes {limit : Nat} {payloads : List Bytes}
    (bytes : loan.bytes = (accepted limit payloads).flatten) (same : loan.limit = limit) :
    Holds limit payloads loan := by
  have within : loan.length ≤ limit := by
    rw [← loan.length_bytes, bytes]
    exact length_accepted_le limit payloads
  refine ⟨bytes, same, within, ?_⟩
  rw [remaining, same]
  omega

private theorem holds_lend (buffer : Buffer) (limit : Nat) : Holds limit [] (lend buffer limit) :=
  holds_of_bytes (Buffer.bytes_clear buffer) rfl

private theorem Holds.offer {limit : Nat} {payloads : List Bytes}
    (holds : Holds limit payloads loan)
    (payload : Bytes) : Holds limit (payloads ++ [payload]) (loan.offer payload) := by
  have length : loan.length = (accepted limit payloads).flatten.length := by
    rw [← loan.length_bytes, holds.bytes]
  have same := holds.kept
  have within := holds.within
  by_cases fits : loan.length + payload.length ≤ loan.limit
  · obtain ⟨bytes, kept⟩ := bytes_offer_of_fits fits
    apply holds_of_bytes
    · rw [accepted_concat, accept, if_pos (by omega), List.flatten_append, List.flatten_singleton,
        bytes, holds.bytes]
    · rw [kept, same]
  · apply holds_of_bytes
    · rw [accepted_concat, accept, if_neg (by omega), offer_of_exceeds (by omega) (by omega),
        holds.bytes]
    · rw [offer_of_exceeds (by omega) (by omega), same]

private theorem holds_offerAll (buffer : Buffer) (limit : Nat) (payloads : List Bytes) :
    Holds limit payloads ((lend buffer limit).offerAll payloads) := by
  induction payloads using List.reverseRecOn with
  | nil => exact holds_lend buffer limit
  | append_singleton payloads payload ih =>
    rw [offerAll_concat]
    exact ih.offer payload

private theorem answers (within : loan.length ≤ loan.limit) (payload : Bytes) :
    Answers loan payload := by
  by_cases fits : loan.length + payload.length ≤ loan.limit
  · have appended := append_eq_offer fits
    constructor
    · exact iff_of_true ⟨_, appended⟩ fits
    · intro extended kept
      obtain rfl := Except.ok.inj (appended.symm.trans kept)
      exact ⟨rfl, bytes_offer_of_fits fits⟩
    · intro overflow refused
      cases appended.symm.trans refused
    · intro overflow refused
      cases appended.symm.trans refused
  · have exceeds : loan.limit < loan.length + payload.length := Nat.lt_of_not_le fits
    have refused := append_eq payload within
    rw [if_pos exceeds] at refused
    constructor
    · refine iff_of_false ?_ fits
      rintro ⟨extended, kept⟩
      cases refused.symm.trans kept
    · intro extended kept
      cases refused.symm.trans kept
    · intro overflow _
      exact offer_of_exceeds within exceeds
    · intro overflow told
      obtain rfl := Except.error.inj (refused.symm.trans told)
      refine ⟨rfl, fun short shortMore => ?_⟩
      exact Nat.min_eq_left (sized_of_short short shortMore)

end Loan

/-- Whatever its pool is like, a loan for a message of at most `limit` bytes holds the payloads that
fit, one after another, of those offered to it, and has room for what the limit leaves. The next
payload is accepted if the total stays within the limit, and is else refused with that total. -/
theorem appends_keep_to_limit (pool : Pool) (limit : Nat) (payloads : List Bytes) :
    let loan := (Loan.lend (pool.acquire limit).1 limit).offerAll payloads
    loan.Holds limit payloads ∧ ∀ payload, loan.Answers payload := by
  intro loan
  have holds : loan.Holds limit payloads := Loan.holds_offerAll _ limit payloads
  refine ⟨holds, fun payload => Loan.answers ?_ payload⟩
  rw [holds.kept]
  exact holds.within

/-- Of three, three and two bytes offered to a loan for five, the second payload is refused and the
third accepted. -/
theorem later_payload_accepted :
    let loan := (Loan.lend (Pool.acquire (.empty 4) 5).1 5).offerAll [[1, 2, 3], [4, 5, 6]]
    loan.bytes = [1, 2, 3] ∧ (∃ extended, loan.append [7, 8] = .ok extended) ∧
      ∀ overflow, loan.append [7, 8, 9] = .error overflow → overflow.attempted = 6 := by
  intro loan
  obtain ⟨holds, answers⟩ := appends_keep_to_limit (.empty 4) 5 [[1, 2, 3], [4, 5, 6]]
  have bytes : loan.bytes = [1, 2, 3] := holds.bytes
  have length : loan.length = 3 := by
    rw [← loan.length_bytes, bytes]
    rfl
  have limit : loan.limit = 5 := holds.kept
  refine ⟨bytes, (answers [7, 8]).accepts.mpr ?_, fun overflow refused => ?_⟩
  · rw [length, limit]
    decide
  · rw [((answers [7, 8, 9]).reports overflow refused).2 (by rw [length]; decide) (by decide),
      length]
    rfl

end WebSocketSession
