import WebSocketSession.Close
import WebSocketSession.Proofs.Completion

/-!
# Close payloads are read as they are written

A status is its two bytes and nothing else (`CloseCode.ofBytes_bytes`, `CloseCode.bytes_ofBytes`),
and a reason its UTF-8. So the payload of a CLOSE frame is read as the status and the reason that
the frame was made of (`ofPayload_close`), and a payload that is read is, unless it is empty, the
one of the frame made of what it was read as (`payload_close_of_ofPayload`). What is refused is
refused for its length or for its text (`close_payload_exact`).
-/

set_option autoImplicit false
set_option relaxedAutoImplicit false

namespace WebSocketSession

open Utf8

namespace CloseCode

theorem ofBytes_bytes (code : CloseCode) :
    ofBytes (UInt8.ofNat (code.toNat / 256)) (UInt8.ofNat (code.toNat % 256)) = code := by
  have bounded : code.toNat < 65536 := code.value.toNat_lt
  have high : (UInt8.ofNat (code.toNat / 256)).toNat = code.toNat / 256 :=
    UInt8.toNat_ofNat_of_lt' (by simp only [UInt8.size]; omega)
  have low : (UInt8.ofNat (code.toNat % 256)).toNat = code.toNat % 256 :=
    UInt8.toNat_ofNat_of_lt' (by simp only [UInt8.size]; omega)
  have value : code.toNat / 256 * 256 + code.toNat % 256 = code.toNat := by omega
  rw [ofBytes, high, low, value, toNat, UInt16.ofNat_toNat]

theorem bytes_ofBytes (high low : UInt8) : (ofBytes high low).bytes = [high, low] := by
  have highBound := high.toNat_lt
  have lowBound := low.toNat_lt
  have value : (ofBytes high low).toNat = high.toNat * 256 + low.toNat :=
    UInt16.toNat_ofNat_of_lt' (by simp only [UInt16.size]; omega)
  have first : (high.toNat * 256 + low.toNat) / 256 = high.toNat := by omega
  have second : (high.toNat * 256 + low.toNat) % 256 = low.toNat := by omega
  rw [bytes, value, first, second, UInt8.ofNat_toNat, UInt8.ofNat_toNat]

end CloseCode

namespace CloseNotice

/-- The payload of a frame is read as the status and the reason of the frame. -/
theorem ofPayload_close (code : CloseCode) (reason : String) :
    ofPayload (Frame.close code reason).payload =
      .ok ⟨code, if reason = "" then none else some reason⟩ := by
  have decoded : decode (encode reason) = some reason := decode_eq_some_iff.mpr rfl
  have written : (Frame.close code reason).payload =
      .ofNat (code.toNat / 256) :: .ofNat (code.toNat % 256) :: encode reason := rfl
  rw [written]
  cases bytes : encode reason with
  | nil =>
    have none : reason = "" := eq_empty_of_encode bytes
    rw [ofPayload, CloseCode.ofBytes_bytes, if_pos none]
  | cons b rest =>
    have some : reason ≠ "" := by
      rintro rfl
      cases bytes
    rw [bytes] at decoded
    simp only [ofPayload, decoded, CloseCode.ofBytes_bytes, if_neg some]

theorem payload_close_of_ofPayload {payload : Bytes} {notice : CloseNotice} (some : payload ≠ [])
    (read : ofPayload payload = .ok notice) :
    (Frame.close notice.code (notice.reason.getD "")).payload = payload := by
  unfold ofPayload at read
  split at read
  · exact absurd rfl some
  · cases read
  · cases read
    simp only [Frame.close, CloseCode.bytes_ofBytes]
    rfl
  · split at read
    · rename_i reason decoded
      cases read
      simp only [Frame.close, CloseCode.bytes_ofBytes, Option.getD_some,
        decode_eq_some_iff.mp decoded]
      rfl
    · cases read

private theorem ofPayload_eq_truncatedStatus_iff {payload : Bytes} :
    ofPayload payload = .error .truncatedStatus ↔ payload.length = 1 := by
  unfold ofPayload
  split
  · simp
  · simp
  · simp
  · split <;> simp

private theorem ofPayload_eq_invalidReason_iff {payload : Bytes} :
    ofPayload payload = .error .invalidReason ↔
      3 ≤ payload.length ∧ ¬ IsText (payload.drop 2) := by
  unfold ofPayload
  split
  · simp
  · simp
  · simp
  · rename_i high low rest some
    have long : 3 ≤ (high :: low :: rest).length := by
      cases rest with
      | nil => exact absurd rfl some
      | cons b rest => simp
    have text : IsText rest ↔ ∃ reason, decode rest = .some reason := by
      simp only [IsText, decode_eq_some_iff]
    have after : (high :: low :: rest).drop 2 = rest := rfl
    simp only [after, text, long, true_and]
    cases decoded : decode rest <;> simp

end CloseNotice

/-- Writing and reading a close payload are inverse to each other, the empty payload apart, which
stands for the status 1005 without a reason. A payload that is not read has one byte, or has bytes
after its status that are not UTF-8. -/
theorem close_payload_exact :
    (∀ (code : CloseCode) (reason : String),
      CloseNotice.ofPayload (Frame.close code reason).payload =
        .ok ⟨code, if reason = "" then none else some reason⟩) ∧
    (∀ (payload : Bytes) (notice : CloseNotice), payload ≠ [] →
      CloseNotice.ofPayload payload = .ok notice →
        (Frame.close notice.code (notice.reason.getD "")).payload = payload) ∧
    (∀ (payload other : Bytes) (notice : CloseNotice), payload ≠ [] → other ≠ [] →
      CloseNotice.ofPayload payload = .ok notice → CloseNotice.ofPayload other = .ok notice →
        payload = other) ∧
    (∀ (payload : Bytes) (defect : CloseDefect),
      CloseNotice.ofPayload payload = .error defect ↔
        match defect with
        | .truncatedStatus => payload.length = 1
        | .invalidReason => 3 ≤ payload.length ∧ ¬ IsText (payload.drop 2)) ∧
    CloseNotice.ofPayload [] = .ok ⟨⟨1005⟩, none⟩ := by
  refine ⟨CloseNotice.ofPayload_close, fun payload notice => CloseNotice.payload_close_of_ofPayload,
    ?_, ?_, rfl⟩
  · intro payload other notice some also read again
    rw [← CloseNotice.payload_close_of_ofPayload some read,
      CloseNotice.payload_close_of_ofPayload also again]
  · intro payload defect
    cases defect with
    | truncatedStatus => exact CloseNotice.ofPayload_eq_truncatedStatus_iff
    | invalidReason => exact CloseNotice.ofPayload_eq_invalidReason_iff

/-- A payload with a reason of three characters, one of them of two bytes, is written back. -/
theorem bye_written_back :
    let payload : Bytes := [0x03, 0xE8, 0x62, 0xC3, 0xBF, 0x65]
    payload ≠ [] ∧ CloseNotice.ofPayload payload = .ok ⟨.normal, some "bÿe"⟩ ∧
      (Frame.close .normal "bÿe").payload = payload := by
  intro payload
  have nonempty : payload ≠ [] := nofun
  have read : CloseNotice.ofPayload payload = .ok ⟨.normal, some "bÿe"⟩ := by rfl
  have written := close_payload_exact.2.1 payload _ nonempty read
  exact ⟨nonempty, read, written⟩

end WebSocketSession
