import WebSocketSession.Proofs.CloseCodec
import WebSocketSession.Proofs.CloseStatus
import WebSocketSession.Proofs.Fitting
import WebSocketSession.Script

/-!
# Reasons that fit a CLOSE frame

A reason that is too long for a CLOSE frame is cut between characters, as late as it can be
(`longestWithin_trimReason`), so that no more than a part of one character is lost besides what has
to go. Whatever a session closes with, for whichever failure, then fits a control frame and is read
from it as it was sent (`reason_trimmed_to_fit`).
-/

set_option autoImplicit false
set_option relaxedAutoImplicit false

namespace WebSocketSession

variable {σ ν τ : Type}

open Utf8

private theorem encode_trimReason (reason : String) :
    encode (trimReason reason) = spelled (fitting maxReasonBytes reason.toList) := by
  rw [trimReason, encode_ofList]

theorem longestWithin_trimReason (reason : String) :
    LongestWithin maxReasonBytes (trimReason reason) reason :=
  longestWithin_fitting maxReasonBytes reason

private theorem trimReason_of_fits {reason : String}
    (fits : (encode reason).length ≤ maxReasonBytes) :
    trimReason reason = reason := by
  rw [trimReason, fitting_of_fits fits, String.ofList_toList]

private theorem length_trimReason_of_exceeds {reason : String}
    (exceeds : maxReasonBytes < (encode reason).length) :
    120 ≤ (encode (trimReason reason)).length := by
  have left := budget_lt_length_fitting exceeds
  rw [encode_trimReason]
  simp only [maxReasonBytes, maxControlPayload] at left ⊢
  omega

/-- The CLOSE frame with this status and reason is no longer than a control frame may be, and is
read as the two. -/
structure Carried (code : CloseCode) (reason : String) : Prop where
  fits : (Frame.close code reason).payload.length ≤ 125
  read : CloseNotice.ofPayload (Frame.close code reason).payload =
    .ok ⟨code, if reason = "" then none else some reason⟩

private theorem carried_of_fits (code : CloseCode) {reason : String}
    (fits : (encode reason).length ≤ maxReasonBytes) : Carried code reason := by
  constructor
  · have whole : (Frame.close code reason).payload.length = 2 + (encode reason).length :=
      List.length_append
    simp only [maxReasonBytes, maxControlPayload] at fits
    omega
  · exact CloseNotice.ofPayload_close code reason

private theorem carried_trimReason (code : CloseCode) (reason : String) :
    Carried code (trimReason reason) :=
  carried_of_fits code (longestWithin_trimReason reason).within

/-- A reason is trimmed to its longest beginning of at most 123 bytes that ends between characters:
all of it if it fits, and else no less than 120 bytes of it. Going down over its bytes to the first
position where it may be cut finds the same, and there is nothing to trim a second time. With any
status the rest fits a CLOSE frame and is read from it; so in every run, whatever a session closes
with is the status and the trimmed reason of a failure, and is read from a CLOSE frame as such. -/
theorem reason_trimmed_to_fit (host : Host σ ν τ) (app : σ) (handlers : Handlers)
    (policy : Policy) (pool : Pool) (operations : List (Operation σ τ)) :
    (∀ reason : String,
      LongestWithin 123 (trimReason reason) reason ∧
      ((encode reason).length ≤ 123 → trimReason reason = reason) ∧
      (123 < (encode reason).length → 120 ≤ (encode (trimReason reason)).length) ∧
      cutDown? 123 reason = some (trimReason reason) ∧
      trimReason (trimReason reason) = trimReason reason ∧
      ∀ code, Carried code (trimReason reason)) ∧
    ∀ entry ∈ (Session.start app handlers policy pool).history host operations,
      ∀ code reason, .closed .session code reason ∈ entry.outcome.trace →
        ∃ fault, entry.fault? host = some fault ∧
          code = (fault.closing entry.before.policy.role).1 ∧
          reason = trimReason (fault.closing entry.before.policy.role).2 ∧
          Carried code reason := by
  constructor
  · intro reason
    have longest := longestWithin_trimReason reason
    have again : trimReason (trimReason reason) = trimReason reason :=
      trimReason_of_fits longest.within
    exact ⟨longest, trimReason_of_fits, length_trimReason_of_exceeds, cutDown?_eq 123 reason, again,
      fun code => carried_trimReason code reason⟩
  · intro entry member code reason closed
    have coherent : (Session.start app handlers policy pool : Session σ τ).Coherent :=
      Session.coherent_of_idle rfl
    obtain ⟨reached, operation, sound, -, rfl⟩ := Session.entry_of_mem_history coherent member
    obtain ⟨fault, failed, status, told⟩ := Session.closed_for_fault sound closed
    refine ⟨fault, failed, status, told, ?_⟩
    rw [told]
    exact carried_trimReason code _

/-- A reason of 124 bytes that are two for each character loses its last character, not its last
byte, and is sent like that. -/
theorem accented_reason_cut :
    let reason := String.ofList (List.replicate 62 'é')
    let kept := String.ofList (List.replicate 61 'é')
    let start : Session Script Recorder := .start ⟨[]⟩ .empty .default (.empty 4)
    let operations : List (Operation Script Recorder) :=
      [.attach (.fresh .none), .input (.protocolError ⟨.protocolError, reason⟩)]
    (encode reason).length = 124 ∧ trimReason reason = kept ∧
      ∃ entry ∈ start.history Script.host operations,
        .closed .session .protocolError kept ∈ entry.outcome.trace ∧
        Carried .protocolError kept := by
  intro reason kept start operations
  have cut : trimReason reason = kept := by decide +kernel
  have ran := reason_trimmed_to_fit Script.host ⟨[]⟩ .empty .default (.empty 4) operations
  let entry := (start.attach (.fresh .none)).entry Script.host
    (.input (.protocolError ⟨.protocolError, reason⟩))
  have member : entry ∈ start.history Script.host operations := .tail _ (.head _)
  have closings : closings entry.outcome.trace = [.counted (.termination .protocolError),
      .closed .session .protocolError (trimReason reason)] := by rfl
  have closed : .closed .session .protocolError kept ∈ entry.outcome.trace := by
    have last : .closed .session .protocolError kept ∈
        WebSocketSession.closings entry.outcome.trace := by
      rw [closings, cut]
      exact .tail _ (.head _)
    exact (List.mem_filter.mp last).1
  obtain ⟨fault, -, -, -, carried⟩ := ran.2 entry member _ _ closed
  exact ⟨by decide +kernel, cut, entry, member, closed, carried⟩

end WebSocketSession
