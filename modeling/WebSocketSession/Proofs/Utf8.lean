import Mathlib.Tactic.SplitIfs
import WebSocketSession.Text.Utf8

/-!
# Decoding is the inverse of encoding

The bytes of a character, and no other bytes, are read as that character (`feedAll_encodeChar` and
`encode_of_classify`); so decoding gives a text exactly on the bytes of that text
(`decode_eq_some_iff`).
-/

set_option autoImplicit false
set_option relaxedAutoImplicit false

namespace WebSocketSession.Utf8

theorem within_iff {low high b : UInt8} :
    within low high b = true ↔ low.toNat ≤ b.toNat ∧ b.toNat ≤ high.toNat := by
  simp [within, UInt8.le_iff_toNat_le]

theorem lengthFrom_cases (lead : UInt8) :
    (lead.toNat ≤ 0x7F ∧ lengthFrom lead = 1) ∨
    (0xC2 ≤ lead.toNat ∧ lead.toNat ≤ 0xDF ∧ lengthFrom lead = 2) ∨
    (0xE0 ≤ lead.toNat ∧ lead.toNat ≤ 0xEF ∧ lengthFrom lead = 3) ∨
    (0xF0 ≤ lead.toNat ∧ lead.toNat ≤ 0xF4 ∧ lengthFrom lead = 4) ∨
    (0x80 ≤ lead.toNat ∧ (lead.toNat ≤ 0xC1 ∨ 0xF5 ≤ lead.toNat) ∧ lengthFrom lead = 0) := by
  have bounded := lead.toNat_lt
  simp only [lengthFrom, within_iff, UInt8.le_iff_toNat_le, UInt8.reduceToNat]
  split_ifs <;> omega

theorem secondAllowed_iff {lead second : UInt8} :
    secondAllowed lead second = true ↔
      0x80 ≤ second.toNat ∧ second.toNat ≤ 0xBF ∧ (lead.toNat = 0xE0 → 0xA0 ≤ second.toNat) ∧
        (lead.toNat = 0xED → second.toNat ≤ 0x9F) ∧ (lead.toNat = 0xF0 → 0x90 ≤ second.toNat) ∧
          (lead.toNat = 0xF4 → second.toNat ≤ 0x8F) := by
  simp only [secondAllowed, ← UInt8.toNat_inj, UInt8.reduceToNat]
  split_ifs <;> rw [within_iff] <;> simp only [UInt8.reduceToNat] <;> omega

private theorem toNat_charOfNat {n : Nat} (valid : n.isValidChar) : (Char.ofNat n).toNat = n := by
  rw [Char.ofNat, dif_pos valid]
  rfl

theorem encode_charOfNat {n : Nat} (valid : n.isValidChar) :
    String.utf8EncodeChar (Char.ofNat n) =
      if n ≤ 0x7F then [.ofNat n]
      else if n ≤ 0x7FF then [.ofNat (n / 64 % 32 + 0xC0), .ofNat (n % 64 + 0x80)]
      else if n ≤ 0xFFFF then
        [.ofNat (n / 4096 % 16 + 0xE0), .ofNat (n / 64 % 64 + 0x80), .ofNat (n % 64 + 0x80)]
      else
        [.ofNat (n / 262144 % 8 + 0xF0), .ofNat (n / 4096 % 64 + 0x80),
          .ofNat (n / 64 % 64 + 0x80), .ofNat (n % 64 + 0x80)] := by
  have value : (Char.ofNat n).val.toNat = n := toNat_charOfNat valid
  simp only [String.utf8EncodeChar, value]

private theorem ofNat_eq {n : Nat} {b : UInt8} (h : n = b.toNat) : UInt8.ofNat n = b := by
  rw [h, UInt8.ofNat_toNat]

theorem encode_of_classify {bytes : Bytes} {c : Char} (whole : classify bytes = .whole c) :
    String.utf8EncodeChar c = bytes := by
  unfold classify at whole
  split at whole
  · rename_i a
    split at whole
    · cases whole
    · rename_i one
      cases whole
      have lead := lengthFrom_cases a
      rw [encode_charOfNat (.inl (by omega)), if_pos (by omega), UInt8.ofNat_toNat]
    · cases whole
  · rename_i a b
    have lead := lengthFrom_cases a
    split at whole
    · cases whole
    · rename_i allowed
      simp only [Bool.or_eq_true, decide_eq_true_eq, Bool.not_eq_true', not_or, Bool.not_eq_false,
        secondAllowed_iff] at allowed
      split at whole
      · cases whole
        simp only [tailBits]
        rw [encode_charOfNat (.inl (by omega)), if_neg (by omega), if_pos (by omega),
          ofNat_eq (b := a) (by omega), ofNat_eq (b := b) (by omega)]
      · cases whole
  · rename_i a b c
    have lead := lengthFrom_cases a
    split at whole
    · cases whole
    · rename_i allowed
      simp only [Bool.or_eq_true, decide_eq_true_eq, Bool.not_eq_true', not_or, Bool.not_eq_false,
        secondAllowed_iff, within_iff, UInt8.reduceToNat] at allowed
      split at whole
      · cases whole
        simp only [tailBits]
        rw [encode_charOfNat (by unfold Nat.isValidChar; omega), if_neg (by omega),
          if_neg (by omega), if_pos (by omega), ofNat_eq (b := a) (by omega),
          ofNat_eq (b := b) (by omega), ofNat_eq (b := c) (by omega)]
      · cases whole
  · rename_i a b c d
    have lead := lengthFrom_cases a
    split at whole
    · cases whole
    · rename_i allowed
      simp only [Bool.or_eq_true, decide_eq_true_eq, Bool.not_eq_true', not_or, Bool.not_eq_false,
        secondAllowed_iff, within_iff, UInt8.reduceToNat] at allowed
      cases whole
      simp only [tailBits]
      rw [encode_charOfNat (by unfold Nat.isValidChar; omega), if_neg (by omega),
        if_neg (by omega), if_neg (by omega), ofNat_eq (b := a) (by omega),
        ofNat_eq (b := b) (by omega), ofNat_eq (b := c) (by omega), ofNat_eq (b := d) (by omega)]
  · cases whole

namespace Decoding

variable {latest : List Char} {a b c d : UInt8}

private theorem feedAll_one (length : lengthFrom a = 1) :
    feedAll ⟨latest, []⟩ [a] = some ⟨Char.ofNat a.toNat :: latest, []⟩ := by
  simp [feedAll, feed, classify, length]

theorem feedAll_two (length : lengthFrom a = 2) (second : secondAllowed a b = true) :
    feedAll ⟨latest, []⟩ [a, b] =
      some ⟨Char.ofNat (a.toNat % 32 * 64 + tailBits b) :: latest, []⟩ := by
  simp [feedAll, feed, classify, length, second]

theorem feedAll_three (length : lengthFrom a = 3) (second : secondAllowed a b = true)
    (third : within 0x80 0xBF c = true) :
    feedAll ⟨latest, []⟩ [a, b, c] =
      some ⟨Char.ofNat ((a.toNat % 16 * 64 + tailBits b) * 64 + tailBits c) :: latest, []⟩ := by
  simp [feedAll, feed, classify, length, second, third]

theorem feedAll_four (length : lengthFrom a = 4) (second : secondAllowed a b = true)
    (third : within 0x80 0xBF c = true) (fourth : within 0x80 0xBF d = true) :
    feedAll ⟨latest, []⟩ [a, b, c, d] =
      some ⟨Char.ofNat (((a.toNat % 8 * 64 + tailBits b) * 64 + tailBits c) * 64 + tailBits d) ::
        latest, []⟩ := by
  simp [feedAll, feed, classify, length, second, third, fourth]

/-- The bytes of a character, read from where a character may start, are that character. -/
theorem feedAll_encodeChar (latest : List Char) (c : Char) :
    feedAll ⟨latest, []⟩ (String.utf8EncodeChar c) = some ⟨c :: latest, []⟩ := by
  obtain ⟨n, valid, rfl⟩ : ∃ n : Nat, n.isValidChar ∧ Char.ofNat n = c :=
    ⟨c.toNat, c.valid, Char.ofNat_toNat c⟩
  have byte {k : Nat} (small : k < 256) : (UInt8.ofNat k).toNat = k :=
    UInt8.toNat_ofNat_of_lt' small
  have tail (k : Nat) : within 0x80 0xBF (.ofNat (k % 64 + 0x80)) = true := by
    rw [within_iff, byte (by omega)]
    simp only [UInt8.reduceToNat]
    omega
  have bits (k : Nat) : tailBits (.ofNat (k % 64 + 0x80)) = k % 64 := by
    rw [tailBits, byte (by omega)]
    omega
  unfold Nat.isValidChar at valid
  rw [encode_charOfNat valid]
  split_ifs with one two three
  · have lead := lengthFrom_cases (.ofNat n)
    rw [byte (by omega)] at lead
    rw [feedAll_one (by omega), byte (by omega)]
  · have lead := lengthFrom_cases (.ofNat (n / 64 % 32 + 0xC0))
    rw [byte (by omega)] at lead
    have second : secondAllowed (.ofNat (n / 64 % 32 + 0xC0)) (.ofNat (n % 64 + 0x80)) = true := by
      rw [secondAllowed_iff, byte (by omega), byte (by omega)]
      omega
    have value : (n / 64 % 32 + 0xC0) % 32 * 64 + n % 64 = n := by omega
    rw [feedAll_two (by omega) second, bits, byte (by omega), value]
  · have lead := lengthFrom_cases (.ofNat (n / 4096 % 16 + 0xE0))
    rw [byte (by omega)] at lead
    have second : secondAllowed (.ofNat (n / 4096 % 16 + 0xE0)) (.ofNat (n / 64 % 64 + 0x80)) =
        true := by
      rw [secondAllowed_iff, byte (by omega), byte (by omega)]
      omega
    have value : ((n / 4096 % 16 + 0xE0) % 16 * 64 + n / 64 % 64) * 64 + n % 64 = n := by omega
    rw [feedAll_three (by omega) second (tail n), bits, bits, byte (by omega), value]
  · have lead := lengthFrom_cases (.ofNat (n / 262144 % 8 + 0xF0))
    rw [byte (by omega)] at lead
    have second : secondAllowed (.ofNat (n / 262144 % 8 + 0xF0)) (.ofNat (n / 4096 % 64 + 0x80)) =
        true := by
      rw [secondAllowed_iff, byte (by omega), byte (by omega)]
      omega
    have value : (((n / 262144 % 8 + 0xF0) % 8 * 64 + n / 4096 % 64) * 64 + n / 64 % 64) * 64 +
        n % 64 = n := by omega
    rw [feedAll_four (by omega) second (tail (n / 64)) (tail n), bits, bits, bits, byte (by omega),
      value]

private theorem encode_feed {d later : Decoding} {b : UInt8} (fed : d.feed b = some later) :
    encode later.text ++ later.carried = encode d.text ++ d.carried ++ [b] := by
  unfold feed at fed
  split at fed
  · rename_i c whole
    cases fed
    simp [encode, text, encode_of_classify whole]
  · cases fed
    simp [encode, text]
  · cases fed

theorem encode_feedAll {d later : Decoding} {bytes : Bytes} (fed : d.feedAll bytes = some later) :
    encode later.text ++ later.carried = encode d.text ++ d.carried ++ bytes := by
  induction bytes generalizing d with
  | nil =>
    cases fed
    simp
  | cons b rest ih =>
    obtain ⟨next, first, others⟩ := Option.bind_eq_some_iff.mp fed
    rw [ih others, encode_feed first, List.append_assoc _ [b], List.singleton_append]

theorem feedAll_encode (latest chars : List Char) :
    feedAll ⟨latest, []⟩ (chars.flatMap String.utf8EncodeChar) =
      some ⟨chars.reverse ++ latest, []⟩ := by
  induction chars generalizing latest with
  | nil => rfl
  | cons c rest ih => simp [feedAll_append, feedAll_encodeChar, ih]

end Decoding

theorem decode_eq_some_iff {bytes : Bytes} {text : String} :
    decode bytes = some text ↔ encode text = bytes := by
  constructor
  · intro decoded
    unfold decode at decoded
    split at decoded
    · rename_i d fed
      split at decoded
      · rename_i whole
        cases decoded
        have accounted := Decoding.encode_feedAll fed
        rw [List.isEmpty_iff.mp whole, List.append_nil] at accounted
        exact accounted
      · cases decoded
    · cases decoded
  · rintro rfl
    have fed := Decoding.feedAll_encode [] text.toList
    simp only [decode, encode, Decoding.resume, fed, Decoding.text]
    simp

end WebSocketSession.Utf8
