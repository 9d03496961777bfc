import WebSocketSession.Proofs.Completion
import WebSocketSession.Proofs.StreamPair

/-!
# What a text stream carries over

Between two chunks a text stream carries over nothing, or the first bytes of one character
(`Utf8.StartsCharacter`), hence three bytes at most. Any bytes are parted at a point within them,
the part before it is always a text, and only bytes that nothing can complete are refused
(`TextStream.splits`). So it is for every decoding that a reading of a stream comes to
(`carried_within_character`).
-/

set_option autoImplicit false
set_option relaxedAutoImplicit false

namespace WebSocketSession

namespace Utf8

/-- Some but not all of the bytes of one character, from the first one on. -/
def StartsCharacter (bytes : Bytes) : Prop :=
  ∃ c : Char, bytes <+: String.utf8EncodeChar c ∧ bytes ≠ String.utf8EncodeChar c

private theorem StartsCharacter.length_le {bytes : Bytes} (starts : StartsCharacter bytes) :
    bytes.length ≤ 3 := by
  obtain ⟨c, begins, short⟩ := starts
  have less : bytes.length < (String.utf8EncodeChar c).length :=
    Nat.lt_of_le_of_ne begins.length_le fun same => short (begins.eq_of_length same)
  have most := c.utf8Size_le_four
  rw [String.length_utf8EncodeChar] at less
  omega

private theorem Carriable.not_isPrefix {carried : Bytes} (carriable : Carriable carried)
    (c : Char) :
    ¬ String.utf8EncodeChar c <+: carried := by
  rintro ⟨rest, rfl⟩
  have isText : IsText (String.utf8EncodeChar c) := ⟨String.singleton c, by simp [encode]⟩
  exact absurd (carriable.eq_nil_of_isText isText) String.utf8EncodeChar_ne_nil

private theorem Carriable.nil_or_startsCharacter {carried : Bytes} (carriable : Carriable carried) :
    carried = [] ∨ StartsCharacter carried := by
  obtain ⟨more, text, spelled⟩ := carriable.completable
  have begins : carried <+: text.toList.flatMap String.utf8EncodeChar := ⟨more, spelled.symm⟩
  cases chars : text.toList with
  | nil =>
    rw [chars] at begins
    exact .inl (List.prefix_nil.mp begins)
  | cons c rest =>
    rw [chars, List.flatMap_cons] at begins
    refine .inr ⟨c, ?_, ?_⟩
    · rcases List.prefix_or_prefix_of_prefix begins (List.prefix_append _ _) with shorter | longer
      · exact shorter
      · exact absurd longer (carriable.not_isPrefix c)
    · intro same
      exact carriable.not_isPrefix c (same ▸ List.prefix_refl _)

private theorem wholeLength_eq_none_iff {bytes : Bytes} :
    wholeLength bytes = none ↔ ¬ Completable bytes := by
  rw [wholeLength, Option.map_eq_none_iff]
  constructor
  · exact not_completable_of_malformed
  · intro hopeless
    cases fed : (Decoding.resume []).feedAll bytes with
    | none => rfl
    | some d =>
      apply absurd _ hopeless
      have parts : bytes = encode d.text ++ d.carried := Carriable.encode_feedAll fed
      rw [parts, completable_append ⟨d.text, rfl⟩]
      exact (carriable_nil.feedAll fed).completable

private theorem exists_of_wholeLength {bytes : Bytes} {length : Nat}
    (found : wholeLength bytes = some length) :
    ∃ text tail, bytes = encode text ++ tail ∧ length = (encode text).length ∧ Carriable tail := by
  obtain ⟨d, fed, rfl⟩ := Option.map_eq_some_iff.mp found
  have parts : bytes = encode d.text ++ d.carried := Carriable.encode_feedAll fed
  refine ⟨d.text, d.carried, parts, ?_, carriable_nil.feedAll fed⟩
  rw [parts, List.length_append, Nat.add_sub_cancel]

end Utf8

namespace TextStream

open Utf8

inductive Splits (carried chunk : Bytes) : Prop where
  /-- There is no point to part the bytes at: nothing that may follow makes them a text. -/
  | refused (nowhere : wholeLength (carried ++ chunk) = none)
    (hopeless : ¬ Completable (carried ++ chunk))
    (fails : decode carried chunk = .error .invalidUtf8)
  /-- The bytes before the point are the longest text there is and are converted to it, those behind
  it are carried over, and nothing is lost. -/
  | parted (length : Nat) (text : String) (tail : Bytes)
    (point : wholeLength (carried ++ chunk) = some length)
    (within : length ≤ (carried ++ chunk).length)
    (longest : LongestText ((carried ++ chunk).take length) (carried ++ chunk))
    (converts : Utf8.decode ((carried ++ chunk).take length) = some text)
    (behind : (carried ++ chunk).drop length = tail)
    (decoded : decode carried chunk = .ok (text, tail))
    (kept : encode text ++ tail = carried ++ chunk)
    (starts : tail = [] ∨ StartsCharacter tail)

theorem splits (carried chunk : Bytes) : Splits carried chunk := by
  cases found : wholeLength (carried ++ chunk) with
  | none =>
    apply Splits.refused found (wholeLength_eq_none_iff.mp found)
    simp only [decode, found]
  | some length =>
    obtain ⟨text, tail, parts, rfl, carriable⟩ := exists_of_wholeLength found
    have before : (carried ++ chunk).take (encode text).length = encode text := by
      rw [parts, List.take_left]
    have behind : (carried ++ chunk).drop (encode text).length = tail := by
      rw [parts, List.drop_left]
    have converts : Utf8.decode (encode text) = some text := decode_eq_some_iff.mpr rfl
    apply Splits.parted (encode text).length text tail found
    case within =>
      rw [parts, List.length_append]
      exact Nat.le_add_right _ _
    case longest =>
      rw [before, parts]
      exact carriable.longestText ⟨text, rfl⟩
    case converts => rw [before, converts]
    case behind => exact behind
    case decoded => simp only [decode, found, before, behind, converts]
    case kept => exact parts.symm
    case starts => exact carriable.nil_or_startsCharacter

/-- The bytes that a reading may carry over from bytes carried over before: those, or what a chunk
leaves that is decoded behind them. -/
inductive Carries (first : Bytes) : Bytes → Prop where
  | held : Carries first first
  | chunk {carried : Bytes} (chunk : Bytes) (text : String) (tail : Bytes)
    (before : Carries first carried) (decoded : decode carried chunk = .ok (text, tail)) :
    Carries first tail

private theorem Carries.carriable {first carried : Bytes} (carries : Carries first carried)
    (carriable : Carriable first) : Carriable carried := by
  induction carries with
  | held => exact carriable
  | chunk chunk text tail before decoded ih => exact (decode_ok ih decoded).2

end TextStream

/-- However both sides of a stream take turns and however it is read, every decoding begins behind
part of one character at most, and parts its bytes without a loss. -/
theorem carried_within_character {family : Family} {moves : List StreamMove} {stream : TextStream}
    (reads : ((StreamPair.opened family).run moves).reader = .text stream) {carried : Bytes}
    (carries : TextStream.Carries stream.carried carried) :
    (carried = [] ∨ Utf8.StartsCharacter carried) ∧ carried.length ≤ 3 ∧
      ∀ chunk, TextStream.Splits carried chunk := by
  have stands := (StreamPair.recorded_run family moves).history.stands
  rw [reads] at stands
  have carriable : Utf8.Carriable carried := carries.carriable stands.2.1
  refine ⟨carriable.nil_or_startsCharacter, ?_, TextStream.splits carried⟩
  rcases carriable.nil_or_startsCharacter with rfl | starts
  · exact Nat.zero_le 3
  · exact starts.length_le

/-- A payload ends one byte into a character of three, and the next has only its second byte. -/
theorem second_of_three_bytes_carried :
    let moves : List StreamMove := [.append [0x41, 0xE2], .read .take]
    let stream : TextStream := ⟨.opened, [0xE2]⟩
    let carried : Bytes := [0xE2, 0x82]
    ((StreamPair.opened .text).run moves).reader = .text stream ∧
      TextStream.Carries stream.carried carried ∧
      (carried = [] ∨ Utf8.StartsCharacter carried) ∧ carried.length ≤ 3 ∧
        ∀ chunk, TextStream.Splits carried chunk := by
  intro moves stream carried
  have reads : ((StreamPair.opened .text).run moves).reader = .text stream := by decide +kernel
  have carries : TextStream.Carries stream.carried carried :=
    .chunk [0x82] "" carried .held (by decide +kernel)
  exact ⟨reads, carries, carried_within_character reads carries⟩

end WebSocketSession
