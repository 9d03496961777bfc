import WebSocketSession.Close
import WebSocketSession.Proofs.Completion

/-!
# What fits into so many bytes

A text may be cut where a character starts, and the bytes show where that is (`isBoundary_iff`).
`fitting` takes leading characters as long as they fit, so that what it takes is the longest
beginning of a text that has so many bytes and ends between characters (`longestWithin_fitting`).
Going down over the bytes to the first position where the text may be cut ends at the same one
(`cutDown?_eq`).
-/

set_option autoImplicit false
set_option relaxedAutoImplicit false

namespace WebSocketSession

namespace Utf8

def continues (b : UInt8) : Bool := within 0x80 0xBF b

/-- The bytes may be cut at this position: before them all, after them all, or where a character
starts. -/
def isBoundary (bytes : Bytes) (position : Nat) : Bool :=
  position == 0 ||
    match bytes[position]? with
    | some b => !continues b
    | none => position == bytes.length

private theorem isBoundary_of_some {bytes : Bytes} {position : Nat} {b : UInt8}
    (positive : 0 < position)
    (found : bytes[position]? = some b) : isBoundary bytes position = !continues b := by
  have later : (position == 0) = false := beq_false_of_ne (Nat.ne_of_gt positive)
  rw [isBoundary, later, found, Bool.false_or]

private theorem isBoundary_of_none {bytes : Bytes} {position : Nat} (positive : 0 < position)
    (past : bytes[position]? = none) :
    isBoundary bytes position = (position == bytes.length) := by
  have later : (position == 0) = false := beq_false_of_ne (Nat.ne_of_gt positive)
  rw [isBoundary, later, past, Bool.false_or]

def spelled (chars : List Char) : Bytes := chars.flatMap String.utf8EncodeChar

@[simp] theorem spelled_nil : spelled [] = [] := rfl

@[simp] theorem spelled_cons (c : Char) (chars : List Char) :
    spelled (c :: chars) = String.utf8EncodeChar c ++ spelled chars := rfl

@[simp] theorem spelled_append (front chars : List Char) :
    spelled (front ++ chars) = spelled front ++ spelled chars :=
  List.flatMap_append ..

@[simp] theorem encode_ofList (chars : List Char) :
    encode (String.ofList chars) = spelled chars := by
  rw [encode, String.toList_ofList, spelled]

private theorem spelled_isPrefix {front chars : List Char} (begins : front <+: chars) :
    spelled front <+: spelled chars := by
  obtain ⟨rest, rfl⟩ := begins
  rw [spelled_append]
  exact List.prefix_append _ _

private theorem exists_lead (c : Char) :
    ∃ lead tail, String.utf8EncodeChar c = lead :: tail ∧ continues lead = false ∧
      ∀ b ∈ tail, continues b = true := by
  obtain ⟨n, valid, rfl⟩ : ∃ n : Nat, n.isValidChar ∧ Char.ofNat n = c :=
    ⟨c.toNat, c.valid, Char.ofNat_toNat c⟩
  have byte {k : Nat} (small : k < 256) : (UInt8.ofNat k).toNat = k :=
    UInt8.toNat_ofNat_of_lt' small
  have tail (k : Nat) : continues (.ofNat (k % 64 + 0x80)) = true := by
    rw [continues, within_iff, byte (by omega)]
    simp only [UInt8.reduceToNat]
    omega
  have lead {k : Nat} (small : k < 256) (outside : k < 0x80 ∨ 0xBF < k) :
      continues (.ofNat k) = false := by
    rw [continues, ← Bool.not_eq_true, within_iff, byte small]
    simp only [UInt8.reduceToNat]
    omega
  unfold Nat.isValidChar at valid
  rw [encode_charOfNat valid]
  split_ifs with one two three
  · exact ⟨_, _, rfl, lead (by omega) (by omega), nofun⟩
  · refine ⟨_, _, rfl, lead (by omega) (by omega), ?_⟩
    exact List.forall_mem_singleton.mpr (tail n)
  · refine ⟨_, _, rfl, lead (by omega) (by omega), ?_⟩
    exact List.forall_mem_cons.mpr ⟨tail (n / 64), List.forall_mem_singleton.mpr (tail n)⟩
  · refine ⟨_, _, rfl, lead (by omega) (by omega), ?_⟩
    exact List.forall_mem_cons.mpr ⟨tail (n / 4096),
      List.forall_mem_cons.mpr ⟨tail (n / 64), List.forall_mem_singleton.mpr (tail n)⟩⟩

private theorem isBoundary_append {front : Bytes} (nonempty : front ≠ []) (chars : List Char)
    (position : Nat) :
    isBoundary (front ++ spelled chars) (front.length + position) =
      isBoundary (spelled chars) position := by
  have positive := List.length_pos_iff.mpr nonempty
  have later : (front ++ spelled chars)[front.length + position]? = (spelled chars)[position]? := by
    rw [List.getElem?_append_right (by omega), Nat.add_sub_cancel_left]
  cases position with
  | succ position =>
    cases found : (spelled chars)[position + 1]? with
    | some b =>
      rw [isBoundary_of_some (Nat.succ_pos position) found,
        isBoundary_of_some (by omega) (later.trans found)]
    | none =>
      rw [isBoundary_of_none (Nat.succ_pos position) found,
        isBoundary_of_none (by omega) (later.trans found), List.length_append, Bool.eq_iff_iff,
        beq_iff_eq, beq_iff_eq, Nat.add_left_cancel_iff]
  | zero =>
    -- Any bytes may be cut before the first of them; here that is where a character starts.
    have starts : isBoundary (spelled chars) 0 = true := rfl
    rw [starts]
    cases chars with
    | nil =>
      rw [isBoundary_of_none (by omega) (later.trans rfl), spelled_nil, List.append_nil,
        Nat.add_zero, beq_self_eq_true]
    | cons c chars =>
      obtain ⟨lead, tail, bytes, leads, -⟩ := exists_lead c
      have found : (spelled (c :: chars))[0]? = some lead := by
        rw [spelled_cons, bytes, List.cons_append, List.getElem?_cons_zero]
      rw [isBoundary_of_some (by omega) (later.trans found), leads, Bool.not_false]

/-- The bytes of a text may be cut after any number of its characters, and nowhere else. -/
theorem isBoundary_iff {chars : List Char} {position : Nat} :
    isBoundary (spelled chars) position = true ↔
      ∃ front, front <+: chars ∧ (spelled front).length = position := by
  induction chars generalizing position with
  | nil =>
    cases position with
    | zero => exact iff_of_true rfl ⟨[], List.nil_prefix, rfl⟩
    | succ position =>
      refine iff_of_false (by simp [isBoundary]) ?_
      rintro ⟨front, begins, length⟩
      rw [List.prefix_nil.mp begins, spelled_nil, List.length_nil] at length
      omega
  | cons c rest ih =>
    obtain ⟨lead, tail, bytes, -, goesOn⟩ := exists_lead c
    have size : (String.utf8EncodeChar c).length = tail.length + 1 := by
      rw [bytes, List.length_cons]
    have nonempty : String.utf8EncodeChar c ≠ [] := by
      rw [bytes]
      exact List.cons_ne_nil lead tail
    rcases Nat.eq_zero_or_pos position with rfl | positive
    · exact iff_of_true rfl ⟨[], List.nil_prefix, rfl⟩
    · by_cases inside : position ≤ tail.length
      · -- Inside the first character nothing ends.
        refine iff_of_false ?_ ?_
        · obtain ⟨before, rfl⟩ := Nat.exists_eq_add_one.mpr positive
          have found : (spelled (c :: rest))[before + 1]? = some tail[before] := by
            rw [spelled_cons, bytes, List.cons_append, List.getElem?_cons_succ,
              List.getElem?_append_left (by omega), List.getElem?_eq_getElem (by omega)]
          have within := goesOn tail[before] (List.getElem_mem _)
          rw [isBoundary_of_some positive found, within]
          exact Bool.false_ne_true
        · rintro ⟨front, begins, length⟩
          rcases List.prefix_cons_iff.mp begins with rfl | ⟨others, rfl, -⟩
          · rw [spelled_nil, List.length_nil] at length
            omega
          · rw [spelled_cons, List.length_append, size] at length
            omega
      · obtain ⟨after, rfl⟩ := Nat.exists_eq_add_of_le (Nat.lt_of_not_le inside)
        have behind := isBoundary_append nonempty rest after
        rw [size] at behind
        rw [spelled_cons, Nat.succ_eq_add_one, behind, ih]
        constructor
        · rintro ⟨front, begins, length⟩
          refine ⟨c :: front, List.cons_prefix_cons.mpr ⟨rfl, begins⟩, ?_⟩
          rw [spelled_cons, List.length_append, size, length]
        · rintro ⟨front, begins, length⟩
          rcases List.prefix_cons_iff.mp begins with rfl | ⟨others, rfl, starts⟩
          · rw [spelled_nil, List.length_nil] at length
            omega
          · refine ⟨others, starts, ?_⟩
            rw [spelled_cons, List.length_append, size] at length
            omega

/-- The first position, going down from the given one, where the bytes may be cut; none if it would
have to be sought below zero. -/
def boundaryDown? (bytes : Bytes) : Nat → Option Nat
  | 0 => if isBoundary bytes 0 then some 0 else none
  | position + 1 =>
    if isBoundary bytes (position + 1) then some (position + 1) else boundaryDown? bytes position

/-- A text of too many bytes cut at the first boundary going down from the number that it may have;
none if there is no such boundary, or if the bytes up to there are no text. -/
def cutDown? (budget : Nat) (text : String) : Option String :=
  if (encode text).length ≤ budget then some text
  else (boundaryDown? (encode text) budget).bind fun position =>
    decode ((encode text).take position)

private theorem boundaryDown?_eq_some {bytes : Bytes} {position last : Nat}
    (below : last ≤ position)
    (boundary : isBoundary bytes last = true)
    (highest : ∀ other ≤ position, isBoundary bytes other = true → other ≤ last) :
    boundaryDown? bytes position = some last := by
  induction position with
  | zero =>
    obtain rfl : last = 0 := by omega
    rw [boundaryDown?, if_pos boundary]
  | succ position ih =>
    rw [boundaryDown?]
    by_cases here : isBoundary bytes (position + 1) = true
    · have reached := highest (position + 1) (Nat.le_refl _) here
      obtain rfl : last = position + 1 := by omega
      rw [if_pos here]
    · have lower : last ≠ position + 1 := by
        rintro rfl
        exact here boundary
      rw [if_neg here]
      apply ih
      · omega
      · intro other low
        exact highest other (by omega)

/-- The longest beginning of a text that has at most so many bytes and ends between characters. -/
structure LongestWithin (budget : Nat) (part whole : String) : Prop where
  begins : encode part <+: encode whole
  within : (encode part).length ≤ budget
  boundary : isBoundary (encode whole) (encode part).length = true
  longest : ∀ position ≤ budget, isBoundary (encode whole) position = true →
    position ≤ (encode part).length

end Utf8

open Utf8

section Fitting

variable {budget : Nat} {chars front : List Char}

private theorem fitting_isPrefix (budget : Nat) (chars : List Char) :
    fitting budget chars <+: chars := by
  induction chars generalizing budget with
  | nil => exact List.nil_prefix
  | cons c rest ih =>
    rw [fitting]
    split
    · exact (List.cons_prefix_cons).mpr ⟨rfl, ih _⟩
    · exact List.nil_prefix

private theorem length_fitting_le (budget : Nat) (chars : List Char) :
    (spelled (fitting budget chars)).length ≤ budget := by
  induction chars generalizing budget with
  | nil => exact Nat.zero_le budget
  | cons c rest ih =>
    rw [fitting]
    split
    · have others := ih (budget - c.utf8Size)
      rw [spelled_cons, List.length_append, String.length_utf8EncodeChar]
      omega
    · exact Nat.zero_le budget

theorem fitting_of_fits (fits : (spelled chars).length ≤ budget) :
    fitting budget chars = chars := by
  induction chars generalizing budget with
  | nil => rfl
  | cons c rest ih =>
    rw [spelled_cons, List.length_append, String.length_utf8EncodeChar] at fits
    rw [fitting, if_pos (by omega), ih (by omega)]

private theorem isPrefix_fitting (begins : front <+: chars)
    (fits : (spelled front).length ≤ budget) :
    front <+: fitting budget chars := by
  induction chars generalizing budget front with
  | nil => exact begins
  | cons c rest ih =>
    rcases List.prefix_cons_iff.mp begins with rfl | ⟨others, rfl, starts⟩
    · exact List.nil_prefix
    · rw [spelled_cons, List.length_append, String.length_utf8EncodeChar] at fits
      rw [fitting, if_pos (by omega)]
      exact List.cons_prefix_cons.mpr ⟨rfl, ih starts (by omega)⟩

theorem budget_lt_length_fitting (exceeds : budget < (spelled chars).length) :
    budget < (spelled (fitting budget chars)).length + 4 := by
  induction chars generalizing budget with
  | nil => exact absurd exceeds (Nat.not_lt_zero budget)
  | cons c rest ih =>
    rw [spelled_cons, List.length_append, String.length_utf8EncodeChar] at exceeds
    rw [fitting]
    by_cases fits : c.utf8Size ≤ budget
    · have others := @ih (budget - c.utf8Size) (by omega)
      rw [if_pos fits, spelled_cons, List.length_append, String.length_utf8EncodeChar]
      omega
    · have small := c.utf8Size_le_four
      rw [if_neg fits, spelled_nil, List.length_nil]
      omega

theorem longestWithin_fitting (budget : Nat) (text : String) :
    LongestWithin budget (String.ofList (fitting budget text.toList)) text := by
  have begins := fitting_isPrefix budget text.toList
  constructor
  · rw [encode_ofList]
    exact spelled_isPrefix begins
  · rw [encode_ofList]
    exact length_fitting_le budget text.toList
  · rw [encode_ofList]
    exact isBoundary_iff.mpr ⟨_, begins, rfl⟩
  · intro position fits boundary
    obtain ⟨front, starts, rfl⟩ := isBoundary_iff.mp boundary
    rw [encode_ofList]
    exact (spelled_isPrefix (isPrefix_fitting starts fits)).length_le

end Fitting

/-- Going down to a boundary finds one, and cuts the text where as much as fits has been taken. -/
theorem cutDown?_eq (budget : Nat) (text : String) :
    cutDown? budget text = some (String.ofList (fitting budget text.toList)) := by
  unfold cutDown?
  by_cases fits : (encode text).length ≤ budget
  · rw [if_pos fits, fitting_of_fits fits, String.ofList_toList]
  · have taken := longestWithin_fitting budget text
    rw [if_neg fits, boundaryDown?_eq_some taken.within taken.boundary taken.longest,
      Option.bind_some, decode_eq_some_iff]
    exact (List.prefix_iff_eq_take.mp taken.begins)

theorem trimReason_isPrefix (reason : String) :
    (trimReason reason).toList <+: reason.toList := by
  rw [trimReason, String.toList_ofList]
  exact fitting_isPrefix _ _

end WebSocketSession
