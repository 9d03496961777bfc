import WebSocketSession.Text.Numeral

/-!
# JSON numbers

A number is told apart by what it can be read as: a size, a negative integer, some other number,
or one whose magnitude no double holds. The magnitude is that of the first digits that fit a
size, scaled by a power of ten, with both factors rounded to doubles.
-/

set_option autoImplicit false
set_option relaxedAutoImplicit false

namespace WebSocketSession.Json

inductive NumberKind where
  | size (n : Nat)
  | negative
  | other
  | unbounded
  deriving DecidableEq

structure NumberText where
  isNegative : Bool
  whole : List Nat
  fraction : Option (List Nat)
  exponent : Option Int
  deriving DecidableEq

namespace NumberText

/-- A value extended by leading digits as long as it stays a size, and how many were used. -/
def absorb (value : Nat) : List Nat → Nat × Nat
  | [] => (value, 0)
  | d :: rest =>
    if value * 10 + d ≤ Numeral.sizeMax then
      let (extended, used) := absorb (value * 10 + d) rest
      (extended, used + 1)
    else (value, 0)

/-- The nearest number with 53 significant bits, an even one in a tie. -/
def roundToDouble (n : Nat) : Nat :=
  let shift := n.log2 - 52
  let unit := Nat.pow 2 shift
  let quotient := n / unit
  let twice := 2 * (n % unit)
  let up := unit < twice || (twice = unit && quotient % 2 = 1)
  (if up then quotient + 1 else quotient) * unit

def doubleLimit : Nat := Nat.pow 2 1024 - Nat.pow 2 970

def isUnbounded (significand : Nat) (exponent : Int) : Bool :=
  match exponent with
  | .ofNat power =>
    significand != 0 &&
      (308 < power || doubleLimit ≤ roundToDouble significand * roundToDouble (Nat.pow 10 power))
  | .negSucc _ => false

/-- What the number can be read as. Only digits without fraction and exponent are an integer; a
negative zero is none. -/
def kind (text : NumberText) : NumberKind :=
  let (leading, usedWhole) := absorb 0 text.whole
  let (significand, usedFraction) := absorb leading (text.fraction.getD [])
  let exponent := (text.whole.length : Int) - usedWhole - usedFraction + text.exponent.getD 0
  let isInteger := text.fraction.isNone && text.exponent.isNone && usedWhole = text.whole.length
  if isInteger && !text.isNegative then .size leading
  else if isInteger && 0 < leading && leading ≤ Nat.pow 2 63 then .negative
  else if isUnbounded significand exponent then .unbounded
  else .other

end NumberText

def spanDigits : List Char → List Nat × List Char
  | [] => ([], [])
  | c :: rest =>
    match Numeral.digit? c with
    | some d =>
      let (digits, after) := spanDigits rest
      (d :: digits, after)
    | none => ([], c :: rest)

def digitsValue (digits : List Nat) : Nat :=
  digits.foldl (fun value d => value * 10 + d) 0

def someDigits (cs : List Char) : Option (List Nat × List Char) :=
  if (spanDigits cs).1.isEmpty then none else some (spanDigits cs)

/-- A whole part: a zero alone, or digits that do not start with one. -/
def wholePart (cs : List Char) : Option (List Nat × List Char) := do
  let (digits, rest) ← someDigits cs
  if digits.head? = some 0 && 1 < digits.length then none else some (digits, rest)

def fractionPart : List Char → Option (Option (List Nat) × List Char)
  | '.' :: cs => (someDigits cs).map fun (digits, rest) => (some digits, rest)
  | cs => some (none, cs)

def signedExponent (sign : Int) (cs : List Char) : Option (Option Int × List Char) :=
  (someDigits cs).map fun (digits, rest) => (some (sign * digitsValue digits), rest)

def exponentPart : List Char → Option (Option Int × List Char)
  | [] => some (none, [])
  | c :: cs =>
    if c = 'e' ∨ c = 'E' then
      match cs with
      | '+' :: digits => signedExponent 1 digits
      | '-' :: digits => signedExponent (-1) digits
      | digits => signedExponent 1 digits
    else some (none, c :: cs)

def unsignedNumber (isNegative : Bool) (cs : List Char) : Option (NumberKind × List Char) := do
  let (whole, cs) ← wholePart cs
  let (fraction, cs) ← fractionPart cs
  let (exponent, cs) ← exponentPart cs
  return (NumberText.kind ⟨isNegative, whole, fraction, exponent⟩, cs)

def number : List Char → Option (NumberKind × List Char)
  | '-' :: cs => unsignedNumber true cs
  | cs => unsignedNumber false cs

private theorem length_spanDigits (cs : List Char) :
    (spanDigits cs).1.length + (spanDigits cs).2.length = cs.length := by
  fun_induction spanDigits cs with
  | case1 => rfl
  | case2 c rest d _ digits after hs ih =>
    rw [hs] at ih
    simp only [List.length_cons] at ih ⊢
    omega
  | case3 => simp

private theorem length_someDigits {cs : List Char} {spanned : List Nat × List Char}
    (h : someDigits cs = some spanned) : spanned.2.length < cs.length := by
  have total := length_spanDigits cs
  unfold someDigits at h
  split at h
  · cases h
  · rename_i ne
    cases h
    have := List.length_pos_iff.mpr (mt List.isEmpty_iff.mpr ne)
    omega

private theorem length_wholePart {cs : List Char} {found : List Nat × List Char}
    (h : wholePart cs = some found) : found.2.length < cs.length := by
  obtain ⟨⟨digits, rest⟩, hd, h⟩ := Option.bind_eq_some_iff.1 h
  have := length_someDigits hd
  dsimp only at h
  split at h
  · cases h
  · cases h; exact this

private theorem length_fractionPart {cs : List Char} {found : Option (List Nat) × List Char}
    (h : fractionPart cs = some found) : found.2.length ≤ cs.length := by
  unfold fractionPart at h
  split at h
  · obtain ⟨spanned, hd, rfl⟩ := Option.map_eq_some_iff.1 h
    have := length_someDigits hd
    simp only [List.length_cons]
    omega
  · cases h; exact Nat.le_refl _

private theorem length_signedExponent {sign : Int} {cs : List Char}
    {found : Option Int × List Char} (h : signedExponent sign cs = some found) :
    found.2.length < cs.length := by
  obtain ⟨spanned, hd, rfl⟩ := Option.map_eq_some_iff.1 h
  exact length_someDigits hd

private theorem length_exponentPart {cs : List Char} {found : Option Int × List Char}
    (h : exponentPart cs = some found) : found.2.length ≤ cs.length := by
  unfold exponentPart at h
  split at h
  · cases h; exact Nat.le_refl _
  · split at h
    · split at h <;> have := length_signedExponent h <;> simp_all <;> omega
    · cases h; exact Nat.le_refl _

theorem length_number {cs : List Char} {found : NumberKind × List Char}
    (h : number cs = some found) : found.2.length < cs.length := by
  have unsigned {isNegative : Bool} {cs : List Char} {found : NumberKind × List Char}
      (h : unsignedNumber isNegative cs = some found) : found.2.length < cs.length := by
    obtain ⟨whole, hw, h⟩ := Option.bind_eq_some_iff.1 h
    obtain ⟨fraction, hf, h⟩ := Option.bind_eq_some_iff.1 h
    obtain ⟨exponent, he, h⟩ := Option.bind_eq_some_iff.1 h
    cases h
    exact Nat.lt_of_le_of_lt (length_exponentPart he)
      (Nat.lt_of_le_of_lt (length_fractionPart hf) (length_wholePart hw))
  unfold number at h
  split at h
  · exact Nat.lt_succ_of_lt (unsigned h)
  · exact unsigned h

end WebSocketSession.Json
