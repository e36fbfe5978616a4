import LayeredSettings.Word

set_option autoImplicit false

/-! # Binary64 numbers

The numbers of the IEEE 754 format binary64, held exactly: `finite negative m e` is `m * 2 ^ e` with
a sign. Every operation computes its exact result as a ratio of whole numbers and rounds it once, to
the nearest number of the format, a tie going to the even significand (`Binary64.ofRatio`). -/

namespace LayeredSettings

/-- A binary64 number. Rounding gives significands below `2 ^ 53` and exponents from `-1074` to
    `971`, the significand at least `2 ^ 52` unless the exponent is the least one. -/
inductive Binary64 where
  | finite (negative : Bool) (significand : Nat) (exponent : Int)
  | infinite (negative : Bool)
  | nan
deriving DecidableEq, Repr

namespace Binary64

/-! ## Powers -/

/-- `2 ^ n`. -/
def twoPow (n : Nat) : Nat :=
  Nat.pow 2 n

/-- `10 ^ n`. -/
def tenPow (n : Nat) : Nat :=
  Nat.pow 10 n

/-! ## Rounding -/

/-- `2 ^ 52`, the least significand of 53 bits. -/
def leastNormal : Nat := 0x10000000000000

/-- Exponent of the smallest step between neighbours. -/
def leastExponent : Int := -1074

/-- Exponent of the largest step between neighbours. -/
def greatestExponent : Int := 971

/-- The whole number nearest to `num / den`, a tie going to the even one. -/
def roundDiv (num den : Nat) : Nat :=
  let quotient := num / den
  let remainder := num % den
  if den < 2 * remainder ∨ (2 * remainder = den ∧ quotient % 2 = 1) then quotient + 1 else quotient

/-- Whether `2 ^ k ≤ num / den`. -/
def powLeRatio (k : Int) (num den : Nat) : Bool :=
  if 0 ≤ k then decide (den * twoPow k.toNat ≤ num) else decide (den ≤ num * twoPow (-k).toNat)

/-- The exponent whose steps the number nearest to the positive ratio `num / den` is counted in: it
    leaves a significand of 53 bits, or is the least exponent. -/
def stepExponent (num den : Nat) : Int :=
  let top : Int := (Nat.log2 num : Int) - (Nat.log2 den : Int)
  let normal := if powLeRatio top num den then top - 52 else top - 53
  max normal leastExponent

/-- Zero with a sign. -/
def zero (negative : Bool) : Binary64 :=
  .finite negative 0 leastExponent

/-- The number of the format nearest to `num / den`, infinite beyond its range. -/
def ofRatio (negative : Bool) (num den : Nat) : Binary64 :=
  if num = 0 then zero negative
  else
    let e := stepExponent num den
    let m :=
      if 0 ≤ e then roundDiv num (den * twoPow e.toNat) else roundDiv (num * twoPow (-e).toNat) den
    let (m, e) := if m = 2 * leastNormal then (leastNormal, e + 1) else (m, e)
    if greatestExponent < e then .infinite negative else .finite negative m e

/-- The number nearest to `m * 2 ^ e`. -/
def ofScaled (negative : Bool) (m : Nat) (e : Int) : Binary64 :=
  if 0 ≤ e then ofRatio negative (m * twoPow e.toNat) 1 else ofRatio negative m (twoPow (-e).toNat)

/-- The number nearest to `digits * 10 ^ e`; exponents far outside the range decide at once. -/
def ofDecimal (negative : Bool) (digits : Nat) (e : Int) : Binary64 :=
  if digits = 0 then zero negative
  else if 400 < e then .infinite negative
  else if e + Nat.log2 digits + 1 < -400 then zero negative
  else if 0 ≤ e then ofRatio negative (digits * tenPow e.toNat) 1
  else ofRatio negative digits (tenPow (-e).toNat)

/-- The number nearest to a whole number. -/
def ofInt (n : Int) : Binary64 :=
  ofRatio (decide (n < 0)) n.natAbs 1

/-! ## Arithmetic -/

/-- The signed whole number `m * 2 ^ (e - base)`, for a base exponent not above `e`. -/
def aligned (base : Int) (negative : Bool) (m : Nat) (e : Int) : Int :=
  let n : Int := (m * twoPow (e - base).toNat : Nat)
  if negative then -n else n

/-- The rounded sum. An exact zero is negative only if both terms are. -/
def add : Binary64 → Binary64 → Binary64
  | .finite s m e, .finite t n f =>
    let base := min e f
    let sum := aligned base s m e + aligned base t n f
    if sum = 0 then zero (s && t) else ofScaled (decide (sum < 0)) sum.natAbs base
  | .nan, _ => .nan
  | _, .nan => .nan
  | .infinite s, .infinite t => if s = t then .infinite s else .nan
  | .infinite s, .finite _ _ _ => .infinite s
  | .finite _ _ _, .infinite t => .infinite t

/-- The rounded product. -/
def mul : Binary64 → Binary64 → Binary64
  | .finite s m e, .finite t n f => ofScaled (s != t) (m * n) (e + f)
  | .nan, _ => .nan
  | _, .nan => .nan
  | .infinite s, .infinite t => .infinite (s != t)
  | .infinite s, .finite t n _ => if n = 0 then .nan else .infinite (s != t)
  | .finite s m _, .infinite t => if m = 0 then .nan else .infinite (s != t)

/-- The rounded quotient. -/
def div : Binary64 → Binary64 → Binary64
  | .finite s m e, .finite t n f =>
    if n = 0 then (if m = 0 then .nan else .infinite (s != t))
    else if f ≤ e then ofRatio (s != t) (m * twoPow (e - f).toNat) n
    else ofRatio (s != t) m (n * twoPow (f - e).toNat)
  | .nan, _ => .nan
  | _, .nan => .nan
  | .infinite _, .infinite _ => .nan
  | .infinite s, .finite t _ _ => .infinite (s != t)
  | .finite s _ _, .infinite t => zero (s != t)

/-- The number with its sign reversed. -/
def neg : Binary64 → Binary64
  | .finite s m e => .finite (!s) m e
  | .infinite s => .infinite (!s)
  | .nan => .nan

/-! ## Tests and conversions -/

/-- Either zero. -/
def isZero : Binary64 → Bool
  | .finite _ m _ => m == 0
  | _ => false

/-- Neither infinite nor not-a-number. -/
def isFinite : Binary64 → Bool
  | .finite _ _ _ => true
  | _ => false

/-- Below zero; the negative zero is not. -/
def isNegative : Binary64 → Bool
  | .finite s m _ => s && m != 0
  | .infinite s => s
  | .nan => false

/-- Whether the number exceeds a whole number. -/
def exceeds (x : Binary64) (bound : Int) : Bool :=
  match x with
  | .finite s m e =>
    let base := min e 0
    decide (aligned base false 1 0 * bound < aligned base s m e)
  | .infinite s => !s
  | .nan => false

/-- The whole part, with the fraction dropped. -/
def truncated (negative : Bool) (m : Nat) (e : Int) : Int :=
  let n : Nat := if 0 ≤ e then m * twoPow e.toNat else m / twoPow (-e).toNat
  if negative then -(n : Int) else n

/-- The nearest whole number, a half going away from zero. -/
def rounded (negative : Bool) (m : Nat) (e : Int) : Int :=
  let n : Nat :=
    if 0 ≤ e then m * twoPow e.toNat else (2 * m + twoPow (-e).toNat) / twoPow ((-e).toNat + 1)
  if negative then -(n : Int) else n

/-- The integer nearest to `n` among those from `lo` to `hi`. -/
def clamp (lo hi n : Int) : Int :=
  max lo (min hi n)

/-- Conversion to a range of integers by `toWhole`: beyond the range its end, and zero for
    not-a-number. -/
def toRange (toWhole : Bool → Nat → Int → Int) (lo hi : Int) : Binary64 → Int
  | .finite s m e => clamp lo hi (toWhole s m e)
  | .infinite s => if s then lo else hi
  | .nan => 0

/-- The whole part, held to the signed 64-bit range. -/
def toSigned64 : Binary64 → Int :=
  toRange truncated (-Word.signed64) (Word.signed64 - 1)

/-- The whole part, held to the unsigned 64-bit range. -/
def toUnsigned64 (x : Binary64) : Nat :=
  (toRange truncated 0 (Word.unsigned64 - 1) x).toNat

/-- The nearest whole number, held to the unsigned 64-bit range. -/
def roundToUnsigned64 (x : Binary64) : Nat :=
  (toRange rounded 0 (Word.unsigned64 - 1) x).toNat

end Binary64

end LayeredSettings
