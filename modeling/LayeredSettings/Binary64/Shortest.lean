import LayeredSettings.Binary64.Basic

set_option autoImplicit false

/-! # The fewest digits that read back

`Binary64.shortest m e` is the decimal of fewest digits among those that round to `m * 2 ^ e`, and
of these the nearest. For one digit, two digits and so on it tests the two neighbours of the number
on the grid of decimals with so many digits, in exact whole-number arithmetic; seventeen digits
always suffice. -/

namespace LayeredSettings.Binary64

/-- A positive decimal, `digits * 10 ^ exponent`. -/
structure Decimal where
  digits : Nat
  exponent : Int
deriving DecidableEq, Repr

/-- Whole numbers `l` and `r` with `10 ^ k : 2 ^ e = l : r`. -/
def gridScale (k e : Int) : Nat × Nat :=
  (tenPow k.toNat * twoPow (-e).toNat, twoPow e.toNat * tenPow (-k).toNat)

/-- The exponent of the first decimal digit of `m * 2 ^ e`. -/
def leadingExponent (m : Nat) (e : Int) : Int :=
  let guess := Int.fdiv (((Nat.log2 m : Int) + e) * 30103) 100000
  let reaches (k : Int) : Bool :=
    let (l, r) := gridScale k e
    decide (l ≤ m * r)
  if reaches (guess + 1) then guess + 1 else if reaches guess then guess else guess - 1

/-- The neighbour of `m * 2 ^ e` on the grid of multiples of `10 ^ k` that rounds to it, the nearer
    one if both do and the even one on a tie. The numbers that round to `m * 2 ^ e` reach halfway to
    its neighbours, ends included if `m` is even; distances are counted in quarter steps. -/
def gridPoint? (m : Nat) (e k : Int) : Option Nat :=
  let (l, r) := gridScale k (e - 2)
  let exact := 4 * m * r
  let lowGap := if m = leastNormal ∧ leastExponent < e then 1 else 2
  let low := (4 * m - lowGap) * r
  let high := (4 * m + 2) * r
  let readsBack (d : Nat) : Bool :=
    if m % 2 = 0 then decide (low ≤ d * l ∧ d * l ≤ high) else decide (low < d * l ∧ d * l < high)
  let d := exact / l
  match readsBack d && d != 0, readsBack (d + 1) with
  | true, true =>
    if 2 * exact < (2 * d + 1) * l ∨ (2 * exact = (2 * d + 1) * l ∧ d % 2 = 0) then some d
    else some (d + 1)
  | true, false => some d
  | false, true => some (d + 1)
  | false, false => none

/-- The first grid with a hit, from `count` digits up. -/
def firstHit (m : Nat) (e top : Int) : Nat → Nat → Decimal
  | 0, _ => ⟨m, e⟩
  | more + 1, count =>
    let k := top + 1 - count
    match gridPoint? m e k with
    | some d => ⟨d, k⟩
    | none => firstHit m e top more (count + 1)

/-- The decimal with its trailing zeros moved into the exponent. -/
def dropZeros : Nat → Decimal → Decimal
  | 0, d => d
  | more + 1, d =>
    if d.digits ≠ 0 ∧ d.digits % 10 = 0 then dropZeros more ⟨d.digits / 10, d.exponent + 1⟩ else d

/-- The shortest decimal that reads back as the positive number `m * 2 ^ e`. -/
def shortest (m : Nat) (e : Int) : Decimal :=
  dropZeros 20 (firstHit m e (leadingExponent m e) 17 1)

end LayeredSettings.Binary64
