import LayeredSettings.Value.Basic

set_option autoImplicit false

/-! # Numbers of a JSON text

A number without fraction and exponent is whole if it fits a signed or an unsigned 64-bit word. Any
other is read as its leading digits that fit 64 bits, scaled by a power of ten: one rounding for the
digits, one for the scaling. Infinite results are refused, minus zero is a float. -/

namespace LayeredSettings.Json

/-- The parts of a number's text. -/
structure NumberText where
  negative : Bool
  whole : List Char
  fraction : List Char
  exponent : Option Int

/-- A fraction: empty, or a point and at least one digit. Gives the digits and what follows. -/
def fractionPart? : List Char → Option (List Char × List Char)
  | '.' :: rest =>
    let digits := rest.takeWhile Text.isDigit
    if digits.isEmpty then none else some (digits, rest.dropWhile Text.isDigit)
  | rest => some ([], rest)

/-- An exponent up to the end of the text: empty, or `e`, an optional sign and at least one digit.
    -/
def exponentPart? : List Char → Option (Option Int)
  | [] => some none
  | rest => (Binary64.exponentPart? rest).map some

/-- The parts of a number: no plus sign, no leading zero, digits on both sides of a point. -/
def NumberText.ofChars? (cs : List Char) : Option NumberText := do
  let (negative, rest) :=
    match cs with
    | '-' :: rest => (true, rest)
    | rest => (false, rest)
  let whole := rest.takeWhile Text.isDigit
  if whole.isEmpty || (whole.head? == some '0' && whole.length != 1) then none
  else
    let (fraction, rest) ← fractionPart? (rest.dropWhile Text.isDigit)
    let exponent ← exponentPart? rest
    some ⟨negative, whole, fraction, exponent⟩

/-- The longest run of digits that keeps the number within 64 bits, read on from `n`, and the digits
    after it. -/
def keepDigits : Nat → List Char → Nat × List Char
  | n, [] => (n, [])
  | n, c :: rest =>
    let next := n * 10 + (c.toNat - '0'.toNat)
    if next < Word.unsigned64 then keepDigits next rest else (n, c :: rest)

/-- The leading digits of a number that fit 64 bits, and the power of ten that they count. -/
def significand (whole fraction : List Char) : Nat × Int :=
  let (n, dropped) := keepDigits 0 whole
  let (m, unused) := keepDigits n fraction
  (m, (dropped.length : Int) - ((fraction.length : Int) - unused.length))

/-- `x / 10 ^ n`, dividing by `10 ^ 308` while `n` is larger. -/
def shrink (x : Binary64) (n : Nat) : Binary64 :=
  if n ≤ 308 then x.div (Binary64.ofDecimal false 1 n)
  else if x.isZero then x
  else shrink (x.div (Binary64.ofDecimal false 1 308)) (n - 308)
termination_by n

/-- `m * 10 ^ e` in two roundings; `none` if it is infinite. -/
def scale? (m : Nat) (e : Int) : Option Binary64 :=
  let x := Binary64.ofInt m
  if e < 0 then some (shrink x e.natAbs)
  else if e ≤ 308 then
    let scaled := x.mul (Binary64.ofDecimal false 1 e)
    if scaled.isFinite then some scaled else none
  else if x.isZero then some x
  else none

/-- The number that the parts write. -/
def NumberText.number? (t : NumberText) : Option Number :=
  let whole := Text.decimalValue t.whole
  let float? : Option Number :=
    let (m, e) := significand t.whole t.fraction
    (scale? m (e + t.exponent.getD 0)).map fun x => .float (if t.negative then x.neg else x)
  if !t.fraction.isEmpty || t.exponent.isSome then float?
  else if t.negative then
    if whole = 0 || Word.signed64 < whole then float? else some (.whole (-(whole : Int)))
  else if whole < Word.unsigned64 then some (.whole whole)
  else float?

end LayeredSettings.Json
