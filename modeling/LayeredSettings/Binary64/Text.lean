import LayeredSettings.Binary64.Shortest
import LayeredSettings.Text.Integer

set_option autoImplicit false

/-! # Binary64 numbers as text

Writing uses the shortest decimal and one layout: positional while the exponent of the first digit
is from `-5` to `15`, scientific with a signed exponent otherwise. Reading takes a decimal with an
optional point and exponent, and the words for infinity and not-a-number in any case. -/

namespace LayeredSettings.Binary64

/-! ## Writing -/

/-- Where positional digits give way to an exponent. -/
structure Layout where
  /-- The least exponent of the first digit that is written positionally. -/
  leastPositional : Int
  /-- The least exponent of the first digit that is written scientifically again. -/
  leastScientific : Int

/-- Numbers from `0.00001` up to below `1e+16` are written positionally. -/
def layout : Layout := ⟨-5, 16⟩

/-- A run of zeros. -/
def zeros (n : Nat) : String :=
  String.ofList (List.replicate n '0')

/-- The text of a positive decimal; a positional text always has a point. -/
def Decimal.text (lay : Layout) (d : Decimal) : String :=
  let digits := (toString d.digits).toList
  let leading : Int := d.exponent + digits.length - 1
  if lay.leastPositional ≤ leading ∧ leading < lay.leastScientific then
    if 0 ≤ d.exponent then String.ofList digits ++ zeros d.exponent.toNat ++ ".0"
    else if 0 ≤ leading then
      String.ofList (digits.take (leading.toNat + 1)) ++ "."
        ++ String.ofList (digits.drop (leading.toNat + 1))
    else "0." ++ zeros (-leading - 1).toNat ++ String.ofList digits
  else
    let fraction := digits.drop 1
    String.ofList (digits.take 1)
      ++ (if fraction.isEmpty then "" else "." ++ String.ofList fraction)
      ++ (if leading < 0 then "e-" else "e+") ++ toString leading.natAbs

/-- The text of a number. -/
def text : Binary64 → String
  | .finite negative m e =>
    (if negative then "-" else "") ++ (if m = 0 then "0.0" else (shortest m e).text layout)
  | .infinite negative => if negative then "-inf" else "inf"
  | .nan => "NaN"

/-! ## Reading -/

/-- Split a leading sign off; `true` is minus. -/
def splitSign : List Char → Bool × List Char
  | '-' :: rest => (true, rest)
  | '+' :: rest => (false, rest)
  | rest => (false, rest)

/-- An exponent part: empty, or a letter `e` with an optional sign and at least one digit. -/
def exponentPart? : List Char → Option Int
  | [] => some 0
  | c :: rest =>
    if c = 'e' ∨ c = 'E' then
      let (negative, digits) := splitSign rest
      if digits.isEmpty || !digits.all Text.isDigit then none
      else some (if negative then -(Text.decimalValue digits : Int) else Text.decimalValue digits)
    else none

/-- Digits with at most one point and at least one digit, then an exponent part. -/
def decimalPart? (negative : Bool) (cs : List Char) : Option Binary64 :=
  let whole := cs.takeWhile Text.isDigit
  let (fraction, rest) :=
    match cs.dropWhile Text.isDigit with
    | '.' :: more => (more.takeWhile Text.isDigit, more.dropWhile Text.isDigit)
    | more => ([], more)
  if whole.isEmpty && fraction.isEmpty then none
  else
    (exponentPart? rest).map fun e =>
      ofDecimal negative (Text.decimalValue (whole ++ fraction)) (e - fraction.length)

/-- The number that a text writes: a signed decimal, infinity or not-a-number. -/
def ofChars? (cs : List Char) : Option Binary64 :=
  let (negative, unsigned) := splitSign cs
  let word := String.ofList (unsigned.map Text.lowerChar)
  if word = "inf" ∨ word = "infinity" then some (.infinite negative)
  else if word = "nan" then some .nan
  else decimalPart? negative unsigned

/-- The number that a text writes. -/
def ofText? (s : String) : Option Binary64 :=
  ofChars? s.toList

end LayeredSettings.Binary64
