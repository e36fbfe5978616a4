import LayeredSettings.Text.Ascii
import LayeredSettings.Word

set_option autoImplicit false

/-! # Reading whole numbers

`natOfDigits?` reads a non-empty run of digits of a radix; the signed and unsigned 64-bit readers
add an optional sign and the range. Writing is `toString` on `Nat` and `Int`. -/

namespace LayeredSettings.Text

/-- The value of a digit, letters (in either case) counting from ten; `none` if it is not below the
    radix. -/
def digitValue? (radix : Nat) (c : Char) : Option Nat :=
  let value? : Option Nat :=
    if isDigit c then some (c.toNat - '0'.toNat)
    else if isLetter c then some ((lowerChar c).toNat - 'a'.toNat + 10)
    else none
  value?.filter (· < radix)

/-- The number that a non-empty run of digits writes, the most significant digit first. -/
def natOfDigits? (radix : Nat) (digits : List Char) : Option Nat :=
  if digits.isEmpty then none
  else digits.foldlM (fun n c => (digitValue? radix c).map (n * radix + ·)) 0

/-- The number that a run of decimal digits writes; other characters count as the digit zero. -/
def decimalValue (digits : List Char) : Nat :=
  digits.foldl (fun n c => n * 10 + (c.toNat - '0'.toNat)) 0

/-- An integer in a radix: at most one sign, then digits. -/
def integer? (radix : Nat) : List Char → Option Int
  | '-' :: digits => (natOfDigits? radix digits).map (fun n => -(n : Int))
  | '+' :: digits => (natOfDigits? radix digits).map (fun n => (n : Int))
  | digits => (natOfDigits? radix digits).map (fun n => (n : Int))

/-- The integers of a signed 64-bit word. -/
def isSigned64 (n : Int) : Bool :=
  -(Word.signed64 : Int) ≤ n && n < Word.signed64

/-- The integers of an unsigned 64-bit word. -/
def isUnsigned64 (n : Int) : Bool :=
  0 ≤ n && n < Word.unsigned64

/-- A decimal integer in the signed 64-bit range, with an optional sign. -/
def signed64? (s : String) : Option Int :=
  (integer? 10 s.toList).filter isSigned64

/-- A decimal number in the unsigned 64-bit range, with an optional plus. -/
def unsigned64? (s : String) : Option Nat :=
  let digits : List Char :=
    match s.toList with
    | '+' :: rest => rest
    | all => all
  (natOfDigits? 10 digits).filter (fun n => isUnsigned64 n)

end LayeredSettings.Text
