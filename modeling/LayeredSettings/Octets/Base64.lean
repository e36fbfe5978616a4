set_option autoImplicit false

/-! # Base64

Three octets are written as four digits of the standard alphabet; a last group of one or two octets
is filled up with padding signs. Reading wants exactly this form: full groups, padding where it is
due, and no stray bits in the last digit. -/

namespace LayeredSettings.Base64

/-- The digit with a value below 64. -/
def digit (n : Nat) : Char :=
  if n < 26 then Char.ofNat (n + 'A'.toNat)
  else if n < 52 then Char.ofNat (n - 26 + 'a'.toNat)
  else if n < 62 then Char.ofNat (n - 52 + '0'.toNat)
  else if n = 62 then '+'
  else '/'

/-- The value of a digit. -/
def value? (c : Char) : Option Nat :=
  if 'A' ≤ c ∧ c ≤ 'Z' then some (c.toNat - 'A'.toNat)
  else if 'a' ≤ c ∧ c ≤ 'z' then some (c.toNat - 'a'.toNat + 26)
  else if '0' ≤ c ∧ c ≤ '9' then some (c.toNat - '0'.toNat + 52)
  else if c = '+' then some 62
  else if c = '/' then some 63
  else none

/-- The digits of octets. -/
def encodeChars : List UInt8 → List Char
  | [] => []
  | [a] => [digit (a.toNat / 4), digit (a.toNat % 4 * 16), '=', '=']
  | [a, b] =>
    [digit (a.toNat / 4), digit (a.toNat % 4 * 16 + b.toNat / 16), digit (b.toNat % 16 * 4), '=']
  | a :: b :: c :: rest =>
    digit (a.toNat / 4) :: digit (a.toNat % 4 * 16 + b.toNat / 16)
      :: digit (b.toNat % 16 * 4 + c.toNat / 64) :: digit (c.toNat % 64) :: encodeChars rest

/-- The base64 text of octets. -/
def encode (octets : List UInt8) : String :=
  String.ofList (encodeChars octets)

/-- The octet of a last group with one octet. -/
def lastOne? (a b : Char) : Option (List UInt8) := do
  let x ← value? a
  let y ← value? b
  if y % 16 = 0 then some [UInt8.ofNat (x * 4 + y / 16)] else none

/-- The octets of a last group with two octets. -/
def lastTwo? (a b c : Char) : Option (List UInt8) := do
  let x ← value? a
  let y ← value? b
  let z ← value? c
  if z % 4 = 0 then some [UInt8.ofNat (x * 4 + y / 16), UInt8.ofNat (y % 16 * 16 + z / 4)] else none

/-- The octets of a full group. -/
def group? (a b c d : Char) : Option (List UInt8) := do
  let x ← value? a
  let y ← value? b
  let z ← value? c
  let w ← value? d
  some [UInt8.ofNat (x * 4 + y / 16), UInt8.ofNat (y % 16 * 16 + z / 4),
    UInt8.ofNat (z % 4 * 64 + w)]

/-- The octets that digits write. -/
def decodeChars? : List Char → Option (List UInt8)
  | [] => some []
  | [a, b, '=', '='] => lastOne? a b
  | [a, b, c, '='] => lastTwo? a b c
  | a :: b :: c :: d :: rest => do
    let octets ← group? a b c d
    let more ← decodeChars? rest
    some (octets ++ more)
  | _ => none

/-- The octets that a base64 text writes. -/
def decode? (s : String) : Option (List UInt8) :=
  decodeChars? s.toList

end LayeredSettings.Base64
