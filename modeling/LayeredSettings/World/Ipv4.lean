import LayeredSettings.Text.Blank
import LayeredSettings.Text.Integer

set_option autoImplicit false

/-! # Addresses of the fourth internet protocol

An address is four octets. It may be written as one to four numbers between dots, each of them
hexadecimal behind `0x` or octal behind a zero; the last number stands for all octets that are left.
A host whose last part looks like a number is such an address or nothing. -/

namespace LayeredSettings.Ipv4

/-- The number that a part writes. -/
def number? : List Char → Option Nat
  | '0' :: 'x' :: digits => if digits.isEmpty then some 0 else Text.natOfDigits? 16 digits
  | '0' :: 'X' :: digits => if digits.isEmpty then some 0 else Text.natOfDigits? 16 digits
  | '0' :: digit :: digits => Text.natOfDigits? 8 (digit :: digits)
  | digits => Text.natOfDigits? 10 digits

/-- The parts between dots; a dot at the end counts for nothing. -/
def parts (cs : List Char) : List (List Char) :=
  let all := Text.pieces (· == '.') cs
  if all.getLast? == some [] then all.dropLast else all

/-- Whether the last part looks like a number. -/
def isNumeric (cs : List Char) : Bool :=
  (parts cs).getLast?.any fun last =>
    (!last.isEmpty && last.all Text.isDigit) || (number? last).isSome

/-- The octets of numbers: one for each of them but the last, which takes up the others. -/
def octets? (numbers : List Nat) : Option (List Nat) := do
  let last ← numbers.getLast?
  let front := numbers.dropLast
  let left := 4 - front.length
  if left = 0 || front.any (255 < ·) || 1 <<< (8 * left) ≤ last then none
  else some (front ++ (List.range left).reverse.map fun i => (last >>> (8 * i)) % 256)

/-- The octets of the address that a text writes, as numbers between dots. -/
def text? (cs : List Char) : Option String := do
  let octets ← octets? (← (parts cs).mapM number?)
  some (Text.joinWith "." (octets.map toString))

end LayeredSettings.Ipv4
