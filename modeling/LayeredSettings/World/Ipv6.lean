import LayeredSettings.Text.Blank
import LayeredSettings.Text.Integer

set_option autoImplicit false

/-! # Addresses of the sixth internet protocol

An address is eight groups of sixteen bits. It is written as hexadecimal groups between colons; two
colons in a row stand for zero groups, and the last two groups may be written as four decimal
numbers between dots. `Ipv6.text` is the shortest such writing in small letters. -/

namespace LayeredSettings.Ipv6

/-! ## Reading -/

/-- A group of one to four hexadecimal digits. -/
def group? (cs : List Char) : Option Nat :=
  if cs.length ≤ 4 then Text.natOfDigits? 16 cs else none

/-- A number below 256 without leading zeros. -/
def decimal? (cs : List Char) : Option Nat :=
  if cs.length ≤ 3 && (cs.length == 1 || cs.head? != some '0') then
    (Text.natOfDigits? 10 cs).bind fun n => if n < 256 then some n else none
  else none

/-- Two groups as four decimal numbers between dots. -/
def quad? (cs : List Char) : Option (List Nat) := do
  match ← (Text.pieces (· == '.') cs).mapM decimal? with
  | [a, b, c, d] => some [a * 256 + b, c * 256 + d]
  | _ => none

/-- The groups that pieces write; only the last piece may be decimal, where `last` holds. -/
def groupsOf? (last : Bool) : List (List Char) → Option (List Nat)
  | [] => some []
  | [piece] =>
    match group? piece with
    | some n => some [n]
    | none => if last then quad? piece else none
  | piece :: rest => do
    let n ← group? piece
    let more ← groupsOf? last rest
    some (n :: more)

/-- The groups between colons, perhaps none. -/
def groups? (last : Bool) (cs : List Char) : Option (List Nat) :=
  if cs.isEmpty then some [] else groupsOf? last (Text.pieces (· == ':') cs)

/-- The parts of a text before and behind its first two colons in a row. -/
def splitAtGap? : List Char → Option (List Char × List Char)
  | ':' :: ':' :: rest => some ([], rest)
  | c :: rest => (splitAtGap? rest).map fun (before, behind) => (c :: before, behind)
  | [] => none

/-- The eight groups that a text writes. -/
def ofChars? (cs : List Char) : Option (List Nat) :=
  match splitAtGap? cs with
  | none => (groups? true cs).bind fun all => if all.length = 8 then some all else none
  | some (before, behind) => do
    let head ← groups? false before
    let tail ← groups? true behind
    let given := head.length + tail.length
    if given < 8 then some (head ++ List.replicate (8 - given) 0 ++ tail) else none

/-! ## Writing -/

/-- A group in hexadecimal. -/
def groupText (n : Nat) : List Char :=
  Nat.toDigits 16 n

/-- Groups between colons. -/
def joined (groups : List Nat) : List Char :=
  ((groups.map groupText).intersperse [':']).flatten

/-- How many zeros a list starts with. -/
def zeros (groups : List Nat) : Nat :=
  (groups.takeWhile (· == 0)).length

/-- The place and length of the first longest run of zeros, places counted from `here`. -/
def longestZeros (here : Nat) : List Nat → Nat × Nat
  | [] => (here, 0)
  | n :: rest =>
    let later := longestZeros (here + 1) rest
    let run := zeros (n :: rest)
    if later.2 ≤ run then (here, run) else later

/-- The shortest text of eight groups: the first longest run of zeros is left out if it has at least
    two groups. -/
def text (groups : List Nat) : List Char :=
  let (start, length) := longestZeros 0 groups
  if length < 2 then joined groups
  else joined (groups.take start) ++ [':', ':'] ++ joined (groups.drop (start + length))

/-- The text of an address in square brackets. -/
def bracketed? : List Char → Option (List Char)
  | '[' :: rest =>
    if rest.getLast? == some ']' then
      (ofChars? rest.dropLast).map fun groups => '[' :: text groups ++ [']']
    else none
  | _ => none

end LayeredSettings.Ipv6
