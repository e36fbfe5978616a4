import LayeredSettings.Binary64.Text

set_option autoImplicit false

/-! # Durations

A duration is a number of nanoseconds. Its text is a run of amounts with units, such as `1h30m` or
`1.5s`; amounts are summed as binary64 numbers, and the sum is rounded to whole nanoseconds. -/

namespace LayeredSettings

/-- A span of time in nanoseconds. -/
structure Duration where
  nanoseconds : Nat
deriving DecidableEq, Repr

namespace Duration

/-- No time at all. -/
def zero : Duration := ⟨0⟩

/-- The nanoseconds of a unit. -/
def unit? (name : String) : Option Nat :=
  match name with
  | "ns" => some 1
  | "us" => some 1000
  | "\u00b5s" => some 1000
  | "\u03bcs" => some 1000
  | "ms" => some 1000000
  | "s" => some 1000000000
  | "m" => some 60000000000
  | "h" => some 3600000000000
  | _ => none

/-- A character of an amount: a digit or a point. -/
def isAmountChar (c : Char) : Bool :=
  Text.isDigit c || c == '.'

/-- An amount and its unit, as they are written. -/
structure Part where
  amount : List Char
  unit : List Char
deriving DecidableEq, Repr

/-- The parts with one more character in front: it joins the first part unless a unit would come
    before an amount there. -/
def consChar (c : Char) : List Part → List Part
  | [] => if isAmountChar c then [⟨[c], []⟩] else [⟨[], [c]⟩]
  | p :: rest =>
    if isAmountChar c then ⟨c :: p.amount, p.unit⟩ :: rest
    else if p.amount.isEmpty then ⟨[], c :: p.unit⟩ :: rest
    else ⟨[], [c]⟩ :: p :: rest

/-- The parts of a text: runs of amount characters, each with the run of others behind it. -/
def parts (cs : List Char) : List Part :=
  cs.foldr consChar []

/-- The nanoseconds of a part. -/
def Part.value? (p : Part) : Option Binary64 :=
  match Binary64.ofChars? p.amount, unit? (String.ofList p.unit) with
  | some amount, some scale => some (amount.mul (Binary64.ofInt scale))
  | _, _ => none

/-- The sum of parts, from left to right on a start. -/
def total? (start : Binary64) : List Part → Option Binary64
  | [] => some start
  | p :: rest => p.value?.bind fun x => total? (start.add x) rest

/-- The duration of a sum; none if it exceeds `2 ^ 64` nanoseconds. -/
def ofTotal? (x : Binary64) : Option Duration :=
  if !x.isFinite || x.exceeds Word.unsigned64 then none else some ⟨x.roundToUnsigned64⟩

/-- The text without one leading plus. -/
def dropPlus : List Char → List Char
  | '+' :: rest => rest
  | cs => cs

/-- The duration that a text writes: a single zero, or parts, with at most one plus in front. -/
def ofText? (s : String) : Option Duration :=
  match dropPlus s.toList with
  | [] => none
  | ['0'] => some zero
  | cs => (total? (Binary64.zero false) (parts cs)).bind ofTotal?

end Duration

end LayeredSettings
