import LayeredSettings.Text.Integer

set_option autoImplicit false

/-! # Reading dates piece by piece

A `Scan` reads a piece from the front of a text and leaves the rest, or fails. These are the pieces
that both date notations are made of. -/

namespace LayeredSettings.Time

/-- Read from the front of a text. -/
abbrev Scan := StateT (List Char) Option

namespace Scan

/-- Fail. -/
def fail {α : Type} : Scan α :=
  fun _ => none

/-- Go on only if a condition holds. -/
def check (condition : Bool) : Scan Unit :=
  if condition then pure () else fail

/-- One character of a class. -/
def one (p : Char → Bool) : Scan Char := fun cs =>
  match cs with
  | c :: rest => if p c then some (c, rest) else none
  | [] => none

/-- This character. -/
def char (c : Char) : Scan Unit := do
  let _ ← one (· == c)

/-- A number of exactly so many digits. -/
def digits (count : Nat) : Scan Nat := fun cs =>
  let front := cs.take count
  if front.length = count ∧ front.all Text.isDigit = true then
    some (Text.decimalValue front, cs.drop count)
  else none

/-- The longest run of digits, perhaps empty. -/
def digitRun : Scan (List Char) := fun cs =>
  some (cs.takeWhile Text.isDigit, cs.dropWhile Text.isDigit)

/-- One of some words in any case, giving what it stands for. -/
def word {α : Type} (words : List (String × α)) : Scan α := fun cs =>
  let starts (w : String × α) : Bool :=
    (cs.take w.1.length).map Text.lowerChar == w.1.toList.map Text.lowerChar
  (words.find? starts).map fun w => (w.2, cs.drop w.1.length)

/-- The first that succeeds of two readings from the same place. -/
def orElse {α : Type} (a b : Scan α) : Scan α := fun cs =>
  match a cs with
  | some r => some r
  | none => b cs

/-- A reading, or nothing if it fails. -/
def optional {α : Type} (a : Scan α) : Scan (Option α) :=
  orElse (do let x ← a; pure (some x)) (pure none)

/-- A sign; `true` is minus. -/
def sign : Scan Bool := do
  let c ← one fun c => c == '+' || c == '-'
  pure (c == '-')

/-- Hours and minutes as seconds with a sign. -/
def offsetOf (negative : Bool) (hours minutes : Nat) : Int :=
  let seconds : Int := ((hours * 3600 + minutes * 60 : Nat) : Int)
  if negative then -seconds else seconds

/-- The value of a reading that takes up the whole text. -/
def whole {α : Type} (a : Scan α) (cs : List Char) : Option α :=
  match a cs with
  | some (x, []) => some x
  | _ => none

end Scan

end LayeredSettings.Time
