import LayeredSettings.Value.Basic

set_option autoImplicit false

/-! # What a plain scalar means

A scalar without quotes is null, a boolean, a whole number, a binary64 number or else a text, tried
in this order (`plainValue?`). Whole numbers are decimal or carry one of three radix marks; digits
behind a leading zero are text. Not-a-number and the infinities are null in a settings tree. -/

namespace LayeredSettings.Yaml

/-- The spellings of null, but for the empty scalar. -/
def isNullWord (s : String) : Bool :=
  s == "~" || s == "null" || s == "Null" || s == "NULL"

/-- The spellings of the booleans. -/
def boolWord? (s : String) : Option Bool :=
  if s == "true" || s == "True" || s == "TRUE" then some true
  else if s == "false" || s == "False" || s == "FALSE" then some false
  else none

/-- A sign at the start of a text. -/
def startsWithSign : List Char → Bool
  | c :: _ => c == '+' || c == '-'
  | [] => false

/-- The radix that a mark announces, and what follows the mark. -/
def radixMark? : List Char → Option (Nat × List Char)
  | '0' :: 'x' :: rest => some (16, rest)
  | '0' :: 'o' :: rest => some (8, rest)
  | '0' :: 'b' :: rest => some (2, rest)
  | _ => none

/-- More than one digit, the first of them zero, behind an optional sign. -/
def isZeroPadded (cs : List Char) : Bool :=
  let digits := if startsWithSign cs then cs.drop 1 else cs
  match digits with
  | '0' :: rest => !rest.isEmpty && rest.all Text.isDigit
  | _ => false

/-- A whole number without minus sign. -/
def unsigned? (cs : List Char) : Option Nat :=
  let body :=
    match cs with
    | '+' :: rest => rest
    | rest => rest
  if startsWithSign body || isZeroPadded cs then none
  else
    match radixMark? body with
    | some (radix, digits) => Text.natOfDigits? radix digits
    | none => Text.natOfDigits? 10 body

/-- The size of a whole number with a minus sign. -/
def negated? : List Char → Option Nat
  | '-' :: body =>
    if startsWithSign body || isZeroPadded body then none
    else
      match radixMark? body with
      | some (radix, digits) => Text.natOfDigits? radix digits
      | none => Text.natOfDigits? 10 body
  | _ => none

/-- A whole number as the reader sees it: one that a setting can hold, one that it cannot although a
    word of 128 bits can, or one that only a float can hold. -/
inductive WholeNumber where
  | fits (n : Int)
  | tooWide
  | beyond

/-- A number without minus sign, among the unsigned words. -/
def WholeNumber.positive (n : Nat) : WholeNumber :=
  if n < Word.unsigned64 then .fits n else if n < Word.unsigned128 then .tooWide else .beyond

/-- A number with a minus sign, among the signed words. -/
def WholeNumber.negative (n : Nat) : WholeNumber :=
  if n ≤ Word.signed64 then .fits (-n) else if n ≤ Word.signed128 then .tooWide else .beyond

/-- The whole number that a scalar writes. -/
def wholeNumber? (cs : List Char) : Option WholeNumber :=
  match unsigned? cs with
  | some n => some (.positive n)
  | none => (negated? cs).map .negative

/-- The spellings of infinity behind an optional sign, and of not-a-number. -/
def isSpecialFloat (s : String) : Bool :=
  [".inf", ".Inf", ".INF", "+.inf", "+.Inf", "+.INF", "-.inf", "-.Inf", "-.INF",
    ".nan", ".NaN", ".NAN"].contains s

/-- The value of a floating-point scalar; what is no finite number becomes null. Words and
    overflowing decimals are none. -/
def floatValue? (s : String) : Option Value :=
  if isSpecialFloat s then some .null
  else
    let cs := s.toList
    let body :=
      match cs with
      | '+' :: rest => rest
      | rest => rest
    if cs.head? == some '+' && startsWithSign body then none
    else ((Binary64.ofChars? body).filter Binary64.isFinite).map fun x => .number (.float x)

/-- A whole number as a value; one that is too wide for a setting is refused. -/
def wholeValue? (whole : WholeNumber) : Option (Option Value) :=
  match whole with
  | .fits n => some (some (.ofInt n))
  | .tooWide => some none
  | .beyond => none

/-- The value of a plain scalar; `none` for a whole number that is too wide. -/
def plainValue? (s : String) : Option Value :=
  if s == "" || isNullWord s then some .null
  else
    match boolWord? s with
    | some b => some (.bool b)
    | none =>
      match (wholeNumber? s.toList).bind wholeValue? with
      | some whole => whole
      | none =>
        if isZeroPadded s.toList then some (.text s)
        else some ((floatValue? s).getD (.text s))

end LayeredSettings.Yaml
