import LayeredSettings.Json.Reader
import LayeredSettings.Text.Blank
import LayeredSettings.Time.Duration
import LayeredSettings.Time.InternetDate
import LayeredSettings.Time.MailDate

set_option autoImplicit false

/-! # Coercions of settings

A coercion reads a value as something of another type, and has a zero to give where it cannot. Texts
are read generously: trimmed, and in the notations of the type. -/

namespace LayeredSettings

/-- A way to read values as elements of `α`. -/
structure Coercion (α : Type) where
  read : Value → Option α
  zero : α
  isZero : α → Bool

namespace Coercion

/-! ## Scalars -/

/-- The text of a scalar. -/
def readText : Value → Option String
  | .text s => some s
  | .number n => some n.text
  | .bool b => some (if b then "true" else "false")
  | _ => none

/-- Scalars as texts. -/
def text : Coercion String := ⟨readText, "", (· == "")⟩

/-- A number as a signed 64-bit integer; fractions are dropped, and what is out of range is held to
    the range. -/
def wholeOf (n : Number) : Int :=
  n.signed64?.getD n.toFloat.toSigned64

/-- Scalars as signed 64-bit integers. -/
def int : Coercion Int where
  read
    | .number n => some (wholeOf n)
    | .text s => Text.signed64? (Text.trim s)
    | .bool b => some (if b then 1 else 0)
    | _ => none
  zero := 0
  isZero := (· == 0)

/-- Scalars as binary64 numbers. -/
def float : Coercion Binary64 where
  read
    | .number n => some n.toFloat
    | .text s => Binary64.ofText? (Text.trim s)
    | .bool b => some (Binary64.ofInt (if b then 1 else 0))
    | _ => none
  zero := Binary64.zero false
  isZero := Binary64.isZero

/-- The boolean that a text spells. -/
def boolOfText? (s : String) : Option Bool :=
  if ["1", "t", "T", "true", "TRUE", "True"].contains s then some true
  else if ["0", "f", "F", "false", "FALSE", "False"].contains s then some false
  else none

/-- Scalars as booleans; numbers other than zero are true. -/
def bool : Coercion Bool where
  read
    | .bool b => some b
    | .text s => boolOfText? (Text.trim s)
    | .number n => some !n.toFloat.isZero
    | _ => none
  zero := false
  isZero := (!·)

/-! ## Times -/

/-- The duration of so many nanoseconds; none for numbers below zero. -/
def durationOfNumber? (n : Number) : Option Duration :=
  match n.unsigned64? with
  | some ns => some ⟨ns⟩
  | none =>
    let x := n.toFloat
    if x.isFinite && !x.isNegative then some ⟨x.toUnsigned64⟩ else none

/-- The duration of a text: nanoseconds, or amounts with units. -/
def durationOfText? (s : String) : Option Duration :=
  match Text.unsigned64? s with
  | some ns => some ⟨ns⟩
  | none => Duration.ofText? s

/-- Numbers and texts as durations. -/
def duration : Coercion Duration where
  read
    | .number n => durationOfNumber? n
    | .text s => durationOfText? (Text.trim s)
    | _ => none
  zero := Duration.zero
  isZero := (· == Duration.zero)

/-- The timestamp of a text: an internet date, a mail date, or Unix seconds. -/
def timeOfText? (s : String) : Option Timestamp :=
  (Time.InternetDate.timestamp? s.toList).orElse fun _ =>
    (Time.MailDate.timestamp? s.toList).orElse fun _ =>
      (Text.signed64? s).bind Timestamp.ofUnix?

/-- The timestamp of a value; whole numbers are Unix seconds. -/
def readTime : Value → Option Timestamp
  | .number n => n.signed64?.bind Timestamp.ofUnix?
  | .text s => timeOfText? (Text.trim s)
  | _ => none

/-! ## Lists and maps -/

/-- Lists as the texts of their scalars, and texts as their words. -/
def texts : Coercion (List String) where
  read
    | .list items => some (items.filterMap readText)
    | .text s => some (Text.words s)
    | _ => none
  zero := []
  isZero := List.isEmpty

/-- The settings of a map, or of a text that writes one in JSON. -/
def readMap : Value → Option Tree
  | .map entries => some entries
  | .text s => Json.map? s
  | _ => none

/-- Maps, as they are or in JSON. -/
def map : Coercion Tree := ⟨readMap, [], List.isEmpty⟩

/-- Maps with the texts of their scalars, empty for other values. -/
def textMap : Coercion (KeyMap String) where
  read v := (readMap v).map (KeyMap.mapValues fun item => (readText item).getD "")
  zero := []
  isZero := List.isEmpty

/-- The items of a list, or of a text that writes one in JSON. -/
def readItems : Value → Option (List Value)
  | .list items => some items
  | .text s =>
    match Json.value? s with
    | some (.list items) => some items
    | _ => none
  | _ => none

/-- Lists as the maps among their items. -/
def maps : Coercion (List Tree) where
  read v := (readItems v).map (List.filterMap Value.entries?)
  zero := []
  isZero := List.isEmpty

end Coercion

end LayeredSettings
