import LayeredSettings.Json.Reader
import LayeredSettings.Text.Ascii
import LayeredSettings.Text.Blank

set_option autoImplicit false

/-! # Values of untyped texts

A text without a declared format is read as what it looks like: a JSON list or map, a boolean in any
case, a whole number, a finite number, or else as itself. Blanks at its ends count only in the last
case. -/

namespace LayeredSettings.Value

/-- The list or map that a text writes in JSON, if it starts like one. -/
def collection? (trimmed : String) : Option Value :=
  if trimmed.toList.head? == some '{' || trimmed.toList.head? == some '[' then Json.value? trimmed
  else none

/-- The boolean that a text spells in any case. -/
def looseBool? (trimmed : String) : Option Bool :=
  if Text.sameIgnoringCase trimmed "true" then some true
  else if Text.sameIgnoringCase trimmed "false" then some false
  else none

/-- The number that a text writes: whole in the signed 64-bit range, or else finite. -/
def looseNumber? (trimmed : String) : Option Number :=
  match Text.signed64? trimmed with
  | some n => some (.whole n)
  | none => ((Binary64.ofText? trimmed).filter Binary64.isFinite).map Number.float

/-- The value that an untyped text looks like. -/
def inferred (raw : String) : Value :=
  let trimmed := Text.trim raw
  match collection? trimmed, looseBool? trimmed, looseNumber? trimmed with
  | some v, _, _ => v
  | none, some b, _ => .bool b
  | none, none, some n => .number n
  | none, none, none => .text raw

end LayeredSettings.Value
