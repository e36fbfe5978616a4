import LayeredSettings.Value.Basic

set_option autoImplicit false

/-! # Fitting values into shapes

A `Fit` takes a value of one shape as it is and refuses all others: nothing is coerced, but that a
whole number also fits where a binary64 number is wanted. Null is a value like any other; it fits
only where a value may be missing. -/

namespace LayeredSettings

/-- What a value becomes in a shape, if it fits. -/
abbrev Fit := Value → Option Value

namespace Fit

/-- Any value. -/
def any : Fit := some

/-- Texts. -/
def text : Fit
  | .text s => some (.text s)
  | _ => none

/-- Booleans. -/
def bool : Fit
  | .bool b => some (.bool b)
  | _ => none

/-- Whole numbers from `lo` to `hi`. -/
def whole (lo hi : Int) : Fit
  | .number (.whole n) => if lo ≤ n ∧ n ≤ hi then some (.number (.whole n)) else none
  | _ => none

/-- Signed 64-bit integers. -/
def signed64 : Fit := whole (-Word.signed64) (Word.signed64 - 1)

/-- Unsigned 16-bit integers. -/
def unsigned16 : Fit := whole 0 0xFFFF

/-- Numbers, as binary64. -/
def float : Fit
  | .number n => some (.number (.float n.toFloat))
  | _ => none

/-- A shape, or null. -/
def optional (fit : Fit) : Fit
  | .null => some .null
  | v => fit v

/-- Lists of items that fit. -/
def list (fit : Fit) : Fit
  | .list items => (items.mapM fit).map .list
  | _ => none

/-- Maps of values that fit. -/
def map (fit : Fit) : Fit
  | .map entries => (entries.mapM fun e => (fit e.2).map fun v => (e.1, v)).map .map
  | _ => none

/-! ## Records -/

/-- A field of a record. -/
structure Field where
  name : String
  fit : Fit
  /-- What the field holds if it is left out; a field without this must be there. -/
  missing : Option Value := none

/-- The value of a field in a map. -/
def Field.ofMap (entries : Tree) (f : Field) : Option (String × Value) :=
  let value? :=
    match KeyMap.get? f.name entries with
    | some v => f.fit v
    | none => f.missing
  value?.map fun v => (f.name, v)

/-- The values of fields in a list, one for each. -/
def ofList : List Field → List Value → Option (List (String × Value))
  | [], [] => some []
  | f :: fields, v :: values => do
    let fitted ← f.fit v
    let rest ← ofList fields values
    some ((f.name, fitted) :: rest)
  | _, _ => none

/-- Records: a map with the fields, other keys ignored, or a list of all fields in order. -/
def record (fields : List Field) : Fit
  | .map entries =>
    (fields.mapM (Field.ofMap entries)).map fun fitted => .map (KeyMap.ofEntries fitted)
  | .list values => (ofList fields values).map fun fitted => .map (KeyMap.ofEntries fitted)
  | _ => none

end Fit

end LayeredSettings
