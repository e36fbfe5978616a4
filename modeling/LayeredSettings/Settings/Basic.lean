import LayeredSettings.Error
import LayeredSettings.Settings.Coercion
import LayeredSettings.Settings.Fit
import LayeredSettings.Settings.Lookup

set_option autoImplicit false

/-! # Settings

Settings are a merged tree with a fallback policy. Plain getters give the zero of their type where a
key is missing or its value cannot be read; getters with a fallback give that instead and, under the
zero-value policy, also where the value read is zero. -/

namespace LayeredSettings

/-- When a fallback takes the place of a value. -/
inductive FallbackPolicy where
  /-- Where no value is read, or the zero of the type. -/
  | zeroValue
  /-- Only where no value is read. -/
  | presence
deriving DecidableEq, Repr, Inhabited

/-- A merged tree of settings. -/
structure Settings where
  tree : Tree := []
  policy : FallbackPolicy := .zeroValue

namespace Settings

/-- The settings of a value; what is no map has none. -/
def ofValue (v : Value) (policy : FallbackPolicy) : Settings :=
  ⟨v.entries?.getD [], policy⟩

/-! ## Raw values -/

/-- The value under a key. -/
def get? (s : Settings) (key : String) : Option Value :=
  lookup? s.tree key

/-- Whether a key is there and not null. -/
def isSet (s : Settings) (key : String) : Bool :=
  (s.get? key).any fun v => !v.isNull

/-- The top-level keys. -/
def keys (s : Settings) : List String :=
  KeyMap.keys s.tree

/-- Null, false, zero, or empty. -/
def isZeroValue : Value → Bool
  | .null => true
  | .bool b => !b
  | .number n => n.toFloat.isZero
  | .text s => s == ""
  | .list items => items.isEmpty
  | .map entries => entries.isEmpty

/-- The value under a key or a fallback, which also stands in for null. -/
def getOr (s : Settings) (key : String) (fallback : Value) : Value :=
  match s.get? key with
  | none => fallback
  | some v =>
    if v.isNull then fallback
    else
      match s.policy with
      | .presence => v
      | .zeroValue => if isZeroValue v then fallback else v

/-! ## Typed values -/

variable {α : Type}

/-- The value under a key as an element of `α`, if it can be read so. -/
def read? (s : Settings) (c : Coercion α) (key : String) : Option α :=
  (s.get? key).bind c.read

/-- The value under a key as an element of `α`, or zero. -/
def read (s : Settings) (c : Coercion α) (key : String) : α :=
  (s.read? c key).getD c.zero

/-- The value under a key as an element of `α`, or a fallback. -/
def readOr (s : Settings) (c : Coercion α) (key : String) (fallback : α) : α :=
  match s.read? c key with
  | none => fallback
  | some x =>
    match s.policy with
    | .presence => x
    | .zeroValue => if c.isZero x then fallback else x

/-- The timestamp under a key. -/
def time? (s : Settings) (key : String) : Option Timestamp :=
  (s.get? key).bind Coercion.readTime

/-- The timestamp under a key or a fallback, whatever the policy. -/
def timeOr (s : Settings) (key : String) (fallback : Timestamp) : Timestamp :=
  (s.time? key).getD fallback

/-! ## Shaped values -/

/-- A value in a shape. -/
def fitted (fit : Fit) (v : Value) : Except Error Value :=
  match fit v with
  | some fitted => .ok fitted
  | none => .error .unmarshal

/-- All settings in a shape. -/
def unmarshal (s : Settings) (fit : Fit) : Except Error Value :=
  fitted fit (.map s.tree)

/-- The value under a key in a shape; a missing key counts as null. -/
def unmarshalKey (s : Settings) (fit : Fit) (key : String) : Except Error Value :=
  fitted fit ((s.get? key).getD .null)

end Settings

end LayeredSettings
