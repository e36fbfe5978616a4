import LayeredSettings.Value.KeyMap
import LayeredSettings.Binary64.Text

set_option autoImplicit false

/-! # Setting values

A setting is null, a boolean, a number, a text, a list or a map from texts to settings. Whole
numbers and binary64 numbers are kept apart, so `1` and `1.0` are different values. -/

namespace LayeredSettings

/-- A number of a document. Readers give whole numbers from `-2 ^ 63` to `2 ^ 64 - 1` and finite
    binary64 numbers. -/
inductive Number where
  | whole (n : Int)
  | float (x : Binary64)
deriving DecidableEq, Repr

/-- A value of a settings document. -/
inductive Value where
  | null
  | bool (b : Bool)
  | number (n : Number)
  | text (s : String)
  | list (items : List Value)
  | map (entries : List (String × Value))
deriving Inhabited, Repr

/-- The settings of one source, or of all of them merged: values under keys. -/
abbrev Tree := KeyMap Value

namespace Number

/-- The number as a whole number of the signed 64-bit range, if it is one. -/
def signed64? : Number → Option Int
  | .whole n => if Text.isSigned64 n then some n else none
  | .float _ => none

/-- The number as a whole number of the unsigned 64-bit range, if it is one. -/
def unsigned64? : Number → Option Nat
  | .whole n => if Text.isUnsigned64 n then some n.toNat else none
  | .float _ => none

/-- The nearest binary64 number. -/
def toFloat : Number → Binary64
  | .whole n => Binary64.ofInt n
  | .float x => x

/-- The text of a number: plain digits, or the shortest decimal that reads back. -/
def text : Number → String
  | .whole n => toString n
  | .float x => x.text

theorem unsigned64?_eq_some_iff {n : Number} {k : Nat} :
    n.unsigned64? = some k ↔ n = .whole k ∧ k < Word.unsigned64 := by
  cases n with
  | float x => simp [unsigned64?]
  | whole n =>
    by_cases h : Text.isUnsigned64 n
    · have hrange : 0 ≤ n ∧ n < Word.unsigned64 := by simpa [Text.isUnsigned64] using h
      simp only [unsigned64?, if_pos h, Option.some.injEq, Number.whole.injEq]
      omega
    · have hrange : ¬ (0 ≤ n ∧ n < Word.unsigned64) := by simpa [Text.isUnsigned64] using h
      simp only [unsigned64?, if_neg h, reduceCtorEq, Number.whole.injEq, false_iff]
      omega

end Number

namespace Value

/-- An integer setting. -/
def ofInt (n : Int) : Value :=
  .number (.whole n)

/-- What kind of value this is, in words. -/
def kindName : Value → String
  | .null => "null"
  | .bool _ => "a boolean"
  | .number _ => "a number"
  | .text _ => "a string"
  | .list _ => "a list"
  | .map _ => "a map"

/-- The entries of a map. -/
def entries? : Value → Option Tree
  | .map entries => some entries
  | _ => none

/-- Null. -/
def isNull : Value → Bool
  | .null => true
  | _ => false

/-! ## Equality -/

mutual

/-- Whether two values are the same. -/
def same : Value → Value → Bool
  | .null, .null => true
  | .bool a, .bool b => a == b
  | .number a, .number b => a == b
  | .text a, .text b => a == b
  | .list as, .list bs => sameItems as bs
  | .map as, .map bs => sameEntries as bs
  | _, _ => false

/-- Whether list items are the same. -/
def sameItems : List Value → List Value → Bool
  | [], [] => true
  | a :: as, b :: bs => same a b && sameItems as bs
  | _, _ => false

/-- Whether map entries are the same. -/
def sameEntries : List (String × Value) → List (String × Value) → Bool
  | [], [] => true
  | (k, a) :: as, (l, b) :: bs => k == l && same a b && sameEntries as bs
  | _, _ => false

end

mutual

theorem same_iff : ∀ a b : Value, same a b = true ↔ a = b
  | .null, b => by cases b <;> simp [same]
  | .bool a, b => by cases b <;> simp [same]
  | .number a, b => by cases b <;> simp [same]
  | .text a, b => by cases b <;> simp [same]
  | .list as, b => by cases b <;> simp [same, sameItems_iff as]
  | .map as, b => by cases b <;> simp [same, sameEntries_iff as]

theorem sameItems_iff : ∀ as bs : List Value, sameItems as bs = true ↔ as = bs
  | [], bs => by cases bs <;> simp [sameItems]
  | a :: as, bs => by cases bs <;> simp [sameItems, same_iff a, sameItems_iff as]

theorem sameEntries_iff : ∀ as bs : List (String × Value), sameEntries as bs = true ↔ as = bs
  | [], bs => by cases bs <;> simp [sameEntries]
  | (k, a) :: as, bs => by
    cases bs with
    | nil => simp [sameEntries]
    | cons b bs => simp [sameEntries, same_iff a, sameEntries_iff as, Prod.ext_iff]

end

instance : DecidableEq Value :=
  fun a b => decidable_of_iff (same a b = true) (same_iff a b)

end Value

end LayeredSettings
