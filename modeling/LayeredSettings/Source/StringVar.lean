import LayeredSettings.Format

set_option autoImplicit false

/-! # String variables

A source whose document is given in full. -/

namespace LayeredSettings

/-- A literal document with its format. -/
structure StringVar where
  name : String
  value : String
  format : Format
deriving DecidableEq, Repr

namespace StringVar

/-- How parse errors name the source. -/
def label (v : StringVar) : String :=
  "string var '" ++ v.name ++ "'"

/-- The settings of the document. -/
def load (v : StringVar) : Except Error Tree :=
  v.format.tree v.value v.label

end StringVar

end LayeredSettings
