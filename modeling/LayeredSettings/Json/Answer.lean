import LayeredSettings.Json.Reader
import LayeredSettings.Octets.Utf8

set_option autoImplicit false

/-! # Fields of JSON answers

The answer of a server is read for the fields that are asked for. Each of them may be left out and
none may be written twice. Other fields do not count: only their keys must be readable. -/

namespace LayeredSettings.Json

/-- What the body of an answer writes. -/
def ofBody? (body : List UInt8) : Option Written :=
  ofUnits? (Utf8.units body)

namespace Written

/-- A field among written entries, if it is there. -/
def field? (key : String) (entries : List (Option String × Written)) : Option (Option Written) :=
  if entries.any fun e => e.1.isNone then none
  else
    match entries.filter fun e => e.1 == some key with
    | [] => some none
    | [(_, w)] => some (some w)
    | _ => none

/-- The text, of what must be one. -/
def text? : Written → Option String
  | .text s => s
  | _ => none

/-- A field that must be a text, empty where it is left out. -/
def textField? (key : String) (entries : List (Option String × Written)) : Option String := do
  match ← field? key entries with
  | none => some ""
  | some w => w.text?

end Written

end LayeredSettings.Json
