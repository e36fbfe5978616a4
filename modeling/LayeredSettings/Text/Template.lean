set_option autoImplicit false

/-! # Replacing parts of a text -/

namespace LayeredSettings.Text

/-- Go over a text from left to right, past the first `skip` characters, and write `replacement` for
    every occurrence of `pattern`. -/
def replaceFrom (pattern replacement : List Char) : Nat → List Char → List Char
  | _, [] => []
  | skip + 1, _ :: rest => replaceFrom pattern replacement skip rest
  | 0, c :: rest =>
    if pattern.isPrefixOf (c :: rest) then
      replacement ++ replaceFrom pattern replacement (pattern.length - 1) rest
    else c :: replaceFrom pattern replacement 0 rest

/-- The text with `replacement` for every occurrence of a non-empty pattern; what is written is not
    looked at again. -/
def replace (pattern replacement s : String) : String :=
  String.ofList (replaceFrom pattern.toList replacement.toList 0 s.toList)

/-- Whether `pattern` occurs in a list. -/
def occursIn (pattern : List Char) : List Char → Bool
  | [] => pattern.isEmpty
  | c :: rest => pattern.isPrefixOf (c :: rest) || occursIn pattern rest

/-- Whether `pattern` occurs in a text. -/
def contains (pattern s : String) : Bool :=
  occursIn pattern.toList s.toList

/-- The text behind `start`, if it starts so. -/
def behind? (start s : String) : Option String :=
  if start.toList.isPrefixOf s.toList then some (String.ofList (s.toList.drop start.toList.length))
  else none

end LayeredSettings.Text
