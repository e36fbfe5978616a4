set_option autoImplicit false

/-! # ASCII letter case

Case is changed and ignored for the letters `A` to `Z` only; every other character stands for
itself. -/

namespace LayeredSettings.Text

/-- Lower case of an ASCII capital; any other character unchanged. -/
def lowerChar (c : Char) : Char :=
  if 'A' ≤ c ∧ c ≤ 'Z' then Char.ofNat (c.toNat + 32) else c

/-- Upper case of an ASCII small letter; any other character unchanged. -/
def upperChar (c : Char) : Char :=
  if 'a' ≤ c ∧ c ≤ 'z' then Char.ofNat (c.toNat - 32) else c

/-- The text with its ASCII capitals in lower case. -/
def lower (s : String) : String :=
  String.ofList (s.toList.map lowerChar)

/-- The text with its ASCII small letters in upper case. -/
def upper (s : String) : String :=
  String.ofList (s.toList.map upperChar)

/-- Equality that ignores ASCII case. -/
def sameIgnoringCase (s t : String) : Bool :=
  lower s == lower t

/-- An ASCII letter. -/
def isLetter (c : Char) : Bool :=
  ('a' ≤ c && c ≤ 'z') || ('A' ≤ c && c ≤ 'Z')

/-- An ASCII decimal digit. -/
def isDigit (c : Char) : Bool :=
  '0' ≤ c && c ≤ '9'

end LayeredSettings.Text
