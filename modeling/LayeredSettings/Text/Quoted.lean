import LayeredSettings.Text.Printable
import LayeredSettings.Text.Blank

set_option autoImplicit false

/-! # Quoted texts and lists of them

A text in double quotes, for messages: quotes and backslashes are escaped, the common controls have
letters, and any other character that is not visible is written as its code point. -/

namespace LayeredSettings.Text

/-- A character between double quotes. -/
def quotedChar (c : Char) : String :=
  match c with
  | '"' => "\\\""
  | '\\' => "\\\\"
  | '\n' => "\\n"
  | '\r' => "\\r"
  | '\t' => "\\t"
  | '\x00' => "\\0"
  | _ =>
    if isVisible c then c.toString
    else "\\u\x7b" ++ String.ofList (Nat.toDigits 16 c.toNat) ++ "\x7d"

/-- A text between double quotes. -/
def quoted (s : String) : String :=
  "\"" ++ joinWith "" (s.toList.map quotedChar) ++ "\""

/-- Quoted texts between square brackets. -/
def quotedList (texts : List String) : String :=
  "[" ++ joinWith ", " (texts.map quoted) ++ "]"

end LayeredSettings.Text
