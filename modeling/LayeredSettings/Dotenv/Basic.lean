import LayeredSettings.Dotenv.Lines
import LayeredSettings.Dotenv.Value
import LayeredSettings.Environment.Layered

set_option autoImplicit false

/-! # Dotenv files

A dotenv file assigns texts to variables, one line for each. `Dotenv.entries?` gives its assignments
in order, or nothing at all if any line is malformed. A value may use the variables of the process
and those assigned earlier in the file, the former winning. -/

namespace LayeredSettings.Dotenv

/-! ## Parts of a line -/

/-- The first character of a variable name. -/
def isKeyStart (c : Char) : Bool :=
  Text.isLetter c || c == '_'

/-- A later character of a variable name. -/
def isKeyChar (c : Char) : Bool :=
  isKeyStart c || Text.isDigit c || c == '.'

/-- A variable name at the start, and what follows it and the blanks behind it. -/
def key? (cs : List Char) : Option (List Char × List Char) :=
  if cs.head?.any isKeyStart then
    some (cs.takeWhile isKeyChar, (cs.dropWhile isKeyChar).dropWhile Text.isBlank)
  else none

/-- What follows an equals sign and the blanks behind it. -/
def afterEquals? : List Char → Option (List Char)
  | '=' :: rest => some (rest.dropWhile Text.isBlank)
  | _ => none

/-- A variable name and the text assigned to it; the word `export` may stand before the name. -/
def assignment? (cs : List Char) : Option (List Char × List Char) := do
  let (key, rest) ← key? cs
  match afterEquals? rest with
  | some text => some (key, text)
  | none =>
    if key = "export".toList then
      let (key, rest) ← key? rest
      let text ← afterEquals? rest
      some (key, text)
    else none

/-! ## Entries -/

/-- A variable with the text assigned to it. -/
abbrev Entry := String × String

/-- The value of a name: the process variable, or the last one assigned so far, or empty. -/
def valueOf (process : Environment) (earlier : List Entry) (name : String) : String :=
  match process name with
  | some v => v
  | none => (earlier.reverse.lookup name).getD ""

/-- The entry that a logical line writes, if it is well formed and writes one. -/
def entry? (lookup : String → String) (line : List Char) : Option (Option Entry) :=
  match Text.stripWhile Text.isBlank line with
  | [] => some none
  | '#' :: _ => some none
  | cs =>
    (assignment? cs).bind fun (key, text) =>
      if text.isEmpty || text.head? == some '#' then some (some (String.ofList key, ""))
      else (value? lookup text).map fun v => some (String.ofList key, v)

/-- The entries of logical lines, after those that were read earlier. -/
def entriesAfter? (process : Environment) (earlier : List Entry) :
    List (List Char) → Option (List Entry)
  | [] => some earlier
  | line :: rest =>
    match entry? (valueOf process earlier) line with
    | none => none
    | some none => entriesAfter? process earlier rest
    | some (some e) => entriesAfter? process (earlier ++ [e]) rest

/-- The entries of a file, in order. -/
def entries? (process : Environment) (text : String) : Option (List Entry) :=
  (logicalLines text).bind (entriesAfter? process [])

end LayeredSettings.Dotenv
