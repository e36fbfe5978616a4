import LayeredSettings.Text.Alphanumeric

set_option autoImplicit false

/-! # Values of a dotenv file

A value is read character by character. Strong quotes keep everything as it is, weak quotes keep all
but escapes and variables, and outside of quotes a blank ends the value. A dollar sign starts the
name of a variable, which is replaced by its value; the character that ends a bare name stands for
itself. -/

namespace LayeredSettings.Dotenv

/-- What a place in a value is inside of; `weak` says whether weak quotes are open around it. -/
inductive ValueState where
  | text (weak : Bool)
  | escape (weak : Bool)
  | strong
  /-- A variable name behind a dollar sign, in reverse. -/
  | name (weak : Bool) (rev : List Char)
  /-- A variable name in braces, in reverse. -/
  | braced (weak : Bool) (rev : List Char)
  /-- Behind the value, where only blanks and a comment may follow. -/
  | tail
  | comment
deriving DecidableEq, Repr

namespace ValueState

/-- The value of a variable whose name stands in reverse. -/
def substitute (lookup : String → String) (rev : List Char) : List Char :=
  (lookup (String.ofList rev.reverse)).toList

/-- The character that an escape stands for. -/
def unescape? : Char → Option Char
  | '\\' => some '\\'
  | '\'' => some '\''
  | '"' => some '"'
  | '$' => some '$'
  | ' ' => some ' '
  | 'n' => some '\n'
  | _ => none

/-- A character outside of weak quotes. -/
def stepPlain (c : Char) : List Char × ValueState :=
  match c with
  | '$' => ([], .name false [])
  | '\'' => ([], .strong)
  | '"' => ([], .text true)
  | '\\' => ([], .escape false)
  | ' ' => ([], .tail)
  | '\t' => ([], .tail)
  | _ => ([c], .text false)

/-- A character in weak quotes. -/
def stepWeak (c : Char) : List Char × ValueState :=
  match c with
  | '$' => ([], .name true [])
  | '"' => ([], .text false)
  | '\\' => ([], .escape true)
  | _ => ([c], .text true)

/-- A character behind a bare name: more of it, an opening brace, or its end. -/
def stepName (lookup : String → String) (weak : Bool) (rev : List Char) (c : Char) :
    List Char × ValueState :=
  if Text.isAlphanumeric c then ([], .name weak (c :: rev))
  else if c = '{' ∧ rev = [] then ([], .braced weak [])
  else if c = '$' then (substitute lookup rev, .name weak [])
  else (substitute lookup rev ++ [c], .text weak)

/-- One character further: what it adds to the value, and the next state. -/
def step? (lookup : String → String) (state : ValueState) (c : Char) :
    Option (List Char × ValueState) :=
  match state with
  | .text false => some (stepPlain c)
  | .text true => some (stepWeak c)
  | .escape weak => (unescape? c).map fun e => ([e], .text weak)
  | .strong => some (if c = '\'' then ([], .text false) else ([c], .strong))
  | .name weak rev => some (stepName lookup weak rev c)
  | .braced weak rev =>
    some (if c = '}' then (substitute lookup rev, .text weak) else ([], .braced weak (c :: rev)))
  | .tail =>
    if c = ' ' ∨ c = '\t' then some ([], .tail) else if c = '#' then some ([], .comment) else none
  | .comment => some ([], .comment)

/-- What the end of the line adds to the value; `none` inside of quotes and braces. -/
def finish? (lookup : String → String) : ValueState → Option (List Char)
  | .text false => some []
  | .escape false => some []
  | .name false rev => some (substitute lookup rev)
  | .tail => some []
  | .comment => some []
  | _ => none

end ValueState

/-- The value of characters read on from a state. -/
def readValue? (lookup : String → String) : ValueState → List Char → Option (List Char)
  | state, [] => state.finish? lookup
  | state, c :: rest =>
    match state.step? lookup c with
    | none => none
    | some (out, next) => (readValue? lookup next rest).map (out ++ ·)

/-- The value that characters write, with a value for every variable name. -/
def value? (lookup : String → String) (cs : List Char) : Option String :=
  (readValue? lookup (.text false) cs).map String.ofList

end LayeredSettings.Dotenv
