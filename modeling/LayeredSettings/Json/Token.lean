import LayeredSettings.Json.Number

set_option autoImplicit false

/-! # Tokens of a JSON text

`Token.ofUnits?` reads a text from left to right with one state, a character at a time: the brackets
and separators, the three words, numbers and quoted texts. Only space, tab, line feed and carriage
return may stand between tokens. Where the octets of a text are malformed there is a unit without a
character; a quoted text with such a unit, or with half of a surrogate pair, is a token without a
value, and so is a number out of range. -/

namespace LayeredSettings.Json

/-- A token of a JSON text. -/
inductive Token where
  | openList
  | closeList
  | openMap
  | closeMap
  | colon
  | comma
  | null
  | bool (b : Bool)
  /-- A number, `none` if it is out of range. -/
  | number (n : Option Number)
  /-- A quoted text, `none` if part of it stands for no character. -/
  | text (s : Option String)

/-- What the lexer is inside of; the characters of an unfinished token stand in reverse. A quoted
    text has none left once part of it stood for no character. -/
inductive LexState where
  | between
  | word (rev : List Char)
  | number (rev : List Char)
  | quoted (rev : Option (List Char))
  | escaped (rev : Option (List Char))
  /-- Inside a `\u` escape with `left` digits to come, after the first half `high` of a pair. -/
  | code (rev : Option (List Char)) (high : Option Nat) (value left : Nat)
  /-- After the first half of a surrogate pair; the backslash of the second half should follow. -/
  | pairSlash (rev : Option (List Char)) (high : Nat)
  /-- After that backslash; the letter `u` should follow. -/
  | pairMark (rev : Option (List Char)) (high : Nat)

namespace Token

/-- The three words of JSON. -/
def ofWord? (rev : List Char) : Option Token :=
  match String.ofList rev.reverse with
  | "null" => some .null
  | "true" => some (.bool true)
  | "false" => some (.bool false)
  | _ => none

/-- The number of a finished run of number characters. -/
def ofNumber? (rev : List Char) : Option Token :=
  (NumberText.ofChars? rev.reverse).map fun t => .number t.number?

/-- A character that may stand in a number. -/
def isNumberChar (c : Char) : Bool :=
  Text.isDigit c || c == '-' || c == '+' || c == '.' || c == 'e' || c == 'E'

/-- What a character outside of tokens gives: a token of its own or the start of a longer one. -/
def start? (c : Char) : Option (List Token × LexState) :=
  match c with
  | ' ' | '\t' | '\n' | '\r' => some ([], .between)
  | '[' => some ([.openList], .between)
  | ']' => some ([.closeList], .between)
  | '{' => some ([.openMap], .between)
  | '}' => some ([.closeMap], .between)
  | ':' => some ([.colon], .between)
  | ',' => some ([.comma], .between)
  | '"' => some ([], .quoted (some []))
  | _ =>
    if Text.isDigit c || c == '-' then some ([], .number [c])
    else if Text.isLetter c then some ([], .word [c])
    else none

/-- The character that a one-letter escape stands for. -/
def escape? : Char → Option Char
  | '"' => some '"'
  | '\\' => some '\\'
  | '/' => some '/'
  | 'b' => some '\x08'
  | 'f' => some '\x0c'
  | 'n' => some '\n'
  | 'r' => some '\r'
  | 't' => some '\t'
  | _ => none

/-- Where a finished four-digit code leads: on with its character, or to the second half of its
    pair. -/
def finishCode (rev : Option (List Char)) (high : Option Nat) (value : Nat) : LexState :=
  let isLow := decide (0xDC00 ≤ value ∧ value ≤ 0xDFFF)
  match high with
  | some h =>
    let code := 0x10000 + (h - 0xD800) * 0x400 + (value - 0xDC00)
    if isLow then .quoted (rev.map (Char.ofNat code :: ·)) else .quoted none
  | none =>
    if isLow then .quoted none
    else if 0xD800 ≤ value ∧ value ≤ 0xDBFF then .pairSlash rev value
    else .quoted (rev.map (Char.ofNat value :: ·))

/-- One character further in a quoted text. -/
def quotedStep? (rev : Option (List Char)) (c : Char) : Option (List Token × LexState) :=
  if c = '"' then some ([.text (rev.map fun r => String.ofList r.reverse)], .between)
  else if c = '\\' then some ([], .escaped rev)
  else if c.toNat < 0x20 then none
  else some ([], .quoted (rev.map (c :: ·)))

/-- One character further after a backslash. -/
def escapedStep? (rev : Option (List Char)) (c : Char) : Option (List Token × LexState) :=
  if c = 'u' then some ([], .code rev none 0 4)
  else (escape? c).map fun e => ([], .quoted (rev.map (e :: ·)))

/-- One character further: the tokens finished by it and the next state. -/
def charStep? (state : LexState) (c : Char) : Option (List Token × LexState) :=
  match state with
  | .between => start? c
  | .word rev =>
    if Text.isLetter c then some ([], .word (c :: rev))
    else do
      let token ← ofWord? rev
      let (tokens, next) ← start? c
      some (token :: tokens, next)
  | .number rev =>
    if isNumberChar c then some ([], .number (c :: rev))
    else do
      let token ← ofNumber? rev
      let (tokens, next) ← start? c
      some (token :: tokens, next)
  | .quoted rev => quotedStep? rev c
  | .escaped rev => escapedStep? rev c
  | .code rev high value left => do
    let digit ← Text.digitValue? 16 c
    let value := value * 16 + digit
    if left ≤ 1 then some ([], finishCode rev high value)
    else some ([], .code rev high value (left - 1))
  | .pairSlash rev high => if c = '\\' then some ([], .pairMark rev high) else quotedStep? none c
  | .pairMark rev high =>
    if c = 'u' then some ([], .code rev (some high) 0 4) else escapedStep? none c

/-- Where a unit without a character leads: it may only stand in a quoted text. -/
def gapStep? : LexState → Option LexState
  | .quoted _ => some (.quoted none)
  | .pairSlash _ _ => some (.quoted none)
  | _ => none

/-- One unit further. -/
def step? (state : LexState) : Option Char → Option (List Token × LexState)
  | some c => charStep? state c
  | none => (gapStep? state).map fun next => ([], next)

/-- The tokens that the end of the text finishes; `none` inside a quoted text. -/
def finish? : LexState → Option (List Token)
  | .between => some []
  | .word rev => (ofWord? rev).map fun t => [t]
  | .number rev => (ofNumber? rev).map fun t => [t]
  | _ => none

/-- The tokens of units read on from a state. -/
def lexFrom? : LexState → List (Option Char) → Option (List Token)
  | state, [] => finish? state
  | state, unit :: rest =>
    match step? state unit with
    | none => none
    | some (tokens, next) => (lexFrom? next rest).map (tokens ++ ·)

/-- The tokens of units. -/
def ofUnits? (units : List (Option Char)) : Option (List Token) :=
  lexFrom? .between units

end Token

end LayeredSettings.Json
