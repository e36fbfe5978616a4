import LayeredSettings.Text.Blank

set_option autoImplicit false

/-! # Lines of a dotenv file

A logical line is one physical line or, where a quote or an escape is still open at a line end,
several. A hash sign behind a blank starts a comment, which is cut off. What counts as open is
decided by `LineState`, which knows less than the reader of values: any character behind a blank
ends the blank. -/

namespace LayeredSettings.Dotenv

/-- What a place in a line is inside of. -/
inductive LineState where
  | plain
  /-- Behind a blank, where a comment may start. -/
  | blank
  | escape
  | weak
  | weakEscape
  | strong
  | strongEscape
deriving DecidableEq, Repr

namespace LineState

/-- The state behind a character outside of quotes and escapes. -/
def opened (c : Char) : LineState :=
  match c with
  | '\\' => .escape
  | '"' => .weak
  | '\'' => .strong
  | _ => .plain

/-- The state behind a character. -/
def next (state : LineState) (c : Char) : LineState :=
  match state with
  | .plain => if Text.isBlank c && c != '\n' && c != '\r' then .blank else opened c
  | .blank => opened c
  | .escape => .plain
  | .weak => if c = '\\' then .weakEscape else if c = '"' then .plain else .weak
  | .weakEscape => .weak
  | .strong => if c = '\\' then .strongEscape else if c = '\'' then .plain else .strong
  | .strongEscape => .strong

end LineState

/-- The physical lines of a text, each with its line feed. -/
def physicalLines : List Char → List (List Char)
  | [] => []
  | c :: rest =>
    if c = '\n' then [c] :: physicalLines rest
    else
      match physicalLines rest with
      | [] => [[c]]
      | line :: more => (c :: line) :: more

/-- Go over a physical line: what stands before a comment, and the state at the end if there is
    none. -/
def scanLine : LineState → List Char → List Char × Option LineState
  | state, [] => ([], some state)
  | state, c :: rest =>
    if state = .blank ∧ c = '#' then ([], none)
    else
      let (kept, last) := scanLine (state.next c) rest
      (c :: kept, last)

/-- Whether the first character that is not blank is a hash sign. -/
def isComment (line : List Char) : Bool :=
  (line.dropWhile Text.isBlank).head? == some '#'

/-- A line without its line end. -/
def dropLineEnd (line : List Char) : List Char :=
  match line.reverse with
  | '\n' :: '\r' :: rest => rest.reverse
  | '\n' :: rest => rest.reverse
  | _ => line

/-- The logical lines of physical ones, read on from a buffer and its state; `none` if the text ends
    inside a line. -/
def joinLines : List Char → LineState → List (List Char) → Option (List (List Char))
  | _, state, [] => if state = .plain then some [] else none
  | buffer, state, line :: rest =>
    if isComment (buffer ++ line) then joinLines [] .plain rest
    else
      let (kept, last) := scanLine state line
      match last with
      | none => (joinLines [] .plain rest).map ((buffer ++ kept) :: ·)
      | some .plain => (joinLines [] .plain rest).map (dropLineEnd (buffer ++ kept) :: ·)
      | some unfinished => joinLines (buffer ++ kept) unfinished rest

/-- The logical lines of a text. -/
def logicalLines (text : String) : Option (List (List Char)) :=
  joinLines [] .plain (physicalLines text.toList)

end LayeredSettings.Dotenv
