set_option autoImplicit false

/-! # Characters and positions of a YAML text

A text may hold printable characters, tabs and line breaks only. It is read with the breaks CR LF,
CR and NEL turned into LF (`sourceChars?`). A `Cursor` is what is left of the text with the position
reached; scanners take a cursor and give the one behind what they read. -/

namespace LayeredSettings.Yaml

/-! ## Character classes -/

/-- Space or tab. -/
def isSpaceOrTab (c : Char) : Bool :=
  c == ' ' || c == '\t'

/-- A line break, once CR LF, CR and NEL have been turned into LF. -/
def isBreak (c : Char) : Bool :=
  c == '\n' || c == '\u2028' || c == '\u2029'

/-- Space, tab or line break. -/
def isGap (c : Char) : Bool :=
  isSpaceOrTab c || isBreak c

/-- A letter, a digit, a dash or an underscore: the characters of anchors and tag handles. -/
def isNameChar (c : Char) : Bool :=
  ('0' ≤ c && c ≤ '9') || ('a' ≤ c && c ≤ 'z') || ('A' ≤ c && c ≤ 'Z') || c == '_' || c == '-'

/-- A character that a YAML text may hold. -/
def isAllowed (c : Char) : Bool :=
  let n := c.toNat
  n == 0x9 || n == 0xA || n == 0xD || (0x20 ≤ n && n ≤ 0x7E) || n == 0x85
    || (0xA0 ≤ n && n ≤ 0xD7FF) || (0xE000 ≤ n && n ≤ 0xFFFD) || 0x10000 ≤ n

/-- The text with CR LF, CR and NEL written as LF. -/
def unifyBreaks : List Char → List Char
  | '\r' :: '\n' :: rest => '\n' :: unifyBreaks rest
  | '\r' :: rest => '\n' :: unifyBreaks rest
  | '\u0085' :: rest => '\n' :: unifyBreaks rest
  | c :: rest => c :: unifyBreaks rest
  | [] => []

/-- The characters to read, breaks unified; `none` if one is not allowed. -/
def sourceChars? (cs : List Char) : Option (List Char) :=
  if cs.all isAllowed then some (unifyBreaks cs) else none

/-! ## Cursors -/

/-- What is left of a text, and where it starts. -/
structure Cursor where
  rest : List Char
  /-- The octets before it in UTF-8. -/
  index : Nat
  line : Nat
  /-- The characters before it on its line. -/
  column : Nat

/-- The number of octets that characters take up in UTF-8. -/
def octetsOf (cs : List Char) : Nat :=
  cs.foldl (fun n c => n + c.utf8Size) 0

namespace Cursor

/-- The start of a text. -/
def start (cs : List Char) : Cursor :=
  ⟨cs, 0, 0, 0⟩

/-- The next character. -/
def peek? (c : Cursor) : Option Char :=
  c.rest.head?

/-- Whether the next character is `x`. -/
def sees (c : Cursor) (x : Char) : Bool :=
  c.rest.head? == some x

/-- Whether the next character satisfies `p`; false at the end. -/
def seesWhere (c : Cursor) (p : Char → Bool) : Bool :=
  match c.rest with
  | [] => false
  | x :: _ => p x

/-- Whether the text is at its end, or at a space, tab or break. -/
def startsGap : List Char → Bool
  | [] => true
  | x :: _ => isGap x

/-- Whether what stands `n` characters on is the end or a space, tab or break. -/
def gapAt (c : Cursor) (n : Nat) : Bool :=
  startsGap (c.rest.drop n)

/-- The end of the text or of the line. -/
def atLineEnd (c : Cursor) : Bool :=
  match c.rest with
  | [] => true
  | x :: _ => isBreak x

/-- The cursor `n` characters further on its line. -/
def forward (c : Cursor) (n : Nat) : Cursor :=
  { c with
    rest := c.rest.drop n, index := c.index + octetsOf (c.rest.take n), column := c.column + n }

/-- The cursor behind the characters before `rest`, which hold no break. -/
def moveTo (c : Cursor) (rest : List Char) : Cursor :=
  c.forward (c.rest.length - rest.length)

/-- The cursor behind the characters of the line that satisfy `p`. -/
def skipWhile (c : Cursor) (p : Char → Bool) : Cursor :=
  c.moveTo (c.rest.dropWhile p)

/-- The cursor at the start of the next line, at a break; unchanged elsewhere. -/
def nextLine (c : Cursor) : Cursor :=
  match c.rest with
  | [] => c
  | x :: rest => if isBreak x then ⟨rest, c.index + x.utf8Size, c.line + 1, 0⟩ else c

/-- The cursor behind a byte order mark that starts a line. -/
def skipByteOrderMark (c : Cursor) : Cursor :=
  if c.column == 0 && c.sees '\ufeff' then c.forward 1 else c

/-- The cursor at the end of its line, behind a comment if one starts here. -/
def skipComment (c : Cursor) : Cursor :=
  if c.sees '#' then c.skipWhile (fun x => !isBreak x) else c

/-- A line that starts with three dashes or three dots and then a gap. -/
def atDocumentMark (c : Cursor) : Bool :=
  c.column == 0
    && (c.rest.take 3 == ['-', '-', '-'] || c.rest.take 3 == ['.', '.', '.'])
    && c.gapAt 3

end Cursor

/-! ## Gaps inside scalars -/

/-- Blanks and line breaks between two parts of a scalar: the blanks before the first break, and the
    breaks. Blanks after a break are dropped. -/
structure Gap where
  blanks : List Char := []
  breaks : List Char := []

namespace Gap

/-- What a gap stands for: its blanks, or its breaks with the first one folded: a single LF reads as
    a space, a first LF before other breaks as nothing. -/
def folded (g : Gap) : List Char :=
  match g.breaks with
  | [] => g.blanks
  | first :: more =>
    if first = '\n' then (if more.isEmpty then [' '] else more) else first :: more

/-- The gap at the start of a text and the cursor behind it. `broken` tells that a break came
    before; after a break, a tab left of `tabLimit` is refused. -/
def scanFrom? (tabLimit : Nat) (broken : Bool) (g : Gap) (index line column : Nat) :
    List Char → Option (Gap × Cursor)
  | [] => some (⟨g.blanks.reverse, g.breaks.reverse⟩, ⟨[], index, line, column⟩)
  | c :: rest =>
    if isSpaceOrTab c then
      if broken && column < tabLimit && c == '\t' then none
      else
        let g := if broken then g else { g with blanks := c :: g.blanks }
        scanFrom? tabLimit broken g (index + 1) line (column + 1) rest
    else if isBreak c then
      scanFrom? tabLimit true { g with breaks := c :: g.breaks } (index + c.utf8Size) (line + 1) 0
        rest
    else some (⟨g.blanks.reverse, g.breaks.reverse⟩, ⟨c :: rest, index, line, column⟩)

/-- The gap at a cursor. -/
def scan? (tabLimit : Nat) (broken : Bool) (c : Cursor) : Option (Gap × Cursor) :=
  scanFrom? tabLimit broken {} c.index c.line c.column c.rest

end Gap

end LayeredSettings.Yaml
