import LayeredSettings.Yaml.Cursor

set_option autoImplicit false

/-! # Scalars as written

The three ways to write a scalar: plain, in quotes, and as a block of indented lines. Each scanner
gives the text that the scalar stands for and the cursor behind it. Loops run on fuel that the
length of the text bounds, for every round reads at least one character. -/

namespace LayeredSettings.Yaml

/-! ## Plain scalars -/

/-- The brackets and the comma, which end a plain scalar inside a flow collection. -/
def isFlowIndicator (c : Char) : Bool :=
  c == ',' || c == '[' || c == ']' || c == '{' || c == '}'

/-- The characters of a plain scalar up to a gap or to what ends the scalar, and the rest. Inside a
    flow collection a colon right before an indicator is refused. -/
def plainChunk? (flow : Bool) : List Char → Option (List Char × List Char)
  | [] => some ([], [])
  | c :: rest =>
    if isGap c then some ([], c :: rest)
    else if flow && c == ':' && (rest.head?.any fun x => isFlowIndicator x || x == '?') then none
    else if c == ':' && Cursor.startsGap rest then some ([], c :: rest)
    else if flow && isFlowIndicator c then some ([], c :: rest)
    else (plainChunk? flow rest).map fun (chunk, more) => (c :: chunk, more)

/-- A scanned scalar; `brokenAfter` tells that a line break follows before the next token. -/
structure Scanned where
  text : List Char
  brokenAfter : Bool
  next : Cursor

/-- A plain scalar read on after `text` and `gap`. It goes on over lines that are indented at least
    `indent` columns, and ends at a comment or a document mark. -/
def plainFrom? (flow : Bool) (indent : Nat) : Nat → List Char → Gap → Cursor → Option Scanned
  | 0, _, _, _ => none
  | fuel + 1, text, gap, c =>
    if c.atDocumentMark || c.sees '#' then some ⟨text, !gap.breaks.isEmpty, c⟩
    else do
      let (chunk, rest) ← plainChunk? flow c.rest
      let (text, gap) := if chunk.isEmpty then (text, gap) else (text ++ gap.folded ++ chunk, {})
      let c := c.moveTo rest
      if c.seesWhere isGap then
        let (gap, c) ← Gap.scan? indent false c
        if !flow && c.column < indent then some ⟨text, !gap.breaks.isEmpty, c⟩
        else plainFrom? flow indent fuel text gap c
      else some ⟨text, !gap.breaks.isEmpty, c⟩

/-- The plain scalar at a cursor. -/
def plain? (flow : Bool) (indent : Nat) (c : Cursor) : Option Scanned :=
  plainFrom? flow indent (c.rest.length + 1) [] {} c

/-! ## Quoted scalars -/

/-- The characters of a single-quoted scalar up to a gap or the closing quote, and the rest. -/
def singleChunk : List Char → List Char × List Char
  | '\'' :: '\'' :: rest =>
    let (chunk, more) := singleChunk rest
    ('\'' :: chunk, more)
  | '\'' :: rest => ([], '\'' :: rest)
  | c :: rest =>
    if isGap c then ([], c :: rest)
    else
      let (chunk, more) := singleChunk rest
      (c :: chunk, more)
  | [] => ([], [])

/-- What a one-letter escape stands for. -/
def escape? : Char → Option Char
  | '0' => some '\x00'
  | 'a' => some '\x07'
  | 'b' => some '\x08'
  | 't' => some '\t'
  | '\t' => some '\t'
  | 'n' => some '\n'
  | 'v' => some '\x0b'
  | 'f' => some '\x0c'
  | 'r' => some '\r'
  | 'e' => some '\x1b'
  | ' ' => some ' '
  | '"' => some '"'
  | '/' => some '/'
  | '\\' => some '\\'
  | 'N' => some '\u0085'
  | '_' => some '\u00a0'
  | 'L' => some '\u2028'
  | 'P' => some '\u2029'
  | _ => none

/-- How many hexadecimal digits follow an escape letter. -/
def codeLength? : Char → Option Nat
  | 'x' => some 2
  | 'u' => some 4
  | 'U' => some 8
  | _ => none

/-- The value of a hexadecimal digit. -/
def hexDigit? (c : Char) : Option Nat :=
  if '0' ≤ c ∧ c ≤ '9' then some (c.toNat - '0'.toNat)
  else if 'a' ≤ c ∧ c ≤ 'f' then some (c.toNat - 'a'.toNat + 10)
  else if 'A' ≤ c ∧ c ≤ 'F' then some (c.toNat - 'A'.toNat + 10)
  else none

/-- The character with a code point; surrogates and numbers beyond the last plane are none. -/
def charOfCode? (n : Nat) : Option Char :=
  if (0xD800 ≤ n ∧ n ≤ 0xDFFF) ∨ 0x10FFFF < n then none else some (Char.ofNat n)

/-- The character of an escape whose backslash has been read, and the rest. -/
def escapeSequence? : List Char → Option (Char × List Char)
  | [] => none
  | letter :: rest =>
    match codeLength? letter with
    | none => (escape? letter).map fun c => (c, rest)
    | some n => do
      let digits := rest.take n
      if digits.length ≠ n then none
      else
        let code ← digits.foldlM (fun acc c => (hexDigit? c).map (acc * 16 + ·)) 0
        let c ← charOfCode? code
        some (c, rest.drop n)

/-- The characters of a double-quoted scalar up to a gap, an escaped break or the closing quote, and
    the rest. -/
def doubleChunk? : Nat → List Char → Option (List Char × List Char)
  | 0, _ => none
  | _ + 1, [] => some ([], [])
  | fuel + 1, c :: rest =>
    if isGap c || c == '"' then some ([], c :: rest)
    else if c == '\\' then
      if rest.head?.any isBreak then some ([], c :: rest)
      else do
        let (e, rest) ← escapeSequence? rest
        let (chunk, more) ← doubleChunk? fuel rest
        some (e :: chunk, more)
    else (doubleChunk? fuel rest).map fun (chunk, more) => (c :: chunk, more)

/-- A quoted scalar read on after `text`, up to its closing quote. A document mark inside is
    refused. -/
def quotedFrom? (single : Bool) : Nat → List Char → Cursor → Option Scanned
  | 0, _, _ => none
  | fuel + 1, text, c =>
    if c.atDocumentMark || c.rest.isEmpty then none
    else do
      let (chunk, rest) ←
        if single then some (singleChunk c.rest) else doubleChunk? (c.rest.length + 1) c.rest
      let text := text ++ chunk
      let c := c.moveTo rest
      let quote := if single then '\'' else '"'
      if c.sees quote then some ⟨text, false, c.forward 1⟩
      else if c.sees '\\' then
        let c := (c.forward 1).nextLine
        if c.sees quote then some ⟨text, false, c.forward 1⟩
        else
          let (gap, c) ← Gap.scan? 0 true c
          quotedFrom? single fuel (text ++ gap.breaks) c
      else
        let (gap, c) ← Gap.scan? 0 false c
        quotedFrom? single fuel (text ++ gap.folded) c

/-- The quoted scalar whose opening quote is at a cursor. -/
def quoted? (single : Bool) (c : Cursor) : Option Scanned :=
  quotedFrom? single (c.rest.length + 1) [] (c.forward 1)

/-! ## Block scalars -/

/-- What becomes of the line breaks at the end of a block scalar. -/
inductive Chomping where
  | strip
  | clip
  | keep
deriving DecidableEq

/-- The signs behind the bar or the bracket of a block scalar; indentation zero is the default. -/
structure BlockHeader where
  chomping : Chomping := .clip
  increment : Nat := 0

/-- The chomping sign at the start of a text. -/
def chompingSign : List Char → Option Chomping × List Char
  | '+' :: rest => (some .keep, rest)
  | '-' :: rest => (some .strip, rest)
  | rest => (none, rest)

/-- The indentation sign at the start of a text, a digit from one to nine; zero is refused. -/
def indentSign? : List Char → Option (Nat × List Char)
  | [] => some (0, [])
  | c :: rest =>
    if c = '0' then none
    else if '1' ≤ c ∧ c ≤ '9' then some (c.toNat - '0'.toNat, rest)
    else some (0, c :: rest)

/-- The header signs in either order. -/
def blockHeader? (cs : List Char) : Option (BlockHeader × List Char) :=
  match chompingSign cs with
  | (some chomping, rest) => (indentSign? rest).map fun (n, rest) => (⟨chomping, n⟩, rest)
  | (none, rest) =>
    (indentSign? rest).map fun (n, rest) =>
      if n = 0 then ({}, rest)
      else
        match chompingSign rest with
        | (some chomping, rest) => (⟨chomping, n⟩, rest)
        | (none, rest) => (⟨.clip, n⟩, rest)

/-- The empty lines and the indentation before the next line of a block scalar: the breaks, the
    widest indentation met and the cursor. While the indentation is unknown (zero) all spaces count.
    -/
def blockBreaks? (indent : Nat) : Nat → Nat → List Char → Cursor → Option (List Char × Nat × Cursor)
  | 0, _, _, _ => none
  | fuel + 1, widest, breaks, c =>
    let spaces := (c.rest.takeWhile (· == ' ')).length
    let c := c.forward (if indent = 0 then spaces else min spaces (indent - c.column))
    let widest := max widest c.column
    if (indent = 0 ∨ c.column < indent) ∧ c.sees '\t' then none
    else
      match c.rest with
      | x :: _ =>
        if isBreak x then blockBreaks? indent fuel widest (breaks ++ [x]) c.nextLine
        else some (breaks, widest, c)
      | [] => some (breaks, widest, c)

/-- What the lines of a block scalar have given so far. -/
structure BlockLines where
  text : List Char := []
  /-- The break after the last line. -/
  lastBreak : List Char := []
  /-- The breaks of empty lines since then. -/
  emptyBreaks : List Char := []
  /-- The last line starts with a space or tab. -/
  indentedLine : Bool := false

/-- The break between two lines as it reads: folded to a space between lines that are not further
    indented, if the scalar is folded and no empty line comes between. -/
def BlockLines.joined (l : BlockLines) (folding startsBlank : Bool) : List Char :=
  let first :=
    if folding && l.lastBreak == ['\n'] && !l.indentedLine && !startsBlank then
      (if l.emptyBreaks.isEmpty then [' '] else [])
    else l.lastBreak
  l.text ++ first ++ l.emptyBreaks

/-- The lines of a block scalar of known indentation, read on after `l`. -/
def blockLines? (folding : Bool) (indent : Nat) :
    Nat → BlockLines → Cursor → Option (BlockLines × Cursor)
  | 0, _, _ => none
  | fuel + 1, l, c =>
    if c.column = indent ∧ !c.rest.isEmpty then do
      let startsBlank := c.seesWhere isSpaceOrTab
      let line := c.rest.takeWhile (fun x => !isBreak x)
      let text := l.joined folding startsBlank ++ line
      let c := c.moveTo (c.rest.dropWhile (fun x => !isBreak x))
      let lastBreak := c.rest.take 1
      let c := c.nextLine
      let (emptyBreaks, _, c) ← blockBreaks? indent (c.rest.length + 1) 0 [] c
      blockLines? folding indent fuel ⟨text, lastBreak, emptyBreaks, startsBlank⟩ c
    else some (l, c)

/-- The text of a block scalar, its last breaks kept as the chomping says. -/
def BlockLines.chomped (l : BlockLines) : Chomping → List Char
  | .strip => l.text
  | .clip => l.text ++ l.lastBreak
  | .keep => l.text ++ l.lastBreak ++ l.emptyBreaks

/-- The block scalar whose bar or bracket is at a cursor, inside a block indented `parent` columns
    (`-1` at the top). Without an indentation sign its first line that is not empty sets the
    indentation. -/
def block? (folding : Bool) (parent : Int) (c : Cursor) : Option Scanned := do
  let c := c.forward 1
  let (header, rest) ← blockHeader? c.rest
  let c := ((c.moveTo rest).skipWhile isSpaceOrTab).skipComment
  if !c.atLineEnd then none
  else
    let c := c.nextLine
    let known := if header.increment = 0 then 0 else header.increment + parent.toNat
    let (breaks, widest, c) ← blockBreaks? known (c.rest.length + 1) 0 [] c
    let indent := if known = 0 then max widest (max (parent + 1).toNat 1) else known
    let (lines, c) ← blockLines? folding indent (c.rest.length + 1) { emptyBreaks := breaks } c
    some ⟨lines.chomped header.chomping, false, c⟩

end LayeredSettings.Yaml
