import LayeredSettings.Octets.Utf8
import LayeredSettings.Yaml.Scalar

set_option autoImplicit false

/-! # Tokens of a YAML text

Indentation is turned into tokens: a line that is indented further opens a block, a line that is
indented less closes the blocks it leaves. A `key` token is put in front of what turns out to be a
key once its colon is met; until then the place is remembered (`PossibleKey`). Such a key must end
on its own line and within 1024 octets. -/

namespace LayeredSettings.Yaml

/-- A tag or a part of one, as octets: percent escapes may write any. It ends before its first NUL.
    -/
abbrev TagOctets := List UInt8

/-- A token of a YAML text. -/
inductive Token where
  | versionDirective (major minor : Nat)
  | tagDirective (handle : String) (stem : TagOctets)
  | documentStart
  | documentEnd
  | blockListStart
  | blockMapStart
  | blockEnd
  | flowListStart
  | flowListEnd
  | flowMapStart
  | flowMapEnd
  | blockEntry
  | flowEntry
  | key
  | value
  | alias (name : String)
  | anchor (name : String)
  | tag (handle : String) (suffix : TagOctets)
  | scalar (text : String) (plain : Bool)
  | streamEnd
deriving DecidableEq

/-! ## Words of directives, anchors and tags -/

/-- The name at a cursor, perhaps empty, and the cursor behind it. -/
def scanName (c : Cursor) : String × Cursor :=
  (String.ofList (c.rest.takeWhile isNameChar), c.skipWhile isNameChar)

/-- A number of one to nine digits. -/
def versionNumber? (c : Cursor) : Option (Nat × Cursor) :=
  let isDigit (x : Char) : Bool := '0' ≤ x && x ≤ '9'
  let digits := c.rest.takeWhile isDigit
  if digits.isEmpty || 9 < digits.length then none
  else some (digits.foldl (fun n x => n * 10 + (x.toNat - '0'.toNat)) 0, c.skipWhile isDigit)

/-- A tag handle: an exclamation mark, a name and perhaps a second mark. In a directive the second
    mark may be missing only if the name is empty. -/
def tagHandle? (directive : Bool) (c : Cursor) : Option (String × Cursor) :=
  if !c.sees '!' then none
  else
    let (name, c) := scanName (c.forward 1)
    if c.sees '!' then some ("!" ++ name ++ "!", c.forward 1)
    else if directive && name != "" then none
    else some ("!" ++ name, c)

/-- A character of a tag; commas and square brackets only inside angle brackets and directives. -/
def isTagChar (verbatim : Bool) (c : Char) : Bool :=
  isNameChar c || ";/?:@&=+$.%!~*'()".toList.contains c || (verbatim && ",[]".toList.contains c)

/-- The number of octets that a first octet announces. -/
def octetCount? (octet : UInt8) : Option Nat :=
  if octet < 0x80 then some 1
  else if octet / 0x20 = 0x6 then some 2
  else if octet / 0x10 = 0xE then some 3
  else if octet / 0x8 = 0x1E then some 4
  else none

/-- An octet written as a percent sign and two hexadecimal digits. -/
def escapedOctet? : List Char → Option (UInt8 × List Char)
  | '%' :: a :: b :: rest => do
    let high ← hexDigit? a
    let low ← hexDigit? b
    some (UInt8.ofNat (high * 16 + low), rest)
  | _ => none

/-- As many escaped octets that continue a character. -/
def continuation? : Nat → List Char → Option (TagOctets × List Char)
  | 0, rest => some ([], rest)
  | n + 1, rest => do
    let (octet, rest) ← escapedOctet? rest
    if octet / 0x40 = 0x2 then
      (continuation? n rest).map fun (more, rest) => (octet :: more, rest)
    else none

/-- An escaped first octet with as many escaped octets behind it as it announces. What character
    they make, if any, does not matter. -/
def escapedOctets? (cs : List Char) : Option (TagOctets × List Char) := do
  let (octet, rest) ← escapedOctet? cs
  let count ← octetCount? octet
  let (more, rest) ← continuation? (count - 1) rest
  some (octet :: more, rest)

/-- The octets of the tag at the start of a text, percent escapes decoded. -/
def tagOctets? (verbatim : Bool) : Nat → List Char → Option (TagOctets × List Char)
  | 0, _ => none
  | _ + 1, [] => some ([], [])
  | fuel + 1, c :: rest =>
    if !isTagChar verbatim c then some ([], c :: rest)
    else do
      let (octets, rest) ←
        if c = '%' then escapedOctets? (c :: rest) else some (String.utf8EncodeChar c, rest)
      let (more, rest) ← tagOctets? verbatim fuel rest
      some (octets ++ more, rest)

/-- The tag text at a cursor, perhaps empty, up to a NUL, and the cursor behind it. -/
def tagText? (verbatim : Bool) (c : Cursor) : Option (TagOctets × Cursor) :=
  (tagOctets? verbatim (c.rest.length + 1) c.rest).map fun (octets, rest) =>
    (octets.takeWhile (· != 0), c.moveTo rest)

/-- A tag text of at least one character. -/
def someTagText? (verbatim : Bool) (c : Cursor) : Option (TagOctets × Cursor) :=
  if c.seesWhere (isTagChar verbatim) then tagText? verbatim c else none

/-- The tag token at a cursor: `!<text>`, `!handle!text` or `!text`; a lone mark has an empty
    handle. -/
def scanTag? (flow : Bool) (c : Cursor) : Option (Token × Cursor) := do
  let (handle, suffix, c) ←
    if c.rest.take 2 == ['!', '<'] then do
      let (text, c) ← someTagText? true (c.forward 2)
      if c.sees '>' then some ("", text, c.forward 1) else none
    else do
      let (handle, behind) ← tagHandle? false c
      if 1 < handle.length && handle.toList.getLast? == some '!' then
        let (text, c) ← someTagText? false behind
        some (handle, text, c)
      else
        let (text, c) ← tagText? false behind
        let suffix := (Utf8.encode handle).drop 1 ++ text
        some (if suffix.isEmpty then ("", Utf8.encode "!", c) else ("!", suffix, c))
  if (flow && c.sees ',') || c.gapAt 0 then some (.tag handle suffix, c) else none

/-- The anchor or alias name behind the sign at a cursor. -/
def anchorName? (c : Cursor) : Option (String × Cursor) :=
  let (name, c) := scanName (c.forward 1)
  if name == "" then none
  else if c.gapAt 0 || c.seesWhere (fun x => "?:,]\x7d%@\x60".toList.contains x) then some (name, c)
  else none

/-- The directive whose percent sign is at a cursor, and the cursor at the next line. -/
def scanDirective? (c : Cursor) : Option (Token × Cursor) := do
  let (name, c) := scanName (c.forward 1)
  if !c.gapAt 0 then none
  else
    let c := c.skipWhile isSpaceOrTab
    let (token, c) ←
      if name == "YAML" then do
        let (major, c) ← versionNumber? c
        if !c.sees '.' then none
        else
          let (minor, c) ← versionNumber? (c.forward 1)
          some (Token.versionDirective major minor, c)
      else if name == "TAG" then do
        let (handle, c) ← tagHandle? true c
        if !c.seesWhere isSpaceOrTab then none
        else
          let (stem, c) ← someTagText? true (c.skipWhile isSpaceOrTab)
          if c.gapAt 0 then some (Token.tagDirective handle stem, c) else none
      else none
    let c := (c.skipWhile isSpaceOrTab).skipComment
    if c.atLineEnd then some (token, c.nextLine) else none

/-! ## The lexer -/

/-- A place where a key may turn out to start. -/
structure PossibleKey where
  /-- The block needs a key here, for the place stands at its indentation. -/
  required : Bool
  /-- How many tokens came before. -/
  position : Nat
  start : Cursor

/-- Whether a possible key can no longer be one at this cursor. -/
def PossibleKey.isStale (k : PossibleKey) (c : Cursor) : Bool :=
  k.start.line < c.line || k.start.index + 1024 < c.index

/-- What the lexer has read, and where it stands. -/
structure Lexer where
  cursor : Cursor
  /-- The tokens so far, the last one first. -/
  reversed : List Token := []
  /-- Indentation of the innermost block, `-1` outside of blocks. -/
  indent : Int := -1
  /-- Indentations of the blocks around it. -/
  outer : List Int := []
  /-- Whether a key may start here. -/
  keyAllowed : Bool := true
  /-- A possible key for each open flow collection, the innermost first, and one for the block. -/
  keys : List (Option PossibleKey) := [none]
  finished : Bool := false

namespace Lexer

/-- Inside a flow collection. -/
def inFlow (l : Lexer) : Bool :=
  1 < l.keys.length

/-- The lexer with a token added. -/
def push (t : Token) (l : Lexer) : Lexer :=
  { l with reversed := t :: l.reversed }

/-- The lexer with a token inserted before the last ones, behind the first `position`. -/
def insertAt (position : Nat) (t : Token) (l : Lexer) : Lexer :=
  let later := l.reversed.length - position
  { l with reversed := l.reversed.take later ++ t :: l.reversed.drop later }

/-- The lexer with a token added that takes up `n` characters. -/
def pushOver (n : Nat) (t : Token) (l : Lexer) : Lexer :=
  { l with reversed := t :: l.reversed, cursor := l.cursor.forward n }

/-- Close every block that is indented further than `column`. -/
def closeBlocksFrom (column : Int) : Int → List Int → List Token → Int × List Int × List Token
  | indent, [], tokens => (indent, [], tokens)
  | indent, parent :: outer, tokens =>
    if column < indent then closeBlocksFrom column parent outer (.blockEnd :: tokens)
    else (indent, parent :: outer, tokens)

/-- Close the blocks that a token at `column` leaves; nothing inside a flow collection. -/
def closeBlocks (column : Int) (l : Lexer) : Lexer :=
  if l.inFlow then l
  else
    let (indent, outer, reversed) := closeBlocksFrom column l.indent l.outer l.reversed
    { l with indent, outer, reversed }

/-- Open a block at `column` if that is further indented; its token goes behind the first `position`
    tokens. Nothing inside a flow collection. -/
def openBlock (column : Nat) (position : Nat) (t : Token) (l : Lexer) : Lexer :=
  if l.inFlow || (column : Int) ≤ l.indent then l
  else { insertAt position t l with indent := column, outer := l.indent :: l.outer }

/-- Open a block at the cursor. -/
def openBlockHere (t : Token) (l : Lexer) : Lexer :=
  openBlock l.cursor.column l.reversed.length t l

/-- Forget the possible keys that a line end or 1024 octets lie behind; a required one is missed. -/
def dropStaleKeys? (l : Lexer) : Option Lexer := do
  let keys ← l.keys.mapM fun slot =>
    match slot with
    | none => some none
    | some k =>
      if k.isStale l.cursor then (if k.required then none else some none)
      else some (some k)
  some { l with keys }

/-- Forget the possible key of the innermost collection; a required one is missed. -/
def forgetKey? (l : Lexer) : Option Lexer :=
  match l.keys with
  | some k :: outer => if k.required then none else some { l with keys := none :: outer }
  | _ => some l

/-- Note that a key may start at the cursor. -/
def noteKey? (l : Lexer) : Option Lexer :=
  if !l.keyAllowed then some l
  else do
    let required := !l.inFlow && l.indent == (l.cursor.column : Int)
    let l ← l.forgetKey?
    some { l with keys := some ⟨required, l.reversed.length, l.cursor⟩ :: l.keys.drop 1 }

/-- Skip blanks, comments, line ends and a byte order mark at the start of a line. Tabs count as
    blanks where no key may start. A new line of a block may start a key. -/
def skipGaps : Nat → Lexer → Lexer
  | 0, l => l
  | fuel + 1, l =>
    let tabs := l.inFlow || !l.keyAllowed
    let isBlank (x : Char) : Bool := x == ' ' || (tabs && x == '\t')
    let c := (l.cursor.skipByteOrderMark.skipWhile isBlank).skipComment
    if c.seesWhere isBreak then
      skipGaps fuel { l with cursor := c.nextLine, keyAllowed := l.keyAllowed || !l.inFlow }
    else { l with cursor := c }

/-- The end of the text: all blocks close. -/
def finish? (l : Lexer) : Option Lexer := do
  let l ← (l.closeBlocks (-1)).forgetKey?
  some { l.push .streamEnd with finished := true }

/-- A directive or document mark: all blocks close. -/
def betweenDocuments? (l : Lexer) : Option Lexer := do
  let l ← (l.closeBlocks (-1)).forgetKey?
  some { l with keyAllowed := false }

/-- An opening bracket. -/
def openFlow? (t : Token) (l : Lexer) : Option Lexer := do
  let l ← l.noteKey?
  some { l.pushOver 1 t with keys := none :: l.keys, keyAllowed := true }

/-- A closing bracket. -/
def closeFlow? (t : Token) (l : Lexer) : Option Lexer := do
  let l ← l.forgetKey?
  let keys := if l.inFlow then l.keys.drop 1 else l.keys
  some { l.pushOver 1 t with keys, keyAllowed := false }

/-- A dash before a gap. -/
def entry? (l : Lexer) : Option Lexer :=
  if !l.inFlow && !l.keyAllowed then none
  else do
    let l ← (l.openBlockHere .blockListStart).forgetKey?
    some { l.pushOver 1 .blockEntry with keyAllowed := true }

/-- A question mark that starts a key. -/
def complexKey? (l : Lexer) : Option Lexer :=
  if !l.inFlow && !l.keyAllowed then none
  else do
    let l ← (l.openBlockHere .blockMapStart).forgetKey?
    some { l.pushOver 1 .key with keyAllowed := !l.inFlow }

/-- A colon that ends a key: the possible key that is noted, or a key after a question mark. -/
def value? (l : Lexer) : Option Lexer :=
  match l.keys with
  | some k :: outer =>
    let l := openBlock k.start.column k.position .blockMapStart (insertAt k.position .key l)
    some { l.pushOver 1 .value with keys := none :: outer, keyAllowed := false }
  | _ =>
    if !l.inFlow && !l.keyAllowed then none
    else
      let l := l.openBlockHere .blockMapStart
      some { l.pushOver 1 .value with keyAllowed := !l.inFlow }

/-- A token that may start a key, scanned by `scan`. -/
def keyed? (scan : Cursor → Option (Token × Cursor)) (l : Lexer) : Option Lexer := do
  let l ← l.noteKey?
  let (token, cursor) ← scan l.cursor
  some { l.push token with cursor, keyAllowed := false }

/-- A plain scalar; a new line behind it may start a key. -/
def plainScalar? (l : Lexer) : Option Lexer := do
  let l ← l.noteKey?
  let s ← plain? l.inFlow (l.indent + 1).toNat l.cursor
  some { l.push (.scalar (String.ofList s.text) true) with
    cursor := s.next, keyAllowed := s.brokenAfter }

/-- A block scalar; it cannot be a key. -/
def blockScalar? (folding : Bool) (l : Lexer) : Option Lexer := do
  let l ← l.forgetKey?
  let s ← block? folding l.indent l.cursor
  some { l.push (.scalar (String.ofList s.text) false) with cursor := s.next, keyAllowed := true }

/-- A character that cannot start a plain scalar. -/
def isIndicator (c : Char) : Bool :=
  "-?:,[]\x7b\x7d#&*!|>'\"%@\x60".toList.contains c

/-- Whether a plain scalar starts at a cursor: at no indicator, but for a dash before anything other
    than a space or tab and, outside of flow collections, a question mark or colon before no gap. -/
def startsPlain (flow : Bool) (c : Cursor) : Bool :=
  match c.rest with
  | [] => false
  | x :: rest =>
    (!isGap x && !isIndicator x)
      || (x == '-' && !(rest.head?.any isSpaceOrTab))
      || (!flow && (x == '?' || x == ':') && !Cursor.startsGap rest)

/-- Read one more token. -/
def step? (l : Lexer) : Option Lexer := do
  let l ← (l.skipGaps (l.cursor.rest.length + 1)).dropStaleKeys?
  let l := l.closeBlocks l.cursor.column
  let c := l.cursor
  let flow := l.inFlow
  match c.rest with
  | [] => l.finish?
  | x :: _ =>
    if c.column == 0 && x == '%' then do
      let l ← l.betweenDocuments?
      let (token, cursor) ← scanDirective? l.cursor
      some { l.push token with cursor }
    else if c.atDocumentMark then
      (l.betweenDocuments?).map (pushOver 3 (if x == '-' then .documentStart else .documentEnd))
    else if x == '[' then l.openFlow? .flowListStart
    else if x == '{' then l.openFlow? .flowMapStart
    else if x == ']' then l.closeFlow? .flowListEnd
    else if x == '}' then l.closeFlow? .flowMapEnd
    else if x == ',' then
      (l.forgetKey?).map fun l => { l.pushOver 1 .flowEntry with keyAllowed := true }
    else if x == '-' && c.gapAt 1 then l.entry?
    else if x == '?' && (flow || c.gapAt 1) then l.complexKey?
    else if x == ':' && (flow || c.gapAt 1) then l.value?
    else if x == '*' then l.keyed? fun c => (anchorName? c).map fun (n, c) => (.alias n, c)
    else if x == '&' then l.keyed? fun c => (anchorName? c).map fun (n, c) => (.anchor n, c)
    else if x == '!' then l.keyed? (scanTag? flow)
    else if x == '|' && !flow then l.blockScalar? false
    else if x == '>' && !flow then l.blockScalar? true
    else if x == '\'' || x == '"' then
      l.keyed? fun c => (quoted? (x == '\'') c).map fun s =>
        (.scalar (String.ofList s.text) false, s.next)
    else if startsPlain flow c then l.plainScalar?
    else none

/-- Read tokens up to the end of the text. -/
def run? : Nat → Lexer → Option Lexer
  | 0, _ => none
  | fuel + 1, l => if l.finished then some l else (l.step?).bind (run? fuel)

end Lexer

/-- The tokens of a text, `streamEnd` last. Every round but the last reads a character. -/
def Token.ofChars? (cs : List Char) : Option (List Token) := do
  let cs ← sourceChars? cs
  let l ← Lexer.run? (cs.length + 2) { cursor := Cursor.start cs }
  some l.reversed.reverse

end LayeredSettings.Yaml
