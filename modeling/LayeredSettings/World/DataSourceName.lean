import LayeredSettings.World.Opening

set_option autoImplicit false

/-! # Data source names of database files

The name of a data source is a URL. What follows its scheme is first written the way the URL
standard does (`DataSourceName.content?`): behind two slashes stands an authority, with a host that
may not hold certain characters and a port that is a number, and dot segments of the path behind it
are resolved. The content up to a question mark names the file, percent escapes decoded; behind it
stand options (`DataSourceName.opening?`). -/

namespace LayeredSettings.DataSourceName

/-! ## Authorities -/

/-- The characters escaped in user names and passwords. -/
def escapedInUser (c : Char) : Bool :=
  Url.escapedInPath c || "/:;=@[\\]^|".toList.contains c

/-- A user name and a password, escaped, with an at sign behind them unless both are empty. -/
def userText (cs : List Char) : List Char :=
  let name := cs.takeWhile (· != ':')
  let password := cs.drop (name.length + 1)
  let both :=
    Url.escape escapedInUser name
      ++ (if password.isEmpty then [] else ':' :: Url.escape escapedInUser password)
  if both.isEmpty then [] else both ++ ['@']

/-- The user in front of the last at sign of an authority, and what follows that sign. Nobody may
    stand in front of the sign if something else than a host follows it. -/
def user? (front tail : List Char) : Option (List Char × List Char) :=
  let zone := front.takeWhile (· != '/')
  let path := front.drop zone.length
  let host := (zone.reverse.takeWhile (· != '@')).reverse
  if host.length = zone.length then some ([], front)
  else
    let user := zone.take (zone.length - host.length - 1)
    if user.isEmpty && host.isEmpty && !(path.isEmpty && tail.isEmpty) then none
    else some (userText user, host ++ path)

/-- A character that a host may not hold. -/
def forbiddenInHost (c : Char) : Bool :=
  c == '\x00' || " #/:<>?@[\\]^|".toList.contains c

/-- The text of a host: an address in square brackets, or any other allowed characters as they are.
    -/
def hostText? (cs : List Char) : Option (List Char) :=
  match cs with
  | '[' :: _ => Ipv6.bracketed? cs
  | _ => if cs.any forbiddenInHost then none else some cs

/-- The port at the start of a text, without leading zeros, and what follows it. The colon of a port
    that is left out goes as well. -/
def port? : List Char → Option (List Char × List Char)
  | ':' :: cs =>
    let digits := cs.takeWhile Text.isDigit
    let rest := cs.drop digits.length
    let n := Text.decimalValue digits
    if 65535 < n || !(rest.head?.all fun c => c == '/' || c == '\\') then none
    else some (if digits.isEmpty then [] else ':' :: (toString n).toList, rest)
  | cs => some ([], cs)

/-- A path with its dot segments resolved; a slash is put in front of it if there is none. -/
def pathText (cs : List Char) : List Char :=
  if cs.isEmpty then []
  else
    let relative := if cs.head? == some '/' then cs.drop 1 else cs
    (Url.resolveDots [] (Text.pieces (· == '/') relative)).flatMap ('/' :: ·)

/-- An authority and the path behind it. A user or a port needs a host. -/
def authorityText? (front tail : List Char) : Option (List Char) := do
  let (user, rest) ← user? front tail
  let written := Url.hostOf false rest
  let host ← hostText? written
  let behind := rest.drop written.length
  if host.isEmpty && (!user.isEmpty || behind.head? == some ':') then none
  else
    let (port, path) ← port? behind
    some (user ++ host ++ port ++ pathText path)

/-! ## Contents -/

/-- What follows the scheme, written in the standard way. -/
def standardText? (cs : List Char) : Option (List Char) :=
  match cs with
  | '/' :: '/' :: rest =>
    let front := rest.takeWhile fun c => !(c == '?' || c == '#')
    let tail := rest.drop front.length
    (authorityText? front tail).map (· ++ tail)
  | plain => some plain

/-- The text without schemes in front of it. -/
def dropSchemes : List Char → List Char
  | 's' :: 'q' :: 'l' :: 'i' :: 't' :: 'e' :: ':' :: rest => dropSchemes rest
  | cs => cs

/-- What a data source name says behind its scheme, however often that is repeated. -/
def content? (dsn : String) : Option (List Char) :=
  match (Url.cleaned dsn.toList).dropWhile (· != ':') with
  | [] => none
  | _ :: rest => (standardText? rest).map dropSchemes

/-! ## Options -/

/-- What the options of a data source name ask for. -/
structure Options where
  readOnly : Bool := false
  create : Bool := false
  inMemory : Bool := false
  immutableFile : Bool := false
  layer : Option String := none
deriving DecidableEq, Repr

namespace Options

/-- The options with one more of them; unknown ones are refused. -/
def withOption? (o : Options) (p : String × String) : Option Options :=
  match p with
  | ("mode", "ro") => some { o with readOnly := true }
  | ("mode", "rw") => some o
  | ("mode", "rwc") => some { o with create := true }
  | ("mode", "memory") => some { o with inMemory := true }
  | ("cache", "private") => some o
  | ("cache", "shared") => some o
  | ("immutable", "true") => some { o with immutableFile := true }
  | ("immutable", "1") => some { o with immutableFile := true }
  | ("immutable", "false") => some { o with immutableFile := false }
  | ("immutable", "0") => some { o with immutableFile := false }
  | ("vfs", layer) => some { o with layer := some layer }
  | _ => none

/-- The text of a name or a value: plus signs stand for spaces. -/
def formText (cs : List Char) : String :=
  Utf8.decodeLossy (Url.unescapeOctets (cs.map fun c => if c == '+' then ' ' else c))

/-- The options behind the question mark. -/
def ofChars? (cs : List Char) : Option Options :=
  (Opening.parameters formText cs).foldlM withOption? {}

/-- The mode that the options ask for. -/
def mode (o : Options) : OpenMode :=
  let cut (layer : String) : String := Utf8.decodeLossy (Opening.untilNul (Utf8.encode layer))
  { access := if o.readOnly then .read else if o.create then .create else .write
    inMemory := o.inMemory
    layer := o.layer.map cut }

/-- What a file name opens under the options. Where the file is immutable or a layer is given the
    name counts up to a NUL and is never a file URI; elsewhere it may hold no NUL. -/
def opening? (o : Options) (name : String) : Option Opening :=
  if o.immutableFile || o.layer.isSome then
    Opening.ofFile? (Opening.untilNul (Utf8.encode name)) o.mode
  else if name.toList.contains '\x00' then none
  else Opening.ofName? name o.mode

end Options

/-- What a data source name opens. -/
def opening? (dsn : String) : Option Opening := do
  let content ← content? dsn
  let name := content.takeWhile (· != '?')
  if name == ":memory:".toList then
    (Options.ofChars? (content.drop (name.length + 1))).map fun _ => .memory
  else
    let text ← Url.unescape? name
    let options ← Options.ofChars? (content.drop (name.length + 1))
    options.opening? text

end LayeredSettings.DataSourceName
