import LayeredSettings.World.Url

set_option autoImplicit false

/-! # Opening databases by name

A database file is opened by its name and a mode. A name that starts with `file:` is a file URI: it
writes the name with percent escapes and may give parameters, which narrow the mode
(`Opening.ofName?`). A database in memory has no file and starts without tables. -/

namespace LayeredSettings

/-- What may be done to a database file; each access includes those before it. -/
inductive Access where
  | read
  | write
  | create
deriving DecidableEq, Repr

namespace Access

/-- The place of an access among the others. -/
def rank : Access → Nat
  | read => 0
  | write => 1
  | create => 2

/-- The access that a word names. -/
def ofName? : String → Option Access
  | "ro" => some read
  | "rw" => some write
  | "rwc" => some create
  | _ => none

end Access

/-- How a database is to be opened. -/
structure OpenMode where
  access : Access := .write
  /-- The database lives in memory. -/
  inMemory : Bool := false
  /-- The name of the layer that reads files, if it is not the standard one. -/
  layer : Option String := none
deriving DecidableEq, Repr

namespace OpenMode

/-- The mode with another access. In memory any access may be asked for, and asking takes the
    database out of memory; a file cannot be given more access than it has. -/
def restrict? (m : OpenMode) (word : String) : Option OpenMode :=
  if word == "memory" then some { m with inMemory := true }
  else
    (Access.ofName? word).bind fun access =>
      if m.inMemory || access.rank ≤ m.access.rank then
        some { m with access := access, inMemory := false }
      else none

/-- The mode with a parameter of a file URI applied. Unknown parameters are ignored. -/
def withParameter? (m : OpenMode) (p : String × String) : Option OpenMode :=
  match p.1 with
  | "vfs" => some { m with layer := some p.2 }
  | "cache" => if p.2 == "shared" || p.2 == "private" then some m else none
  | "mode" => m.restrict? p.2
  | _ => some m

end OpenMode

/-- What is to be opened: a database in memory, or the file of a name. -/
inductive Opening where
  | memory
  | file (name : List UInt8) (access : Access)
deriving DecidableEq, Repr

namespace Opening

/-! ## Names -/

/-- The octets before the first NUL. -/
def untilNul (octets : List UInt8) : List UInt8 :=
  octets.takeWhile (· != 0)

/-- The layers that read the files of the current directory. -/
def fileLayers : List String :=
  ["unix", "unix-none", "unix-dotfile", "unix-excl"]

/-- What a name and a mode open. The empty name and `:memory:` name databases in memory, and so does
    every name under the layer for memory; unknown layers are refused. -/
def ofFile? (name : List UInt8) (m : OpenMode) : Option Opening :=
  let isFileLayer := (m.layer.map fileLayers.contains).getD true
  if m.layer == some "memdb" then some .memory
  else if !isFileLayer then none
  else if m.inMemory || name.isEmpty || name == Utf8.encode ":memory:" then some .memory
  else some (.file name m.access)

/-! ## File URIs -/

/-- The names and values between ampersands. A piece without equals sign has an empty value. -/
def parameters (decode : List Char → String) (cs : List Char) : List (String × String) :=
  (Text.runs (· == '&') cs).map fun piece =>
    let name := piece.takeWhile (· != '=')
    (decode name, decode (piece.drop (name.length + 1)))

/-- The octets of a part of a file URI, up to a NUL. -/
def uriOctets (cs : List Char) : List UInt8 :=
  untilNul (Url.unescapeOctets cs)

/-- The text of a part of a file URI. -/
def uriText (cs : List Char) : String :=
  Utf8.decodeLossy (uriOctets cs)

/-- What follows the host of a file URI, which can only be this machine. -/
def behindLocalHost? : List Char → Option (List Char)
  | '/' :: '/' :: rest =>
    let host := rest.takeWhile (· != '/')
    if host.isEmpty || host == "localhost".toList then some (rest.drop host.length) else none
  | cs => some cs

/-- What a file URI opens, its scheme left out. Parameters without a name and the fragment are
    ignored. -/
def ofUri? (cs : List Char) (m : OpenMode) : Option Opening := do
  let rest ← behindLocalHost? cs
  let body := rest.takeWhile (· != '#')
  let name := body.takeWhile (· != '?')
  let given := (parameters uriText (body.drop (name.length + 1))).filter fun p => p.1 != ""
  let mode ← given.foldlM OpenMode.withParameter? m
  ofFile? (uriOctets name) mode

/-- What a name opens, which may be a file URI. -/
def ofName? (name : String) (m : OpenMode) : Option Opening :=
  match name.toList with
  | 'f' :: 'i' :: 'l' :: 'e' :: ':' :: rest => ofUri? rest m
  | _ => ofFile? (Utf8.encode name) m

end Opening

end LayeredSettings
