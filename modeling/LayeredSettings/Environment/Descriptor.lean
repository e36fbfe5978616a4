import LayeredSettings.Format
import LayeredSettings.Kind

set_option autoImplicit false

/-! # Source descriptors

The parameters of one source, as the environment gives them. A source takes part only if its
descriptor is wired: remote kinds need a name and an address, local kinds a name and a format. -/

namespace LayeredSettings

/-- The parameters of a source; empty ones are not given. -/
structure Descriptor where
  /-- File name, secret, key or table. -/
  name : String := ""
  /-- Declared format of the document. -/
  format : String := ""
  /-- Project, base URL or data source name. -/
  address : String := ""
  /-- Directories to look for a file in. -/
  paths : List String := []
  /-- Scopes of database rows. -/
  scopes : List String := []
  /-- Literal document. -/
  value : String := ""
deriving DecidableEq, Repr

namespace Descriptor

/-- Whether the source takes part. -/
def isWired (d : Descriptor) (kind : SourceKind) : Bool :=
  d.name != "" && (if kind.isRemote then d.address != "" else d.format != "")

/-- The first text, or the second if the first is empty. -/
def orText (s t : String) : String :=
  if s == "" then t else s

/-- The first list, or the second if the first is empty. -/
def orList (s t : List String) : List String :=
  if s.isEmpty then t else s

/-- The descriptor with its empty fields taken from another one. -/
def fillFrom (d other : Descriptor) : Descriptor where
  name := orText d.name other.name
  format := orText d.format other.format
  address := orText d.address other.address
  paths := orList d.paths other.paths
  scopes := orList d.scopes other.scopes
  value := orText d.value other.value

/-- The declared format, YAML if none is given. -/
def declaredFormat (d : Descriptor) : Except Error Format :=
  if d.format == "" then .ok .yaml else Format.ofName d.format

/-- The declared format, if one is given. -/
def declaredFormat? (d : Descriptor) : Except Error (Option Format) :=
  if d.format == "" then .ok none else (Format.ofName d.format).map some

end Descriptor

end LayeredSettings
