import LayeredSettings.Text.Ascii
import LayeredSettings.Text.Blank
import LayeredSettings.Text.Template

set_option autoImplicit false

/-! # Kinds of sources and the two targets

Settings come from five kinds of sources and feed two targets, configuration and secrets. A database
never holds secrets, so secrets have their own type of kinds, `SecretKind`, without it. -/

namespace LayeredSettings

/-- A kind of settings source. -/
inductive SourceKind where
  | stringVar
  | file
  | database
  | secretManager
  | keyValue
deriving DecidableEq, Repr

/-- What settings are for. -/
inductive Target where
  | config
  | secret
deriving DecidableEq, Repr

namespace SourceKind

/-- All kinds, by rank. -/
def all : List SourceKind :=
  [.stringVar, .file, .database, .secretManager, .keyValue]

/-- The name of a kind in recipes and answers. -/
def name : SourceKind → String
  | .stringVar => "local_string_var"
  | .file => "local_file"
  | .database => "remote_db"
  | .secretManager => "remote_secret_manager"
  | .keyValue => "remote_kv"

/-- The place of a kind in the default order, which decides between equal positions. -/
def rank : SourceKind → Nat
  | .stringVar => 1
  | .file => 2
  | .database => 3
  | .secretManager => 4
  | .keyValue => 5

/-- The kinds that need an address. -/
def isRemote : SourceKind → Bool
  | .stringVar => false
  | .file => false
  | .database => true
  | .secretManager => true
  | .keyValue => true

/-- The kind that a text names: blanks around it and ASCII case do not count, and a dash reads as an
    underscore. -/
def ofName? (text : String) : Option SourceKind :=
  let name := Text.replace "-" "_" (Text.lower (Text.trim text))
  all.find? fun kind => kind.name == name

end SourceKind

namespace Target

/-- Both targets in merge order. -/
def all : List Target := [.config, .secret]

/-- The name of a target. -/
def name : Target → String
  | .config => "config"
  | .secret => "secret"

/-- The name of a target in environment variables. -/
def token : Target → String
  | .config => "CONFIG"
  | .secret => "SECRET"

end Target

/-- A kind of source that may hold secrets. -/
inductive SecretKind where
  | stringVar
  | file
  | secretManager
  | keyValue
deriving DecidableEq, Repr

namespace SecretKind

/-- The same kind among all kinds. -/
def kind : SecretKind → SourceKind
  | .stringVar => .stringVar
  | .file => .file
  | .secretManager => .secretManager
  | .keyValue => .keyValue

/-- The secret kind of a kind; the database has none. -/
def ofKind? : SourceKind → Option SecretKind
  | .stringVar => some .stringVar
  | .file => some .file
  | .secretManager => some .secretManager
  | .keyValue => some .keyValue
  | .database => none

end SecretKind

end LayeredSettings
