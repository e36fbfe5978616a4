import LayeredSettings.Environment.Catalogue
import LayeredSettings.Source.Database
import LayeredSettings.Source.File
import LayeredSettings.Source.KeyValue
import LayeredSettings.Source.SecretManager
import LayeredSettings.Source.StringVar

set_option autoImplicit false

/-! # Sources of the two targets

A configuration source is of any kind, a secret source of any kind but the database. Both are built
from descriptors in the same way, and loading one reads the world once. -/

namespace LayeredSettings

/-- A source of configuration. -/
inductive ConfigSource where
  | stringVar (s : StringVar)
  | file (s : FileSource)
  | database (s : DatabaseSource)
  | secretManager (s : SecretManagerSource)
  | keyValue (s : KeyValueSource)
deriving DecidableEq, Repr

/-- A source of secrets. -/
inductive SecretSource where
  | stringVar (s : StringVar)
  | file (s : FileSource)
  | secretManager (s : SecretManagerSource)
  | keyValue (s : KeyValueSource)
deriving DecidableEq, Repr

/-! ## Building sources from descriptors -/

namespace Descriptor

/-- The string variable that a descriptor describes. -/
def stringVar (d : Descriptor) : Except Error StringVar :=
  d.declaredFormat.map fun format => ⟨d.name, d.value, format⟩

/-- The file source that a descriptor describes. -/
def file (d : Descriptor) : Except Error FileSource :=
  d.declaredFormat.map fun format => ⟨d.name, format, d.paths⟩

/-- The database source that a descriptor describes. -/
def database (d : Descriptor) : Except Error DatabaseSource :=
  d.declaredFormat?.map fun format => ⟨d.address, d.name, d.scopes, format⟩

/-- The secret manager source that a descriptor describes. -/
def secretManager (d : Descriptor) (c : Connection) : Except Error SecretManagerSource :=
  d.declaredFormat.map fun format => ⟨d.address, d.name, format, c.secretEndpoint, c.secretToken⟩

/-- The key-value source that a descriptor describes, for a named protocol. -/
def keyValue (d : Descriptor) (protocol : String) (c : Connection) : Except Error KeyValueSource :=
  d.declaredFormat.map fun format => ⟨protocol, d.address, d.name, format, c.keyValueToken⟩

end Descriptor

namespace ConfigSource

/-- The source of a kind that a descriptor describes. -/
def ofDescriptor (kind : SourceKind) (d : Descriptor) (c : Catalogue) : Except Error ConfigSource :=
  match kind with
  | .stringVar => d.stringVar.map stringVar
  | .file => d.file.map file
  | .database => d.database.map database
  | .secretManager => (d.secretManager c.connection).map secretManager
  | .keyValue => (d.keyValue c.remoteProvider c.connection).map keyValue

/-- The kind of a source. -/
def kind : ConfigSource → SourceKind
  | stringVar _ => .stringVar
  | file _ => .file
  | database _ => .database
  | secretManager _ => .secretManager
  | keyValue _ => .keyValue

/-- The name of a source: variable, file, table, secret or key. -/
def name : ConfigSource → String
  | stringVar s => s.name
  | file s => s.name
  | database s => s.table
  | secretManager s => s.secret
  | keyValue s => s.path

/-- The settings that a source gives, for a way to send requests. -/
def loadVia (send : Transport) (w : World) : ConfigSource → Outcome Tree
  | stringVar s => .ofExcept s.load
  | file s => .ofExcept ((s.load w).map LoadedFile.tree)
  | database s => .ofExcept (s.load w)
  | secretManager s => s.loadVia send
  | keyValue s => s.loadVia send

/-- The settings that a source gives. -/
def load (w : World) : ConfigSource → Outcome Tree :=
  loadVia w.network.send w

/-- The world after a source was loaded: only opening a database can change it. -/
def worldAfter (w : World) : ConfigSource → World
  | database s => s.worldAfter w
  | _ => w

end ConfigSource

namespace SecretSource

/-- The source of a kind that a descriptor describes. -/
def ofDescriptor (kind : SecretKind) (d : Descriptor) (c : Catalogue) : Except Error SecretSource :=
  match kind with
  | .stringVar => d.stringVar.map stringVar
  | .file => d.file.map file
  | .secretManager => (d.secretManager c.connection).map secretManager
  | .keyValue => (d.keyValue c.remoteProvider c.connection).map keyValue

/-- The same source among those of configuration. -/
def toConfig : SecretSource → ConfigSource
  | stringVar s => .stringVar s
  | file s => .file s
  | secretManager s => .secretManager s
  | keyValue s => .keyValue s

/-- The kind of a source. -/
def kind (s : SecretSource) : SourceKind :=
  s.toConfig.kind

/-- The name of a source. -/
def name (s : SecretSource) : String :=
  s.toConfig.name

/-- The settings that a source gives. -/
def load (w : World) (s : SecretSource) : Outcome Tree :=
  s.toConfig.load w

end SecretSource

end LayeredSettings
