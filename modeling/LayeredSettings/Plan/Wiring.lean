import LayeredSettings.Plan.Basic
import LayeredSettings.Recipe

set_option autoImplicit false

/-! # From the catalogue to a plan

`Wiring` joins the catalogue with the string variables that were given directly. It plans the
sources that a recipe lists, the two local files, or the remote pair. Of a recipe, a kind takes part
on a target if its descriptor is wired there; the database never feeds the secrets. -/

namespace LayeredSettings

/-- The catalogue, and the string variables that stand in for its own. -/
structure Wiring where
  catalogue : Catalogue
  stringVars : Target → Option StringVar := fun _ => none

/-- The descriptor of a string variable. -/
def StringVar.descriptor (v : StringVar) : Descriptor where
  name := v.name
  format := v.format.name
  value := v.value

namespace Wiring

/-! ## Recipes -/

/-- The descriptor of a kind on a target; a given string variable replaces the catalogue's whole
    descriptor. -/
def descriptor (w : Wiring) (kind : SourceKind) (target : Target) : Descriptor :=
  match kind, w.stringVars target with
  | .stringVar, some v => v.descriptor
  | _, _ => w.catalogue.descriptor kind target

/-- The configuration source of a kind, if its descriptor is wired. -/
def config? (w : Wiring) (kind : SourceKind) : Except Error (Option ConfigSource) :=
  let d := w.descriptor kind .config
  if d.isWired kind then (ConfigSource.ofDescriptor kind d w.catalogue).map some else .ok none

/-- The secret source of a kind, if it may hold secrets and its descriptor is wired. -/
def secret? (w : Wiring) (kind : SourceKind) : Except Error (Option SecretSource) :=
  match SecretKind.ofKind? kind with
  | none => .ok none
  | some secretKind =>
    let d := w.descriptor kind .secret
    if d.isWired kind then (SecretSource.ofDescriptor secretKind d w.catalogue).map some
    else .ok none

/-- The plan of kinds in merge order. Formats are checked kind by kind, configuration first. -/
def planKinds (w : Wiring) : List SourceKind → Except Error Plan
  | [] => .ok {}
  | kind :: rest => do
    let config ← w.config? kind
    let secret ← w.secret? kind
    let plan ← w.planKinds rest
    .ok ⟨config.toList ++ plan.configs, secret.toList ++ plan.secrets⟩

/-- The plan of a recipe. -/
def planRecipe (w : Wiring) (r : Recipe) : Except Error Plan :=
  w.planKinds r.kinds

/-! ## Local files -/

/-- The name of a target's local file if the catalogue names none. -/
def defaultFileName : Target → String
  | .config => "config"
  | .secret => "secrets"

/-- The local file of a target. -/
def localFile (w : Wiring) (target : Target) : Except Error FileSource :=
  let d := w.catalogue.descriptor .file target
  { d with name := Descriptor.orText d.name (defaultFileName target) }.file

/-- The plan of one local file for each target. -/
def planLocalFiles (w : Wiring) : Except Error Plan := do
  let config ← w.localFile .config
  let secret ← w.localFile .secret
  .ok ⟨[.file config], [.file secret]⟩

/-! ## The remote pair -/

/-- The variables that the remote pair cannot do without. -/
def requiredOfPair (c : Catalogue) : List (String × String) :=
  [ ("CONFIG_REMOTE_ADDRESS", c.legacyConfig.address),
    ("CONFIG_REMOTE_NAME", c.legacyConfig.name),
    ("SECRET_REMOTE_ADDRESS", c.legacySecret.address),
    ("SECRET_REMOTE_NAME", c.legacySecret.name) ]

/-- Refuse a remote pair with an empty variable, the first of them in order. -/
def checkPair (c : Catalogue) : Except Error Unit :=
  match (requiredOfPair c).find? fun entry => entry.2 == "" with
  | some (key, _) => .error (.config (.emptyVariable key))
  | none => .ok ()

/-- The names that mean the secret manager where a remote provider is named. -/
def secretManagerNames : List String :=
  ["gsm", "secretmanager", "secret_manager"]

/-- The kinds of the remote pair: the name of a database driver means a database with a secret
    manager, a name of the secret manager means two of them, any other name two key-value stores. -/
def pairKinds (provider : String) : SourceKind × SecretKind :=
  match Driver.ofName provider with
  | .ok _ => (.database, .secretManager)
  | .error _ =>
    if secretManagerNames.contains provider then (.secretManager, .secretManager)
    else (.keyValue, .keyValue)

/-- The plan of one remote source for each target. -/
def planRemotePair (w : Wiring) : Except Error Plan := do
  let c := w.catalogue
  checkPair c
  let (configKind, secretKind) := pairKinds c.remoteProvider
  let config ← ConfigSource.ofDescriptor configKind c.legacyConfig c
  let secret ← SecretSource.ofDescriptor secretKind c.legacySecret c
  .ok ⟨[config], [secret]⟩

end Wiring

end LayeredSettings
