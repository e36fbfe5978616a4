import LayeredSettings.Environment.Layered
import LayeredSettings.Environment.Descriptor

set_option autoImplicit false

/-! # The catalogue of environment variables

`Catalogue.bind` reads every variable that steers a load. The descriptor of a source comes from the
documented variables of its kind (`CONFIG_KV_ADDRESS`) and, for fields left empty, from variables
named by the pattern of kind, target and field (`REMOTE_KV_CONFIG_ADDRESS`). Values are trimmed, but
for a literal document. -/

namespace LayeredSettings

/-! ## Names of variables -/

/-- The pattern of variable names, with three places to fill. -/
def keyPattern : String := "\x7bkind\x7d_\x7btarget\x7d_\x7bcontext\x7d"

/-- The variable of a kind, target and field: the places of the pattern filled one after the other.
    -/
def patternKey (kind : SourceKind) (target : Target) (context : String) : String :=
  let withKind := Text.replace "\x7bkind\x7d" (Text.upper kind.name) keyPattern
  let withTarget := Text.replace "\x7btarget\x7d" target.token withKind
  Text.replace "\x7bcontext\x7d" context withTarget

/-- The slot of a kind in its documented variables; the string variable has none. -/
def SourceKind.slot? : SourceKind → Option String
  | .file => some "LOCAL"
  | .secretManager => some "GSM"
  | .keyValue => some "KV"
  | .database => some "DB"
  | .stringVar => none

/-- The documented variable of a target, slot and field. -/
def slotKey (target : Target) (slot context : String) : String :=
  target.token ++ "_" ++ slot ++ "_" ++ context

namespace Environment

/-- The trimmed value of a variable, empty if it is not set. -/
def read (env : Environment) (key : String) : String :=
  match env key with
  | some v => Text.trim v
  | none => ""

/-- The items of a list between commas, trimmed, without empty ones. -/
def items (text : String) : List String :=
  ((Text.fieldsOn ',' text).map Text.trim).filter (· != "")

/-- A text that is not empty. -/
def nonEmpty (text : String) : Option String :=
  if text == "" then none else some text

/-- The descriptor whose fields the variables `key field` give; the literal document is apart. -/
def descriptorAt (env : Environment) (key : String → String) (value : String) : Descriptor where
  name := env.read (key "NAME")
  format := env.read (key "TYPE")
  address := env.read (key "ADDRESS")
  paths := items (env.read (key "PATH"))
  scopes := items (env.read (key "PREFIX"))
  value := value

/-- The descriptor that the documented variables give. -/
def slotDescriptor (env : Environment) (kind : SourceKind) (target : Target) : Descriptor :=
  match kind.slot? with
  | some slot => env.descriptorAt (slotKey target slot) ""
  | none => {}

/-- The descriptor that the variables of the pattern give, the literal document untrimmed. -/
def patternDescriptor (env : Environment) (kind : SourceKind) (target : Target) : Descriptor :=
  env.descriptorAt (patternKey kind target) ((env (patternKey kind target "VALUE")).getD "")

/-- The descriptor of a kind on a target: the documented variables, gaps filled by the pattern. -/
def descriptor (env : Environment) (kind : SourceKind) (target : Target) : Descriptor :=
  (env.slotDescriptor kind target).fillFrom (env.patternDescriptor kind target)

end Environment

/-! ## The bound catalogue -/

/-- How sources are to be chosen. -/
inductive ConfigMode where
  | auto
  | forcedLocal
  | forcedRemote
  | forcedDynamic
deriving DecidableEq, Repr

/-- The mode that a text names; any other text means automatic. -/
def ConfigMode.ofName (text : String) : ConfigMode :=
  match Text.lower (Text.trim text) with
  | "local" => .forcedLocal
  | "file" => .forcedLocal
  | "files" => .forcedLocal
  | "remote" => .forcedRemote
  | "dynamic" => .forcedDynamic
  | _ => .auto

/-- Settings of the connections to remote sources. -/
structure Connection where
  secretEndpoint : Option String := none
  secretToken : Option String := none
  keyValueToken : Option String := none
deriving DecidableEq, Repr

/-- All that the environment says about a load. -/
structure Catalogue where
  envFile : Option String
  mode : ConfigMode
  dynamicValues : String
  remoteProvider : String
  legacyConfig : Descriptor
  legacySecret : Descriptor
  connection : Connection
  descriptor : SourceKind → Target → Descriptor

namespace Catalogue

/-- The catalogue that an environment sets. -/
def bind (env : Environment) : Catalogue where
  envFile := Environment.nonEmpty (env.read "ENV_FILE")
  mode := ConfigMode.ofName (env.read "USE_CONFIG")
  dynamicValues := env.read "USE_CONFIG_DYNAMIC_VALUES"
  remoteProvider :=
    match Environment.nonEmpty (env.read "REMOTE_PROVIDER") with
    | some name => Text.lower name
    | none => "consul"
  legacyConfig :=
    { name := env.read "CONFIG_REMOTE_NAME"
      format := env.read "CONFIG_REMOTE_TYPE"
      address := env.read "CONFIG_REMOTE_ADDRESS"
      scopes := Environment.items (env.read "CONFIG_REMOTE_PREFIX") }
  legacySecret :=
    { name := env.read "SECRET_REMOTE_NAME"
      format := env.read "SECRET_REMOTE_TYPE"
      address := env.read "SECRET_REMOTE_ADDRESS" }
  connection :=
    { secretEndpoint := Environment.nonEmpty (env.read "GSM_ENDPOINT")
      secretToken := Environment.nonEmpty (env.read "GSM_ACCESS_TOKEN")
      keyValueToken := Environment.nonEmpty (env.read "CONSUL_HTTP_TOKEN") }
  descriptor := env.descriptor

/-- Whether both addresses of the remote pair are set. -/
def hasAddressPair (c : Catalogue) : Bool :=
  c.legacyConfig.address != "" && c.legacySecret.address != ""

/-- Whether a recipe is set. -/
def hasRecipe (c : Catalogue) : Bool :=
  Text.trim c.dynamicValues != ""

end Catalogue

end LayeredSettings
