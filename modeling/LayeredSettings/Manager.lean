import LayeredSettings.Dotenv.Basic
import LayeredSettings.Plan.Mode
import LayeredSettings.Settings.Basic

set_option autoImplicit false

/-! # Loading settings

A manager reads the environment and a dotenv file, chooses a plan and loads it. -/

namespace LayeredSettings

/-- Where a manager takes the real environment from. -/
inductive VariableSource where
  | process
  | injected (vars : KeyMap String)
  /-- Any other source; what it reads may change with the world. -/
  | custom (read : World → Environment)

/-- How settings are to be loaded. -/
structure Manager where
  /-- Where the real environment comes from. -/
  real : VariableSource := .process
  /-- The dotenv file, in place of the one that the environment names. -/
  envFile : Option String := none
  /-- String variables in place of those of the environment. -/
  stringVars : Target → Option StringVar := fun _ => none
  policy : FallbackPolicy := .zeroValue

/-- A source that took part in a load. -/
structure LoadedSource where
  target : Target
  kind : SourceKind
  name : String
deriving DecidableEq, Repr

/-- What a load did. -/
structure LoadSummary where
  mode : LoadMode
  /-- The sources in merge order. -/
  sources : List LoadedSource
  /-- The tokens of the recipe that were not understood. -/
  ignored : List String
  envFileLoaded : Bool
deriving DecidableEq, Repr

/-- The source as a summary tells of it. -/
def PlannedSource.describe (s : PlannedSource) : LoadedSource :=
  ⟨s.target, s.kind, s.name⟩

namespace Manager

/-! ## The environment -/

/-- The real environment. -/
def base (m : Manager) (w : World) : Environment :=
  match m.real with
  | .process => Environment.ofMap w.process
  | .injected vars => Environment.ofMap vars
  | .custom read => read w

/-- The dotenv file to read: the one given, the one that the real environment names, or `.env`. -/
def envFilePath (m : Manager) (w : World) : String :=
  (m.envFile.or (m.base w "ENV_FILE")).getD ".env"

/-- The assignments of the dotenv file, if it is there and well formed. -/
def envFileEntries? (m : Manager) (w : World) : Option (List Dotenv.Entry) :=
  (w.files.text? (m.envFilePath w)).bind (Dotenv.entries? (Environment.ofMap w.process))

/-- The variables that stand in for a dotenv file. -/
def fileDefaults : List (String × String) :=
  [ ("CONFIG_LOCAL_NAME", "config"), ("SECRET_LOCAL_NAME", "secrets"),
    ("CONFIG_LOCAL_TYPE", "yaml"), ("SECRET_LOCAL_TYPE", "yaml") ]

/-- The environment with defaults for what it does not set. -/
def seedDefaults (env : LayeredEnvironment) : LayeredEnvironment :=
  fileDefaults.foldl (fun env e => env.seed e.1 e.2) env

/-- The real environment over the dotenv file, or over defaults where there is no usable one. -/
def environment (m : Manager) (w : World) : LayeredEnvironment :=
  match m.envFileEntries? w with
  | some entries => LayeredEnvironment.extend entries ⟨m.base w, []⟩
  | none => seedDefaults ⟨m.base w, []⟩

/-! ## Loads -/

/-- The catalogue of the environment, with the string variables that were given. -/
def wiring (m : Manager) (w : World) : Wiring :=
  ⟨Catalogue.bind (m.environment w).var, m.stringVars⟩

/-- What a load of a decision did, if it succeeds. -/
def summary (m : Manager) (w : World) (d : Decision) : LoadSummary where
  mode := d.mode
  sources := d.plan.sources.map PlannedSource.describe
  ignored := d.ignored
  envFileLoaded := (m.envFileEntries? w).isSome

/-- Plan and load: what was done, and the merged settings. -/
def load (m : Manager) (w : World) : Outcome (LoadSummary × Tree) := do
  let d ← .ofExcept (m.wiring w).decision
  let tree ← (d.plan.load w).outcome
  pure (m.summary w d, tree)

/-- The world after a load. -/
def worldAfter (m : Manager) (w : World) : World :=
  match (m.wiring w).decision with
  | .ok d => d.plan.worldAfter w
  | .error _ => w

end Manager

end LayeredSettings
