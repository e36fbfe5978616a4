import LayeredSettings.Merge
import LayeredSettings.Source.Choice

set_option autoImplicit false

/-! # Plans

A plan lists the sources of a load in merge order: those of configuration and then those of secrets,
so that secrets lie on top. -/

namespace LayeredSettings

/-- The sources to load, for each target in merge order. -/
structure Plan where
  configs : List ConfigSource := []
  secrets : List SecretSource := []
deriving DecidableEq, Repr

/-- A source of a plan. -/
inductive PlannedSource where
  | config (s : ConfigSource)
  | secret (s : SecretSource)
deriving DecidableEq, Repr

namespace PlannedSource

/-- What the source is for. -/
def target : PlannedSource → Target
  | config _ => .config
  | secret _ => .secret

/-- The kind of the source. -/
def kind : PlannedSource → SourceKind
  | config s => s.kind
  | secret s => s.kind

/-- The name of the source. -/
def name : PlannedSource → String
  | config s => s.name
  | secret s => s.name

/-- The settings that the source gives. -/
def load (w : World) : PlannedSource → Outcome Tree
  | config s => s.load w
  | secret s => s.load w

/-- The world after the source was loaded. -/
def worldAfter (w : World) : PlannedSource → World
  | config s => s.worldAfter w
  | secret _ => w

end PlannedSource

namespace Plan

/-- All sources in merge order. -/
def sources (p : Plan) : List PlannedSource :=
  p.configs.map .config ++ p.secrets.map .secret

/-- The number of sources. -/
def size (p : Plan) : Nat :=
  p.configs.length + p.secrets.length

/-- Load all sources and merge their settings. A source that changes the world for the others is the
    last one started, for the database that it made has no table to read. -/
def load (p : Plan) (w : World) : Run PlannedSource Tree :=
  (Run.layered (SourceState.provider (PlannedSource.load w))
    (p.configs.map fun s => .fresh (.config s)) (p.secrets.map fun s => .fresh (.secret s))).mapStarted
    SourceState.source

/-- The world after a load. -/
def worldAfter (p : Plan) (w : World) : World :=
  (p.load w).started.foldl PlannedSource.worldAfter w

end Plan

end LayeredSettings
