import LayeredSettings.Manager

set_option autoImplicit false

/-! # Sessions

A session holds the settings of the last load that succeeded; a load that fails changes nothing.
Settings are published in cells that are never written again, so a handle keeps showing the settings
that it was taken on. A stage is a session in its world, and a run lets events happen to it. -/

namespace LayeredSettings

/-- A hold on published settings. -/
structure Handle where
  cell : Nat
deriving DecidableEq, Repr

/-- A manager with the settings that it has published. -/
structure Session where
  manager : Manager
  /-- All settings published so far, by cell. -/
  cells : List Settings
  /-- The cell of the settings that are held. -/
  current : Nat
  current_lt : current < cells.length

namespace Session

/-- A session before any load. -/
def start (m : Manager) : Session :=
  ⟨m, [{ policy := m.policy }], 0, by simp⟩

/-- The settings that are held. -/
def held (s : Session) : Settings :=
  s.cells.get ⟨s.current, s.current_lt⟩

/-- A hold on the settings that are held now. -/
def handle (s : Session) : Handle :=
  ⟨s.current⟩

/-- The settings that a handle shows. -/
def view? (s : Session) (h : Handle) : Option Settings :=
  s.cells[h.cell]?

/-- The session that holds other settings, in a cell of their own. -/
def publish (s : Session) (settings : Settings) : Session :=
  ⟨s.manager, s.cells ++ [settings], s.cells.length, by simp⟩

/-- Load, and hold the new settings if that succeeds. -/
def init (s : Session) (w : World) : Session × Outcome LoadSummary :=
  let loaded := s.manager.load w
  match loaded.result with
  | .ok (summary, tree) =>
    (s.publish ⟨tree, s.manager.policy⟩, ⟨loaded.requests, .ok summary⟩)
  | .error e => (s, ⟨loaded.requests, .error e⟩)

end Session

/-! ## Runs -/

/-- What can happen to a session in its world. -/
inductive Event where
  /-- The world becomes another one. -/
  | change (w : World)
  /-- The session loads. -/
  | init

/-- A session in its world. -/
structure Stage where
  session : Session
  world : World

namespace Stage

/-- A stage before any load. -/
def start (m : Manager) (w : World) : Stage :=
  ⟨Session.start m, w⟩

/-- The stage after an event. A load may leave a trace in the world. -/
def step (st : Stage) : Event → Stage
  | .change w => { st with world := w }
  | .init => ⟨(st.session.init st.world).1, st.session.manager.worldAfter st.world⟩

/-- The stage after a run of events. -/
def run (st : Stage) (events : List Event) : Stage :=
  events.foldl step st

end Stage

end LayeredSettings
