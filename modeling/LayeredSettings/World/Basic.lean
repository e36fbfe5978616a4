import LayeredSettings.Environment.Layered
import LayeredSettings.World.Database
import LayeredSettings.World.Network

set_option autoImplicit false

/-! # The world that sources read

All that lies outside of a load: files, database servers, the network and the variables of the
process, one of which names the home directory. Loads read the world as it was before them. The one
trace that they leave is a database file that was missing (`Database.filesAfter`). -/

namespace LayeredSettings

/-- What sources can read. -/
structure World where
  files : Files := {}
  servers : Servers := .unreachable
  network : Network := .unreachable
  /-- The variables of the process. -/
  process : KeyMap String := []

namespace World

/-- The home directory where no variable names one. -/
def accountHome : String := "/root"

/-- The home directory: the variable `HOME` unless it is empty. -/
def home (w : World) : String :=
  match KeyMap.get? "HOME" w.process with
  | some dir => if dir == "" then accountHome else dir
  | none => accountHome

end World

end LayeredSettings
