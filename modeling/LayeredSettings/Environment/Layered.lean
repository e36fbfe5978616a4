import LayeredSettings.Value.KeyMap

set_option autoImplicit false

/-! # Layered environments

An environment gives texts to variable names. A layered one answers from its base and, for what the
base does not set, from an overlay. `extend` writes to the overlay, `seed` only where nothing is set
yet. -/

namespace LayeredSettings

/-- What each variable is set to, if it is set. -/
abbrev Environment := String → Option String

namespace Environment

/-- The environment that a map describes. -/
def ofMap (vars : KeyMap String) : Environment :=
  fun key => KeyMap.get? key vars

end Environment

/-- A base environment and the variables that stand in where it has none. -/
structure LayeredEnvironment where
  base : Environment
  overlay : KeyMap String := []

namespace LayeredEnvironment

/-- The value of a variable: the base's, or else the overlay's. -/
def var (env : LayeredEnvironment) : Environment :=
  fun key => (env.base key).or (KeyMap.get? key env.overlay)

/-- Write entries to the overlay, in order. -/
def extend (entries : List (String × String)) (env : LayeredEnvironment) : LayeredEnvironment :=
  { env with overlay := KeyMap.insertAll entries env.overlay }

/-- Write to the overlay a variable that neither layer sets. -/
def seed (key value : String) (env : LayeredEnvironment) : LayeredEnvironment :=
  match env.var key with
  | some _ => env
  | none => { env with overlay := KeyMap.insert key value env.overlay }

/-- The number of variables in the overlay. -/
def overlaySize (env : LayeredEnvironment) : Nat :=
  env.overlay.length

end LayeredEnvironment

end LayeredSettings
