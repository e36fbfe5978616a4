import LayeredSettings.Source.Provider

set_option autoImplicit false

/-! # Merging the settings of providers

Providers are initialised one after the other, those of configuration before those of secrets, and
the first failure ends the run. If all of them succeed, their settings are laid over each other in
the same order: each top-level key takes its whole value from the last provider that holds it. -/

namespace LayeredSettings

/-- A tree laid over another one, key by key at the top. -/
def overlay (lower upper : Tree) : Tree :=
  KeyMap.insertAll upper lower

/-- Trees laid over each other in order. -/
def mergeTrees (trees : List Tree) : Tree :=
  trees.foldl overlay []

/-- A run over providers: those that were started, in order, and the outcome. -/
structure Run (π α : Type) where
  started : List π
  outcome : Outcome α

namespace Run

variable {π ρ α β : Type}

/-- Nothing started, and a value. -/
def pure (a : α) : Run π α :=
  ⟨[], .ofExcept (.ok a)⟩

/-- Go on with a result; what both steps started and sent stands in order. -/
def bind (r : Run π α) (f : α → Run π β) : Run π β :=
  match r.outcome.result with
  | .ok a => ⟨r.started ++ (f a).started, r.outcome.bind fun a => (f a).outcome⟩
  | .error _ => ⟨r.started, r.outcome.bind fun a => (f a).outcome⟩

instance : Monad (Run π) where
  pure := Run.pure
  bind := Run.bind

/-- The run with every started provider replaced by its image. -/
def mapStarted (f : π → ρ) (r : Run π α) : Run ρ α :=
  ⟨r.started.map f, r.outcome⟩

/-- Initialise one provider. -/
def initOne (P : Provider π) (p : π) : Run π π :=
  let (after, outcome) := P.init p
  ⟨[p], outcome.requests, outcome.result.map fun _ => after⟩

/-- Initialise providers in order, up to the first that fails. -/
def initAll (P : Provider π) : List π → Run π (List π)
  | [] => return []
  | p :: rest => do
    let first ← initOne P p
    let others ← initAll P rest
    return first :: others

/-- The settings of providers, laid over a tree in order. -/
def fold (P : Provider π) (tree : Tree) (providers : List π) : Tree :=
  providers.foldl (fun tree p => overlay tree (P.data p)) tree

/-- Initialise the providers of configuration and then those of secrets, and merge their settings in
    this order. -/
def layered (P : Provider π) (configs secrets : List π) : Run π Tree := do
  let lower ← initAll P configs
  let upper ← initAll P secrets
  return fold P (fold P [] lower) upper

end Run

end LayeredSettings
