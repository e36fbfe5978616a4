import LayeredSettings.Plan.Wiring

set_option autoImplicit false

/-! # Choosing a plan

The catalogue decides how sources are chosen. Without a forced mode the remote pair comes first, if
both its addresses are set, then the recipe, then the local files. A recipe without entries falls
back to the local files and still reports its tokens. -/

namespace LayeredSettings

/-- How the sources of a load were chosen. -/
inductive LoadMode where
  | localFiles
  | remotePair
  | dynamic
deriving DecidableEq, Repr

/-- The name of a mode. -/
def LoadMode.name : LoadMode → String
  | .localFiles => "local files"
  | .remotePair => "legacy remote"
  | .dynamic => "dynamic"

/-- The mode that a catalogue asks for. -/
def Catalogue.loadMode (c : Catalogue) : Except Error LoadMode :=
  match c.mode with
  | .forcedLocal => .ok .localFiles
  | .forcedRemote => if c.hasAddressPair then .ok .remotePair else .error (.config .noAddressPair)
  | .forcedDynamic => .ok .dynamic
  | .auto =>
    if c.hasAddressPair then .ok .remotePair
    else if c.hasRecipe then .ok .dynamic
    else .ok .localFiles

/-- A plan with how it was chosen. -/
structure Decision where
  mode : LoadMode
  plan : Plan
  /-- The tokens of the recipe that were not understood. -/
  ignored : List String := []
deriving DecidableEq, Repr

namespace Wiring

/-- The decision for the local files. -/
def decideLocalFiles (w : Wiring) (ignored : List String) : Except Error Decision := do
  let plan ← w.planLocalFiles
  .ok ⟨.localFiles, plan, ignored⟩

/-- The decision for the recipe of the catalogue. -/
def decideRecipe (w : Wiring) : Except Error Decision :=
  let recipe := Recipe.ofText w.catalogue.dynamicValues
  if recipe.isEmpty then w.decideLocalFiles recipe.ignored
  else do
    let plan ← w.planRecipe recipe
    .ok ⟨.dynamic, plan, recipe.ignored⟩

/-- Choose the mode and plan for it. -/
def decision (w : Wiring) : Except Error Decision := do
  match ← w.catalogue.loadMode with
  | .localFiles => w.decideLocalFiles []
  | .remotePair =>
    let plan ← w.planRemotePair
    .ok ⟨.remotePair, plan, []⟩
  | .dynamic => w.decideRecipe

end Wiring

end LayeredSettings
