import LayeredSettings.Text.Blank
import LayeredSettings.Value.Basic

set_option autoImplicit false

/-! # Paths into a tree

A path names a place in nested maps, one key after the other. `insertAt` writes a value at a path
and makes the maps on the way; whatever else stood on the way is replaced, and all other places are
left as they were. -/

namespace LayeredSettings

/-- The path that a dotted key writes; empty segments do not count. -/
def pathOfKey (key : String) : List String :=
  (Text.fieldsOn '.' key).filter (· != "")

/-- The settings under a key, none unless a map is there. -/
def submap (key : String) (tree : Tree) : Tree :=
  match KeyMap.get? key tree with
  | some (.map entries) => entries
  | _ => []

/-- The tree with a value at a path; the empty path names no place. -/
def insertAt : List String → Value → Tree → Tree
  | [], _, tree => tree
  | [key], v, tree => KeyMap.insert key v tree
  | key :: next :: rest, v, tree =>
    KeyMap.insert key (.map (insertAt (next :: rest) v (submap key tree))) tree

end LayeredSettings
