import LayeredSettings.Text.Ascii
import LayeredSettings.Text.Blank
import LayeredSettings.Value.Basic

set_option autoImplicit false

/-! # Finding settings

A setting is asked for by a key. Each key of a map matches exactly, or else the first one does that
differs in ASCII case only. The whole key is tried at the top first; then it is taken as a path
whose segments stand between dots. -/

namespace LayeredSettings

/-- The value under a key of one map. -/
def entry? (tree : Tree) (key : String) : Option Value :=
  match KeyMap.get? key tree with
  | some v => some v
  | none => (tree.find? fun e => Text.sameIgnoringCase e.1 key).map Prod.snd

/-- The value at the end of a path of keys. -/
def follow? (tree : Tree) : List String → Option Value
  | [] => none
  | [key] => entry? tree key
  | key :: next :: rest =>
    match entry? tree key with
    | some (.map entries) => follow? entries (next :: rest)
    | _ => none

/-- The value under a key: a top-level key, or a path between dots. -/
def lookup? (tree : Tree) (key : String) : Option Value :=
  match entry? tree key with
  | some v => some v
  | none => follow? tree (Text.fieldsOn '.' key)

end LayeredSettings
