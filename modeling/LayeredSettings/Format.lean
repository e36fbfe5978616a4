import LayeredSettings.Error
import LayeredSettings.Json.Reader
import LayeredSettings.Yaml.Reader

set_option autoImplicit false

/-! # Document formats

A settings document is YAML or JSON. `Format.value` reads a text as one value and `Format.tree` as a
settings map; a text of blanks only is null, and null is the empty map. -/

namespace LayeredSettings

/-- The declared format of a document. -/
inductive Format where
  | yaml
  | json
deriving DecidableEq, Repr

namespace Format

/-- The name of a format. -/
def name : Format → String
  | .yaml => "yaml"
  | .json => "json"

/-- The file extensions of a format, the preferred one first. -/
def extensions : Format → List String
  | .yaml => ["yaml", "yml"]
  | .json => ["json"]

/-- The format that a name declares, blanks around it and letter case ignored. -/
def ofName (text : String) : Except Error Format :=
  match Text.lower (Text.trim text) with
  | "yaml" => .ok .yaml
  | "yml" => .ok .yaml
  | "json" => .ok .json
  | other => .error (.unsupportedFormat other)

/-- The value of a text, if it is well formed. -/
def value? (f : Format) (text : String) : Option Value :=
  if Text.trim text == "" then some .null
  else
    match f with
    | .yaml => Yaml.value? text
    | .json => Json.value? text

/-- The value of a text from a named source. -/
def value (f : Format) (text source : String) : Except Error Value :=
  match f.value? text with
  | some v => .ok v
  | none => .error (.parse source .malformed)

/-- The settings that a document's value holds: a map, or null for none. -/
def settingsOf : Value → Except DocumentFault Tree
  | .map entries => .ok entries
  | .null => .ok []
  | other => .error (.notAMap other.kindName)

/-- The settings of a text, or why it gives none. -/
def read (f : Format) (text : String) : Except DocumentFault Tree :=
  match f.value? text with
  | some v => settingsOf v
  | none => .error .malformed

/-- The settings of a text from a named source. -/
def tree (f : Format) (text source : String) : Except Error Tree :=
  (f.read text).mapError (Error.parse source)

/-! ## What is read -/

theorem read_eq_ok_iff {f : Format} {text : String} {tree : Tree} :
    f.read text = .ok tree ↔
      f.value? text = some (.map tree) ∨ f.value? text = some .null ∧ tree = [] := by
  unfold read
  cases f.value? text with
  | none => simp
  | some v => cases v <;> simp [settingsOf, eq_comm]

theorem tree_of_ok {f : Format} {text source : String} {tree : Tree} (h : f.read text = .ok tree) :
    f.tree text source = .ok tree := by
  unfold Format.tree
  rw [h]
  rfl

theorem tree_of_error {f : Format} {text source : String} {fault : DocumentFault}
    (h : f.read text = .error fault) : f.tree text source = .error (.parse source fault) := by
  unfold Format.tree
  rw [h]
  rfl

theorem tree_eq_ok_iff {f : Format} {text source : String} {tree : Tree} :
    f.tree text source = .ok tree ↔ f.read text = .ok tree := by
  cases h : f.read text with
  | ok found => simp [tree_of_ok h]
  | error fault => simp [tree_of_error h]

theorem tree_eq_error_iff {f : Format} {text source : String} {e : Error} :
    f.tree text source = .error e ↔ ∃ fault, f.read text = .error fault ∧ e = .parse source fault := by
  cases h : f.read text with
  | ok found => simp [tree_of_ok h]
  | error fault => simp [tree_of_error h, eq_comm]

end Format

end LayeredSettings
