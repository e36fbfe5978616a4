import LayeredSettings.Value.Path

set_option autoImplicit false

/-! # Reading at a path what was written there

`Value.at?` follows a path of exact keys through nested maps. What `insertAt` writes is read back at
its path and below (`at?_insertAt_below`), a map with entries stands at every place on the way
(`at?_insertAt_above`), and all other places read as before (`at?_insertAt_elsewhere`). -/

namespace LayeredSettings

namespace Value

/-- The value at the end of a path of exact keys. -/
def at? : List String → Value → Option Value
  | [], v => some v
  | key :: rest, v => (v.entries?.bind (KeyMap.get? key)).bind (at? rest)

/-- Nothing lies below the value: it is no map with entries. -/
def isLeaf : Value → Bool
  | .map entries => entries.isEmpty
  | _ => true

@[simp]
theorem at?_nil (v : Value) : at? [] v = some v :=
  rfl

@[simp]
theorem at?_cons_map (key : String) (rest : List String) (tree : Tree) :
    at? (key :: rest) (.map tree) = (KeyMap.get? key tree).bind (at? rest) :=
  rfl

theorem at?_cons_eq_some_iff {key : String} {rest : List String} {v w : Value} :
    at? (key :: rest) v = some w ↔
      ∃ entries u, v = .map entries ∧ KeyMap.get? key entries = some u ∧ at? rest u = some w := by
  cases v with
  | map entries => simp [Option.bind_eq_some_iff]
  | _ => simp [at?, entries?]

/-- Below a key the tree reads like the settings under this key. -/
theorem at?_submap (key next : String) (rest : List String) (tree : Tree) :
    at? (next :: rest) (.map (submap key tree)) = at? (key :: next :: rest) (.map tree) := by
  unfold submap
  rw [at?_cons_map key]
  cases KeyMap.get? key tree with
  | none => rfl
  | some v => cases v <;> rfl

end Value

/-! ## Writing at a path -/

theorem KeyMap.insert_ne_nil {α : Type} (key : String) (value : α) (m : KeyMap α) :
    insert key value m ≠ [] := by
  cases m with
  | nil => simp [insert]
  | cons e rest =>
    unfold insert
    split
    · simp
    · split <;> simp

/-- The value that is written under the first key of a path. -/
def belowFirst (key : String) (v : Value) (tree : Tree) : List String → Value
  | [] => v
  | next :: rest => .map (insertAt (next :: rest) v (submap key tree))

theorem insertAt_cons (key : String) (rest : List String) (v : Value) (tree : Tree) :
    insertAt (key :: rest) v tree = KeyMap.insert key (belowFirst key v tree rest) tree := by
  cases rest <;> rfl

theorem isLeaf_insertAt {path : List String} (hpath : path ≠ []) (v : Value) (tree : Tree) :
    (Value.map (insertAt path v tree)).isLeaf = false := by
  cases path with
  | nil => exact absurd rfl hpath
  | cons key rest =>
    rw [insertAt_cons, Value.isLeaf, List.isEmpty_eq_false_iff]
    exact KeyMap.insert_ne_nil key _ tree

/-! ## Reading back -/

namespace Value

/-- At a path that was written, and below it, the tree reads like the value. -/
theorem at?_insertAt_below {path : List String} (hpath : path ≠ []) (rest : List String) (v : Value)
    (tree : Tree) : at? (path ++ rest) (.map (insertAt path v tree)) = at? rest v := by
  induction path generalizing tree with
  | nil => exact absurd rfl hpath
  | cons key path ih =>
    rw [insertAt_cons, List.cons_append, at?_cons_map, KeyMap.get?_insert_self, Option.bind_some]
    cases path with
    | nil => rfl
    | cons next path => exact ih (by simp) (submap key tree)

/-- On the way to a path that was written stand maps with entries. -/
theorem at?_insertAt_above (way : List String) {path : List String} (hpath : path ≠ []) (v : Value)
    (tree : Tree) :
    ∃ u, at? way (.map (insertAt (way ++ path) v tree)) = some u ∧ u.isLeaf = false := by
  induction way generalizing tree with
  | nil => exact ⟨_, rfl, isLeaf_insertAt hpath v tree⟩
  | cons key way ih =>
    obtain ⟨next, rest, hrest⟩ :=
      List.exists_cons_of_ne_nil (List.append_ne_nil_of_right_ne_nil way hpath)
    rw [List.cons_append, insertAt_cons, at?_cons_map, KeyMap.get?_insert_self, Option.bind_some]
    have hbelow : belowFirst key v tree (way ++ path)
        = .map (insertAt (way ++ path) v (submap key tree)) := by
      rw [hrest]
      rfl
    rw [hbelow]
    exact ih (submap key tree)

/-- A path reads as before if the one that was written neither leads there nor passes there, also
    where a value had to give way to a map. -/
theorem at?_insertAt_elsewhere {path q : List String} (hbelow : ¬ path <+: q)
    (habove : ¬ q <+: path) (v : Value) (tree : Tree) :
    at? q (.map (insertAt path v tree)) = at? q (.map tree) := by
  induction path generalizing q tree with
  | nil => exact absurd List.nil_prefix hbelow
  | cons key path ih =>
    cases q with
    | nil => exact absurd List.nil_prefix habove
    | cons other q =>
      rw [insertAt_cons, at?_cons_map, at?_cons_map]
      by_cases hkey : key = other
      · subst hkey
        rw [List.cons_prefix_cons] at hbelow habove
        have hbelow' : ¬ path <+: q := fun h => hbelow ⟨rfl, h⟩
        have habove' : ¬ q <+: path := fun h => habove ⟨rfl, h⟩
        rw [KeyMap.get?_insert_self, Option.bind_some]
        -- Neither path ends here, so both go on below the key.
        cases path with
        | nil => exact absurd List.nil_prefix hbelow'
        | cons next path =>
          cases q with
          | nil => exact absurd List.nil_prefix habove'
          | cons step q =>
            show at? (step :: q) (.map (insertAt (next :: path) v (submap key tree))) = _
            rw [ih hbelow' habove', at?_submap, at?_cons_map]
      · rw [KeyMap.get?_insert_of_ne _ tree hkey]

end Value

end LayeredSettings
