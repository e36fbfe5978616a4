import LayeredSettings.Proofs.Outcome
import LayeredSettings.Proofs.Paths
import LayeredSettings.Proofs.Search
import LayeredSettings.Source.Database
import Mathlib.Data.List.Induction

set_option autoImplicit false

/-! # What the rows of a table tell

Rows are written one after the other, and a row touches only the places on its path: those that its
path leads to, passes or leads on to. So whatever stands at a place was written by the last row that
touches it, and nothing else is there (`treeOfRows_settles`). A row whose key has no segments writes
nothing, wherever it stands (`treeOfRows_pathless`). -/

namespace LayeredSettings

/-! ## One row -/

namespace Row

/-- The text of the row is not of the declared format. -/
def Malformed (format? : Option Format) (r : Row) : Prop :=
  ∃ raw f, r.value = some raw ∧ format? = some f ∧ f.value? raw = none

/-- The row tells that `w` stands at `q`: its path leads to `q` or on the way there, and its value
    has `w` on the rest of the way. -/
def Tells (format? : Option Format) (table : String) (r : Row) (q : List String) (w : Value) : Prop :=
  r.path ≠ [] ∧ ∃ rest v, q = r.path ++ rest ∧ r.decode format? table = .ok v
    ∧ Value.at? rest v = some w

/-- The path of the row and `q` lie on one way: one of them is the beginning of the other. -/
def Along (r : Row) (q : List String) : Prop :=
  r.path <+: q ∨ q <+: r.path

theorem decode_eq_error_iff {format? : Option Format} {table : String} {r : Row} {e : Error} :
    r.decode format? table = .error e ↔
      r.Malformed format? ∧ e = .parse (table ++ "." ++ r.key) .malformed := by
  unfold decode Malformed
  cases r.value with
  | none => simp
  | some raw =>
    cases format? with
    | none => simp
    | some f =>
      simp only [Format.value, Option.some.injEq, exists_and_left, exists_eq_left']
      cases f.value? raw <;> simp [eq_comm]

theorem exists_decode_iff {format? : Option Format} {table : String} {r : Row} :
    (∃ v, r.decode format? table = .ok v) ↔ ¬ r.Malformed format? :=
  Except.exists_ok_iff_not decode_eq_error_iff

variable {format? : Option Format} {table : String} {r : Row} {q : List String} {w : Value}

theorem Tells.isPrefix (h : r.Tells format? table q w) : r.path <+: q := by
  obtain ⟨-, rest, v, rfl, -⟩ := h
  exact List.prefix_append r.path rest

/-- At its path and below it, a row tells what its value has. -/
theorem tells_append_iff {v : Value} {rest : List String} (hpath : r.path ≠ [])
    (hv : r.decode format? table = .ok v) :
    r.Tells format? table (r.path ++ rest) w ↔ Value.at? rest v = some w := by
  constructor
  · rintro ⟨-, rest', v', hrest, hv', hw⟩
    obtain rfl := List.append_cancel_left hrest
    obtain rfl := Except.ok.inj (hv.symm.trans hv')
    exact hw
  · intro hw
    exact ⟨hpath, rest, v, rfl, hv, hw⟩

end Row

/-! ## Rows in order -/

variable {format? : Option Format} {table : String}

/-- A tree after rows with their values were written. -/
def writeAll (tree : Tree) (written : List (Row × Value)) : Tree :=
  written.foldl (fun tree e => insertAt e.1.path e.2 tree) tree

theorem writeRow_eq (tree : Tree) (r : Row) :
    writeRow format? table tree r
      = r.decode format? table >>= fun v => .ok (insertAt r.path v tree) :=
  rfl

/-- Only reading a value can fail, never writing it. -/
theorem foldlM_writeRow (tree : Tree) (rows : List Row) :
    rows.foldlM (writeRow format? table) tree
      = rows.mapM (Row.decode format? table) >>= fun values =>
          .ok (writeAll tree (rows.zip values)) := by
  induction rows generalizing tree with
  | nil => rfl
  | cons r rest ih =>
    rw [List.foldlM_cons, List.mapM_cons, writeRow_eq]
    cases r.decode format? table with
    | error e => rfl
    | ok v =>
      rw [Except.ok_bind, Except.ok_bind, Except.ok_bind, ih]
      cases rest.mapM (Row.decode format? table) <;> rfl

theorem treeOfRows_eq_error_iff {rows : List Row} {e : Error} :
    treeOfRows format? table rows = .error e ↔
      ∃ before r after, rows = before ++ r :: after ∧ (∀ b ∈ before, ¬ b.Malformed format?)
        ∧ r.Malformed format? ∧ e = .parse (table ++ "." ++ r.key) .malformed := by
  have hmapM : treeOfRows format? table rows = .error e ↔
      rows.mapM (Row.decode format? table) = .error e := by
    rw [treeOfRows, foldlM_writeRow, Except.bind_eq_error_iff]
    simp
  rw [hmapM, Except.mapM_eq_error_iff]
  simp only [Row.exists_decode_iff, Row.decode_eq_error_iff]

theorem treeOfRows_concat_eq_ok_iff {rows : List Row} {r : Row} {tree : Tree} :
    treeOfRows format? table (rows ++ [r]) = .ok tree ↔
      ∃ lower v, treeOfRows format? table rows = .ok lower ∧ r.decode format? table = .ok v
        ∧ tree = insertAt r.path v lower := by
  unfold treeOfRows
  rw [List.foldlM_append, Except.bind_eq_ok_iff]
  refine exists_congr fun lower => ?_
  rw [List.foldlM_cons, writeRow_eq]
  cases r.decode format? table with
  | error e => simp [bind, Except.bind]
  | ok v => simp [bind, Except.bind, pure, Except.pure, eq_comm]

/-! ## The last row that matters -/

/-- A row leaves the places as they were that its path does not touch. -/
theorem at?_insertAt_of_not_along {r : Row} {q : List String} (h : r.path ≠ [] → ¬ r.Along q)
    (v : Value) (tree : Tree) :
    Value.at? q (.map (insertAt r.path v tree)) = Value.at? q (.map tree) := by
  by_cases hpath : r.path = []
  · rw [hpath]
    rfl
  · exact Value.at?_insertAt_elsewhere (fun hbelow => h hpath (.inl hbelow))
      (fun habove => h hpath (.inr habove)) v tree

/-- What one more row does to a place: it decides on it, or it leaves it as it was. -/
theorem at?_insertAt_row_iff {r : Row} {q : List String} {v w : Value} {lower : Tree}
    (hv : r.decode format? table = .ok v) (hw : w.isLeaf = true) :
    Value.at? q (.map (insertAt r.path v lower)) = some w ↔
      r.Tells format? table q w
        ∨ (r.path ≠ [] → ¬ r.Along q) ∧ Value.at? q (.map lower) = some w := by
  by_cases hfree : r.path ≠ [] → ¬ r.Along q
  · have htold : ¬ r.Tells format? table q w := fun h => hfree h.1 (.inl h.isPrefix)
    rw [at?_insertAt_of_not_along hfree, or_iff_right htold, and_iff_right hfree]
  · obtain ⟨hpath, halong⟩ : r.path ≠ [] ∧ r.Along q := by simpa using hfree
    by_cases hbelow : r.path <+: q
    · obtain ⟨rest, rfl⟩ := hbelow
      rw [Value.at?_insertAt_below hpath, Row.tells_append_iff hpath hv]
      simp [hpath, halong]
    · have htold : ¬ r.Tells format? table q w := fun h => hbelow h.isPrefix
      -- The row leads on from here, so here is a map with entries now, which is no leaf.
      obtain ⟨path, hsplit⟩ := halong.resolve_left hbelow
      have hrest : path ≠ [] := by
        rintro rfl
        rw [List.append_nil] at hsplit
        exact hbelow (hsplit ▸ List.prefix_rfl)
      obtain ⟨u, hu, hleaf⟩ := Value.at?_insertAt_above q hrest v lower
      rw [hsplit] at hu
      rw [hu]
      have hne : u ≠ w := by
        rintro rfl
        rw [hw] at hleaf
        cases hleaf
      simp [hne, htold, hpath, halong]

theorem at?_treeOfRows_iff {rows : List Row} {tree : Tree}
    (htree : treeOfRows format? table rows = .ok tree) {q : List String} (hq : q ≠ []) {w : Value}
    (hw : w.isLeaf = true) :
    Value.at? q (.map tree) = some w ↔
      ∃ before r after, rows = before ++ r :: after ∧ r.Tells format? table q w
        ∧ ∀ s ∈ after, s.path ≠ [] → ¬ s.Along q := by
  -- On the last row, since what it tells hides what the rows before it tell.
  induction rows using List.reverseRecOn generalizing tree with
  | nil =>
    obtain rfl := Except.ok.inj htree
    obtain ⟨key, rest, rfl⟩ := List.exists_cons_of_ne_nil hq
    simp [KeyMap.get?]
  | append_singleton rows r ih =>
    obtain ⟨lower, v, hlower, hv, rfl⟩ := treeOfRows_concat_eq_ok_iff.1 htree
    rw [exists_last_concat_iff, at?_insertAt_row_iff hv hw, ih hlower]

/-! ## The law -/

/-- What the settings of rows have to be like. -/
structure Settles (format? : Option Format) (table : String) (rows : List Row)
    (settings : Except Error Tree) : Prop where
  /-- The first row whose text is not of the declared format is the error. -/
  error_iff : ∀ e, settings = .error e ↔
    ∃ before r after, rows = before ++ r :: after ∧ (∀ b ∈ before, ¬ b.Malformed format?)
      ∧ r.Malformed format? ∧ e = .parse (table ++ "." ++ r.key) .malformed
  /-- Every value that is no map with entries is there because a row tells so, and no later row
      writes there, above or below. -/
  leaf_iff : ∀ tree, settings = .ok tree → ∀ q, q ≠ [] → ∀ w : Value, w.isLeaf = true →
    (Value.at? q (.map tree) = some w ↔
      ∃ before r after, rows = before ++ r :: after ∧ r.Tells format? table q w
        ∧ ∀ s ∈ after, s.path ≠ [] → ¬ s.Along q)

/-- **The law of rows.** Later rows win, places off the path of a row are never disturbed, and what
    stands at a place is what the last row along it tells. -/
theorem treeOfRows_settles (format? : Option Format) (table : String) (rows : List Row) :
    Settles format? table rows (treeOfRows format? table rows) where
  error_iff _ := treeOfRows_eq_error_iff
  leaf_iff _ htree _ hq _ hw := at?_treeOfRows_iff htree hq hw

/-- A row without a path is along every place and yet writes nowhere: the setting `a` outlasts one.
    So of the later rows only those with a path count. -/
theorem treeOfRows_pathless :
    let rows : List Row := [⟨"base", "a", some "1"⟩, ⟨"prod", ".", some "2"⟩]
    ∃ tree, treeOfRows none "settings" rows = .ok tree
      ∧ ¬ (Value.at? ["a"] (.map tree) = some (.ofInt 1) ↔
        ∃ before r after, rows = before ++ r :: after
          ∧ r.Tells none "settings" ["a"] (.ofInt 1) ∧ ∀ s ∈ after, ¬ s.Along ["a"]) := by
  intro rows
  have hpathless : (⟨"prod", ".", some "2"⟩ : Row).path = [] := by decide +kernel
  refine ⟨[("a", .ofInt 1)], by decide +kernel, fun h => ?_⟩
  obtain ⟨before, r, after, hsplit, htold, hafter⟩ := h.1 (by decide +kernel)
  match before, hsplit with
  | [], hsplit =>
    obtain ⟨-, rfl⟩ := List.cons.inj hsplit
    exact hafter ⟨"prod", ".", some "2"⟩ (by simp) (.inl (hpathless ▸ List.nil_prefix))
  | [_], hsplit =>
    obtain ⟨-, hrest⟩ := List.cons.inj hsplit
    obtain ⟨rfl, -⟩ := List.cons.inj hrest
    exact htold.1 hpathless
  | _ :: _ :: _, hsplit => simp [rows] at hsplit

end LayeredSettings
