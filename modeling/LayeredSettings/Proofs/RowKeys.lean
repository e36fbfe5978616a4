import LayeredSettings.Proofs.Lookup
import LayeredSettings.Proofs.Rows

set_option autoImplicit false

/-! # Rows are read back by their keys

Rows are written at paths, and settings are asked for by keys. The two agree: what a row wrote is
found under the segments of its key, joined by dots, as long as no later row touches its path
(`treeOfRows_readBack`). No key of a row puts a dot into a key of the tree, so nothing at the top
stands for a whole path, and the segments are there in their exact spelling, which comes first. -/

namespace LayeredSettings

/-! ## Keys without dots -/

theorem Row.dotFree_path (r : Row) : ∀ segment ∈ r.path, '.' ∉ segment.toList :=
  fun _ hsegment => Text.notMem_of_mem_fieldsOn (List.mem_of_mem_filter hsegment)

theorem dotFree_insertAt {path : List String} (hpath : ∀ segment ∈ path, '.' ∉ segment.toList)
    {tree : Tree} (htree : ∀ e ∈ tree, '.' ∉ e.1.toList) (v : Value) :
    ∀ e ∈ insertAt path v tree, '.' ∉ e.1.toList := by
  cases path with
  | nil => exact htree
  | cons key rest =>
    intro e he
    rw [insertAt_cons] at he
    rcases KeyMap.mem_insert he with rfl | he
    · exact hpath key (by simp)
    · exact htree e he

variable {format? : Option Format} {table : String}

/-- No top-level key that rows write has a dot. -/
theorem dotFree_treeOfRows {rows : List Row} {tree : Tree}
    (htree : treeOfRows format? table rows = .ok tree) : ∀ e ∈ tree, '.' ∉ e.1.toList := by
  induction rows using List.reverseRecOn generalizing tree with
  | nil =>
    obtain rfl := Except.ok.inj htree
    simp
  | append_singleton rows r ih =>
    obtain ⟨lower, v, hlower, -, rfl⟩ := treeOfRows_concat_eq_ok_iff.1 htree
    exact dotFree_insertAt r.dotFree_path (ih hlower) v

/-! ## What the last row on a path leaves -/

/-- Later rows that do not lie along the path of a row leave its value there. -/
theorem at?_treeOfRows_of_last {before after : List Row} {r : Row} {tree : Tree}
    (htree : treeOfRows format? table (before ++ r :: after) = .ok tree) (hpath : r.path ≠ [])
    (hafter : ∀ s ∈ after, s.path ≠ [] → ¬ s.Along r.path) :
    ∃ v, r.decode format? table = .ok v ∧ Value.at? r.path (.map tree) = some v := by
  induction after using List.reverseRecOn generalizing tree with
  | nil =>
    obtain ⟨lower, v, -, hv, rfl⟩ := treeOfRows_concat_eq_ok_iff.1 htree
    have hat := Value.at?_insertAt_below hpath [] v lower
    rw [List.append_nil, Value.at?_nil] at hat
    exact ⟨v, hv, hat⟩
  | append_singleton after s ih =>
    rw [← List.cons_append, ← List.append_assoc] at htree
    obtain ⟨lower, u, hlower, -, rfl⟩ := treeOfRows_concat_eq_ok_iff.1 htree
    obtain ⟨v, hv, hat⟩ := ih hlower fun t ht => hafter t (by simp [ht])
    rw [at?_insertAt_of_not_along (hafter s (by simp))]
    exact ⟨v, hv, hat⟩

/-! ## The law -/

/-- **The law of reading back.** What a row says is found under the segments of its key, whatever
    other keys there are, unless a later row writes there, above or below. -/
theorem treeOfRows_readBack {before after : List Row} {r : Row} {tree : Tree}
    (htree : treeOfRows format? table (before ++ r :: after) = .ok tree) (hpath : r.path ≠ [])
    (hafter : ∀ s ∈ after, s.path ≠ [] → ¬ s.Along r.path) (policy : FallbackPolicy) :
    ∃ v, r.decode format? table = .ok v
      ∧ (Settings.mk tree policy).get? (dotted r.path) = some v := by
  obtain ⟨v, hv, hat⟩ := at?_treeOfRows_of_last htree hpath hafter
  have hfound : lookup? tree (dotted r.path) = some v := by
    rw [lookup?_eq_follow? (dotFree_treeOfRows htree), fieldsOn_dotted hpath r.dotFree_path]
    exact follow?_of_at? hpath hat
  exact ⟨v, hv, hfound⟩

/-- Among later rows are one whose path differs in case only and one without a path. -/
theorem treeOfRows_readBack_among_others :
    let before : List Row := [⟨"base", "db", some "off"⟩]
    let r : Row := ⟨"base", ".db..host", some "\x7b\"Port\": 1\x7d"⟩
    let after : List Row :=
      [⟨"base", "DB.HOST", some "x"⟩, ⟨"base", "db.port", none⟩, ⟨"prod", ".", some "2"⟩]
    ∃ tree, treeOfRows none "settings" (before ++ r :: after) = .ok tree
      ∧ r.path ≠ [] ∧ (∀ s ∈ after, s.path ≠ [] → ¬ s.Along r.path)
      ∧ (Settings.mk tree .zeroValue).get? (dotted r.path) = some (.map [("Port", .ofInt 1)]) := by
  intro before r after
  have hpath : r.path ≠ [] := by decide +kernel
  have hafter : ∀ s ∈ after, s.path ≠ [] → ¬ s.Along r.path := by
    unfold Row.Along
    decide +kernel
  have hv : r.decode none "settings" = .ok (.map [("Port", .ofInt 1)]) := by decide +kernel
  have htree : treeOfRows none "settings" (before ++ r :: after)
      = .ok [ ("DB", .map [("HOST", .text "x")]),
              ("db", .map [("host", .map [("Port", .ofInt 1)]), ("port", .null)]) ] := by
    decide +kernel
  obtain ⟨v, hdecode, hfound⟩ := treeOfRows_readBack htree hpath hafter .zeroValue
  obtain rfl := Except.ok.inj (hv.symm.trans hdecode)
  exact ⟨_, htree, hpath, hafter, hfound⟩

end LayeredSettings
