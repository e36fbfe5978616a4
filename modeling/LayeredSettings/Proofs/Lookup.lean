import Mathlib.Data.List.Nodup
import LayeredSettings.Proofs.Paths
import LayeredSettings.Proofs.Text
import LayeredSettings.Settings.Basic

set_option autoImplicit false

/-! # Which setting a key finds

A key is looked up twice: as a whole at the top, and then as a path, one segment after the other. At
each step the exact spelling comes first. Where the keys of a tree have no dots and are told apart
also without their case, both ways come to the same: a key finds what its segments lead to
(`Settings.findsBySegments`). In other trees a path that is spelt exactly finds its value unless a
top-level key spells the whole of it in another case (`Settings.get?_spelt`). -/

namespace LayeredSettings

/-- The key that spells a path. -/
def dotted (path : List String) : String :=
  Text.joinWith "." path

theorem fieldsOn_dotted {path : List String} (hpath : path ≠ [])
    (hdots : ∀ segment ∈ path, '.' ∉ segment.toList) : Text.fieldsOn '.' (dotted path) = path :=
  Text.fieldsOn_joinWith hpath hdots

/-! ## In one map -/

section Entry

variable {tree : Tree} {key : String} {v : Value}

/-- The exact spelling comes first. -/
theorem entry?_of_get? (h : KeyMap.get? key tree = some v) : entry? tree key = some v := by
  unfold entry?
  rw [h]

/-- Without an exact spelling, the first key counts that differs in case only. -/
theorem entry?_of_get?_eq_none (h : KeyMap.get? key tree = none) :
    entry? tree key
      = (tree.find? fun e => Text.sameIgnoringCase e.1 key).map Prod.snd := by
  unfold entry?
  rw [h]

theorem mem_of_entry? (h : entry? tree key = some v) :
    ∃ k, (k, v) ∈ tree ∧ Text.sameIgnoringCase k key = true := by
  cases hget : KeyMap.get? key tree with
  | some w =>
    rw [entry?_of_get? hget] at h
    obtain rfl := Option.some.inj h
    exact ⟨key, KeyMap.mem_of_get? hget, Text.sameIgnoringCase_refl key⟩
  | none =>
    rw [entry?_of_get?_eq_none hget] at h
    obtain ⟨e, hfind, rfl⟩ := Option.map_eq_some_iff.1 h
    exact ⟨e.1, List.mem_of_find?_eq_some hfind, by simpa using List.find?_some hfind⟩

theorem entry?_eq_none_iff :
    entry? tree key = none ↔ ∀ e ∈ tree, Text.sameIgnoringCase e.1 key = false := by
  constructor
  · intro h e he
    cases hget : KeyMap.get? key tree with
    | some w =>
      rw [entry?_of_get? hget] at h
      cases h
    | none =>
      rw [entry?_of_get?_eq_none hget, Option.map_eq_none_iff] at h
      simpa using List.find?_eq_none.1 h e he
  · intro h
    rw [Option.eq_none_iff_forall_ne_some]
    intro w hw
    obtain ⟨k, hmem, hsame⟩ := mem_of_entry? hw
    rw [h _ hmem] at hsame
    cases hsame

end Entry

/-! ## Along a path -/

theorem follow?_cons_cons_iff {tree : Tree} {key next : String} {rest : List String} {v : Value} :
    follow? tree (key :: next :: rest) = some v ↔
      ∃ entries, entry? tree key = some (.map entries) ∧ follow? entries (next :: rest) = some v := by
  rw [follow?]
  cases entry? tree key with
  | none => simp
  | some w => cases w <;> simp

/-- A path that is there in its exact spelling leads to what stands there, whatever other keys
    differ from it in case only. -/
theorem follow?_of_at? {path : List String} (hpath : path ≠ []) {tree : Tree} {v : Value}
    (h : Value.at? path (.map tree) = some v) : follow? tree path = some v := by
  induction path generalizing tree with
  | nil => exact absurd rfl hpath
  | cons key rest ih =>
    rw [Value.at?_cons_map, Option.bind_eq_some_iff] at h
    obtain ⟨w, hkey, hrest⟩ := h
    cases rest with
    | nil =>
      obtain rfl := Option.some.inj hrest
      exact entry?_of_get? hkey
    | cons next rest =>
      obtain ⟨entries, u, rfl, -⟩ := Value.at?_cons_eq_some_iff.1 hrest
      exact follow?_cons_cons_iff.2 ⟨entries, entry?_of_get? hkey, ih (by simp) hrest⟩

/-! ## From the whole key to its segments -/

theorem lookup?_of_entry? {tree : Tree} {key : String} {v : Value}
    (h : entry? tree key = some v) : lookup? tree key = some v := by
  rw [lookup?, h]

theorem lookup?_of_entry?_eq_none {tree : Tree} {key : String} (h : entry? tree key = none) :
    lookup? tree key = follow? tree (Text.fieldsOn '.' key) := by
  rw [lookup?, h]

/-- If no top-level key has a dot, looking for the whole key first finds nothing that its segments
    do not lead to. -/
theorem lookup?_eq_follow? {tree : Tree} (hdots : ∀ e ∈ tree, '.' ∉ e.1.toList) (key : String) :
    lookup? tree key = follow? tree (Text.fieldsOn '.' key) := by
  cases hentry : entry? tree key with
  | none => exact lookup?_of_entry?_eq_none hentry
  | some v =>
    obtain ⟨k, hmem, hsame⟩ := mem_of_entry? hentry
    have hkey : '.' ∉ key.toList := by
      rw [← Text.mem_iff_of_sameIgnoringCase rfl hsame]
      exact hdots _ hmem
    rw [Text.fieldsOn_of_notMem hkey, follow?, hentry, lookup?_of_entry? hentry]

/-! ## Clear keys -/

namespace Value

/-- Keys are clear if they have no dots and no two of one map differ in case only. What stands in
    lists does not count, since no key leads there. -/
inductive Clear : Value → Prop where
  | leaf {v : Value} (noMap : v.entries? = none) : Clear v
  | map {entries : Tree} (dotFree : ∀ e ∈ entries, '.' ∉ e.1.toList)
    (apart : (entries.map fun e => Text.lower e.1).Nodup)
    (inside : ∀ e ∈ entries, Clear e.2) : Clear (.map entries)

/-- What segments lead to: each names a key of the map that it stands at, in any case. -/
inductive Leads : Value → List String → Value → Prop where
  | here (v : Value) : Leads v [] v
  | step {entries : Tree} {key segment : String} {rest : List String} {w v : Value}
    (mem : (key, w) ∈ entries) (same : Text.sameIgnoringCase key segment = true)
    (more : Leads w rest v) : Leads (.map entries) (segment :: rest) v

namespace Clear

variable {entries : Tree}

theorem dotFree (h : Clear (.map entries)) : ∀ e ∈ entries, '.' ∉ e.1.toList := by
  cases h with
  | leaf noMap => cases noMap
  | map dotFree _ _ => exact dotFree

theorem inside (h : Clear (.map entries)) {e : String × Value} (he : e ∈ entries) :
    Clear e.2 := by
  cases h with
  | leaf noMap => cases noMap
  | map _ _ inside => exact inside e he

/-- A key has one entry at most, in whatever case it is written. -/
theorem unique (h : Clear (.map entries)) {a b : String × Value} (ha : a ∈ entries)
    (hb : b ∈ entries) (hsame : Text.lower a.1 = Text.lower b.1) : a = b := by
  cases h with
  | leaf noMap => cases noMap
  | map _ apart _ => exact List.inj_on_of_nodup_map apart ha hb hsame

theorem entry?_of_mem (h : Clear (.map entries)) {k key : String} {v : Value}
    (hmem : (k, v) ∈ entries) (hsame : Text.sameIgnoringCase k key = true) :
    entry? entries key = some v := by
  rw [Text.sameIgnoringCase_iff] at hsame
  cases hentry : entry? entries key with
  | none =>
    have hother := entry?_eq_none_iff.1 hentry _ hmem
    rw [Text.sameIgnoringCase_iff.2 hsame] at hother
    cases hother
  | some w =>
    -- What is found has a key that differs from `k` in case only, so it is the entry of `k`.
    obtain ⟨k', hmem', hsame'⟩ := mem_of_entry? hentry
    rw [Text.sameIgnoringCase_iff] at hsame'
    obtain ⟨-, rfl⟩ := Prod.mk.inj (h.unique hmem hmem' (hsame.trans hsame'.symm))
    rfl

/-- Following segments finds what they lead to, and nothing else. -/
theorem follow?_eq_some_iff (h : Clear (.map entries)) {path : List String} (hpath : path ≠ [])
    {v : Value} : follow? entries path = some v ↔ Leads (.map entries) path v := by
  induction path generalizing entries with
  | nil => exact absurd rfl hpath
  | cons segment rest ih =>
    cases rest with
    | nil =>
      constructor
      · intro hentry
        obtain ⟨k, hmem, hsame⟩ := mem_of_entry? hentry
        exact .step hmem hsame (.here v)
      · rintro (_ | ⟨hmem, hsame, _ | _⟩)
        exact h.entry?_of_mem hmem hsame
    | cons next rest =>
      rw [follow?_cons_cons_iff]
      constructor
      · rintro ⟨inner, hentry, hrest⟩
        obtain ⟨k, hmem, hsame⟩ := mem_of_entry? hentry
        exact .step hmem hsame ((ih (h.inside hmem) (by simp)).1 hrest)
      · rintro (_ | ⟨hmem, hsame, hmore⟩)
        cases hmore with
        | step hmem' hsame' hmore' =>
          refine ⟨_, h.entry?_of_mem hmem hsame, ?_⟩
          exact (ih (h.inside hmem) (by simp)).2 (.step hmem' hsame' hmore')

end Clear

/-! ## Leading on -/

namespace Leads

/-- An exact path leads to what stands at its end. -/
theorem of_at? {path : List String} {v w : Value} (h : at? path v = some w) : Leads v path w := by
  induction path generalizing v with
  | nil =>
    obtain rfl := Option.some.inj h
    exact .here v
  | cons key rest ih =>
    obtain ⟨entries, u, rfl, hkey, hrest⟩ := at?_cons_eq_some_iff.1 h
    exact .step (KeyMap.mem_of_get? hkey) (Text.sameIgnoringCase_refl key) (ih hrest)

/-- The case of the segments does not matter. -/
theorem respell {path other : List String} {v w : Value} (h : Leads v path w)
    (hcase : other.map Text.lower = path.map Text.lower) : Leads v other w := by
  induction h generalizing other with
  | here v =>
    obtain rfl := List.map_eq_nil_iff.1 hcase
    exact .here v
  | step hmem hsame _ ih =>
    obtain ⟨segment, rest, rfl, hsegment, hrest⟩ := List.map_eq_cons_iff.1 hcase
    rw [Text.sameIgnoringCase_iff, ← hsegment, ← Text.sameIgnoringCase_iff] at hsame
    exact .step hmem hsame (ih hrest)

theorem append_iff {path rest : List String} {v w : Value} :
    Leads v (path ++ rest) w ↔ ∃ u, Leads v path u ∧ Leads u rest w := by
  constructor
  · intro h
    induction path generalizing v with
    | nil => exact ⟨v, .here v, h⟩
    | cons segment path ih =>
      cases h with
      | step hmem hsame hmore =>
        obtain ⟨u, hpath, hrest⟩ := ih hmore
        exact ⟨u, .step hmem hsame hpath, hrest⟩
  · rintro ⟨u, hpath, hrest⟩
    induction hpath with
    | here v => exact hrest
    | step hmem hsame _ ih => exact .step hmem hsame (ih hrest)

/-- Only a map leads on. -/
theorem isMap {path : List String} {v w : Value} (h : Leads v path w) (hpath : path ≠ []) :
    v.entries? ≠ none := by
  cases h with
  | here => exact absurd rfl hpath
  | step => simp [entries?]

end Leads

theorem Clear.dotFree_of_at? {path : List String} {v w : Value} (h : Clear v)
    (hv : at? path v = some w) : ∀ segment ∈ path, '.' ∉ segment.toList := by
  induction path generalizing v with
  | nil => simp
  | cons key rest ih =>
    obtain ⟨entries, u, rfl, hkey, hrest⟩ := at?_cons_eq_some_iff.1 hv
    have hmem := KeyMap.mem_of_get? hkey
    exact List.forall_mem_cons.2 ⟨h.dotFree _ hmem, ih (h.inside hmem) hrest⟩

end Value

/-! ## The laws -/

namespace Settings

/-- What finding settings by the segments of their keys means. -/
structure FindsBySegments (s : Settings) : Prop where
  /-- A key finds what its segments lead to from the root, empty ones included. -/
  get?_iff : ∀ (key : String) (v : Value),
    s.get? key = some v ↔ Value.Leads (.map s.tree) (Text.fieldsOn '.' key) v
  /-- Whatever stands in the tree is found under its path in any case. -/
  any_case : ∀ (path : List String) (v : Value), path ≠ [] →
    Value.at? path (.map s.tree) = some v →
      ∀ key, Text.sameIgnoringCase key (dotted path) = true → s.get? key = some v
  /-- No key leads on from what is no map. -/
  not_beyond : ∀ (key : String) (v : Value), s.get? key = some v → v.entries? = none →
    ∀ more : String, s.get? (key ++ "." ++ more) = none

theorem get?_eq_some_iff {s : Settings} (h : Value.Clear (.map s.tree)) {key : String} {v : Value} :
    s.get? key = some v ↔ Value.Leads (.map s.tree) (Text.fieldsOn '.' key) v := by
  rw [get?, lookup?_eq_follow? h.dotFree, h.follow?_eq_some_iff (Text.fieldsOn_ne_nil '.' key)]

/-- **The law of lookup in trees with clear keys.** -/
theorem findsBySegments (s : Settings) (h : Value.Clear (.map s.tree)) : s.FindsBySegments where
  get?_iff _ _ := get?_eq_some_iff h
  any_case path v hpath hv key hsame := by
    have hfields : Text.fieldsOn '.' (dotted path) = path :=
      fieldsOn_dotted hpath (h.dotFree_of_at? hv)
    have hcase : (Text.fieldsOn '.' key).map Text.lower = path.map Text.lower := by
      rw [← Text.fieldsOn_lower rfl, Text.sameIgnoringCase_iff.1 hsame, Text.fieldsOn_lower rfl,
        hfields]
    exact (get?_eq_some_iff h).2 ((Value.Leads.of_at? hv).respell hcase)
  not_beyond key v hv hleaf more := by
    have hfields : Text.fieldsOn '.' (key ++ "." ++ more)
        = Text.fieldsOn '.' key ++ Text.fieldsOn '.' more := Text.fieldsOn_append '.' key more
    rw [Option.eq_none_iff_forall_ne_some]
    intro w hw
    rw [get?_eq_some_iff h, hfields, Value.Leads.append_iff] at hw
    obtain ⟨u, hu, hmore⟩ := hw
    have huv : u = v := Option.some.inj (((get?_eq_some_iff h).2 hu).symm.trans hv)
    exact hmore.isMap (Text.fieldsOn_ne_nil '.' more) (huv ▸ hleaf)

/-- The keys inside a list may have dots and differ in case only. -/
theorem findsBySegments_of_list :
    let s : Settings :=
      { tree :=
          [ ("", .map [("Port", .ofInt 1)]),
            ("DB", .map [("", .null), ("host", .list [.map [("A.B", .null), ("a.b", .null)]])]) ] }
    Value.Clear (.map s.tree) ∧ s.FindsBySegments := by
  intro s
  have hinner : Value.Clear (.map [("Port", .ofInt 1)]) :=
    .map (by decide +kernel) (by decide +kernel) (by simpa using .leaf rfl)
  have hlist : Value.Clear (.map
      [("", .null), ("host", .list [.map [("A.B", .null), ("a.b", .null)]])]) :=
    .map (by decide +kernel) (by decide +kernel) (by simpa using ⟨.leaf rfl, .leaf rfl⟩)
  have hclear : Value.Clear (.map s.tree) :=
    .map (by decide +kernel) (by decide +kernel) (by simpa [s] using ⟨hinner, hlist⟩)
  exact ⟨hclear, findsBySegments s hclear⟩

/-- **The law of exact spelling.** A path that is there in its exact spelling finds what stands
    there, whatever other keys differ from its segments in case only. One thing comes before it:
    the first top-level key that spells the whole path, dots and all, if only in another case. -/
theorem get?_spelt {s : Settings} {path : List String} {v : Value} (hpath : path ≠ [])
    (hdots : ∀ segment ∈ path, '.' ∉ segment.toList)
    (hv : Value.at? path (.map s.tree) = some v) (hwhole : dotted path ∉ s.keys) :
    ((∀ e ∈ s.tree, Text.sameIgnoringCase e.1 (dotted path) = false) →
        s.get? (dotted path) = some v)
      ∧ ∀ e, s.tree.find? (fun e => Text.sameIgnoringCase e.1 (dotted path)) = some e →
        s.get? (dotted path) = some e.2 := by
  constructor
  · intro hnone
    rw [get?, lookup?_of_entry?_eq_none (entry?_eq_none_iff.2 hnone), fieldsOn_dotted hpath hdots]
    exact follow?_of_at? hpath hv
  · intro e hfirst
    refine lookup?_of_entry? ?_
    rw [entry?_of_get?_eq_none (KeyMap.get?_eq_none_iff.2 hwhole), hfirst]
    rfl

theorem get?_spelt_among_others :
    let s : Settings :=
      { tree :=
          [ ("A", .map [("b", .ofInt 1)]), ("Ab", .ofInt 2),
            ("a", .map [("B", .ofInt 3), ("b", .ofInt 4)]) ] }
    (["a", "b"] ≠ [] ∧ (∀ segment ∈ ["a", "b"], '.' ∉ segment.toList)
        ∧ Value.at? ["a", "b"] (.map s.tree) = some (.ofInt 4) ∧ dotted ["a", "b"] ∉ s.keys
        ∧ ∀ e ∈ s.tree, Text.sameIgnoringCase e.1 (dotted ["a", "b"]) = false)
      ∧ s.get? (dotted ["a", "b"]) = some (.ofInt 4) := by
  intro s
  have hdots : ∀ segment ∈ ["a", "b"], '.' ∉ segment.toList := by decide +kernel
  have hv : Value.at? ["a", "b"] (.map s.tree) = some (.ofInt 4) := by decide +kernel
  have hwhole : dotted ["a", "b"] ∉ s.keys := by decide +kernel
  have hnone : ∀ e ∈ s.tree, Text.sameIgnoringCase e.1 (dotted ["a", "b"]) = false := by
    decide +kernel
  exact ⟨⟨by simp, hdots, hv, hwhole, hnone⟩, (get?_spelt (by simp) hdots hv hwhole).1 hnone⟩

/-- So the exact spelling does not always come first: the key `A.B` hides `b` below `a`. -/
theorem get?_hidden_by_whole_key :
    let s : Settings := { tree := [("A.B", .ofInt 1), ("a", .map [("b", .ofInt 2)])] }
    ¬ ((∀ segment ∈ ["a", "b"], '.' ∉ segment.toList) →
      Value.at? ["a", "b"] (.map s.tree) = some (.ofInt 2) → dotted ["a", "b"] ∉ s.keys →
        s.get? (dotted ["a", "b"]) = some (.ofInt 2)) := by
  decide +kernel

end Settings

end LayeredSettings
