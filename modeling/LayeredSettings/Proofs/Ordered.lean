import LayeredSettings.Plan.Basic
import LayeredSettings.Proofs.Outcome

set_option autoImplicit false

/-! # Maps in order at every depth

No way to read settings ever gives a map with its keys out of order or a key written twice, at any
depth. `Value.Ordered` is this invariant; the writers of trees keep it, the readers of documents
establish it, and `PlannedSource.ordered_load` states it for whatever a source gives. -/

namespace LayeredSettings

/-! ## The invariant -/

namespace Value

/-- Every map in a value has its keys in order. -/
inductive Ordered : Value → Prop where
  | null : Ordered .null
  | bool (b : Bool) : Ordered (.bool b)
  | number (n : Number) : Ordered (.number n)
  | text (s : String) : Ordered (.text s)
  | list {items : List Value} (inside : ∀ v ∈ items, Ordered v) : Ordered (.list items)
  | map {entries : Tree} (keys : KeyMap.Ordered entries) (inside : ∀ e ∈ entries, Ordered e.2) :
    Ordered (.map entries)

namespace Ordered

theorem keys {tree : Tree} (h : Ordered (.map tree)) : KeyMap.Ordered tree := by
  cases h with
  | map keys _ => exact keys

theorem entry {tree : Tree} (h : Ordered (.map tree)) {e : String × Value} (he : e ∈ tree) :
    Ordered e.2 := by
  cases h with
  | map _ inside => exact inside e he

theorem get? {tree : Tree} (h : Ordered (.map tree)) {key : String} {v : Value}
    (hv : KeyMap.get? key tree = some v) : Ordered v :=
  h.entry (KeyMap.mem_of_get? hv)

theorem empty : Ordered (.map []) :=
  .map KeyMap.ordered_nil (by simp)

/-! ## Writing trees -/

theorem insert {tree : Tree} (h : Ordered (.map tree)) (key : String) {v : Value}
    (hv : Ordered v) : Ordered (.map (KeyMap.insert key v tree)) := by
  refine .map (h.keys.insert key v) fun e he => ?_
  rcases KeyMap.mem_insert he with rfl | he
  · exact hv
  · exact h.entry he

theorem insertAll {tree : Tree} (h : Ordered (.map tree)) {entries : List (String × Value)}
    (hentries : ∀ e ∈ entries, Ordered e.2) : Ordered (.map (KeyMap.insertAll entries tree)) := by
  induction entries generalizing tree with
  | nil => exact h
  | cons e rest ih =>
    exact ih (h.insert e.1 (hentries e (by simp))) fun e' he' => hentries e' (by simp [he'])

theorem ofEntries {entries : List (String × Value)} (h : ∀ e ∈ entries, Ordered e.2) :
    Ordered (.map (KeyMap.ofEntries entries)) :=
  empty.insertAll h

theorem overlay {lower upper : Tree} (hlower : Ordered (.map lower))
    (hupper : Ordered (.map upper)) : Ordered (.map (overlay lower upper)) :=
  hlower.insertAll fun _ he => hupper.entry he

theorem mergeTrees {trees : List Tree} (h : ∀ tree ∈ trees, Ordered (.map tree)) :
    Ordered (.map (mergeTrees trees)) := by
  have onto : ∀ lower : Tree, Ordered (.map lower) →
      Ordered (.map (trees.foldl LayeredSettings.overlay lower)) := by
    induction trees with
    | nil => exact fun _ hlower => hlower
    | cons tree rest ih =>
      intro lower hlower
      exact ih (fun t ht => h t (by simp [ht])) _ (hlower.overlay (h tree (by simp)))
  exact onto [] empty

theorem submap {tree : Tree} (h : Ordered (.map tree)) (key : String) :
    Ordered (.map (submap key tree)) := by
  unfold LayeredSettings.submap
  split
  · next entries hget => exact h.get? hget
  · exact empty

theorem insertAt {tree : Tree} (h : Ordered (.map tree)) (path : List String) {v : Value}
    (hv : Ordered v) : Ordered (.map (insertAt path v tree)) := by
  induction path generalizing tree with
  | nil => exact h
  | cons key rest ih =>
    cases rest with
    | nil => exact h.insert key hv
    | cons next rest => exact h.insert key (ih (h.submap key))

end Ordered

end Value

/-! ## JSON documents -/

namespace Json

namespace Written

mutual

/-- What is written has a value with ordered maps, if it has one. -/
theorem ordered_of_value? {depth : Nat} {v : Value} :
    ∀ w : Written, w.value? depth = some v → v.Ordered
  | .null, h => by
    obtain rfl := Option.some.inj h
    exact .null
  | .bool b, h => by
    obtain rfl := Option.some.inj h
    exact .bool b
  | .number n, h => by
    obtain ⟨n, -, rfl⟩ := Option.map_eq_some_iff.1 h
    exact .number n
  | .text s, h => by
    obtain ⟨s, -, rfl⟩ := Option.map_eq_some_iff.1 h
    exact .text s
  | .list items, h => by
    unfold value? at h
    split at h
    · cases h
    · obtain ⟨vs, hvs, rfl⟩ := Option.map_eq_some_iff.1 h
      exact .list (ordered_of_values? items hvs)
  | .map entries, h => by
    unfold value? at h
    split at h
    · cases h
    · obtain ⟨es, hes, rfl⟩ := Option.map_eq_some_iff.1 h
      exact .ofEntries (ordered_of_entries? entries hes)

theorem ordered_of_values? {depth : Nat} {vs : List Value} :
    ∀ items : List Written, values? depth items = some vs → ∀ v ∈ vs, v.Ordered
  | [], h => by
    obtain rfl := Option.some.inj h
    simp
  | w :: rest, h => by
    simp only [values?, bind, Option.bind_eq_some_iff] at h
    obtain ⟨v, hv, others, hothers, h⟩ := h
    obtain rfl := Option.some.inj h
    intro u hu
    rcases List.mem_cons.1 hu with rfl | hu
    · exact ordered_of_value? w hv
    · exact ordered_of_values? rest hothers u hu

theorem ordered_of_entries? {depth : Nat} {es : List (String × Value)} :
    ∀ entries : List (Option String × Written), entries? depth entries = some es →
      ∀ e ∈ es, e.2.Ordered
  | [], h => by
    obtain rfl := Option.some.inj h
    simp
  | (key?, w) :: rest, h => by
    simp only [entries?, bind, Option.bind_eq_some_iff] at h
    obtain ⟨key, -, v, hv, others, hothers, h⟩ := h
    obtain rfl := Option.some.inj h
    intro e he
    rcases List.mem_cons.1 he with rfl | he
    · exact ordered_of_value? w hv
    · exact ordered_of_entries? rest hothers e he

end

end Written

theorem ordered_of_value? {text : String} {v : Value} (h : value? text = some v) : v.Ordered := by
  obtain ⟨w, -, hw⟩ := Option.bind_eq_some_iff.1 h
  exact Written.ordered_of_value? w hw

end Json

/-! ## YAML documents -/

namespace Yaml

theorem ordered_of_floatValue? {text : String} {v : Value} (h : floatValue? text = some v) :
    v.Ordered := by
  unfold floatValue? at h
  split at h
  · obtain rfl := Option.some.inj h
    exact .null
  · simp only [Option.ite_none_left_eq_some] at h
    obtain ⟨x, -, rfl⟩ := Option.map_eq_some_iff.1 h.2
    exact .number _

theorem ordered_of_wholeValue? {whole : WholeNumber} {v : Value}
    (h : wholeValue? whole = some (some v)) : v.Ordered := by
  cases whole with
  | fits n =>
    obtain rfl := Option.some.inj (Option.some.inj h)
    exact .number _
  | tooWide => cases Option.some.inj h
  | beyond => cases h

theorem ordered_of_plainValue? {text : String} {v : Value} (h : plainValue? text = some v) :
    v.Ordered := by
  unfold plainValue? at h
  split at h
  · obtain rfl := Option.some.inj h
    exact .null
  · split at h
    · obtain rfl := Option.some.inj h
      exact .bool _
    · split at h
      · next whole hwhole =>
        obtain ⟨w, -, hw⟩ := Option.bind_eq_some_iff.1 hwhole
        rw [h] at hw
        exact ordered_of_wholeValue? hw
      · split at h
        · obtain rfl := Option.some.inj h
          exact .text _
        · obtain rfl := Option.some.inj h
          cases hfloat : floatValue? text with
          | none => exact .text text
          | some v => exact ordered_of_floatValue? hfloat

namespace Node

theorem ordered_of_untaggedValue? {text : String} {plain : Bool} {v : Value}
    (h : untaggedValue? text plain = some v) : v.Ordered := by
  unfold untaggedValue? at h
  split at h
  · exact ordered_of_plainValue? h
  · obtain rfl := Option.some.inj h
    exact .text text

theorem ordered_of_scalarValue? {tag : Option TagOctets} {text : String} {plain : Bool} {v : Value}
    (h : scalarValue? tag text plain = some v) : v.Ordered := by
  unfold scalarValue? at h
  split at h
  · obtain ⟨b, -, rfl⟩ := Option.map_eq_some_iff.1 h
    exact .bool b
  · obtain ⟨w, -, hw⟩ := Option.bind_eq_some_iff.1 (Option.join_eq_some_iff.1 h)
    exact ordered_of_wholeValue? hw
  · exact ordered_of_floatValue? h
  · split at h
    · obtain rfl := Option.some.inj h
      exact .null
    · cases h
  · cases h
  · obtain rfl := Option.some.inj h
    exact .text text
  · exact ordered_of_untaggedValue? h
  · exact ordered_of_untaggedValue? h

/-- Whatever a step gives, from any count on, has a property. -/
def Build.Gives {α : Type} (x : Build α) (holds : α → Prop) : Prop :=
  ∀ n a n', x.run n = some (a, n') → holds a

namespace Build

variable {α β : Type} {P : α → Prop} {Q : β → Prop}

theorem gives_pure {a : α} (h : P a) : (pure a : Build α).Gives P := by
  intro n b n' hb
  have hab : some (a, n) = some (b, n') := hb
  cases hab
  exact h

theorem gives_failure : (failure : Build α).Gives P := by
  intro n a n' h
  have hnone : none = some (a, n') := h
  cases hnone

theorem gives_bind {x : Build α} {f : α → Build β} (hx : x.Gives P)
    (hf : ∀ a, P a → (f a).Gives Q) : (x >>= f).Gives Q := by
  intro n b n' h
  rw [StateT.run_bind] at h
  obtain ⟨⟨a, m⟩, ha, hb⟩ := Option.bind_eq_some_iff.1 h
  exact hf a (hx n a m ha) m b n' hb

theorem gives_any (x : Build α) : x.Gives fun _ => True :=
  fun _ _ _ _ => trivial

theorem gives_mapM {f : α → Build β} (hf : ∀ a, (f a).Gives Q) (xs : List α) :
    (xs.mapM f).Gives fun ys => ∀ y ∈ ys, Q y := by
  induction xs with
  | nil =>
    rw [List.mapM_nil]
    exact gives_pure (by simp)
  | cons x rest ih =>
    rw [List.mapM_cons]
    -- The count of aliases goes on from one item to the next, but no item can break the others.
    refine gives_bind (hf x) fun y hy => gives_bind ih fun ys hys => gives_pure fun z hz => ?_
    rcases List.mem_cons.1 hz with rfl | hz
    · exact hy
    · exact hys z hz

end Build

theorem ordered_buildScalar (node : Node) : (buildScalar node).Gives Value.Ordered := by
  cases node with
  | scalar anchor tag text plain =>
    intro n v n' h
    cases hv : scalarValue? tag text plain with
    | none =>
      simp only [buildScalar, hv] at h
      cases h
    | some u =>
      simp only [buildScalar, hv] at h
      cases h
      exact ordered_of_scalarValue? hv
  | _ => exact Build.gives_failure

theorem ordered_buildWith {a : Aliases} {inside : Node → Build Value}
    (hinside : ∀ node, (inside node).Gives Value.Ordered) (node : Node) :
    (buildWith a inside node).Gives Value.Ordered := by
  have hentry : ∀ e, (buildEntry a inside e).Gives fun entry => entry.2.Ordered := by
    intro e
    exact Build.gives_bind (Build.gives_any _) fun key _ =>
      Build.gives_bind (hinside e.2) fun v hv => Build.gives_pure hv
  unfold buildWith
  split
  · split
    · exact Build.gives_failure
    · exact Build.gives_bind (Build.gives_mapM hinside _) fun vs hvs =>
        Build.gives_pure (Value.Ordered.list hvs)
  · split
    · exact Build.gives_failure
    · exact Build.gives_bind (Build.gives_mapM hentry _) fun es hes =>
        Build.gives_pure (Value.Ordered.ofEntries hes)
  · exact ordered_buildScalar _

theorem ordered_build (a : Aliases) (depth : Nat) (node : Node) :
    (build a depth node).Gives Value.Ordered := by
  induction depth generalizing node with
  | zero => exact Build.gives_bind (Build.gives_any _) fun target _ => ordered_buildScalar target
  | succ depth ih =>
    exact Build.gives_bind (Build.gives_any _) fun target _ => ordered_buildWith ih target

end Node

theorem ordered_of_value? {text : String} {v : Value} (h : value? text = some v) : v.Ordered := by
  simp only [value?, bind, Option.bind_eq_some_iff] at h
  obtain ⟨tokens, -, document, -, h⟩ := h
  split at h
  · next root =>
    obtain ⟨⟨v, n⟩, hv, rfl⟩ := Option.map_eq_some_iff.1 h
    exact Node.ordered_build root.aliases Node.depthLimit root 0 v n hv
  · obtain rfl := Option.some.inj h
    exact .null

end Yaml

/-! ## Documents and rows -/

theorem Value.ordered_inferred (raw : String) : (Value.inferred raw).Ordered := by
  unfold inferred
  simp only
  split
  · next v hv =>
    unfold collection? at hv
    split at hv
    · exact Json.ordered_of_value? hv
    · cases hv
  · exact .bool _
  · exact .number _
  · exact .text raw

namespace Format

theorem ordered_of_value? {f : Format} {text : String} {v : Value} (h : f.value? text = some v) :
    v.Ordered := by
  unfold value? at h
  split at h
  · obtain rfl := Option.some.inj h
    exact .null
  · cases f with
    | yaml => exact Yaml.ordered_of_value? h
    | json => exact Json.ordered_of_value? h

theorem ordered_of_value {f : Format} {text source : String} {v : Value}
    (h : f.value text source = .ok v) : v.Ordered := by
  unfold value at h
  split at h
  · next u hu =>
    obtain rfl := Except.ok.inj h
    exact ordered_of_value? hu
  · cases h

theorem ordered_of_tree {f : Format} {text source : String} {tree : Tree}
    (h : f.tree text source = .ok tree) : Value.Ordered (.map tree) := by
  rcases read_eq_ok_iff.1 (tree_eq_ok_iff.1 h) with hvalue | ⟨-, rfl⟩
  · exact ordered_of_value? hvalue
  · exact .empty

end Format

theorem ordered_of_decode {format? : Option Format} {table : String} {r : Row} {v : Value}
    (h : r.decode format? table = .ok v) : v.Ordered := by
  unfold Row.decode at h
  split at h
  · obtain rfl := Except.ok.inj h
    exact .null
  · exact Format.ordered_of_value h
  · obtain rfl := Except.ok.inj h
    exact Value.ordered_inferred _

theorem ordered_of_writeRow {format? : Option Format} {table : String} {r : Row} {before after : Tree}
    (hbefore : Value.Ordered (.map before)) (h : writeRow format? table before r = .ok after) :
    Value.Ordered (.map after) := by
  obtain ⟨v, hv, hafter⟩ := Except.bind_eq_ok_iff.1 h
  obtain rfl := Except.ok.inj hafter
  exact hbefore.insertAt r.path (ordered_of_decode hv)

theorem ordered_of_writeRows {format? : Option Format} {table : String} {rows : List Row}
    {before after : Tree} (hbefore : Value.Ordered (.map before))
    (h : rows.foldlM (writeRow format? table) before = .ok after) :
    Value.Ordered (.map after) := by
  induction rows generalizing before with
  | nil =>
    obtain rfl := Except.ok.inj h
    exact hbefore
  | cons r rest ih =>
    rw [List.foldlM_cons] at h
    obtain ⟨next, hnext, hrest⟩ := Except.bind_eq_ok_iff.1 h
    exact ih (ordered_of_writeRow hbefore hnext) hrest

/-! ## Sources -/

namespace ConfigSource

theorem ordered_of_loadVia {send : Transport} {w : World} {s : ConfigSource} {tree : Tree}
    (h : (s.loadVia send w).result = .ok tree) : Value.Ordered (.map tree) := by
  cases s with
  | stringVar s =>
    have htree : s.format.tree s.value s.label = .ok tree := by
      simpa only [loadVia, Outcome.ofExcept, StringVar.load] using h
    exact Format.ordered_of_tree htree
  | file s =>
    simp only [loadVia, Outcome.ofExcept] at h
    obtain ⟨loaded, hloaded, rfl⟩ := Except.map_eq_ok_iff.1 h
    obtain ⟨path, -, hpath⟩ := Except.bind_eq_ok_iff.1 hloaded
    obtain ⟨text, -, htext⟩ := Except.bind_eq_ok_iff.1 hpath
    obtain ⟨tree, htree, hdone⟩ := Except.bind_eq_ok_iff.1 htext
    obtain rfl := Except.ok.inj hdone
    exact Format.ordered_of_tree htree
  | database s =>
    simp only [loadVia, Outcome.ofExcept] at h
    obtain ⟨rows, -, htree⟩ := Except.bind_eq_ok_iff.1 h
    exact ordered_of_writeRows .empty htree
  | secretManager s =>
    rw [loadVia, SecretManagerSource.loadVia, Outcome.result_bind] at h
    obtain ⟨response, -, hresponse⟩ := Except.bind_eq_ok_iff.1 h
    obtain ⟨payload, -, hpayload⟩ := Except.bind_eq_ok_iff.1 hresponse
    obtain ⟨text, -, htree⟩ := Except.bind_eq_ok_iff.1 hpayload
    exact Format.ordered_of_tree htree
  | keyValue s =>
    rw [loadVia, KeyValueSource.loadVia, Outcome.result_bind] at h
    obtain ⟨protocol, -, hprotocol⟩ := Except.bind_eq_ok_iff.1 h
    rw [Outcome.result_bind] at hprotocol
    obtain ⟨response, -, hresponse⟩ := Except.bind_eq_ok_iff.1 hprotocol
    obtain ⟨text, -, htree⟩ := Except.bind_eq_ok_iff.1 hresponse
    exact Format.ordered_of_tree htree

end ConfigSource

/-- Whatever a source gives has its maps in order at every depth. -/
theorem PlannedSource.ordered_of_load {w : World} {s : PlannedSource} {tree : Tree}
    (h : (s.load w).result = .ok tree) : Value.Ordered (.map tree) := by
  cases s with
  | config s => exact ConfigSource.ordered_of_loadVia h
  | secret s => exact ConfigSource.ordered_of_loadVia h

end LayeredSettings
