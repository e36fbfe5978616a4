import LayeredSettings.Proofs.Environment
import Mathlib.Data.Finset.Card

set_option autoImplicit false

/-! # Calls on a layered environment

After any calls the overlay holds the entries that took effect, each under the value that was
written last, and the base hides what it sets itself. The main statement is
`LayeredEnvironment.reads_last_write`. A base such as the variables of a process can answer
differently at every call, so a call is taken with the base of its time. -/

namespace LayeredSettings

/-! ## Entries written in turn -/

namespace KeyMap

variable {α : Type}

/-- A map has an entry for every key that was written. -/
theorem length_ofEntries (entries : List (String × α)) :
    (ofEntries entries).length = (entries.map Prod.fst).toFinset.card := by
  have hnodup : (keys (ofEntries entries)).Nodup :=
    (ordered_ofEntries entries).imp String.ne_of_lt
  have hsame : (keys (ofEntries entries)).toFinset = (entries.map Prod.fst).toFinset := by
    ext key
    rw [List.mem_toFinset, List.mem_toFinset, mem_keys_ofEntries]
  rw [← hsame, List.toFinset_card_of_nodup hnodup, keys, List.length_map]

end KeyMap

/-- The last of the entries of a variable gives it this value. -/
def LastWrite (entries : List (String × String)) (key value : String) : Prop :=
  ∃ before after, entries = before ++ (key, value) :: after ∧ key ∉ after.map Prod.fst

theorem KeyMap.get?_ofEntries_eq_some_iff {entries : List (String × String)} {key value : String} :
    get? key (ofEntries entries) = some value ↔ LastWrite entries key value := by
  rw [ofEntries, get?_insertAll_eq_lookup, get?, Option.or_none, List.lookup_eq_some_iff]
  constructor
  · rintro ⟨after, before, hreverse, hafter⟩
    refine ⟨before.reverse, after.reverse, ?_, ?_⟩
    · rw [← List.reverse_reverse entries, hreverse]
      simp
    · intro hmem
      obtain ⟨e, he, rfl⟩ := List.mem_map.1 hmem
      simpa using hafter e (List.mem_reverse.1 he)
  · rintro ⟨before, after, rfl, hafter⟩
    refine ⟨after.reverse, before.reverse, by simp, ?_⟩
    intro e he
    have hne : key ≠ e.1 := by
      rintro rfl
      exact hafter (List.mem_map_of_mem (List.mem_reverse.1 he))
    simpa using hne

namespace LayeredEnvironment

/-! ## Calls -/

/-- A way to write to the overlay. -/
inductive Write where
  | extend (entries : List (String × String))
  | seed (key value : String)

/-- The environment after a write. -/
def Write.run : Write → LayeredEnvironment → LayeredEnvironment
  | .extend entries, env => env.extend entries
  | .seed key value, env => env.seed key value

/-- The same overlay over what the base answers now. -/
def withBase (base : Environment) (env : LayeredEnvironment) : LayeredEnvironment :=
  { env with base := base }

/-- A write, and what the base answers at its time. -/
structure Call where
  base : Environment
  write : Write

/-- The environment after a call. -/
def Call.run (c : Call) (env : LayeredEnvironment) : LayeredEnvironment :=
  c.write.run (env.withBase c.base)

/-- The environment after calls, in order. -/
def run (calls : List Call) (env : LayeredEnvironment) : LayeredEnvironment :=
  calls.foldl (fun env c => c.run env) env

/-- The entries of a call that take effect behind those written before: all that are extended, and
    a seed if neither the base nor an earlier entry has its variable. -/
def Call.effective (c : Call) (written : List (String × String)) : List (String × String) :=
  match c.write with
  | .extend entries => entries
  | .seed key value =>
    if c.base key = none ∧ key ∉ written.map Prod.fst then [(key, value)] else []

/-- The entries that take effect in calls, behind those written before. -/
def writtenAfter (written : List (String × String)) (calls : List Call) : List (String × String) :=
  calls.foldl (fun written c => written ++ c.effective written) written

/-! ## What calls write -/

variable {written : List (String × String)} {env : LayeredEnvironment}

theorem overlay_seed (key value : String) (env : LayeredEnvironment) :
    (env.seed key value).overlay
      = if env.var key = none then KeyMap.insert key value env.overlay else env.overlay := by
  unfold seed
  cases env.var key with
  | none => rfl
  | some v => rfl

/-- One call writes its effective entries. -/
theorem overlay_call (c : Call) (h : env.overlay = KeyMap.ofEntries written) :
    (c.run env).overlay = KeyMap.ofEntries (written ++ c.effective written) := by
  obtain ⟨base, write⟩ := c
  cases write with
  | extend entries =>
    show KeyMap.insertAll entries env.overlay = KeyMap.ofEntries (written ++ entries)
    rw [h, KeyMap.ofEntries_append]
  | seed key value =>
    -- The overlay has the variables written so far, so a seed finds set what `effective` leaves
    -- out.
    have hset : (env.withBase base).var key = none ↔
        base key = none ∧ key ∉ written.map Prod.fst := by
      show (base key).or (KeyMap.get? key env.overlay) = none ↔ _
      rw [Option.or_eq_none_iff, h, KeyMap.get?_eq_none_iff, KeyMap.mem_keys_ofEntries]
    show ((env.withBase base).seed key value).overlay = KeyMap.ofEntries (written
      ++ if base key = none ∧ key ∉ written.map Prod.fst then [(key, value)] else [])
    rw [overlay_seed, if_congr hset rfl rfl]
    split
    · rw [KeyMap.ofEntries_append, ← h]
      rfl
    · rw [List.append_nil, ← h]
      rfl

/-- So calls write the entries that take effect in them. -/
theorem overlay_run (calls : List Call) (h : env.overlay = KeyMap.ofEntries written) :
    (run calls env).overlay = KeyMap.ofEntries (writtenAfter written calls) := by
  induction calls generalizing env written with
  | nil => exact h
  | cons c rest ih => exact ih (overlay_call c h)

theorem overlay_run_empty (calls : List Call) (base : Environment) :
    (run calls ⟨base, []⟩).overlay = KeyMap.ofEntries (writtenAfter [] calls) := by
  have hempty : (LayeredEnvironment.mk base []).overlay = KeyMap.ofEntries [] := rfl
  exact overlay_run calls hempty

theorem overlaySize_run_empty (calls : List Call) (base : Environment) :
    (run calls ⟨base, []⟩).overlaySize = ((writtenAfter [] calls).map Prod.fst).toFinset.card := by
  rw [overlaySize, overlay_run_empty, KeyMap.length_ofEntries]

theorem writtenAfter_append (calls more : List Call) :
    writtenAfter written (calls ++ more) = writtenAfter (writtenAfter written calls) more :=
  List.foldl_append

/-- What was written stays written. -/
theorem prefix_writtenAfter (calls : List Call) (written : List (String × String)) :
    written <+: writtenAfter written calls := by
  induction calls generalizing written with
  | nil => exact List.prefix_refl written
  | cons c rest ih => exact (List.prefix_append _ _).trans (ih _)

/-- **The last write is read.** After any calls a variable has the value of the base where the base
    sets it, and else the one that was last written with effect. A seed changes no variable that is
    set. The size of the overlay is the number of variables that were written with effect, those
    that the base hides among them, so more calls never make it smaller. -/
theorem reads_last_write (start : Environment) (calls : List Call) :
    let env := run calls ⟨start, []⟩
    let written := writtenAfter [] calls
    (∀ base key value, (env.withBase base).var key = some value ↔
        base key = some value ∨ base key = none ∧ LastWrite written key value)
      ∧ (∀ base key value other v, (env.withBase base).var other = some v →
        ((env.withBase base).seed key value).var other = some v)
      ∧ env.overlaySize = (written.map Prod.fst).toFinset.card
      ∧ ∀ more, env.overlaySize ≤ (run (calls ++ more) ⟨start, []⟩).overlaySize := by
  intro env written
  refine ⟨?_, ?_, overlaySize_run_empty calls start, ?_⟩
  · intro base key value
    show (base key).or (KeyMap.get? key env.overlay) = some value ↔ _
    rw [Option.or_eq_some_iff, overlay_run_empty, KeyMap.get?_ofEntries_eq_some_iff]
  · intro base key value other v hset
    rw [var_seed, Environment.withDefaults, hset, Option.some_or]
  · intro more
    rw [overlaySize_run_empty, overlaySize_run_empty, writtenAfter_append]
    refine Finset.card_le_card fun key hkey => ?_
    rw [List.mem_toFinset] at hkey ⊢
    exact ((prefix_writtenAfter more _).map Prod.fst).subset hkey

/-- A seed that the base hides, a variable that is extended twice and not seeded again, and a seed
    that takes effect. -/
theorem reads_last_write_of_names :
    let base := Environment.ofMap [("NAME", "real")]
    let calls : List Call := [⟨base, .seed "NAME" "config"⟩,
      ⟨base, .extend [("NAME", "file"), ("TYPE", "json"), ("TYPE", "yaml")]⟩,
      ⟨base, .seed "TYPE" "json"⟩, ⟨base, .seed "PATH" "conf"⟩]
    let env := run calls ⟨base, []⟩
    (env.withBase base).var "NAME" = some "real"
      ∧ (env.withBase base).var "TYPE" = some "yaml"
      ∧ ((env.withBase base).seed "TYPE" "json").var "TYPE" = some "yaml"
      ∧ env.overlaySize = 3 := by
  intro base calls env
  obtain ⟨hvar, hseed, hsize, -⟩ := reads_last_write base calls
  have htype : (env.withBase base).var "TYPE" = some "yaml" :=
    (hvar base "TYPE" "yaml").2 (.inr ⟨by decide,
      [("NAME", "file"), ("TYPE", "json")], [("PATH", "conf")], by decide +kernel, by decide⟩)
  exact ⟨(hvar base "NAME" "real").2 (.inl (by decide)), htype,
    hseed base "TYPE" "json" "TYPE" "yaml" htype, hsize.trans (by decide +kernel)⟩

end LayeredEnvironment

end LayeredSettings
