import LayeredSettings.Proofs.Text
import LayeredSettings.World.Basic

set_option autoImplicit false

/-! # File trees without a file

What a path leads to is decided by what lies at the places on its way. So taking a file away is seen
only by paths that lead to its place, through it or below it (`Files.resolve?_remove`), and it makes
no path lead to a file that did not (`Files.isFile_of_remove`). Databases look up their files in a
way of their own, with the same result (`Database.open?_remove`). -/

namespace LayeredSettings

/-! ## Places -/

namespace Files

variable {files : Files} {path other : String} {here names : List String}

/-- The path leads to a place, through it or below it. -/
def Passes (files : Files) (path : String) (place : List String) : Prop :=
  ∃ names ∈ files.start path :: trail (files.start path) (Text.fieldsOn '/' path), place <+: names

theorem not_passes_iff {place : List String} :
    ¬ files.Passes path place ↔ ¬ place <+: files.start path ∧
      ∀ names ∈ trail (files.start path) (Text.fieldsOn '/' path), ¬ place <+: names := by
  simp only [Passes, List.mem_cons, exists_eq_or_imp, not_or, not_exists, not_and]

theorem lookup_filter (p : List String → Bool) (nodes : List (List String × FileNode))
    (names : List String) :
    (nodes.filter fun f => p f.1).lookup names = if p names then nodes.lookup names else none := by
  induction nodes with
  | nil => simp
  | cons f rest ih =>
    obtain ⟨key, node⟩ := f
    by_cases hkey : names = key
    · subst hkey
      by_cases hp : p names = true
      · simp only [List.filter_cons, hp, if_true, List.lookup_cons_self]
      · simp only [List.filter_cons, hp, ih, Bool.false_eq_true, if_false]
    · have hne : (names == key) = false := by simp [hkey]
      by_cases hp : p key = true
      · simp only [List.filter_cons, hp, if_true, List.lookup_cons, hne, ih]
      · simp only [List.filter_cons, hp, Bool.false_eq_true, if_false, List.lookup_cons, hne, ih]

theorem kept_iff : (!(files.place path).isPrefixOf names) = true ↔ ¬ files.place path <+: names := by
  rw [Bool.not_eq_true', Bool.eq_false_iff, ne_eq, List.isPrefixOf_iff_prefix]

@[simp]
theorem start_remove (files : Files) (path other : String) :
    (files.remove path).start other = files.start other :=
  rfl

@[simp]
theorem place_remove (files : Files) (path other : String) :
    (files.remove path).place other = files.place other :=
  rfl

theorem at?_remove (h : ¬ files.place path <+: names) :
    (files.remove path).at? names = files.at? names := by
  unfold at? remove
  rw [lookup_filter (fun names => !(files.place path).isPrefixOf names), if_pos (kept_iff.2 h)]

theorem at?_remove_below (h : files.place path <+: names) (hnames : names ≠ []) :
    (files.remove path).at? names = none := by
  have hgone : ¬ (!(files.place path).isPrefixOf names) = true := fun hkept => kept_iff.1 hkept h
  unfold at? remove
  rw [lookup_filter (fun names => !(files.place path).isPrefixOf names), if_neg hgone]
  simp [hnames]

/-- Taking a path away leaves nothing new behind. -/
theorem at?_of_remove {node : FileNode} (h : (files.remove path).at? names = some node) :
    files.at? names = some node := by
  by_cases hgone : files.place path <+: names
  · by_cases hnames : names = []
    · subst hnames
      exact h
    · rw [at?_remove_below hgone hnames] at h
      cases h
  · rwa [at?_remove hgone] at h

theorem isDirectory_remove (h : ¬ files.place path <+: names) :
    (files.remove path).isDirectory names = files.isDirectory names := by
  unfold isDirectory
  rw [at?_remove h]

theorem isDirectory_of_remove (h : (files.remove path).isDirectory names = true) :
    files.isDirectory names = true := by
  unfold isDirectory at h ⊢
  split at h
  · next hnode => rw [at?_of_remove hnode]
  · cases h

/-! ## Paths -/

theorem walk?_cons (files : Files) (here : List String) (part : String) (rest : List String) :
    walk? files here (part :: rest)
      = if files.isDirectory here = true then walk? files (advance here part) rest else none :=
  rfl

theorem walk?_remove {parts : List String} (hhere : ¬ files.place path <+: here)
    (h : ∀ names ∈ trail here parts, ¬ files.place path <+: names) :
    walk? (files.remove path) here parts = walk? files here parts := by
  induction parts generalizing here with
  | nil => exact at?_remove hhere
  | cons part rest ih =>
    obtain ⟨hnext, hrest⟩ := List.forall_mem_cons.1 h
    rw [walk?_cons, walk?_cons, isDirectory_remove hhere, ih hnext hrest]

theorem walk?_of_remove {parts : List String} {node : FileNode}
    (h : walk? (files.remove path) here parts = some node) : walk? files here parts = some node := by
  induction parts generalizing here with
  | nil => exact at?_of_remove h
  | cons part rest ih =>
    rw [walk?_cons] at h ⊢
    split at h
    · next hstep => rw [if_pos (isDirectory_of_remove hstep), ih h]
    · cases h

/-- A walk ends at the place that its parts lead to. -/
theorem at?_of_walk? {parts : List String} {node : FileNode}
    (h : walk? files here parts = some node) : files.at? (parts.foldl advance here) = some node := by
  induction parts generalizing here with
  | nil => exact h
  | cons part rest ih =>
    rw [walk?_cons] at h
    split at h
    · exact ih h
    · cases h

theorem resolve?_remove (h : ¬ files.Passes other (files.place path)) :
    (files.remove path).resolve? other = files.resolve? other := by
  obtain ⟨hstart, htrail⟩ := not_passes_iff.1 h
  unfold resolve?
  rw [start_remove, walk?_remove hstart htrail]

theorem resolve?_of_remove {node : FileNode} (h : (files.remove path).resolve? other = some node) :
    files.resolve? other = some node := by
  unfold resolve? at h ⊢
  split at h
  · cases h
  · next hfollowed =>
    rw [start_remove] at h
    rw [if_neg hfollowed, walk?_of_remove h]

/-- What a path leads to lies at its place. -/
theorem at?_of_resolve? {node : FileNode} (h : files.resolve? path = some node) :
    files.at? (files.place path) = some node := by
  unfold resolve? at h
  split at h
  · cases h
  · exact at?_of_walk? h

theorem isFile_iff :
    files.isFile path = true ↔ ∃ node, files.resolve? path = some node ∧ node.isFile = true := by
  rw [isFile, Option.any_eq_true]

theorem isFile_remove (h : ¬ files.Passes other (files.place path)) :
    (files.remove path).isFile other = files.isFile other := by
  unfold isFile
  rw [resolve?_remove h]

theorem isFile_of_remove (h : (files.remove path).isFile other = true) :
    files.isFile other = true := by
  obtain ⟨node, hnode, hfile⟩ := isFile_iff.1 h
  exact isFile_iff.2 ⟨node, resolve?_of_remove hnode, hfile⟩

theorem text?_remove (h : ¬ files.Passes other (files.place path)) :
    (files.remove path).text? other = files.text? other := by
  unfold text?
  rw [resolve?_remove h]

/-- Where something was taken away there is nothing, but that the root stays a directory. -/
theorem resolve?_remove_self {node : FileNode}
    (h : (files.remove path).resolve? path = some node) : node = .directory := by
  have hat := at?_of_resolve? h
  rw [place_remove] at hat
  by_cases hroot : files.place path = []
  · rw [hroot] at hat
    exact (Option.some.inj hat).symm
  · rw [at?_remove_below List.prefix_rfl hroot] at hat
    cases hat

theorem isFile_remove_self (files : Files) (path : String) :
    (files.remove path).isFile path = false := by
  rw [Bool.eq_false_iff]
  intro hfile
  obtain ⟨node, hnode, hnodeFile⟩ := isFile_iff.1 hfile
  rw [resolve?_remove_self hnode] at hnodeFile
  cases hnodeFile

theorem text?_remove_self (files : Files) (path : String) :
    (files.remove path).text? path = none := by
  unfold text?
  cases hnode : (files.remove path).resolve? path with
  | none => rfl
  | some node =>
    rw [resolve?_remove_self hnode]
    rfl

end Files

/-! ## Databases -/

namespace Database

open Files

variable {files : Files} {path : String} {here : List String}

theorem follow?_remove (h : ¬ files.place path <+: here) (part : String) :
    follow? (files.remove path) here part = follow? files here part := by
  simp only [follow?, at?_remove h, isDirectory_remove h]

theorem eq_advance_of_follow? {part : String} {next : List String}
    (h : follow? files here part = some next) : next = advance here part := by
  simp only [follow?] at h
  split at h
  · cases h
  · exact (Option.some.inj h).symm

theorem foldlM_follow?_remove {parts : List String} (hhere : ¬ files.place path <+: here)
    (h : ∀ names ∈ trail here parts, ¬ files.place path <+: names) :
    parts.foldlM (follow? (files.remove path)) here = parts.foldlM (follow? files) here
      ∧ ∀ found, parts.foldlM (follow? files) here = some found →
          ¬ files.place path <+: found := by
  induction parts generalizing here with
  | nil =>
    refine ⟨rfl, fun found hfound => ?_⟩
    obtain rfl : here = found := Option.some.inj hfound
    exact hhere
  | cons part rest ih =>
    obtain ⟨hnext, hrest⟩ := List.forall_mem_cons.1 h
    rw [List.foldlM_cons, List.foldlM_cons, follow?_remove hhere]
    cases hstep : follow? files here part with
    | none => exact ⟨rfl, fun found hfound => by cases hfound⟩
    | some next =>
      obtain rfl := eq_advance_of_follow? hstep
      exact ih hnext hrest

/-- The path of the file that a data source name opens. -/
def path? (dsn : String) : Option String :=
  match DataSourceName.opening? dsn with
  | some (.file name _) => Utf8.decode? name
  | _ => none

theorem locate?_remove {dsn : String} {name : List UInt8} {access : Access}
    (hopening : DataSourceName.opening? dsn = some (.file name access))
    (h : ∀ p, path? dsn = some p → ¬ files.Passes p (files.place path)) :
    locate? (files.remove path) name = locate? files name
      ∧ ∀ found, locate? files name = some found → ¬ files.place path <+: found := by
  unfold locate?
  cases hname : Utf8.decode? name with
  | none => exact ⟨rfl, fun found hfound => by cases hfound⟩
  | some p =>
    have hpath : path? dsn = some p := by
      simp only [path?, hopening, hname]
    obtain ⟨hstart, htrail⟩ := not_passes_iff.1 (h p hpath)
    obtain ⟨hfold, havoids⟩ := foldlM_follow?_remove hstart htrail
    simp only [Option.bind_eq_bind, Option.bind_some, start_remove, isDirectory_remove hstart, hfold]
    refine ⟨rfl, fun found hfound => ?_⟩
    split at hfound
    · cases hfound
    · obtain ⟨place, hplace, hfound⟩ := Option.bind_eq_some_iff.1 hfound
      split at hfound
      · cases hfound
      · obtain rfl := Option.some.inj hfound
        exact havoids place hplace

theorem newPlace?_remove {dsn : String}
    (h : ∀ p, path? dsn = some p → ¬ files.Passes p (files.place path)) :
    newPlace? (files.remove path) dsn = newPlace? files dsn := by
  unfold newPlace?
  split
  · next name hopening =>
    obtain ⟨hlocate, havoids⟩ := locate?_remove hopening h
    rw [hlocate]
    cases hfound : locate? files name with
    | none => rfl
    | some found =>
      have hat := havoids found hfound
      have hdirectory : ¬ files.place path <+: found.dropLast := fun hle =>
        hat (hle.trans (List.dropLast_prefix found))
      simp only [Option.bind_some, at?_remove hat, isDirectory_remove hdirectory]
  · rfl

theorem open?_remove {dsn : String}
    (h : ∀ p, path? dsn = some p → ¬ files.Passes p (files.place path)) :
    open? (files.remove path) dsn = open? files dsn := by
  unfold open?
  rw [newPlace?_remove h]
  split
  · rfl
  · rfl
  · next name access hopening =>
    obtain ⟨hlocate, havoids⟩ := locate?_remove hopening h
    rw [hlocate]
    cases hfound : locate? files name with
    | none => rfl
    | some found => rw [Option.bind_some, Option.bind_some, at?_remove (havoids found hfound)]

end Database

end LayeredSettings
