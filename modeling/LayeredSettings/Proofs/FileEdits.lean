import LayeredSettings.Proofs.FileTrees
import Mathlib.Data.List.Induction

set_option autoImplicit false

/-! # Writing files

A file that is written changes what lies at its own place and adds directories where nothing was
(`Files.keepsAt_put`), so that every node still lies in a directory (`Files.IsTree.put`). After any
number of them a path leads where it led, unless something was written at its place
(`Files.Written.resolve?_of_some`), and a path without two dots leads to no new file
(`Files.Written.isFile_of_isFile`). With two dots it may, since the directories that it goes through
and leaves again need not have been there before. -/

namespace LayeredSettings.Files

variable {files files' : Files} {path : String} {here names : List String} {node : FileNode}

/-! ## Writing one file -/

/-- What lies at a place is left as it was, or the place was free and is a directory now. -/
def KeepsAt (files files' : Files) (names : List String) : Prop :=
  files'.at? names = files.at? names
    ∨ files.at? names = none ∧ files'.at? names = some .directory

theorem KeepsAt.trans {files'' : Files} (h : KeepsAt files files' names)
    (h' : KeepsAt files' files'' names) : KeepsAt files files'' names := by
  rcases h with hsame | ⟨hfree, hnew⟩
  · rcases h' with hsame' | ⟨hfree', hnew'⟩
    · exact .inl (hsame'.trans hsame)
    · exact .inr ⟨hsame ▸ hfree', hnew'⟩
  · rcases h' with hsame' | ⟨hfree', -⟩
    · exact .inr ⟨hfree, hsame'.trans hnew⟩
    · rw [hnew] at hfree'
      cases hfree'

@[simp]
theorem here_set (place : List String) (node : FileNode) (files : Files) :
    (files.set place node).here = files.here :=
  rfl

@[simp]
theorem here_addDirectory (files : Files) (place : List String) :
    (files.addDirectory place).here = files.here := by
  unfold addDirectory
  split <;> rfl

@[simp]
theorem here_foldl_addDirectory (places : List (List String)) (files : Files) :
    (places.foldl addDirectory files).here = files.here := by
  induction places generalizing files with
  | nil => rfl
  | cons place rest ih => rw [List.foldl_cons, ih, here_addDirectory]

@[simp]
theorem here_put (path : String) (node : FileNode) (files : Files) :
    (files.put path node).here = files.here := by
  simp [put]

theorem at?_set_of_ne {place : List String} (h : names ≠ place) :
    (files.set place node).at? names = files.at? names := by
  have hne : (names == place) = false := by simpa using h
  have hkept : (names != place) = true := by simpa using h
  unfold at? set
  rw [List.lookup_cons, hne, lookup_filter (fun names => names != place), hkept]
  simp

theorem at?_set_self {place : List String} (h : place ≠ []) :
    (files.set place node).at? place = some node := by
  unfold at? set
  simp [h]

theorem keepsAt_addDirectory (files : Files) (place names : List String) :
    KeepsAt files (files.addDirectory place) names := by
  unfold addDirectory
  split
  · exact .inl rfl
  · next hfree =>
    by_cases hplace : names = place
    · subst hplace
      refine .inr ⟨hfree, at?_set_self ?_⟩
      rintro rfl
      cases hfree
    · exact .inl (at?_set_of_ne hplace)

theorem keepsAt_foldl_addDirectory (places : List (List String)) (files : Files)
    (names : List String) : KeepsAt files (places.foldl addDirectory files) names := by
  induction places generalizing files with
  | nil => exact .inl rfl
  | cons place rest ih => exact (keepsAt_addDirectory files place names).trans (ih _)

theorem at?_foldl_addDirectory_of_notMem {places : List (List String)} (h : names ∉ places) :
    (places.foldl addDirectory files).at? names = files.at? names := by
  induction places generalizing files with
  | nil => rfl
  | cons place rest ih =>
    rw [List.mem_cons, not_or] at h
    rw [List.foldl_cons, ih h.2]
    unfold addDirectory
    split
    · rfl
    · exact at?_set_of_ne h.1

/-- Writing at a path changes what lies at its place, and adds directories where nothing was. -/
theorem keepsAt_put (h : names ≠ files.place path) (node : FileNode) :
    KeepsAt files (files.put path node) names :=
  (keepsAt_foldl_addDirectory _ files names).trans (.inl (at?_set_of_ne h))

/-! ## Writing files -/

/-- The second tree comes from the first one by writing files, one after the other, at places of a
    class; new directories lead to them, and no directory is written over. -/
inductive Written (writable : List String → Prop) : Files → Files → Prop where
  | refl (files : Files) : Written writable files files
  | put {files files' : Files} {path : String} {node : FileNode}
    (before : Written writable files files') (file : node.isFile = true)
    (free : files'.isDirectory (files'.place path) = false)
    (allowed : writable (files'.place path)) :
    Written writable files (files'.put path node)

theorem isDirectory_iff : files.isDirectory names = true ↔ files.at? names = some .directory := by
  unfold isDirectory
  split
  · next h => simp [h]
  · next h => simpa using h

theorem KeepsAt.isDirectory (h : KeepsAt files files' names) (hd : files.isDirectory names = true) :
    files'.isDirectory names = true := by
  rw [isDirectory_iff] at hd ⊢
  rcases h with hsame | ⟨hfree, -⟩
  · rw [hsame, hd]
  · rw [hfree] at hd
    cases hd

section Written

variable {writable : List String → Prop}

/-- One stays in the current directory, so paths lead to the same places. -/
theorem Written.here_eq (h : Written writable files files') : files'.here = files.here := by
  induction h with
  | refl => rfl
  | put _ _ _ _ ih => rw [here_put, ih]

theorem Written.start_eq (h : Written writable files files') (path : String) :
    files'.start path = files.start path := by
  rw [start, h.here_eq, start]

theorem Written.place_eq (h : Written writable files files') (path : String) :
    files'.place path = files.place path := by
  rw [place, h.start_eq, place]

/-- Directories stay directories. -/
theorem Written.isDirectory (h : Written writable files files')
    (hd : files.isDirectory names = true) : files'.isDirectory names = true := by
  induction h with
  | refl => exact hd
  | @put files' path node before file free allowed ih =>
    refine (keepsAt_put ?_ node).isDirectory ih
    rintro rfl
    rw [ih] at free
    cases free

/-- Where nothing may be written, nothing but a directory appears. -/
theorem Written.keepsAt (h : Written writable files files') (hnames : ¬ writable names) :
    KeepsAt files files' names := by
  induction h with
  | refl => exact .inl rfl
  | @put files' path node before file free allowed ih =>
    refine ih.trans (keepsAt_put ?_ node)
    rintro rfl
    exact hnames allowed

end Written

/-! ## Trees -/

/-- Every node lies in a directory, as in every tree of files. -/
def IsTree (files : Files) : Prop :=
  ∀ f ∈ files.nodes, files.isDirectory f.1.dropLast = true

instance (files : Files) : Decidable files.IsTree :=
  inferInstanceAs (Decidable (∀ f ∈ files.nodes, files.isDirectory f.1.dropLast = true))

theorem IsTree.isDirectory_dropLast (h : files.IsTree) (hat : files.at? names = some node) :
    files.isDirectory names.dropLast = true := by
  by_cases htop : names = []
  · subst htop
    rfl
  · have hlookup : files.nodes.lookup names = some node := by
      simpa [at?, htop] using hat
    obtain ⟨before, after, hnodes, -⟩ := List.lookup_eq_some_iff.1 hlookup
    exact h (names, node) (by simp [hnodes])

/-- So everything on the way to a node is a directory. -/
theorem IsTree.isDirectory_of_prefix (h : files.IsTree) (hat : files.at? names = some node)
    (habove : here <+: names) (hne : here ≠ names) : files.isDirectory here = true := by
  obtain ⟨behind, rfl⟩ := habove
  induction behind using List.reverseRecOn generalizing node with
  | nil => simp at hne
  | append_singleton behind name ih =>
    have hparent := h.isDirectory_dropLast hat
    rw [← List.append_assoc, List.dropLast_concat] at hparent
    by_cases hbehind : behind = []
    · subst hbehind
      rwa [List.append_nil] at hparent
    · exact ih (isDirectory_iff.1 hparent) (by simpa using hbehind)

theorem IsTree.set (h : files.IsTree) (hparent : files.isDirectory names.dropLast = true)
    (hnode : node = .directory ∨ files.isDirectory names = false) :
    (files.set names node).IsTree := by
  -- A directory stays one, whether it is the place of the node or another one.
  have hkept : ∀ above, files.isDirectory above = true →
      (files.set names node).isDirectory above = true := by
    intro above habove
    rw [isDirectory_iff] at habove ⊢
    by_cases hsame : above = names
    · subst hsame
      rcases hnode with rfl | hfree
      · by_cases htop : above = []
        · subst htop
          rfl
        · exact at?_set_self htop
      · rw [isDirectory_iff.2 habove] at hfree
        cases hfree
    · rw [at?_set_of_ne hsame, habove]
  intro f hf
  rcases List.mem_cons.1 hf with rfl | hold
  · exact hkept _ hparent
  · exact hkept _ (h f (List.mem_filter.1 hold).1)

/-- No file is at the place. -/
def Passable (files : Files) (names : List String) : Prop :=
  files.at? names = none ∨ files.at? names = some .directory

theorem IsTree.addDirectory (h : files.IsTree) (hparent : files.isDirectory names.dropLast = true)
    (hpass : files.Passable names) :
    (files.addDirectory names).IsTree ∧ (files.addDirectory names).isDirectory names = true := by
  unfold Files.addDirectory
  rcases hpass with hfree | hdirectory
  · rw [hfree]
    have htop : names ≠ [] := by
      rintro rfl
      cases hfree
    exact ⟨h.set hparent (.inl rfl), isDirectory_iff.2 (at?_set_self htop)⟩
  · rw [hdirectory]
    exact ⟨h, isDirectory_iff.2 hdirectory⟩

theorem IsTree.isDirectory_dropLast_of_isDirectory (h : files.IsTree)
    (hnames : files.isDirectory names = true) : files.isDirectory names.dropLast = true :=
  h.isDirectory_dropLast (isDirectory_iff.1 hnames)

/-- The place that a part leads to lies in a directory. -/
theorem IsTree.isDirectory_dropLast_advance (h : files.IsTree)
    (hhere : files.isDirectory here = true) (part : String) :
    files.isDirectory (advance here part).dropLast = true := by
  have habove := h.isDirectory_dropLast_of_isDirectory hhere
  unfold advance
  split
  · exact habove
  · split
    · exact h.isDirectory_dropLast_of_isDirectory habove
    · rwa [List.dropLast_concat]

theorem KeepsAt.passable (h : KeepsAt files files' names) (hpass : files.Passable names) :
    files'.Passable names := by
  rcases h with hsame | ⟨-, hnew⟩
  · rwa [Passable, hsame]
  · exact .inr hnew

/-- Directories are added on a way on which no file lies, and it leads to a directory then. -/
theorem IsTree.foldl_addDirectory (h : files.IsTree) (hhere : files.isDirectory here = true)
    {parts : List String} (hway : ∀ names ∈ trail here parts, files.Passable names) :
    ((trail here parts).foldl Files.addDirectory files).IsTree
      ∧ ((trail here parts).foldl Files.addDirectory files).isDirectory
          (parts.foldl advance here) = true := by
  induction parts generalizing files here with
  | nil => exact ⟨h, hhere⟩
  | cons part rest ih =>
    obtain ⟨hnext, hrest⟩ := List.forall_mem_cons.1 hway
    obtain ⟨htree, hdirectory⟩ := h.addDirectory (h.isDirectory_dropLast_advance hhere part) hnext
    exact ih htree hdirectory fun names hnames =>
      (keepsAt_addDirectory files _ names).passable (hrest names hnames)

/-- A tree stays one when a node is put at a path that leads from a directory, through no file and to
    no directory. -/
theorem IsTree.put (h : files.IsTree) (hstart : files.isDirectory (files.start path) = true)
    (hway : ∀ names ∈ trail (files.start path) (Text.fieldsOn '/' path).dropLast,
      files.Passable names)
    (hplace : files.place path ∉ trail (files.start path) (Text.fieldsOn '/' path).dropLast)
    (hfree : files.isDirectory (files.place path) = false) (node : FileNode) :
    (files.put path node).IsTree := by
  obtain ⟨htree, hdirectory⟩ := h.foldl_addDirectory hstart hway
  have hlast : files.place path
      = advance ((Text.fieldsOn '/' path).dropLast.foldl advance (files.start path))
          ((Text.fieldsOn '/' path).getLast (Text.fieldsOn_ne_nil '/' path)) := by
    conv_lhs => rw [place, ← List.dropLast_concat_getLast (Text.fieldsOn_ne_nil '/' path)]
    rw [List.foldl_append]
    rfl
  refine htree.set ?_ (.inr ?_)
  · rw [hlast]
    exact htree.isDirectory_dropLast_advance hdirectory _
  · rw [isDirectory, at?_foldl_addDirectory_of_notMem hplace]
    exact hfree

/-! ## What is found then -/

/-- Without two dots, a path leads further down only. -/
theorem prefix_foldl_advance {parts : List String} (h : ".." ∉ parts) :
    here <+: parts.foldl advance here := by
  induction parts generalizing here with
  | nil => exact List.prefix_rfl
  | cons part rest ih =>
    rw [List.mem_cons, not_or] at h
    have hstep : here <+: advance here part := by
      unfold advance
      split
      · exact List.prefix_rfl
      · rw [if_neg (Ne.symm h.1)]
        exact List.prefix_append _ _
    exact hstep.trans (ih h.2)

/-- A walk through directories that stay ends where it ended, if what lies there stays. -/
theorem walk?_of_isDirectory
    (hdirectories : ∀ names, files.isDirectory names = true → files'.isDirectory names = true)
    {parts : List String}
    (hend : files'.at? (parts.foldl advance here) = files.at? (parts.foldl advance here))
    (h : walk? files here parts = some node) : walk? files' here parts = some node := by
  induction parts generalizing here with
  | nil => exact hend.trans h
  | cons part rest ih =>
    rw [walk?_cons] at h ⊢
    split at h
    · next hstep => rw [if_pos (hdirectories _ hstep), ih hend h]
    · cases h

/-- In a tree, what a walk down finds in another one is found if it is there. -/
theorem walk?_of_isTree (htree : files.IsTree) {parts : List String} (hparts : ".." ∉ parts)
    (hfile : node.isFile = true) (hat : files.at? (parts.foldl advance here) = some node)
    (h : walk? files' here parts = some node) : walk? files here parts = some node := by
  induction parts generalizing here with
  | nil => exact hat
  | cons part rest ih =>
    have hend := at?_of_walk? h
    have hdown : here <+: (part :: rest).foldl advance here := prefix_foldl_advance hparts
    rw [walk?_cons] at h ⊢
    split at h
    · next hstep =>
      have hne : here ≠ (part :: rest).foldl advance here := by
        intro heq
        rw [← heq, isDirectory_iff.1 hstep, Option.some.injEq] at hend
        rw [← hend] at hfile
        cases hfile
      rw [if_pos (htree.isDirectory_of_prefix hat hdown hne)]
      exact ih (fun hmem => hparts (List.mem_cons_of_mem _ hmem)) hat h
    · cases h

section Written

variable {writable : List String → Prop} (h : Written writable files files')
  (hplace : ¬ writable (files.place path))
include h hplace

/-- A path leads where it led, if nothing was written there. -/
theorem Written.resolve?_of_some (hnode : files.resolve? path = some node) :
    files'.resolve? path = some node := by
  have hat := at?_of_resolve? hnode
  have hend : files'.at? (files.place path) = files.at? (files.place path) := by
    rcases h.keepsAt hplace with hsame | ⟨hfree, -⟩
    · exact hsame
    · rw [hat] at hfree
      cases hfree
  unfold resolve? at hnode ⊢
  split at hnode
  · cases hnode
  · next hfollowed =>
    rw [if_neg hfollowed, h.start_eq]
    exact walk?_of_isDirectory (fun _ => h.isDirectory) hend hnode

/-- A path that goes down only leads to no new file. -/
theorem Written.isFile_of_isFile (htree : files.IsTree) (hparts : ".." ∉ Text.fieldsOn '/' path)
    (hfile : files'.isFile path = true) : files.isFile path = true := by
  obtain ⟨node, hnode, hnodeFile⟩ := isFile_iff.1 hfile
  have hat' := at?_of_resolve? hnode
  rw [h.place_eq] at hat'
  have hat : files.at? (files.place path) = some node := by
    rcases h.keepsAt hplace with hsame | ⟨-, hnew⟩
    · rw [← hsame, hat']
    · rw [hat', Option.some.injEq] at hnew
      rw [hnew] at hnodeFile
      cases hnodeFile
  refine isFile_iff.2 ⟨node, ?_, hnodeFile⟩
  unfold resolve? at hnode ⊢
  split at hnode
  · cases hnode
  · next hfollowed =>
    rw [h.start_eq] at hnode
    rw [if_neg hfollowed]
    exact walk?_of_isTree htree hparts hnodeFile hat hnode

end Written

/-- A path with two dots does, once there is a directory for them to leave. -/
example :
    let files := Files.put "app.json" (.octets []) {}
    files.isFile "conf/../app.json" = false
      ∧ (files.put "conf/other" (.octets [])).isFile "conf/../app.json" = true := by
  decide +kernel

end LayeredSettings.Files
