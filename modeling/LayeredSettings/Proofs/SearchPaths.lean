import LayeredSettings.Proofs.FileEdits
import LayeredSettings.Proofs.Outcome
import LayeredSettings.Source.File

set_option autoImplicit false

/-! # Search paths

A file source looks for its names in its directories, the names of one directory before those of the
next one (`Position`). It reads the first file that there is, and it finds nothing exactly if there
is none; files behind the first one are not seen, unless a path goes through two dots
(`FileState.searches_in_order`). -/

namespace LayeredSettings

/-! ## Names with an extension -/

namespace Path

/-- The file name of a path ends with a dot and an extension, in any case, behind something else. -/
def CarriesExtension (path ext : String) : Prop :=
  ∃ stem written, fileName? path = some (stem ++ "." ++ written) ∧ stem ≠ ""
    ∧ Text.sameIgnoringCase ext written = true

theorem extension?_eq_some_iff {path ext : String} :
    extension? path = some ext ↔
      ∃ stem, fileName? path = some (stem ++ "." ++ ext) ∧ stem ≠ "" ∧ '.' ∉ ext.toList := by
  have hstop : ('.' != '.') = false := rfl
  have hother : ∀ {cs : List Char}, '.' ∉ cs → ∀ c ∈ cs, (c != '.') = true := by
    rintro cs hcs c hc
    rw [bne_iff_ne]
    rintro rfl
    exact hcs hc
  unfold extension?
  rw [Option.bind_eq_some_iff]
  constructor
  · rintro ⟨name, hname, hext⟩
    by_cases hdot : '.' ∈ name.toList.reverse
    · obtain ⟨front, d, back, hreversed, hfront, hd⟩ :=
        Text.exists_stop (p := (· != '.')) hdot hstop
      obtain rfl : d = '.' := by simpa using hd
      simp only [hreversed, Text.takeWhile_append_cons hfront hstop, List.drop_left] at hext
      cases back with
      | nil => cases hext
      | cons c back =>
        obtain rfl := Option.some.inj hext
        refine ⟨String.ofList (c :: back).reverse, ?_, by simp, ?_⟩
        · rw [hname, Option.some.injEq, ← String.toList_inj, ← List.reverse_inj, hreversed]
          simp
        · intro hmem
          rw [String.toList_ofList, List.mem_reverse] at hmem
          have hno := hfront '.' hmem
          rw [hstop] at hno
          cases hno
    · have hall := List.takeWhile_eq_self_iff.2 (hother hdot)
      simp only [hall, List.drop_length] at hext
      cases hext
  · rintro ⟨stem, hname, hstem, hext⟩
    have hreversed : (stem ++ "." ++ ext).toList.reverse
        = ext.toList.reverse ++ '.' :: stem.toList.reverse := by simp
    have hfront := hother (mt List.mem_reverse.1 hext)
    obtain ⟨c, back, hback⟩ :=
      List.exists_cons_of_ne_nil (l := stem.toList.reverse) (by simpa using hstem)
    refine ⟨_, hname, ?_⟩
    simp only [hreversed, Text.takeWhile_append_cons hfront hstop, List.drop_left, hback,
      List.reverse_reverse, String.ofList_toList]

end Path

/-! ## Positions -/

/-- A name in a directory, among directories and names in order. -/
structure Position (dirs names : List String) where
  dirsBefore : List String
  dir : String
  dirsAfter : List String
  namesBefore : List String
  name : String
  namesAfter : List String
  dirs_eq : dirs = dirsBefore ++ dir :: dirsAfter
  names_eq : names = namesBefore ++ name :: namesAfter

namespace Position

variable {dirs names : List String}

/-- The path to the name in the directory. -/
def path (p : Position dirs names) : String :=
  Path.join p.dir p.name

/-- The paths that come first: all names in the directories before, and the names before in the same
    directory. -/
def earlier (p : Position dirs names) : List String :=
  p.dirsBefore.flatMap (fun dir => names.map (Path.join dir)) ++ p.namesBefore.map (Path.join p.dir)

/-- There is a file, and none comes first. -/
def IsFirstFile (files : Files) (p : Position dirs names) : Prop :=
  files.isFile p.path = true ∧ ∀ other ∈ p.earlier, files.isFile other = false

theorem dir_mem (p : Position dirs names) : p.dir ∈ dirs := by
  obtain ⟨dirsBefore, dir, dirsAfter, -, -, -, rfl, -⟩ := p
  exact List.mem_append_right _ List.mem_cons_self

theorem name_mem (p : Position dirs names) : p.name ∈ names := by
  obtain ⟨-, -, -, namesBefore, name, namesAfter, -, rfl⟩ := p
  exact List.mem_append_right _ List.mem_cons_self

/-- The paths of all positions in order. -/
def order (dirs names : List String) : List String :=
  dirs.flatMap fun dir => names.map (Path.join dir)

theorem order_cons (dir : String) (rest names : List String) :
    order (dir :: rest) names = names.map (Path.join dir) ++ order rest names :=
  List.flatMap_cons

theorem mem_order_iff {other : String} :
    other ∈ order dirs names ↔ ∃ dir ∈ dirs, ∃ name ∈ names, other = Path.join dir name := by
  simp only [order, List.mem_flatMap, List.mem_map, eq_comm]

/-- What is in one list of directories comes before what is in the next one. -/
theorem order_append (dirs more names : List String) :
    order (dirs ++ more) names = order dirs names ++ order more names :=
  List.flatMap_append

theorem order_eq (p : Position dirs names) :
    ∃ later, order dirs names = p.earlier ++ p.path :: later := by
  obtain ⟨dirsBefore, dir, dirsAfter, namesBefore, name, namesAfter, rfl, rfl⟩ := p
  refine ⟨namesAfter.map (Path.join dir) ++ order dirsAfter (namesBefore ++ name :: namesAfter), ?_⟩
  simp [order, earlier, path]

theorem mem_order (p : Position dirs names) {other : String} (h : other ∈ p.earlier) :
    other ∈ order dirs names := by
  obtain ⟨later, horder⟩ := p.order_eq
  rw [horder]
  exact List.mem_append_left _ h

theorem exists_of_order_eq {before after : List String} {path : String}
    (h : order dirs names = before ++ path :: after) :
    ∃ p : Position dirs names, p.earlier = before ∧ p.path = path := by
  induction dirs generalizing before with
  | nil => simp [order] at h
  | cons dir rest ih =>
    -- A position below the later directories comes behind all names in this one.
    have below : ∀ {before' : List String}, order rest names = before' ++ path :: after →
        ∃ p : Position (dir :: rest) names,
          p.earlier = names.map (Path.join dir) ++ before' ∧ p.path = path := by
      intro before' hrest
      obtain ⟨p, rfl, rfl⟩ := ih hrest
      refine ⟨⟨dir :: p.dirsBefore, p.dir, p.dirsAfter, p.namesBefore, p.name, p.namesAfter,
        congrArg (dir :: ·) p.dirs_eq, p.names_eq⟩, ?_, rfl⟩
      simp [earlier]
    rw [order_cons] at h
    rcases List.append_eq_append_iff.1 h with ⟨before', rfl, hrest⟩ | ⟨inside, hnames, hrest⟩
    · exact below hrest
    · cases inside with
      | nil =>
        rw [List.append_nil] at hnames
        obtain ⟨p, hearlier, hpath⟩ := @below [] hrest.symm
        exact ⟨p, by rw [hearlier, List.append_nil, hnames], hpath⟩
      | cons first inside =>
        obtain ⟨rfl, -⟩ := List.cons.inj hrest
        obtain ⟨namesBefore, others, rfl, rfl, hothers⟩ := List.map_eq_append_iff.1 hnames
        obtain ⟨name, namesAfter, rfl, rfl, -⟩ := List.map_eq_cons_iff.1 hothers
        exact ⟨⟨[], dir, rest, namesBefore, name, namesAfter, rfl, rfl⟩, by simp [earlier], rfl⟩

theorem find?_order_eq_some_iff {files : Files} {path : String} :
    (order dirs names).find? files.isFile = some path ↔
      ∃ p : Position dirs names, p.IsFirstFile files ∧ p.path = path := by
  rw [List.find?_eq_some_iff_append]
  constructor
  · rintro ⟨hfile, before, after, horder, hbefore⟩
    obtain ⟨p, rfl, rfl⟩ := exists_of_order_eq horder
    exact ⟨p, ⟨hfile, fun other hother => by simpa using hbefore other hother⟩, rfl⟩
  · rintro ⟨p, ⟨hfile, hearlier⟩, rfl⟩
    obtain ⟨later, horder⟩ := p.order_eq
    exact ⟨hfile, p.earlier, later, horder, fun other hother => by simp [hearlier other hother]⟩

/-- No name in any of the directories is that of a file. -/
def NoFile (files : Files) (dirs names : List String) : Prop :=
  ∀ dir ∈ dirs, ∀ name ∈ names, files.isFile (Path.join dir name) = false

instance (files : Files) (dirs names : List String) : Decidable (NoFile files dirs names) :=
  inferInstanceAs
    (Decidable (∀ dir ∈ dirs, ∀ name ∈ names, files.isFile (Path.join dir name) = false))

theorem IsFirstFile.not_noFile {files : Files} {p : Position dirs names}
    (h : p.IsFirstFile files) : ¬ NoFile files dirs names := by
  intro hnone
  have hfile : files.isFile p.path = false := hnone p.dir p.dir_mem p.name p.name_mem
  rw [h.1] at hfile
  cases hfile

theorem find?_order_eq_none_iff {files : Files} :
    (order dirs names).find? files.isFile = none ↔ NoFile files dirs names := by
  rw [List.find?_eq_none]
  constructor
  · intro h dir hdir name hname
    simpa using h _ (mem_order_iff.2 ⟨dir, hdir, name, hname, rfl⟩)
  · intro h other hother
    obtain ⟨dir, hdir, name, hname, rfl⟩ := mem_order_iff.1 hother
    simp [h dir hdir name hname]

end Position

/-! ## Two dots -/

namespace Path

theorem fieldsOn_slash (front back : String) :
    Text.fieldsOn '/' (front ++ "/" ++ back) = Text.fieldsOn '/' front ++ Text.fieldsOn '/' back :=
  Text.fieldsOn_append '/' front back

theorem notMem_fieldsOn_join {part dir name : String} (hdir : part ∉ Text.fieldsOn '/' dir)
    (hname : part ∉ Text.fieldsOn '/' name) : part ∉ Text.fieldsOn '/' (join dir name) := by
  have hboth : ∀ front : String, part ∉ Text.fieldsOn '/' front →
      part ∉ Text.fieldsOn '/' (front ++ "/" ++ name) := by
    intro front hfront
    rw [fieldsOn_slash, List.mem_append, not_or]
    exact ⟨hfront, hname⟩
  unfold join
  split
  · exact hname
  · split
    · next hslash =>
      rw [Bool.or_eq_true, beq_iff_eq, beq_iff_eq] at hslash
      rcases hslash with rfl | hslash
      · rwa [String.empty_append]
      · obtain ⟨front, hfront⟩ := List.getLast?_eq_some_iff.1 hslash
        have hsplit : dir = String.ofList front ++ "/" ++ "" := by
          rw [← String.toList_inj, hfront]
          simp
        rw [hsplit, fieldsOn_slash, List.mem_append, not_or] at hdir
        rw [hsplit, String.append_empty]
        exact hboth _ hdir.1
    · exact hboth dir hdir

/-- Two dots end with a dot, but a name with an extension ends with a letter. -/
theorem two_dots_notMem_of_extension {name ext : String} (hname : ".." ∉ Text.fieldsOn '/' name)
    (hne : ext ≠ "") (hletters : ∀ c ∈ ext.toList, Text.isLetter c = true) :
    ".." ∉ Text.fieldsOn '/' (name ++ "." ++ ext) := by
  intro hmem
  have hslash : '/' ∉ ("." ++ ext).toList := by
    rw [String.toList_append, List.mem_append, not_or]
    exact ⟨by decide, fun hc => absurd (hletters '/' hc) (by decide)⟩
  obtain ⟨front, last, hfields, happend⟩ := Text.fieldsOn_append_of_notMem hslash name
  rw [hfields, List.mem_append, not_or] at hname
  rw [String.append_assoc, happend, List.mem_append, List.mem_singleton] at hmem
  rcases hmem with hfront | hlast
  · exact hname.1 hfront
  · obtain ⟨letters, c, hext⟩ :=
      (List.eq_nil_or_concat ext.toList).resolve_left (by simpa using hne)
    have hends : ['.'] ++ ['.'] = (last.toList ++ '.' :: letters) ++ [c] := by
      simpa [hext] using congrArg String.toList hlast
    obtain rfl : '.' = c := by simpa using (List.append_inj' hends rfl).2
    exact absurd (hletters '.' (by simp [hext])) (by decide)

end Path

/-! ## Names of a source -/

theorem Format.isLetter_of_mem_extension (f : Format) :
    ∀ ext ∈ f.extensions, ext ≠ "" ∧ ∀ c ∈ ext.toList, Text.isLetter c = true := by
  cases f <;> simp [extensions, Text.isLetter]

namespace FileSource

variable {s : FileSource} {w : World}

theorem hasOwnExtension_iff :
    s.hasOwnExtension = true ↔ ∃ ext ∈ s.format.extensions, Path.CarriesExtension s.name ext := by
  have hdot : ∀ ext ∈ s.format.extensions, '.' ∉ ext.toList := fun ext hext hmem =>
    absurd ((s.format.isLetter_of_mem_extension ext hext).2 '.' hmem) (by decide)
  unfold hasOwnExtension
  constructor
  · intro h
    split at h
    · next written hwritten =>
      obtain ⟨ext, hext, hsame⟩ := List.any_eq_true.1 h
      obtain ⟨stem, hname, hstem, -⟩ := Path.extension?_eq_some_iff.1 hwritten
      exact ⟨ext, hext, stem, written, hname, hstem, hsame⟩
    · cases h
  · rintro ⟨ext, hext, stem, written, hname, hstem, hsame⟩
    have hwritten : '.' ∉ written.toList := fun hmem =>
      hdot ext hext ((Text.mem_iff_of_sameIgnoringCase rfl hsame).2 hmem)
    rw [Path.extension?_eq_some_iff.2 ⟨stem, hname, hstem, hwritten⟩]
    exact List.any_eq_true.2 ⟨ext, hext, hsame⟩

theorem two_dots_notMem_candidate (h : ".." ∉ Text.fieldsOn '/' s.name) {name : String}
    (hname : name ∈ s.candidates) : ".." ∉ Text.fieldsOn '/' name := by
  unfold candidates at hname
  split at hname
  · rwa [List.mem_singleton.1 hname]
  · rcases List.mem_append.1 hname with hname | hname
    · obtain ⟨ext, hext, rfl⟩ := List.mem_map.1 hname
      obtain ⟨hne, hletters⟩ := s.format.isLetter_of_mem_extension ext hext
      exact Path.two_dots_notMem_of_extension h hne hletters
    · rwa [List.mem_singleton.1 hname]

/-! ## Finding and reading -/

theorem places_eq (s : FileSource) (home : String) :
    s.places home = Position.order (s.directories home) s.candidates :=
  rfl

theorem locate_eq_ok_iff {path : String} :
    s.locate w = .ok path ↔ (s.places w.home).find? w.files.isFile = some path := by
  unfold locate
  split
  · next found hfound => simp [hfound]
  · next hnone => simp [hnone]

theorem locate_of_find?_eq_none (h : (s.places w.home).find? w.files.isFile = none) :
    s.locate w = .error (.configNotFound s.name (s.directories w.home)) := by
  rw [locate, h]

/-- The file that is located is the first one. -/
theorem locate_eq_ok_iff_isFirstFile {path : String} :
    s.locate w = .ok path ↔ ∃ pos : Position (s.directories w.home) s.candidates,
      pos.IsFirstFile w.files ∧ pos.path = path := by
  rw [locate_eq_ok_iff, places_eq, Position.find?_order_eq_some_iff]

/-- What fails in a file that was found is its reading. -/
theorem documentAt_ne_configNotFound {path name : String} {dirs : List String} :
    s.documentAt w path ≠ .error (.configNotFound name dirs) := by
  intro h
  rcases Except.bind_eq_error_iff.1 h with htext | ⟨text, -, htree⟩
  · unfold textAt at htext
    split at htext
    · cases htext
    · cases htext
  · obtain ⟨fault, -, hfault⟩ := Format.tree_eq_error_iff.1 htree
    cases hfault

/-! ## Files that are written -/

/-- Files that are written behind the first one, and not over it, are not seen. -/
theorem load_of_written {files' : Files}
    (hdirs : ∀ dir ∈ s.directories w.home, ".." ∉ Text.fieldsOn '/' dir)
    (hname : ".." ∉ Text.fieldsOn '/' s.name) (htree : w.files.IsTree)
    {pos : Position (s.directories w.home) s.candidates} (hfirst : pos.IsFirstFile w.files)
    (h : Files.Written (fun place => place ≠ w.files.place pos.path
      ∧ ∀ other ∈ pos.earlier, place ≠ w.files.place other) w.files files') :
    s.load { w with files := files' } = s.load w := by
  obtain ⟨node, hnode, hfile⟩ := Files.isFile_iff.1 hfirst.1
  have hnode' : files'.resolve? pos.path = some node :=
    h.resolve?_of_some (fun hallowed => hallowed.1 rfl) hnode
  have hfirst' : pos.IsFirstFile files' := by
    refine ⟨Files.isFile_iff.2 ⟨node, hnode', hfile⟩, fun other hother => ?_⟩
    rw [Bool.eq_false_iff]
    intro hfile
    have hparts : ".." ∉ Text.fieldsOn '/' other := by
      obtain ⟨dir, hdir, name, hmem, rfl⟩ := Position.mem_order_iff.1 (pos.mem_order hother)
      exact Path.notMem_fieldsOn_join (hdirs dir hdir) (two_dots_notMem_candidate hname hmem)
    have hbefore :=
      h.isFile_of_isFile (fun hallowed => hallowed.2 other hother rfl) htree hparts hfile
    rw [hfirst.2 other hother] at hbefore
    cases hbefore
  have hlocate : s.locate w = .ok pos.path := locate_eq_ok_iff_isFirstFile.2 ⟨pos, hfirst, rfl⟩
  have hlocate' : s.locate { w with files := files' } = .ok pos.path :=
    locate_eq_ok_iff_isFirstFile.2 ⟨pos, hfirst', rfl⟩
  have htext : files'.text? pos.path = w.files.text? pos.path := by
    unfold Files.text?
    rw [hnode, hnode']
  rw [load_of_locate hlocate, load_of_locate hlocate', documentAt_congr htext]

end FileSource

/-! ## Initialisation -/

namespace FileState

variable {p : FileState} {w : World} {path : String} {dirs added : List String}

/-- Initialisation reads the file at a path: its settings and the path are kept, and a document that
    cannot be read is an error that changes nothing. -/
structure Reads (p : FileState) (w : World) (path : String) : Prop where
  ok : ∀ tree, p.source.documentAt w path = .ok tree →
    p.init w = ({ p with loaded := some ⟨path, tree⟩ }, .ok ())
  error : ∀ e, p.source.documentAt w path = .error e → p.init w = (p, .error e)

/-- Initialisation reads the first file of the directories, and without one it finds nothing. -/
structure FindsIn (p : FileState) (w : World) (dirs : List String) : Prop where
  first : ∀ pos : Position dirs p.source.candidates, pos.IsFirstFile w.files →
    p.Reads w pos.path
  none : Position.NoFile w.files dirs p.source.candidates →
    p.init w = (p, .error (.configNotFound p.source.name (p.source.directories w.home)))

theorem reads_of_locate (h : p.source.locate w = .ok path) : p.Reads w path := by
  refine ⟨fun tree htree => ?_, fun e he => ?_⟩
  · unfold init
    rw [FileSource.load_of_locate h, htree]
    rfl
  · unfold init
    rw [FileSource.load_of_locate h, he]
    rfl

theorem init_of_locate_error {e : Error} (h : p.source.locate w = .error e) :
    p.init w = (p, .error e) := by
  unfold init
  rw [FileSource.load_of_locate_error h]

theorem findsIn_of_find?_eq (h : (p.source.places w.home).find? w.files.isFile
      = (Position.order dirs p.source.candidates).find? w.files.isFile) : p.FindsIn w dirs := by
  refine ⟨fun pos hfirst => reads_of_locate ?_, fun hnone => init_of_locate_error ?_⟩
  · rw [FileSource.locate_eq_ok_iff, h, Position.find?_order_eq_some_iff]
    exact ⟨pos, hfirst, rfl⟩
  · apply FileSource.locate_of_find?_eq_none
    rw [h, Position.find?_order_eq_none_iff.2 hnone]

theorem findsIn_directories (p : FileState) (w : World) :
    p.FindsIn w (p.source.directories w.home) :=
  findsIn_of_find?_eq rfl

/-- Nothing is found, or something is found first. -/
theorem init_cases (p : FileState) (w : World) :
    (∃ pos : Position (p.source.directories w.home) p.source.candidates,
        pos.IsFirstFile w.files ∧ p.Reads w pos.path)
      ∨ Position.NoFile w.files (p.source.directories w.home) p.source.candidates
        ∧ p.init w = (p, .error (.configNotFound p.source.name (p.source.directories w.home))) := by
  cases hfind : (p.source.places w.home).find? w.files.isFile with
  | none =>
    have hnone := Position.find?_order_eq_none_iff.1 hfind
    exact .inr ⟨hnone, (p.findsIn_directories w).none hnone⟩
  | some found =>
    obtain ⟨pos, hfirst, -⟩ := Position.find?_order_eq_some_iff.1 hfind
    exact .inl ⟨pos, hfirst, (p.findsIn_directories w).first pos hfirst⟩

theorem init_of_load_eq {w' : World} (h : p.source.load w' = p.source.load w) :
    p.init w' = p.init w := by
  unfold init
  rw [h]

theorem loadedFrom?_eq_some_iff (h : p.loaded = none) :
    (p.init w).1.loadedFrom? = some path ↔ (p.init w).2 = .ok () ∧
      ∃ pos : Position (p.source.directories w.home) p.source.candidates,
        pos.IsFirstFile w.files ∧ pos.path = path := by
  rcases p.init_cases w with ⟨pos, hfirst, hreads⟩ | ⟨hnone, hinit⟩
  · cases hdoc : p.source.documentAt w pos.path with
    | ok tree =>
      have hlocated := FileSource.locate_eq_ok_iff_isFirstFile.2 ⟨pos, hfirst, rfl⟩
      rw [hreads.ok tree hdoc, ← FileSource.locate_eq_ok_iff_isFirstFile, hlocated]
      simp [loadedFrom?]
    | error e =>
      rw [hreads.error e hdoc]
      simp [loadedFrom?, h]
  · rw [hinit]
    simp [loadedFrom?, h]

theorem init_eq_configNotFound_iff :
    (∃ name dirs, (p.init w).2 = .error (.configNotFound name dirs)) ↔
      Position.NoFile w.files (p.source.directories w.home) p.source.candidates := by
  rcases p.init_cases w with ⟨pos, hfirst, hreads⟩ | ⟨hnone, hinit⟩
  · refine iff_of_false ?_ hfirst.not_noFile
    rintro ⟨name, dirs, herror⟩
    cases hdoc : p.source.documentAt w pos.path with
    | ok tree =>
      rw [hreads.ok tree hdoc] at herror
      cases herror
    | error e =>
      rw [hreads.error e hdoc] at herror
      obtain rfl := Except.error.inj herror
      exact FileSource.documentAt_ne_configNotFound hdoc
  · exact iff_of_true ⟨_, _, congrArg Prod.snd hinit⟩ hnone

/-! ## The law of the search -/

/-- Where initialisation looks, what it finds there, and which files have no say in it. -/
structure SearchesInOrder (p : FileState) (w : World) : Prop where
  /-- The directories are the search paths, and the current directory if there are none. -/
  directories : p.source.directories w.home
    = if p.source.paths = [] then ["."] else p.source.paths.map (Path.expandHome w.home)
  /-- A name that carries an extension of the format is the only one. -/
  own_name : (∃ ext ∈ p.source.format.extensions, Path.CarriesExtension p.source.name ext) →
    p.source.candidates = [p.source.name]
  /-- Any other name comes after the names that carry the extensions. -/
  extended_names : (¬ ∃ ext ∈ p.source.format.extensions, Path.CarriesExtension p.source.name ext) →
    p.source.candidates
      = p.source.format.extensions.map (fun ext => p.source.name ++ "." ++ ext) ++ [p.source.name]
  /-- The first file is read. -/
  finds : p.FindsIn w (p.source.directories w.home)
  /-- Nothing is found exactly if there is no file. -/
  not_found : (∃ name dirs, (p.init w).2 = .error (.configNotFound name dirs)) ↔
    Position.NoFile w.files (p.source.directories w.home) p.source.candidates
  /-- Exactly after a success, the path is known, and it is that of the first file. -/
  loaded_from : p.loaded = none → ∀ path, (p.init w).1.loadedFrom? = some path ↔
    (p.init w).2 = .ok () ∧
      ∃ pos : Position (p.source.directories w.home) p.source.candidates,
        pos.IsFirstFile w.files ∧ pos.path = path
  /-- Without two dots, files that are written elsewhere than at the first file and at the paths
      before it change nothing. -/
  unseen : (∀ dir ∈ p.source.directories w.home, ".." ∉ Text.fieldsOn '/' dir) →
    ".." ∉ Text.fieldsOn '/' p.source.name → w.files.IsTree →
    ∀ pos : Position (p.source.directories w.home) p.source.candidates, pos.IsFirstFile w.files →
    ∀ files', Files.Written (fun place => place ≠ w.files.place pos.path
      ∧ ∀ other ∈ pos.earlier, place ≠ w.files.place other) w.files files' →
    p.init { w with files := files' } = p.init w

/-- **The first file in order is read.** -/
theorem searches_in_order (p : FileState) (w : World) : p.SearchesInOrder w where
  directories := by simp [FileSource.directories]
  own_name h := by rw [FileSource.candidates, if_pos (FileSource.hasOwnExtension_iff.2 h)]
  extended_names h := by
    rw [FileSource.candidates, if_neg (mt FileSource.hasOwnExtension_iff.1 h)]
  finds := p.findsIn_directories w
  not_found := init_eq_configNotFound_iff
  loaded_from h _ := loadedFrom?_eq_some_iff h
  unseen hdirs hname htree _ hfirst _ h :=
    init_of_load_eq (FileSource.load_of_written hdirs hname htree hfirst h)

/-- Files behind the first one are written anew, and one below a search path that is named from the
    root, though it is written from the current directory. -/
theorem searches_in_order_written :
    let p := fresh ⟨"app", .yaml, ["/srv/conf", "~/second"]⟩
    let files : Files := Files.put "/home/me/second/app.yml" (.octets (Utf8.encode "a: 1"))
      { nodes := [(["srv"], .directory)], here := ["srv"] }
    let w : World := { files := files, process := [("HOME", "/home/me")] }
    let files' : Files :=
      (files.put "../home/me/second/app" (.octets [])).put "conf/other" (.octets [])
    (p.init w).1.loadedFrom? = some "/home/me/second/app.yml"
      ∧ p.init { w with files := files' } = p.init w := by
  intro p files w files'
  let pos : Position (p.source.directories w.home) p.source.candidates :=
    ⟨["/srv/conf"], "/home/me/second", [], ["app.yaml"], "app.yml", ["app"], by decide +kernel,
      by decide +kernel⟩
  have hfirst : pos.IsFirstFile w.files := ⟨by decide +kernel, by decide +kernel⟩
  have hwritten : Files.Written (fun place => place ≠ w.files.place pos.path
      ∧ ∀ other ∈ pos.earlier, place ≠ w.files.place other) w.files files' :=
    .put (.put (.refl _) (by decide) (by decide +kernel) (by decide +kernel)) (by decide)
      (by decide +kernel) (by decide +kernel)
  have hlaw := searches_in_order p w
  exact ⟨(hlaw.loaded_from rfl _).2 ⟨by decide +kernel, pos, hfirst, by decide +kernel⟩,
    hlaw.unseen (by decide +kernel) (by decide +kernel) (by decide +kernel) pos hfirst _ hwritten⟩

end FileState

end LayeredSettings
