import LayeredSettings.Proofs.SearchPaths

set_option autoImplicit false

/-! # Added search paths

A search path that is added comes behind the others, so it does not change what was found, and it is
where a source that found nothing looks next (`FileState.adds_last`). A source without search paths
looks in the current directory, but only as long as it has none: its first search path comes in the
place of the current directory and not behind it. -/

namespace LayeredSettings

namespace FileSource

variable {s : FileSource} {w : World}

theorem addPaths_eq (s : FileSource) (added : List String) :
    s.addPaths added = { s with paths := s.paths ++ added } := by
  induction added generalizing s with
  | nil => simp [addPaths]
  | cons path rest ih =>
    show (s.addPath path).addPaths rest = _
    rw [ih]
    simp [addPath]

@[simp]
theorem candidates_addPaths (s : FileSource) (added : List String) :
    (s.addPaths added).candidates = s.candidates := by
  rw [addPaths_eq]
  rfl

theorem directories_addPaths (s : FileSource) (added : List String) (home : String)
    (h : s.paths ≠ []) :
    (s.addPaths added).directories home
      = s.directories home ++ added.map (Path.expandHome home) := by
  simp [addPaths_eq, directories, h]

theorem directories_addPaths_of_nil (s : FileSource) {added : List String} (home : String)
    (h : s.paths = []) (hadded : added ≠ []) :
    (s.addPaths added).directories home = added.map (Path.expandHome home) := by
  simp [addPaths_eq, directories, h, hadded]

/-- What is on the added search paths is looked at last. -/
theorem find?_places_addPaths (s : FileSource) (added : List String) (home : String) (files : Files)
    (h : s.paths ≠ []) :
    ((s.addPaths added).places home).find? files.isFile
      = ((s.places home).find? files.isFile).or
          ((Position.order (added.map (Path.expandHome home)) s.candidates).find? files.isFile) := by
  rw [places_eq, directories_addPaths s added home h, candidates_addPaths, Position.order_append,
    List.find?_append, places_eq]

theorem documentAt_addPaths (s : FileSource) (added : List String) (w : World) (path : String) :
    (s.addPaths added).documentAt w path = s.documentAt w path := by
  rw [addPaths_eq]
  rfl

theorem load_addPaths {added : List String} {path : String} (hpaths : s.paths ≠ [])
    (h : s.locate w = .ok path) : (s.addPaths added).load w = s.load w := by
  have hlocate : (s.addPaths added).locate w = .ok path := by
    rw [locate_eq_ok_iff, find?_places_addPaths s added _ _ hpaths, locate_eq_ok_iff.1 h]
    rfl
  rw [load_of_locate h, load_of_locate hlocate, documentAt_addPaths]

end FileSource

namespace FileState

variable {p : FileState} {w : World} {added : List String}

@[simp]
theorem source_addPaths (p : FileState) (added : List String) :
    (p.addPaths added).source = p.source.addPaths added :=
  rfl

/-- What initialisation gives when further search paths are added. -/
structure AddsLast (p : FileState) (w : World) (added : List String) : Prop where
  /-- What a source with search paths finds, it finds as well with further ones. -/
  found : (∃ pos : Position (p.source.directories w.home) p.source.candidates,
      pos.IsFirstFile w.files) → p.source.paths ≠ [] ∨ added = [] →
    ((p.addPaths added).init w).2 = (p.init w).2
      ∧ ((p.addPaths added).init w).1.data = (p.init w).1.data
      ∧ ((p.addPaths added).init w).1.loadedFrom? = (p.init w).1.loadedFrom?
  /-- Where it finds nothing, it finds the first file on the further ones. -/
  not_found : Position.NoFile w.files (p.source.directories w.home) p.source.candidates →
    (p.addPaths added).FindsIn w (added.map (Path.expandHome w.home))
  /-- The first search paths of a source take the place of the current directory. -/
  first_paths : p.source.paths = [] → added ≠ [] →
    (p.addPaths added).FindsIn w (added.map (Path.expandHome w.home))

theorem init_addPaths (h : (p.source.addPaths added).load w = p.source.load w) :
    (p.addPaths added).init w = ((p.init w).1.addPaths added, (p.init w).2) := by
  unfold init
  rw [source_addPaths, h]
  cases p.source.load w <;> rfl

theorem findsIn_first_paths (hnil : p.source.paths = []) (hadded : added ≠ []) :
    (p.addPaths added).FindsIn w (added.map (Path.expandHome w.home)) := by
  apply findsIn_of_find?_eq
  rw [source_addPaths, FileSource.candidates_addPaths, FileSource.places_eq,
    FileSource.directories_addPaths_of_nil _ _ hnil hadded, FileSource.candidates_addPaths]

theorem findsIn_added
    (h : Position.NoFile w.files (p.source.directories w.home) p.source.candidates) :
    (p.addPaths added).FindsIn w (added.map (Path.expandHome w.home)) := by
  have hnone := Position.find?_order_eq_none_iff.2 h
  rw [← FileSource.places_eq] at hnone
  by_cases hadded : added = []
  · subst hadded
    exact findsIn_of_find?_eq hnone
  · by_cases hpaths : p.source.paths = []
    · exact findsIn_first_paths hpaths hadded
    · apply findsIn_of_find?_eq
      rw [source_addPaths, FileSource.candidates_addPaths,
        FileSource.find?_places_addPaths _ _ _ _ hpaths, hnone, Option.none_or]

/-- **Added search paths come last**, unless they are the first ones that a source is given. -/
theorem adds_last (p : FileState) (w : World) (added : List String) : p.AddsLast w added where
  found hfirst hpaths := by
    obtain ⟨pos, hfirst⟩ := hfirst
    have hlocate := FileSource.locate_eq_ok_iff_isFirstFile.2 ⟨pos, hfirst, rfl⟩
    have hload : (p.source.addPaths added).load w = p.source.load w := by
      rcases hpaths with hpaths | rfl
      · exact FileSource.load_addPaths hpaths hlocate
      · rfl
    rw [init_addPaths hload]
    exact ⟨rfl, rfl, rfl⟩
  not_found h := findsIn_added h
  first_paths hnil hadded := findsIn_first_paths hnil hadded

/-- A file on the search path stays first, and without it one on the added paths is found. -/
theorem adds_last_two_paths :
    let p := fresh ⟨"app", .yaml, ["conf"]⟩
    let added : Files := Files.put "more/app.yml" (.octets (Utf8.encode "a: 2")) {}
    let w : World := { files := added }
    let both : World := { files := added.put "conf/app.yml" (.octets (Utf8.encode "a: 1")) }
    ((p.addPaths ["empty", "more"]).init both).1.data = [("a", .ofInt 1)]
      ∧ ((p.addPaths ["empty", "more"]).init w).1.loadedFrom? = some "more/app.yml" := by
  intro p added w both
  let first : Position (p.source.directories both.home) p.source.candidates :=
    ⟨[], "conf", [], ["app.yaml"], "app.yml", ["app"], by decide +kernel, by decide +kernel⟩
  let next : Position (["empty", "more"].map (Path.expandHome w.home)) p.source.candidates :=
    ⟨["empty"], "more", [], ["app.yaml"], "app.yml", ["app"], by decide +kernel, by decide +kernel⟩
  have hfirst : first.IsFirstFile both.files := ⟨by decide +kernel, by decide +kernel⟩
  have hnext : next.IsFirstFile w.files := ⟨by decide +kernel, by decide +kernel⟩
  have hfound :=
    (adds_last p both ["empty", "more"]).found ⟨first, hfirst⟩ (.inl (by decide +kernel))
  have hnone : Position.NoFile w.files (p.source.directories w.home) p.source.candidates := by
    decide +kernel
  have hreads := ((adds_last p w ["empty", "more"]).not_found hnone).first next hnext
  refine ⟨hfound.2.1.trans (by decide +kernel), ?_⟩
  rw [hreads.ok [("a", .ofInt 2)] (by decide +kernel)]
  decide +kernel

/-- So a source that looks in the current directory no longer does once it is given a path: it reads
    another file, or none. -/
theorem first_path_hides_current_directory :
    let p := fresh ⟨"app", .json, []⟩
    let here : Files := Files.put "app.json" (.octets (Utf8.encode "\x7b\"from\": \"here\"\x7d")) {}
    let both : Files :=
      here.put "conf/app.json" (.octets (Utf8.encode "\x7b\"from\": \"conf\"\x7d"))
    ((p.init { files := both }).2 = .ok ()
        ∧ (p.init { files := both }).1.loadedFrom? = some "./app.json"
        ∧ (p.init { files := both }).1.data = [("from", .text "here")])
      ∧ (((p.addPaths ["conf"]).init { files := both }).1.loadedFrom? = some "conf/app.json"
        ∧ ((p.addPaths ["conf"]).init { files := both }).1.data = [("from", .text "conf")])
      ∧ (p.init { files := here }).2 = .ok ()
      ∧ ((p.addPaths ["conf"]).init { files := here }).2
        = .error (.configNotFound "app" ["conf"]) := by
  decide +kernel

end FileState

end LayeredSettings
