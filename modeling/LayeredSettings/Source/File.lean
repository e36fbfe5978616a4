import LayeredSettings.Format
import LayeredSettings.World.Basic

set_option autoImplicit false

/-! # File sources

A file source reads the first regular file among its places: the search paths in order and, within
each of them, the candidate names in order. Without search paths it looks in the current directory.
-/

namespace LayeredSettings

/-- A document in a file that is found on search paths. -/
structure FileSource where
  name : String
  format : Format
  /-- Search paths in order; a home sign at their start stands for the home directory. -/
  paths : List String := []
deriving DecidableEq, Repr

/-- What a file source found: where, and the settings there. -/
structure LoadedFile where
  path : String
  tree : Tree

namespace FileSource

/-- The source with other search paths. -/
def withPaths (paths : List String) (s : FileSource) : FileSource :=
  { s with paths := paths }

/-- The source with one more search path after the others. -/
def addPath (path : String) (s : FileSource) : FileSource :=
  { s with paths := s.paths ++ [path] }

/-- The source with search paths that are added one after the other. -/
def addPaths (added : List String) (s : FileSource) : FileSource :=
  added.foldl (fun s path => s.addPath path) s

/-- The directories to look in. -/
def directories (s : FileSource) (home : String) : List String :=
  if s.paths.isEmpty then ["."] else s.paths.map (Path.expandHome home)

/-- Whether the name carries an extension of the format, in any case. -/
def hasOwnExtension (s : FileSource) : Bool :=
  match Path.extension? s.name with
  | some ext => s.format.extensions.any fun known => Text.sameIgnoringCase known ext
  | none => false

/-- The file names to try in a directory. -/
def candidates (s : FileSource) : List String :=
  if s.hasOwnExtension then [s.name]
  else s.format.extensions.map (fun ext => s.name ++ "." ++ ext) ++ [s.name]

/-- The places to look at, in order. -/
def places (s : FileSource) (home : String) : List String :=
  (s.directories home).flatMap fun dir => s.candidates.map (Path.join dir)

/-- The first place with a file. -/
def locate (s : FileSource) (w : World) : Except Error String :=
  match (s.places w.home).find? w.files.isFile with
  | some path => .ok path
  | none => .error (.configNotFound s.name (s.directories w.home))

/-- The text of the file at a path. -/
def textAt (w : World) (path : String) : Except Error String :=
  match w.files.text? path with
  | some text => .ok text
  | none => .error (.fileRead path)

/-- Find the file and read its settings. -/
def load (s : FileSource) (w : World) : Except Error LoadedFile := do
  let path ← s.locate w
  let text ← textAt w path
  let tree ← s.format.tree text path
  .ok ⟨path, tree⟩

/-! ## What is read -/

/-- The settings in the file at a path. -/
def documentAt (s : FileSource) (w : World) (path : String) : Except Error Tree := do
  let text ← textAt w path
  s.format.tree text path

section Read

variable {s : FileSource} {w : World} {path : String}

theorem documentAt_of_text? {doc : String} (h : w.files.text? path = some doc) :
    s.documentAt w path = s.format.tree doc path := by
  unfold documentAt textAt
  rw [h]
  rfl

theorem documentAt_of_text?_eq_none (h : w.files.text? path = none) :
    s.documentAt w path = .error (.fileRead path) := by
  unfold documentAt textAt
  rw [h]
  rfl

theorem documentAt_congr {files' : Files} (h : files'.text? path = w.files.text? path) :
    s.documentAt { w with files := files' } path = s.documentAt w path := by
  simp only [documentAt, textAt, h]

theorem load_of_locate (h : s.locate w = .ok path) :
    s.load w = (s.documentAt w path).map (LoadedFile.mk path) := by
  simp only [load, documentAt, h, bind, Except.bind]
  cases textAt w path with
  | error e => rfl
  | ok text =>
    cases s.format.tree text path with
    | error e => rfl
    | ok tree => rfl

theorem load_of_locate_error {e : Error} (h : s.locate w = .error e) : s.load w = .error e := by
  simp only [load, h, bind, Except.bind]

end Read

end FileSource

/-! ## Initialisation -/

/-- A file source with what it last read. -/
structure FileState where
  source : FileSource
  loaded : Option LoadedFile := none

namespace FileState

/-- A source before it is initialised. -/
def fresh (s : FileSource) : FileState :=
  { source := s }

/-- The state with search paths that are added one after the other. -/
def addPaths (added : List String) (p : FileState) : FileState :=
  { p with source := p.source.addPaths added }

/-- Find the file and read it; a failure leaves what was read before. -/
def init (w : World) (p : FileState) : FileState × Except Error Unit :=
  match p.source.load w with
  | .ok file => ({ p with loaded := some file }, .ok ())
  | .error e => (p, .error e)

/-- The settings that were read. -/
def data (p : FileState) : Tree :=
  match p.loaded with
  | some file => file.tree
  | none => []

/-- The path of the file that they were read from. -/
def loadedFrom? (p : FileState) : Option String :=
  p.loaded.map LoadedFile.path

end FileState

end LayeredSettings
