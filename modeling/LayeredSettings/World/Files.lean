import LayeredSettings.Octets.Utf8
import LayeredSettings.World.Path

set_option autoImplicit false

/-! # File trees

Files, databases and directories at places that are given by their names from the root, and the
current directory. A path from the root leads to the same place wherever one is; any other path starts
in the current directory. Placing a file places the directories on the way to it as well, and these
stay when the file goes. -/

namespace LayeredSettings

/-- A row of a settings table: scope, key and value. -/
structure Row where
  scope : String
  key : String
  value : Option String
deriving DecidableEq, Repr

/-- The tables of a database. -/
abbrev Tables := List (String × List Row)

/-- What lies at a place. -/
inductive FileNode where
  | octets (content : List UInt8)
  | database (tables : Tables)
  | directory
  /-- The null device, which reads as empty although it is no file. -/
  | nullDevice
deriving DecidableEq

namespace FileNode

/-- Whether the node is a regular file. -/
def isFile : FileNode → Bool
  | octets _ => true
  | database _ => true
  | directory => false
  | nullDevice => false

/-- The octets that can be read, if they may be a text: a database without tables takes up none, and
    the octets of any other database are no text. -/
def content? : FileNode → Option (List UInt8)
  | octets content => some content
  | database [] => some []
  | database (_ :: _) => none
  | directory => none
  | nullDevice => some []

/-- The tables of a database. What reads as empty is a database without tables. -/
def tables? : FileNode → Option Tables
  | octets [] => some []
  | octets (_ :: _) => none
  | database tables => some tables
  | directory => none
  | nullDevice => some []

end FileNode

/-- The nodes of a file tree, each place once, and the current directory. -/
structure Files where
  nodes : List (List String × FileNode) := []
  /-- The names of the current directory from the root. -/
  here : List String := []

namespace Files

/-- The place that a part of a path leads to from another one. The root is its own parent. -/
def advance (here : List String) (part : String) : List String :=
  if Path.isIdle part then here
  else if part = ".." then here.dropLast
  else here ++ [part]

/-- The places that the parts of a path lead through, whether anything lies there or not. -/
def trail : List String → List String → List (List String)
  | _, [] => []
  | here, part :: rest => advance here part :: trail (advance here part) rest

/-- The place that a path starts from. -/
def start (files : Files) (path : String) : List String :=
  if Path.isAbsolute path then [] else files.here

/-- The place that a path leads to. -/
def place (files : Files) (path : String) : List String :=
  (Text.fieldsOn '/' path).foldl advance (files.start path)

/-- The tree without what lies at or under a path. -/
def remove (path : String) (files : Files) : Files :=
  { files with nodes := files.nodes.filter fun f => !(files.place path).isPrefixOf f.1 }

/-- What lies at a place. -/
def at? (files : Files) (names : List String) : Option FileNode :=
  if names.isEmpty then some .directory else files.nodes.lookup names

/-- The tree with a node at a place, in place of what was there. -/
def set (names : List String) (node : FileNode) (files : Files) : Files :=
  { files with nodes := (names, node) :: files.nodes.filter fun f => f.1 != names }

/-- The tree with a directory at a place if nothing lies there. -/
def addDirectory (files : Files) (names : List String) : Files :=
  match files.at? names with
  | some _ => files
  | none => files.set names .directory

/-- The tree with a node at a path, in place of what was there, and with the directories that the
    path leads through. -/
def put (path : String) (node : FileNode) (files : Files) : Files :=
  ((trail (files.start path) (Text.fieldsOn '/' path).dropLast).foldl addDirectory files).set
    (files.place path) node

/-- Whether a directory is at a place. -/
def isDirectory (files : Files) (names : List String) : Bool :=
  match files.at? names with
  | some .directory => true
  | _ => false

/-- Follow the parts of a path from a place; every part needs a directory to start from. -/
def walk? (files : Files) : List String → List String → Option FileNode
  | here, [] => files.at? here
  | here, part :: rest =>
    if files.isDirectory here then walk? files (advance here part) rest else none

/-- The octets of the shortest path that is too long to be followed. -/
def pathLimit : Nat := 4096

/-- What a path leads to. Empty and overlong paths lead nowhere. -/
def resolve? (files : Files) (path : String) : Option FileNode :=
  if path == "" || pathLimit ≤ path.utf8ByteSize then none
  else walk? files (files.start path) (Text.fieldsOn '/' path)

/-- Whether a path leads to a file. -/
def isFile (files : Files) (path : String) : Bool :=
  (files.resolve? path).any FileNode.isFile

/-- The text at a path. -/
def text? (files : Files) (path : String) : Option String :=
  ((files.resolve? path).bind FileNode.content?).bind Utf8.decode?

end Files

end LayeredSettings
