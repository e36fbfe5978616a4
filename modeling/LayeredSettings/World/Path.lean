import LayeredSettings.Text.Blank

set_option autoImplicit false

/-! # Paths

Paths are texts with slashes. Joining keeps both parts as written; only the home sign at the start
of a path is expanded, and what follows it is put behind the home directory. -/

namespace LayeredSettings.Path

/-- Whether a path starts at the root. -/
def isAbsolute (path : String) : Bool :=
  path.toList.head? == some '/'

/-- A name under a directory: one slash between them unless the directory is empty or ends with one.
    A name that starts at the root stands for itself. -/
def join (dir name : String) : String :=
  if isAbsolute name then name
  else if dir == "" || dir.toList.getLast? == some '/' then dir ++ name
  else dir ++ "/" ++ name

/-- A part of a path that stays where it is: empty or a dot. -/
def isIdle (part : String) : Bool :=
  part == "" || part == "."

/-- The path with a home sign as its first part replaced by the home directory. -/
def expandHome (home path : String) : String :=
  match Text.fieldsOn '/' path with
  | "~" :: parts => join home (Text.joinWith "/" (Text.stripWhile isIdle parts))
  | _ => path

/-- The name of the file that a path leads to; a path that ends with two dots leads to none. -/
def fileName? (path : String) : Option String :=
  match (Text.dropTailWhile isIdle (Text.fieldsOn '/' path)).getLast? with
  | some ".." => none
  | other => other

/-- The extension of a path: what follows the last dot of its file name, unless nothing comes before
    that dot. -/
def extension? (path : String) : Option String :=
  (fileName? path).bind fun name =>
    let reversed := name.toList.reverse
    let tail := reversed.takeWhile (· != '.')
    match reversed.drop tail.length with
    | _ :: _ :: _ => some (String.ofList tail.reverse)
    | _ => none

end LayeredSettings.Path
