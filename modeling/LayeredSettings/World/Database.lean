import LayeredSettings.Error
import LayeredSettings.World.DataSourceName
import LayeredSettings.World.Files

set_option autoImplicit false

/-! # Databases of settings

A data source name starts with the name of a driver. Files of the one driver that needs no server
are found in the file tree, and opening a file can make it, as a database without tables. Queries of
files compare texts octet by octet, which is the order of their characters. Servers answer queries in
their own way (`Servers`). -/

namespace LayeredSettings

/-- A database engine. -/
inductive Driver where
  | postgres
  | mySql
  | sqlite
deriving DecidableEq, Repr

namespace Driver

/-- The driver that a name stands for, in exactly this spelling. -/
def ofName : String → Except Error Driver
  | "postgres" => .ok .postgres
  | "postgresql" => .ok .postgres
  | "mysql" => .ok .mySql
  | "mariadb" => .ok .mySql
  | "sqlite" => .ok .sqlite
  | other => .error (.unsupportedDriver other)

/-- The driver of a data source name, the text before its first colon in any case. -/
def ofDsn (dsn : String) : Except Error Driver :=
  ofName (Text.lower (String.ofList (dsn.toList.takeWhile (· != ':'))))

/-- The place of the first parameter in a query. -/
def placeholder : Driver → String
  | .postgres => "$1"
  | .mySql => "?"
  | .sqlite => "?"

end Driver

namespace Database

/-! ## Table names -/

/-- A letter or an underscore. -/
def isNameStart (c : Char) : Bool :=
  Text.isLetter c || c == '_'

/-- A letter, a digit or an underscore. -/
def isNameChar (c : Char) : Bool :=
  isNameStart c || Text.isDigit c

/-- A plain name: ASCII letters, digits and underscores, no digit first. -/
def isIdentifier : List Char → Bool
  | [] => false
  | c :: rest => isNameStart c && rest.all isNameChar

/-- Whether a text can stand in a query as a table: a plain name, or two with a dot between them. -/
def isTableName (s : String) : Bool :=
  match Text.pieces (· == '.') s.toList with
  | [table] => isIdentifier table
  | [schema, table] => isIdentifier schema && isIdentifier table
  | _ => false

/-- Refuse a text that could alter a query. -/
def checkTableName (s : String) : Except Error Unit :=
  if isTableName s then .ok () else .error (.invalidIdentifier s)

/-! ## Opening -/

/-- The octets of the longest path of a database file. -/
def pathLimit : Nat := 504

/-- The octets of the longest path on the way to one. -/
def detourLimit : Nat := 511

/-- The octets of the path from the root through these names. -/
def pathSize (names : List String) : Nat :=
  names.foldl (fun n name => n + 1 + name.utf8ByteSize) 0

/-- The place one part further. Names under a file and names of more than 255 octets cannot be
    looked up; a missing directory can be left again. -/
def follow? (files : Files) (here : List String) (part : String) : Option (List String) :=
  let next := Files.advance here part
  let isName := here.length < next.length
  let isBlocked := (files.at? here).isSome && !files.isDirectory here
  if isName && (isBlocked || 255 < part.utf8ByteSize || detourLimit < pathSize next) then none
  else some next

/-- The place of a database file, which is not the root. A path that starts in the current directory
    needs it to be there. -/
def locate? (files : Files) (name : List UInt8) : Option (List String) := do
  let path ← Utf8.decode? name
  let start := files.start path
  if !files.isDirectory start || detourLimit < pathSize start then none
  else
    let place ← (Text.fieldsOn '/' path).foldlM (follow? files) start
    if place.isEmpty || pathLimit < pathSize place then none else some place

/-- Where a missing database file is to be made, if its directory is there. -/
def newPlace? (files : Files) (dsn : String) : Option (List String) :=
  match DataSourceName.opening? dsn with
  | some (.file name .create) =>
    (locate? files name).bind fun place =>
      if (files.at? place).isNone && files.isDirectory place.dropLast then some place else none
  | _ => none

/-- The tables of a database. One in memory and one that is made have none. -/
def open? (files : Files) (dsn : String) : Option Tables :=
  match DataSourceName.opening? dsn with
  | none => none
  | some .memory => some []
  | some (.file name _) =>
    match newPlace? files dsn with
    | some _ => some []
    | none => ((locate? files name).bind files.at?).bind FileNode.tables?

/-- The files after a data source name has been opened: a missing database may have been made. -/
def filesAfter (files : Files) (dsn : String) : Files :=
  match newPlace? files dsn with
  | some place => files.set place (.database [])
  | none => files

/-! ## Reading -/

/-- The words of the query language that cannot name a table. -/
def reservedWords : List String :=
  [ "add", "all", "alter", "and", "as", "autoincrement", "between", "case", "check", "collate",
    "commit", "constraint", "create", "default", "deferrable", "delete", "distinct", "drop", "else",
    "escape", "except", "exists", "foreign", "from", "group", "having", "in", "index", "insert",
    "intersect", "into", "is", "isnull", "join", "limit", "not", "nothing", "notnull", "null", "on",
    "or", "order", "primary", "references", "returning", "select", "set", "table", "then", "to",
    "transaction", "union", "unique", "update", "using", "values", "when", "where" ]

/-- The name of a table in the main schema, without the schema. -/
def mainTable? (name : String) : Option String :=
  match Text.fieldsOn '.' name with
  | [schema, table] => if Text.sameIgnoringCase schema "main" then some table else none
  | _ => some name

/-- The rows of a table in the main schema; names ignore ASCII case. -/
def table? (tables : Tables) (name : String) : Option (List Row) :=
  (mainTable? name).bind fun table =>
    if reservedWords.contains (Text.lower table) then none
    else (tables.find? fun t => Text.sameIgnoringCase t.1 table).map Prod.snd

/-- The order of rows by scope and then by key. -/
def rowLe (a b : Row) : Bool :=
  decide (a.scope < b.scope) || (a.scope == b.scope && !decide (b.key < a.key))

/-- The rows that a query gives: without scopes all rows by scope and key, and else for each scope
    in turn its rows by key. -/
def select (scopes : List String) (rows : List Row) : List Row :=
  if scopes.isEmpty then rows.mergeSort rowLe
  else scopes.flatMap fun scope => (rows.filter (fun r => r.scope == scope)).mergeSort rowLe

/-- The selected rows of a table in a database file. -/
def fileRows? (files : Files) (dsn table : String) (scopes : List String) : Option (List Row) :=
  ((open? files dsn).bind fun tables => table? tables table).map (select scopes)

end Database

/-! ## Servers -/

/-- What servers answer to queries of a table behind a data source name; none where the server or the
    table cannot be reached. -/
structure Servers where
  /-- All rows, asked for by scope and key. -/
  all? : String → String → Option (List Row)
  /-- The rows of a scope, asked for by key. -/
  ofScope? : String → String → String → Option (List Row)

namespace Servers

/-- No server can be reached. -/
def unreachable : Servers where
  all? _ _ := none
  ofScope? _ _ _ := none

/-- The rows that queries give: without scopes all rows, and else those of each scope in turn. -/
def rows? (servers : Servers) (dsn table : String) (scopes : List String) : Option (List Row) :=
  if scopes.isEmpty then servers.all? dsn table
  else (scopes.mapM (servers.ofScope? dsn table)).map List.flatten

end Servers

/-- The rows that queries give, as the driver finds the table. -/
def Database.query (files : Files) (servers : Servers) (driver : Driver) (dsn table : String)
    (scopes : List String) : Except Error (List Row) :=
  let rows? :=
    match driver with
    | .sqlite => fileRows? files dsn table scopes
    | _ => servers.rows? dsn table scopes
  match rows? with
  | some rows => .ok rows
  | none => .error .database

end LayeredSettings
