import LayeredSettings.Format
import LayeredSettings.Value.Inferred
import LayeredSettings.Value.Path
import LayeredSettings.World.Basic

set_option autoImplicit false

/-! # Database sources

A database source reads rows of a settings table. The key of a row is a dotted path, its text a
value; `treeOfRows` writes one row after the other into a tree, so later rows win. -/

namespace LayeredSettings

/-! ## Rows -/

namespace Row

/-- The path of a row. -/
def path (r : Row) : List String :=
  pathOfKey r.key

/-- The value of a row of a table: null without a text, of the declared format if there is one, and
    otherwise what the text looks like. -/
def decode (format? : Option Format) (table : String) (r : Row) : Except Error Value :=
  match r.value, format? with
  | none, _ => .ok .null
  | some raw, some f => f.value raw (table ++ "." ++ r.key)
  | some raw, none => .ok (Value.inferred raw)

end Row

/-- The tree with one more row written. -/
def writeRow (format? : Option Format) (table : String) (tree : Tree) (r : Row) :
    Except Error Tree := do
  let v ← r.decode format? table
  .ok (insertAt r.path v tree)

/-- The tree of rows, written in order. -/
def treeOfRows (format? : Option Format) (table : String) (rows : List Row) : Except Error Tree :=
  rows.foldlM (writeRow format? table) []

/-! ## The source -/

/-- A table of settings rows. -/
structure DatabaseSource where
  /-- The data source name. -/
  dsn : String
  table : String
  /-- The scopes to read, later ones winning; none for all rows. -/
  scopes : List String := []
  /-- The format of the values; none to take them as what they look like. -/
  valueFormat : Option Format := none
deriving DecidableEq, Repr

namespace DatabaseSource

/-- The driver of the source. A table name that could alter a query is refused with it. -/
def checkedDriver (s : DatabaseSource) : Except Error Driver := do
  let driver ← Driver.ofDsn s.dsn
  Database.checkTableName s.table
  .ok driver

/-- The rows of the table. The driver is checked first, then the table name. -/
def rows (s : DatabaseSource) (w : World) : Except Error (List Row) := do
  let driver ← s.checkedDriver
  Database.query w.files w.servers driver s.dsn s.table s.scopes

/-- The settings of the rows. -/
def load (s : DatabaseSource) (w : World) : Except Error Tree := do
  let rows ← s.rows w
  treeOfRows s.valueFormat s.table rows

/-- The world after the source was loaded. -/
def worldAfter (s : DatabaseSource) (w : World) : World :=
  match s.checkedDriver with
  | .ok .sqlite => { w with files := Database.filesAfter w.files s.dsn }
  | _ => w

end DatabaseSource

end LayeredSettings
