import SqlBuilder.Schema.Ddl

/-!
# SQLite schema statements

A primary key and the foreign keys can only be part of the statement that creates the table; their
commands give nothing more then, and are not supported on a table that exists. Columns are added one
at a time and cannot be changed. A full-text index is a table of its own.
-/

namespace SqlBuilder.Schema.Sqlite

/-- The type of a column. Most types share a few storage classes. -/
def typeName (n : Naming) (c : Column) : String :=
  match c.type with
  | .string _ | .char _ => "VARCHAR"
  | .integer | .bigInteger | .smallInteger | .boolean => "INTEGER"
  | .float | .double | .decimal .. => "FLOAT"
  | .date | .dateTime | .time | .timestamp => "DATETIME"
  | .text | .mediumText | .longText | .json | .jsonb | .uuid => "TEXT"
  | .ipAddress | .macAddress | .set _ => "VARCHAR"
  | .blob => "BLOB"
  | .enumeration allowed => "VARCHAR " ++ checkAllowed n c allowed
  | .geometry => "GEOMETRY"
  | .point => "POINT"
  | .lineString => "LINESTRING"
  | .polygon => "POLYGON"

def definition (n : Naming) (c : Column) : String :=
  n.reference c.name ++ " " ++ typeName n c ++ nullClause c ++ defaultClause c
    ++ (if c.increment then " PRIMARY KEY AUTOINCREMENT" else "")

/-- The columns of the primary key that a command asks for. -/
def primaryColumns? : Command → Option (List String)
  | .index i => if i.kind = .primary then some i.columns else none
  | _ => none

/-- The foreign key that a command asks for. -/
def foreignKey? : Command → Option ForeignKey
  | .foreign f => some f
  | _ => none

/-- The keys written with the columns of a table: the first primary key and every foreign key. -/
def keyClauses (n : Naming) (b : Blueprint) : Except Error (List String) := do
  let primary := (b.commands.findSome? primaryColumns?).map fun columns =>
    "PRIMARY KEY (" ++ n.references columns ++ ")"
  let foreign ← (b.commands.filterMap foreignKey?).mapM (referenceClause n)
  .ok (primary.toList ++ foreign)

def createTable (n : Naming) (b : Blueprint) : Except Error (List String) := do
  let constraints ← keyClauses n b
  .ok ["CREATE TABLE " ++ n.table b.name ++ " ("
    ++ commas (b.columns.map (definition n) ++ constraints) ++ ")"]

/-- What to do about a change that the dialect cannot make. -/
def recreate (operation : String) : Error :=
  .unsupported Dialect.sqlite.name operation (some "recreate the table instead")

def addColumn (n : Naming) (b : Blueprint) (c : Column) : Except Error String :=
  if c.change then .error (recreate "change")
  else .ok (alter n b ("ADD COLUMN " ++ definition n c))

/-- An index that is created by a statement of its own. -/
def indexStatement (n : Naming) (b : Blueprint) (keyword : String) (i : Index) : String :=
  "CREATE " ++ keyword ++ " " ++ n.value i.name ++ " ON " ++ n.table b.name ++ " ("
    ++ n.references i.columns ++ ")"

def index (n : Naming) (b : Blueprint) (i : Index) : Option (Except Error (List String)) :=
  match i.kind with
  | .primary => if b.createsTable then some (.ok []) else none
  | .unique => some (.ok [indexStatement n b "UNIQUE INDEX" i])
  | .index => some (.ok [indexStatement n b "INDEX" i])
  | .fulltext =>
    some (.ok ["CREATE VIRTUAL TABLE " ++ n.value i.name ++ " USING fts4("
      ++ n.references i.columns ++ ")"])
  | .spatial => none

/-- The statements of a command in this dialect. -/
def own (n : Naming) (b : Blueprint) (c : Command) : Option (Except Error (List String)) :=
  let drop (what name : String) : Option (Except Error (List String)) :=
    some (.ok ["DROP " ++ what ++ " " ++ n.value name])
  match c with
  | .create => some (createTable n b)
  | .add => some (b.columns.mapM (addColumn n b))
  | .dropColumn columns =>
    some (.ok (columns.map fun c => alter n b ("DROP COLUMN " ++ n.reference c)))
  | .renameColumn .. => some (.error (recreate "rename_column"))
  | .index i => index n b i
  | .foreign _ =>
    some (if b.createsTable then .ok [] else refused Dialect.sqlite.name c.name)
  | .dropUnique name => drop "INDEX" name
  | .dropIndex name => drop "INDEX" name
  | .dropFulltext name => drop "TABLE" name
  | .dropForeign _ => some (refused Dialect.sqlite.name c.name)
  | .dropIndexIfExists name => drop "INDEX IF EXISTS" name
  | .dropUniqueIfExists name => drop "INDEX IF EXISTS" name
  | .dropFulltextIfExists name => drop "TABLE IF EXISTS" name
  | _ => none

def ddl (tablePrefix : String) : Ddl :=
  let naming : Naming := ⟨Dialect.sqlite.quotes, tablePrefix⟩
  { name := Dialect.sqlite.name
    naming
    typeName := fun c => .ok (typeName naming c)
    definition := fun c => .ok (definition naming c)
    own := own naming }

end SqlBuilder.Schema.Sqlite
