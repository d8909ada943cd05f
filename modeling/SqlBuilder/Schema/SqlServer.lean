import SqlBuilder.Schema.Ddl

/-!
# SQL Server schema statements

The primary key is a constraint, other indexes are objects on the table. Renaming goes through a
procedure that takes names as string literals. A full-text index has no name: it refers to rows by a
unique key index, and stands in a catalog that is created before it and is not dropped with it.
Sets are not supported.
-/

namespace SqlBuilder.Schema.SqlServer

def typeName (n : Naming) (c : Column) : Except Error String :=
  match c.type with
  | .string length => .ok ("NVARCHAR(" ++ toString length.toNat ++ ")")
  | .char length => .ok ("NCHAR(" ++ toString length.toNat ++ ")")
  | .integer => .ok "INT"
  | .bigInteger => .ok "BIGINT"
  | .smallInteger => .ok "SMALLINT"
  | .float | .double => .ok "FLOAT"
  | .decimal precision scale =>
    .ok ("DECIMAL(" ++ toString precision.toNat ++ ", " ++ toString scale.toNat ++ ")")
  | .boolean => .ok "BIT"
  | .date => .ok "DATE"
  | .dateTime => .ok "DATETIME"
  | .time => .ok "TIME"
  | .timestamp => .ok "DATETIME2"
  | .text | .mediumText | .longText | .json | .jsonb => .ok "NVARCHAR(MAX)"
  | .blob => .ok "VARBINARY(MAX)"
  | .uuid => .ok "UNIQUEIDENTIFIER"
  | .ipAddress => .ok "NVARCHAR(45)"
  | .macAddress => .ok "NVARCHAR(17)"
  | .enumeration allowed => .ok ("NVARCHAR(255) " ++ checkAllowed n c allowed)
  | .set _ => refused Dialect.sqlserver.name "set columns"
  | .geometry | .point | .lineString | .polygon => .ok "GEOMETRY"

def definition (n : Naming) (c : Column) : Except Error String := do
  let type ← typeName n c
  .ok (n.reference c.name ++ " " ++ type ++ nullClause c ++ defaultClause c
    ++ (if c.increment then " IDENTITY PRIMARY KEY" else ""))

def createTable (n : Naming) (b : Blueprint) : Except Error (List String) := do
  let definitions ← b.columns.mapM (definition n)
  .ok ["CREATE TABLE " ++ n.table b.name ++ " (" ++ commas definitions ++ ")"]

/-- The new columns in one statement, then each changed column in one of its own. -/
def addColumns (n : Naming) (b : Blueprint) : Except Error (List String) := do
  let added ← (b.columns.filter (!·.change)).mapM (definition n)
  let changed ← (b.columns.filter (·.change)).mapM (definition n)
  let add := if added.isEmpty then [] else [alter n b ("ADD " ++ commas added)]
  .ok (add ++ changed.map fun definition => alter n b ("ALTER COLUMN " ++ definition))

def indexStatement (n : Naming) (b : Blueprint) (keyword : String) (i : Index) : String :=
  "CREATE " ++ keyword ++ " " ++ n.value i.name ++ " ON " ++ n.table b.name ++ " ("
    ++ n.references i.columns ++ ")"

/-- A full-text index with the catalog it stands in, which by default has the name of the index. -/
def fulltext (n : Naming) (b : Blueprint) (i : Index) : Except Error (List String) :=
  match i.key with
  | none => .error (.invalidQuery (.noKeyIndex i.name))
  | some key =>
    let catalog := n.value (i.catalog.getD i.name)
    .ok ["CREATE FULLTEXT CATALOG " ++ catalog,
      "CREATE FULLTEXT INDEX ON " ++ n.table b.name ++ " (" ++ n.references i.columns
        ++ ") KEY INDEX " ++ n.value key ++ " ON " ++ catalog]

def index (n : Naming) (b : Blueprint) (i : Index) : Except Error (List String) :=
  match i.kind with
  | .primary =>
    .ok [alter n b ("ADD CONSTRAINT " ++ n.value i.name ++ " PRIMARY KEY ("
      ++ n.references i.columns ++ ")")]
  | .unique => .ok [indexStatement n b "UNIQUE INDEX" i]
  | .index => .ok [indexStatement n b "INDEX" i]
  | .spatial => .ok [indexStatement n b "SPATIAL INDEX" i]
  | .fulltext => fulltext n b i

def droppedColumns (n : Naming) (b : Blueprint) (guard : String) (columns : List String) : String :=
  alter n b ("DROP COLUMN " ++ guard ++ n.references columns)

/-- The statements of a command in this dialect. -/
def own (n : Naming) (b : Blueprint) (c : Command) : Option (Except Error (List String)) :=
  let one (statement : String) : Option (Except Error (List String)) := some (.ok [statement])
  let dropIndex (guard name : String) :=
    one ("DROP INDEX " ++ guard ++ n.value name ++ " ON " ++ n.table b.name)
  match c with
  | .create => some (createTable n b)
  | .add => some (addColumns n b)
  | .rename target =>
    one ("EXEC sp_rename " ++ literal (n.tablePrefix ++ b.name) ++ ", "
      ++ literal (n.tablePrefix ++ target))
  | .renameColumn source target =>
    one ("EXEC sp_rename " ++ literal (n.tablePrefix ++ b.name ++ "." ++ source) ++ ", "
      ++ literal target ++ ", 'COLUMN'")
  | .dropColumn columns => one (droppedColumns n b "" columns)
  | .dropColumnIfExists columns => one (droppedColumns n b "IF EXISTS " columns)
  | .index i => some (index n b i)
  | .dropPrimary none => some (.error (.invalidQuery .unnamedPrimary))
  | .dropPrimary (some name) => one (dropConstraint n b name)
  | .dropUnique name => dropIndex "" name
  | .dropIndex name => dropIndex "" name
  | .dropSpatial name => dropIndex "" name
  | .dropFulltext _ => one ("DROP FULLTEXT INDEX ON " ++ n.table b.name)
  | .dropIndexIfExists name => dropIndex "IF EXISTS " name
  | .dropUniqueIfExists name => dropIndex "IF EXISTS " name
  | .dropForeignIfExists name => one (alter n b ("DROP CONSTRAINT IF EXISTS " ++ n.value name))
  | _ => none

def ddl (tablePrefix : String) : Ddl :=
  let naming : Naming := ⟨Dialect.sqlserver.quotes, tablePrefix⟩
  { name := Dialect.sqlserver.name
    naming
    typeName := typeName naming
    definition := definition naming
    own := own naming }

end SqlBuilder.Schema.SqlServer
