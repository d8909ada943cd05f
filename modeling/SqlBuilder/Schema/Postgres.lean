import SqlBuilder.Schema.Ddl

/-!
# Postgres schema statements

Unique keys are constraints, all other indexes are objects beside the table and are dropped by their
names alone. An integer that numbers its rows has a type of its own. Comments are statements that
follow the columns. Sets are not supported.
-/

namespace SqlBuilder.Schema.Postgres

def typeName (n : Naming) (c : Column) : Except Error String :=
  match c.type with
  | .integer => .ok (if c.increment then "SERIAL" else "INTEGER")
  | .bigInteger => .ok (if c.increment then "BIGSERIAL" else "BIGINT")
  | .smallInteger => .ok (if c.increment then "SMALLSERIAL" else "SMALLINT")
  | .string length => .ok ("VARCHAR(" ++ toString length.toNat ++ ")")
  | .char length => .ok ("CHAR(" ++ toString length.toNat ++ ")")
  | .float => .ok "REAL"
  | .double => .ok "DOUBLE PRECISION"
  | .decimal precision scale =>
    .ok ("DECIMAL(" ++ toString precision.toNat ++ ", " ++ toString scale.toNat ++ ")")
  | .boolean => .ok "BOOLEAN"
  | .date => .ok "DATE"
  | .dateTime | .timestamp => .ok "TIMESTAMP(0) WITHOUT TIME ZONE"
  | .time => .ok "TIME(0) WITHOUT TIME ZONE"
  | .text | .mediumText | .longText => .ok "TEXT"
  | .blob => .ok "BYTEA"
  | .json => .ok "JSON"
  | .jsonb => .ok "JSONB"
  | .uuid => .ok "UUID"
  | .ipAddress => .ok "INET"
  | .macAddress => .ok "MACADDR"
  | .enumeration allowed => .ok ("VARCHAR(255) " ++ checkAllowed n c allowed)
  | .set _ => refused Dialect.postgres.name "set columns"
  | .geometry => .ok "GEOMETRY"
  | .point => .ok "GEOMETRY(POINT)"
  | .lineString => .ok "GEOMETRY(LINESTRING)"
  | .polygon => .ok "GEOMETRY(POLYGON)"

def definition (n : Naming) (c : Column) : Except Error String := do
  let type ← typeName n c
  .ok (n.reference c.name ++ " " ++ type ++ nullClause c ++ defaultClause c
    ++ (if c.increment then " PRIMARY KEY" else ""))

def commentStatements (n : Naming) (b : Blueprint) : List String :=
  b.columns.filterMap fun c => c.comment.map fun comment =>
    "COMMENT ON COLUMN " ++ n.table b.name ++ "." ++ n.value c.name ++ " IS " ++ literal comment

/-- The table with its columns, then the comments. -/
def createTable (n : Naming) (b : Blueprint) : Except Error (List String) := do
  let definitions ← b.columns.mapM (definition n)
  .ok (("CREATE TABLE " ++ n.table b.name ++ " (" ++ commas definitions ++ ")")
    :: commentStatements n b)

/-- The clauses that bring an existing column in line with a definition. -/
def changedColumn (n : Naming) (c : Column) : Except Error (List String) := do
  let type ← typeName n c
  let column := "ALTER COLUMN " ++ n.reference c.name
  .ok ([column ++ " TYPE " ++ type,
      column ++ (if c.nullable then " DROP NOT NULL" else " SET NOT NULL")]
    ++ (c.default.map fun value => column ++ " SET DEFAULT " ++ defaultLiteral value).toList)

/-- The clauses that add a column or change it. -/
def columnClauses (n : Naming) (c : Column) : Except Error (List String) :=
  if c.change then changedColumn n c
  else (definition n c).map fun definition => ["ADD COLUMN " ++ definition]

/-- The columns added or changed in one statement, then the comments. -/
def addColumns (n : Naming) (b : Blueprint) : Except Error (List String) := do
  let clauses ← b.columns.mapM (columnClauses n)
  .ok (alter n b (commas clauses.flatten) :: commentStatements n b)

/-- An index beside the table, on its columns or made by a method. -/
def indexStatement (n : Naming) (b : Blueprint) (i : Index) (target : String) : String :=
  "CREATE INDEX " ++ n.value i.name ++ " ON " ++ n.table b.name ++ " " ++ target

def index (n : Naming) (b : Blueprint) (i : Index) : String :=
  let columns := n.references i.columns
  match i.kind with
  | .primary => alter n b ("ADD PRIMARY KEY (" ++ columns ++ ")")
  | .unique => alter n b ("ADD CONSTRAINT " ++ n.value i.name ++ " UNIQUE (" ++ columns ++ ")")
  | .index => indexStatement n b i ("(" ++ columns ++ ")")
  | .fulltext =>
    let document := String.intercalate " || ' ' || " (i.columns.map n.reference)
    indexStatement n b i ("USING gin(to_tsvector('english', " ++ document ++ "))")
  | .spatial => indexStatement n b i ("USING gist(" ++ columns ++ ")")

/-- The name of the primary key of a table to which none was given. -/
def primaryName (n : Naming) (b : Blueprint) : String :=
  n.tablePrefix ++ b.name ++ "_pkey"

def droppedColumns (n : Naming) (b : Blueprint) (guard : String) (columns : List String) : String :=
  alter n b (commas (columns.map fun c => "DROP COLUMN " ++ guard ++ n.reference c))

/-- The statements of a command in this dialect. -/
def own (n : Naming) (b : Blueprint) (c : Command) : Option (Except Error (List String)) :=
  let one (statement : String) : Option (Except Error (List String)) := some (.ok [statement])
  let dropIndex (guard name : String) := one ("DROP INDEX " ++ guard ++ n.value name)
  match c with
  | .create => some (createTable n b)
  | .add => some (addColumns n b)
  | .dropColumn columns => one (droppedColumns n b "" columns)
  | .dropColumnIfExists columns => one (droppedColumns n b "IF EXISTS " columns)
  | .renameColumn source target =>
    one (alter n b ("RENAME COLUMN " ++ n.reference source ++ " TO " ++ n.reference target))
  | .index i => one (index n b i)
  | .dropPrimary name => one (dropConstraint n b (name.getD (primaryName n b)))
  | .dropUnique name => one (dropConstraint n b name)
  | .dropFulltext name => dropIndex "" name
  | .dropIndex name => dropIndex "" name
  | .dropSpatial name => dropIndex "" name
  | .dropIndexIfExists name => dropIndex "IF EXISTS " name
  | .dropFulltextIfExists name => dropIndex "IF EXISTS " name
  | .dropUniqueIfExists name => one (alter n b ("DROP CONSTRAINT IF EXISTS " ++ n.value name))
  | .dropForeignIfExists name => one (alter n b ("DROP CONSTRAINT IF EXISTS " ++ n.value name))
  | _ => none

def ddl (tablePrefix : String) : Ddl :=
  let naming : Naming := ⟨Dialect.postgres.quotes, tablePrefix⟩
  { name := Dialect.postgres.name
    naming
    typeName := typeName naming
    definition := definition naming
    own := own naming }

end SqlBuilder.Schema.Postgres
