import SqlBuilder.Schema.Ddl

/-!
# MySQL schema statements

Every key is added and dropped by altering the table. Enumerations and sets are types. Columns can
be placed, and carry their comments; the character set, the collation and the engine are options of
the table. Nothing can be dropped on the condition that it exists, the table apart.
-/

namespace SqlBuilder.Schema.MySql

def typeName (c : Column) : String :=
  match c.type with
  | .string length => "VARCHAR(" ++ toString length.toNat ++ ")"
  | .char length => "CHAR(" ++ toString length.toNat ++ ")"
  | .integer => "INT"
  | .bigInteger => "BIGINT"
  | .smallInteger => "SMALLINT"
  | .float => "FLOAT"
  | .double => "DOUBLE"
  | .decimal precision scale =>
    "DECIMAL(" ++ toString precision.toNat ++ ", " ++ toString scale.toNat ++ ")"
  | .boolean => "TINYINT(1)"
  | .date => "DATE"
  | .dateTime => "DATETIME"
  | .time => "TIME"
  | .timestamp => "TIMESTAMP"
  | .text => "TEXT"
  | .mediumText => "MEDIUMTEXT"
  | .longText => "LONGTEXT"
  | .blob => "BLOB"
  | .json | .jsonb => "JSON"
  | .uuid => "CHAR(36)"
  | .ipAddress => "VARCHAR(45)"
  | .macAddress => "VARCHAR(17)"
  | .enumeration allowed => "ENUM(" ++ literals allowed ++ ")"
  | .set allowed => "SET(" ++ literals allowed ++ ")"
  | .geometry => "GEOMETRY"
  | .point => "POINT"
  | .lineString => "LINESTRING"
  | .polygon => "POLYGON"

/-- Where a column is put. -/
def placement (n : Naming) (c : Column) : String :=
  match c.after with
  | some column => " AFTER " ++ n.reference column
  | none => if c.first then " FIRST" else ""

def definition (n : Naming) (c : Column) : String :=
  n.reference c.name ++ " " ++ typeName c
    ++ (if c.type.isIntegral && (c.unsigned || c.increment) then " UNSIGNED" else "")
    ++ optional " CHARACTER SET " c.charset
    ++ optional " COLLATE " c.collation
    ++ nullClause c
    ++ defaultClause c
    ++ (if c.increment then " AUTO_INCREMENT PRIMARY KEY" else "")
    ++ optional " COMMENT " (c.comment.map literal)
    ++ placement n c

def createTable (n : Naming) (b : Blueprint) : String :=
  "CREATE TABLE " ++ n.table b.name ++ " (" ++ commas (b.columns.map (definition n)) ++ ")"
    ++ optional " DEFAULT CHARACTER SET " b.charset
    ++ optional " COLLATE " b.collation
    ++ optional " ENGINE = " b.engine

def addColumn (n : Naming) (c : Column) : String :=
  (if c.change then "MODIFY " else "ADD ") ++ definition n c

/-- An index of a kind, as the keyword that goes before its name. -/
def indexKeyword : IndexKind → String
  | .primary => "PRIMARY KEY"
  | .unique => "UNIQUE INDEX"
  | .fulltext => "FULLTEXT INDEX"
  | .index => "INDEX"
  | .spatial => "SPATIAL INDEX"

/-- An index added to the table. The primary key has no name. -/
def addIndex (n : Naming) (i : Index) : String :=
  "ADD " ++ indexKeyword i.kind ++ " "
    ++ (if i.kind = .primary then "" else n.value i.name ++ " ")
    ++ "(" ++ n.references i.columns ++ ")"

/-- The statements of a command in this dialect. -/
def own (n : Naming) (b : Blueprint) (c : Command) : Option (Except Error (List String)) :=
  let altered (clause : String) : Option (Except Error (List String)) :=
    some (.ok [alter n b clause])
  let dropIndex (name : String) := altered ("DROP INDEX " ++ n.value name)
  match c with
  | .create => some (.ok [createTable n b])
  | .add => altered (commas (b.columns.map (addColumn n)))
  | .rename target => some (.ok ["RENAME TABLE " ++ n.table b.name ++ " TO " ++ n.table target])
  | .dropColumn columns => altered (commas (columns.map fun c => "DROP " ++ n.reference c))
  | .renameColumn source target =>
    altered ("RENAME COLUMN " ++ n.reference source ++ " TO " ++ n.reference target)
  | .index i => altered (addIndex n i)
  | .dropPrimary _ => altered "DROP PRIMARY KEY"
  | .dropUnique name => dropIndex name
  | .dropFulltext name => dropIndex name
  | .dropIndex name => dropIndex name
  | .dropSpatial name => dropIndex name
  | .dropForeign name => altered ("DROP FOREIGN KEY " ++ n.value name)
  | _ => none

def ddl (tablePrefix : String) : Ddl :=
  let naming : Naming := ⟨Dialect.mysql.quotes, tablePrefix⟩
  { name := Dialect.mysql.name
    naming
    typeName := fun c => .ok (typeName c)
    definition := fun c => .ok (definition naming c)
    own := own naming }

end SqlBuilder.Schema.MySql
