import SqlBuilder.Query.Select

/-!
# INSERT, UPDATE and DELETE statements

`InsertValues.ofRows` lines rows of named values up on the columns of the first one. The statements
take their table, and an UPDATE or a DELETE its predicates, from a query; its other clauses have no
part in them.
-/

namespace SqlBuilder

/-- Values under their columns, in the order given. -/
abbrev Row (α : Type) := List (String × α)

/-- The rows of an INSERT, each with a value for every column. -/
structure InsertRows where
  columns : List String
  rows : List (List Value)

namespace InsertRows

/-- The values of a row in the order of the columns; each value is used once. -/
def align : List String → Fields Value → Except Error (List Value)
  | [], _ => .ok []
  | column :: columns, row =>
    match row.get? column with
    | none => .error (.invalidQuery (.missingColumn column))
    | some v => do
      let values ← align columns (row.erase column)
      .ok (v :: values)

/-- A further row lined up on the columns of the first; of a repeated column the last value
counts. -/
def alignRow (columns : List String) (row : Row Value) : Except Error (List Value) :=
  if row.length ≠ columns.length then .error (.invalidQuery .unevenRows)
  else align columns (Fields.ofList row)

/-- Rows lined up one after the other, up to the first that cannot be. -/
def alignRows (columns : List String) : List (Row Value) → Except Error (List (List Value))
  | [] => .ok []
  | row :: rows => do
    let values ← alignRow columns row
    let rest ← alignRows columns rows
    .ok (values :: rest)

/-- Rows lined up on the columns of the first row, which has at least one. -/
def ofRows : List (Row Value) → Except Error InsertRows
  | [] => .error (.invalidQuery .emptyInsert)
  | [] :: _ => .error (.invalidQuery .emptyInsert)
  | first :: rest => do
    let columns := first.map (·.1)
    let rows ← alignRows columns rest
    .ok ⟨columns, first.map (·.2) :: rows⟩

/-- The values bound by the rows, row by row. -/
def bindings (v : InsertRows) : List Value :=
  Value.bound v.rows.flatten

end InsertRows

namespace Target

variable (t : Target)

/-- The table and the columns of an INSERT. -/
def insertHead (table : String) (columns : List String) : Sql :=
  Sql.lit ("INSERT INTO " ++ t.naming.table table ++ " (" ++ t.naming.references columns ++ ") ")

/-- A row as a SELECT without a table, each value under the name of its column. -/
def rowSelect (columns : List String) (row : List Value) : Sql :=
  Sql.lit "SELECT " ++ Sql.joined ", " ((row.zip columns).map fun (v, column) =>
    [.param v] ++ Sql.lit (" AS " ++ t.naming.reference column))

/-- An INSERT. SQLite takes several rows as a union of SELECTs. -/
def insert (table : String) (v : InsertRows) : Except Error Sql :=
  if t.dialect = .sqlite && 2 ≤ v.rows.length then
    .ok (t.insertHead table v.columns
      ++ Sql.joined " UNION ALL " (v.rows.map (t.rowSelect v.columns)))
  else if v.columns.isEmpty || v.rows.isEmpty then .error (.invalidQuery .emptyInsert)
  else
    .ok (t.insertHead table v.columns ++ Sql.lit "VALUES "
      ++ Sql.joined ", " (v.rows.map fun row => Sql.lit "(" ++ Sql.params row ++ Sql.lit ")"))

/-- An INSERT that answers the generated key where the dialect can do so. -/
def insertReturning (table : String) (v : InsertRows) (idColumn : String) : Except Error Sql := do
  let statement ← t.insert table v
  if t.dialect.returnsKey then
    .ok (statement ++ Sql.lit (" RETURNING " ++ t.naming.reference idColumn))
  else .ok statement

end Target

namespace Query

/-- A statement with a clause behind it that may be empty. -/
def behindStatement (statement clause : Sql) : Sql :=
  if clause.isEmpty then statement else statement ++ Sql.lit " " ++ clause

/-- An UPDATE that sets the columns of a row where the predicates of the query hold. -/
def update (t : Target) (q : Query) (row : Row Value) : Except Error Sql :=
  if row.isEmpty then .error (.invalidQuery .emptyUpdate)
  else do
    let sets := row.map fun (column, v) => t.reference column ++ Sql.lit " = " ++ [.param v]
    let condition ← q.whereClause t
    .ok (behindStatement
      (Sql.lit ("UPDATE " ++ t.naming.table q.table ++ " SET ") ++ Sql.joined ", " sets) condition)

/-- A DELETE of the rows where the predicates of the query hold. -/
def delete (t : Target) (q : Query) : Except Error Sql := do
  let condition ← q.whereClause t
  .ok (behindStatement (Sql.lit ("DELETE FROM " ++ t.naming.table q.table)) condition)

end Query

end SqlBuilder
