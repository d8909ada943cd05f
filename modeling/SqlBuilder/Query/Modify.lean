import SqlBuilder.Database.Basic
import SqlBuilder.Query.Finder
import SqlBuilder.Query.Write

/-!
# Running INSERT, UPDATE and DELETE

The writes of a query. A write leaves the query as it is; what it needs for itself, such as the
predicate for one row, it adds to a copy.
-/

namespace SqlBuilder

/-- The rows given to an INSERT, from names and values in the order given. -/
abbrev Rows := List (Row Value)

namespace Query

variable {σ : Type} (db : Database σ)

/-- Sends a statement, if there is one, for its effect. -/
def execute (statement : Except Error Sql) (bindings : List Value) (s : Session σ) :
    Except Error Effect × Session σ :=
  match statement with
  | .error e => (.error e, s)
  | .ok sql => db.execute sql.text bindings s

/-- Sends a statement, if there is one, for the number of rows it affects. -/
def affected (statement : Except Error Sql) (bindings : List Value) (s : Session σ) :
    Except Error UInt64 × Session σ :=
  let (answer, s) := execute db statement bindings s
  (answer.map (·.rowsAffected), s)

/-- Inserts rows; the number of rows inserted. -/
def insert (rows : Rows) (q : Query) (s : Session σ) : Except Error UInt64 × Session σ :=
  match InsertRows.ofRows rows with
  | .error e => (.error e, s)
  | .ok v => affected db (db.target.insert q.table v) v.bindings s

/-- Inserts one row; the key generated for it. Where the dialect answers the key as a row it is
read from there, else the connection reports it. -/
def insertReturning (row : Row Value) (idColumn : String) (q : Query) (s : Session σ) :
    Except Error (Option Int64) × Session σ :=
  match InsertRows.ofRows [row] with
  | .error e => (.error e, s)
  | .ok v =>
    match db.target.insertReturning q.table v idColumn with
    | .error e => (.error e, s)
    | .ok sql =>
      if db.target.dialect.returnsKey then
        let (answer, s) := db.select sql.text v.bindings s
        (answer.map fun rows =>
          (rows.head?.bind (Fields.get? idColumn)).bind Json.toInt64?, s)
      else
        let (answer, s) := db.execute sql.text v.bindings s
        (answer.map (·.lastInsertId), s)

/-- Sets the columns of a row where the predicates hold; the number of rows changed. The values of
the row are bound before all those of the query. -/
def set (row : Row Value) (q : Query) (s : Session σ) : Except Error UInt64 × Session σ :=
  affected db (q.update db.target row) (Value.bound (row.map (·.2)) ++ q.bindings) s

/-- Adds an amount to a column, or takes it away, where the predicates hold. -/
def adjust (sign column : String) (amount : Int64) (q : Query) (s : Session σ) :
    Except Error UInt64 × Session σ :=
  q.set db
    [(column, .raw (db.target.naming.reference column ++ " " ++ sign ++ " "
      ++ toString amount.toInt))] s

/-- Adds an amount to a column where the predicates hold. -/
def increment (column : String) (amount : Int64) (q : Query) (s : Session σ) :
    Except Error UInt64 × Session σ :=
  q.adjust db "+" column amount s

/-- Takes an amount from a column where the predicates hold. -/
def decrement (column : String) (amount : Int64) (q : Query) (s : Session σ) :
    Except Error UInt64 × Session σ :=
  q.adjust db "-" column amount s

/-- Deletes the rows where the predicates hold; the number of rows deleted. -/
def remove (q : Query) (s : Session σ) : Except Error UInt64 × Session σ :=
  affected db (q.delete db.target) q.bindings s

/-- Deletes the row whose column `id` has a value, among those where the predicates hold. -/
def removeId (id : Value) (q : Query) (s : Session σ) : Except Error UInt64 × Session σ :=
  (q.whereEq .and "id" id).remove db s

end Query

end SqlBuilder
