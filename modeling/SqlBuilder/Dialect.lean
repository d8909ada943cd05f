import SqlBuilder.Driver

/-!
# Dialects

The dialects that query statements are written in: standard SQL and one dialect for each driver. A
driver name that is not known gets standard SQL.
-/

namespace SqlBuilder

structure Quotes where
  opening : Char
  closing : Char
  deriving DecidableEq

inductive Dialect where
  | ansi
  | mysql
  | sqlite
  | postgres
  | sqlserver
  deriving DecidableEq

namespace Dialect

def ofDriver : Driver → Dialect
  | .mysql => .mysql
  | .sqlite => .sqlite
  | .postgres => .postgres
  | .sqlserver => .sqlserver

/-- The dialect for a driver name, standard SQL for a name that is not known. -/
def forName (name : String) : Dialect :=
  match Driver.parse? name with
  | some d => ofDriver d
  | none => .ansi

def name : Dialect → String
  | .ansi => "ansi"
  | .mysql => Driver.mysql.name
  | .sqlite => Driver.sqlite.name
  | .postgres => Driver.postgres.name
  | .sqlserver => Driver.sqlserver.name

def quotes : Dialect → Quotes
  | .mysql => ⟨'\x60', '\x60'⟩
  | .sqlserver => ⟨'[', ']'⟩
  | _ => ⟨'\x22', '\x22'⟩

/-- Whether an insert can answer the generated key as a result row. -/
def returnsKey : Dialect → Bool
  | .postgres => true
  | _ => false

/-- The result column that numbers the rows where a dialect has no offset of its own. -/
def numberColumn? : Dialect → Option String
  | .sqlserver => some "RowNum"
  | _ => none

end Dialect

end SqlBuilder
