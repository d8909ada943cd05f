import SqlBuilder.Error
import SqlBuilder.Text.Blank
import SqlBuilder.Text.Split

/-!
# Drivers

The database drivers with a dialect of their own, and the names they go by.
-/

namespace SqlBuilder

/-- A database driver with a dialect of its own. -/
inductive Driver where
  | mysql
  | sqlite
  | postgres
  | sqlserver
  deriving DecidableEq

namespace Driver

def name : Driver → String
  | .mysql => "mysql"
  | .sqlite => "sqlite"
  | .postgres => "pgsql"
  | .sqlserver => "sqlsrv"

def all : List Driver :=
  [.mysql, .sqlite, .postgres, .sqlserver]

/-- The driver of a name, blanks around it and the case of its letters ignored. -/
def parse? (text : String) : Option Driver :=
  all.find? fun d => d.name.toList = Text.lowerAscii (Text.trim text.toList)

/-- The driver of a name, or the error that the name is none. -/
def parse (text : String) : Except Error Driver :=
  match parse? text with
  | some d => .ok d
  | none => .error (.unsupportedDriver text)

/-- A driver is read back from its name. -/
theorem parse?_name (d : Driver) : parse? d.name = some d := by
  cases d <;> decide

end Driver

end SqlBuilder
