import SqlBuilder.Error
import SqlBuilder.Json.Basic

/-!
# Connection configuration

A configuration names a driver, a prefix for table names and the connection itself. The driver is
kept as given, whether it is a known one or not.
-/

namespace SqlBuilder

structure Config where
  driver : String
  /-- Stands in front of every table name. -/
  tablePrefix : String := ""
  name : String := "default"
  deriving DecidableEq

namespace Config

/-- An optional text member of an object, a default for an absent one. -/
def textMember (members : Fields Json) (key default : String) : Except Error String :=
  match members.get? key with
  | none => .ok default
  | some (.string s) => .ok s
  | some _ => .error .serialization

/-- A configuration from JSON: an object with a driver, other members being ignored, or an array of
driver, prefix and name that may end after any of them. -/
def ofJson : Json → Except Error Config
  | .object members =>
    match Fields.get? "driver" members with
    | some (.string driver) => do
      let tablePrefix ← textMember members "prefix" ""
      let name ← textMember members "name" "default"
      .ok { driver, tablePrefix, name }
    | _ => .error .serialization
  | .array [.string driver] => .ok { driver }
  | .array [.string driver, .string tablePrefix] => .ok { driver, tablePrefix }
  | .array [.string driver, .string tablePrefix, .string name] => .ok { driver, tablePrefix, name }
  | _ => .error .serialization

end Config

end SqlBuilder
