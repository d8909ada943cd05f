import SqlBuilder.Json.Basic

/-!
# Values

A value is bound to a statement as a parameter, with one exception: a `raw` value is SQL and is
written into the statement where its parameter would stand.
-/

namespace SqlBuilder

/-- A value for a parameter of a statement. -/
inductive Value where
  | null
  | bool (b : Bool)
  | int32 (n : Int32)
  | int64 (n : Int64)
  /-- A single-precision number. -/
  | float32 (x : Binary)
  /-- A double-precision number. -/
  | float64 (x : Binary)
  | string (s : String)
  | bytes (octets : List UInt8)
  | json (j : Json)
  /-- SQL that is written verbatim. -/
  | raw (sql : String)

namespace Value

def isNull : Value → Bool
  | .null => true
  | _ => false

/-- Whether the value is SQL to be written verbatim. -/
def isRaw : Value → Bool
  | .raw _ => true
  | _ => false

def raw? : Value → Option String
  | .raw sql => some sql
  | _ => none

/-- The values of a list that are bound as parameters, that is all but the raw ones. -/
def bound (values : List Value) : List Value :=
  values.filter (!·.isRaw)

@[simp]
theorem bound_append (vs ws : List Value) : bound (vs ++ ws) = bound vs ++ bound ws := by
  simp [bound]

theorem isRaw_of_mem_bound {v : Value} {vs : List Value} (h : v ∈ bound vs) : v.isRaw = false := by
  simpa using (List.mem_filter.1 h).2

def bytesJson (octets : List UInt8) : Json :=
  .array (octets.map fun b => .int b.toNat)

/-- The value as JSON. A number that is not finite becomes `null`. -/
def toJson : Value → Json
  | .null => .null
  | .bool b => .bool b
  | .int32 n => .int n.toInt
  | .int64 n => .int n.toInt
  | .float32 x => .ofBinary x
  | .float64 x => .ofBinary x
  | .string s => .string s
  | .raw s => .string s
  | .bytes octets => bytesJson octets
  | .json j => j

end Value

end SqlBuilder
