import SqlBuilder.Error
import SqlBuilder.Value.Basic

/-!
# Tagged values

A value is stored as JSON under the name of its kind: an object with that one member, or the bare
name where the kind has no content. `Value.ofTagged?` reads the form back and also takes what it can
without loss of meaning: an integer where a floating-point number is due, and `null` as the content
of the kind that has none.
-/

namespace SqlBuilder.Value

/-- The value under the name of its kind. -/
def tagged : Value → Json
  | .null => .string "Null"
  | .bool b => .object [("Bool", .bool b)]
  | .int32 n => .object [("I32", .int n.toInt)]
  | .int64 n => .object [("I64", .int n.toInt)]
  | .float32 x => .object [("F32", .ofBinary x)]
  | .float64 x => .object [("F64", .ofBinary x)]
  | .string s => .object [("String", .string s)]
  | .bytes octets => .object [("Bytes", bytesJson octets)]
  | .json j => .object [("Json", j)]
  | .raw sql => .object [("Raw", .string sql)]

/-- A floating-point number of a format from any JSON number. -/
def binaryOfJson? (f : BinaryFormat) : Json → Option Binary
  | .int n => some (Binary.ofNat f (n < 0) n.natAbs)
  | .float x => some (x.convert f)
  | _ => none

def octetOfJson? : Json → Option UInt8
  | .int n => if 0 ≤ n && n < 256 then some (UInt8.ofNat n.toNat) else none
  | _ => none

/-- The value of a kind with some content. -/
def ofContent? : (kind : String) → Json → Option Value
  | "Null", .null => some .null
  | "Bool", .bool b => some (.bool b)
  | "I32", .int n =>
    if -2147483648 ≤ n && n ≤ 2147483647 then some (.int32 (Int32.ofInt n)) else none
  | "I64", j => j.toInt64?.map .int64
  | "F32", j => (binaryOfJson? .single j).map .float32
  | "F64", j => (binaryOfJson? .double j).map .float64
  | "String", .string s => some (.string s)
  | "Bytes", .array items => (items.mapM octetOfJson?).map .bytes
  | "Json", j => some (.json j)
  | "Raw", .string sql => some (.raw sql)
  | _, _ => none

/-- The value that a tagged form stands for. -/
def ofTagged? : Json → Option Value
  | .string "Null" => some .null
  | .object [(kind, content)] => ofContent? kind content
  | _ => none

/-- The value that a tagged form stands for, or the error that it stands for none. -/
def ofTagged (j : Json) : Except Error Value :=
  match ofTagged? j with
  | some v => .ok v
  | none => .error .serialization

end SqlBuilder.Value
