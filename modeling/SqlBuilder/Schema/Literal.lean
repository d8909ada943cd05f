import SqlBuilder.Json.Writer
import SqlBuilder.Text.Utf8
import SqlBuilder.Value.Basic

/-!
# String literals

A literal stands between single quotes, with every single quote in it written twice. Schema
statements have no parameters, so the values in them are written as literals.
-/

namespace SqlBuilder.Schema

/-- The characters of a literal between its quotes. -/
def escapeLiteral (cs : List Char) : List Char :=
  cs.flatMap fun c => if c = '\x27' then [c, c] else [c]

def literal (text : String) : String :=
  String.ofList ('\x27' :: escapeLiteral text.toList ++ ['\x27'])

def literals (texts : List String) : String :=
  String.intercalate ", " (texts.map literal)

/-- A value as the default of a column: SQL verbatim, all else but null as a string literal. -/
def defaultLiteral : Value → String
  | .raw sql => sql
  | .null => "NULL"
  | .bool b => literal (if b then "1" else "0")
  | .int32 n => literal (toString n.toInt)
  | .int64 n => literal (toString n.toInt)
  | .float32 x => literal (x.plainText .single)
  | .float64 x => literal (x.plainText .double)
  | .string s => literal s
  | .bytes octets => literal (Text.Utf8.decodeLossy octets)
  | .json j => literal j.compact

example : literals ["a", "it's"] = "'a', 'it''s'" := by decide +kernel

end SqlBuilder.Schema
