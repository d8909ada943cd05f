import SqlBuilder.Json.Basic
import SqlBuilder.Number.Shortest

/-!
# Compact JSON text

`Json.compact` writes a value without blanks. In a string only the quote, the backslash and the
control characters are escaped. A number has the shortest digits that read back to it; a
floating-point number is positional, with a fraction of at least one digit, from `1e-5` up to below
`1e16`, and has an exponent with a sign elsewhere.
-/

namespace SqlBuilder.Json

/-- A hexadecimal digit, in small letters. -/
def hexDigit (n : Nat) : Char :=
  Nat.digitChar (n % 16)

/-- A character as it stands in a string. -/
def escapeChar (c : Char) : List Char :=
  if c = '\x22' then ['\\', '\x22']
  else if c = '\\' then ['\\', '\\']
  else if c = '\x08' then ['\\', 'b']
  else if c = '\t' then ['\\', 't']
  else if c = '\n' then ['\\', 'n']
  else if c = '\x0c' then ['\\', 'f']
  else if c = '\r' then ['\\', 'r']
  else if c.toNat < 0x20 then ['\\', 'u', '0', '0', hexDigit (c.toNat / 16), hexDigit c.toNat]
  else [c]

def quoted (s : String) : String :=
  String.ofList ('\x22' :: s.toList.flatMap escapeChar ++ ['\x22'])

/-- Digits of a number with the decimal exponent of the first of them: `d.ddde+16`, `1e-7`. -/
def scientific (digits : List Char) (exponent : Int) : String :=
  let sign := if exponent < 0 then "-" else "+"
  let fraction := digits.drop 1
  String.ofList (digits.take 1) ++ (if fraction.isEmpty then "" else "." ++ String.ofList fraction)
    ++ "e" ++ sign ++ toString exponent.natAbs

def floatText : Binary → String
  | .finite negative 0 _ => Binary.signText negative ++ "0.0"
  | .finite negative m e =>
    let s := Binary.shortest .double .toEven m e
    let digits := Nat.toDigits 10 s.digits
    let point : Int := digits.length + s.exponent
    Binary.signText negative ++
      if -5 < point && point ≤ 16 then Binary.positional digits point ".0"
      else scientific digits (point - 1)
  | _ => "null"

mutual

/-- The value as text without blanks. -/
def compact : Json → String
  | .null => "null"
  | .bool b => if b then "true" else "false"
  | .int n => toString n
  | .float x => floatText x
  | .string s => quoted s
  | .array items => "[" ++ String.intercalate "," (compactItems items) ++ "]"
  | .object members => "\x7b" ++ String.intercalate "," (compactMembers members) ++ "\x7d"

/-- The texts of the items of an array. -/
def compactItems : List Json → List String
  | [] => []
  | item :: items => compact item :: compactItems items

/-- The texts of the members of an object, each a quoted key, a colon and a value. -/
def compactMembers : List (String × Json) → List String
  | [] => []
  | (key, value) :: members => (quoted key ++ ":" ++ compact value) :: compactMembers members

end

example : compact (.array [.int (-5), .string "a\"\n\x01", .object [("k", .null)]]) =
    "[-5,\"a\\\"\\n\\u0001\",\x7b\"k\":null\x7d]" := by decide +kernel

example : floatText (.finite false 1 0) = "1.0" ∧ floatText (.finite true 5 (-1)) = "-2.5" := by
  decide +kernel

end SqlBuilder.Json
