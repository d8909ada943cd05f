import SqlBuilder.Json.Basic

/-!
# Reading JSON text

`Json.parse?` reads one value from a text that holds nothing else but blanks. A numeral without a
point and an exponent is an integer if it fits 64 bits; a minus before a zero makes a
floating-point number, which alone keeps the sign. The readers take characters off the front of a
text and are bounded by its length.
-/

namespace SqlBuilder.Json

/-- Whether a character may stand between the parts of a JSON text. -/
def isSpace (c : Char) : Bool :=
  c = ' ' || c = '\t' || c = '\n' || c = '\r'

/-- The text after its leading spaces. -/
def skip (cs : List Char) : List Char :=
  cs.dropWhile isSpace

def hexValue? (c : Char) : Option Nat :=
  if c.isDigit then some (c.toNat - 48)
  else if 'a' ≤ c ∧ c ≤ 'f' then some (c.toNat - 87)
  else if 'A' ≤ c ∧ c ≤ 'F' then some (c.toNat - 55)
  else none

/-- Reads the four hexadecimal digits of a code unit. -/
def readUnit? : List Char → Option (Nat × List Char)
  | a :: b :: c :: d :: rest => do
    let a ← hexValue? a
    let b ← hexValue? b
    let c ← hexValue? c
    let d ← hexValue? d
    some (((a * 16 + b) * 16 + c) * 16 + d, rest)
  | _ => none

/-- Reads what follows a backslash and a `u`: a code unit, or two that make one character. -/
def readPoint? (cs : List Char) : Option (Char × List Char) := do
  let (unit, rest) ← readUnit? cs
  if 0xD800 ≤ unit ∧ unit < 0xDC00 then
    match rest with
    | '\\' :: 'u' :: rest =>
      let (low, rest) ← readUnit? rest
      if 0xDC00 ≤ low ∧ low < 0xE000 then
        some (Char.ofNat (0x10000 + (unit - 0xD800) * 0x400 + (low - 0xDC00)), rest)
      else none
    | _ => none
  else if 0xDC00 ≤ unit ∧ unit < 0xE000 then none
  else some (Char.ofNat unit, rest)

/-- Reads what follows a backslash. -/
def readEscape? : List Char → Option (Char × List Char)
  | '\x22' :: rest => some ('\x22', rest)
  | '\\' :: rest => some ('\\', rest)
  | '/' :: rest => some ('/', rest)
  | 'b' :: rest => some ('\x08', rest)
  | 'f' :: rest => some ('\x0c', rest)
  | 'n' :: rest => some ('\n', rest)
  | 'r' :: rest => some ('\r', rest)
  | 't' :: rest => some ('\t', rest)
  | 'u' :: rest => readPoint? rest
  | _ => none

/-- Reads a string after its opening quote, up to the closing one; `read` holds the characters so
far, the last one first. -/
def readString? : Nat → List Char → List Char → Option (String × List Char)
  | 0, _, _ => none
  | fuel + 1, read, cs =>
    match cs with
    | '\x22' :: rest => some (String.ofList read.reverse, rest)
    | '\\' :: rest => do
      let (c, rest) ← readEscape? rest
      readString? fuel (c :: read) rest
    | c :: rest => if c.toNat < 0x20 then none else readString? fuel (c :: read) rest
    | [] => none

/-- The value of a scanned numeral, if it is written as JSON asks. -/
def ofNumeral? (n : Numeral) : Option Json :=
  let whole := !n.whole.isEmpty && (n.whole.length = 1 || n.whole.head? ≠ some '0')
  let fraction := n.fraction.all fun digits => !digits.isEmpty
  if !(whole && fraction && n.exponentOk) then none
  else
    let d := n.toDecimal
    if n.isWhole then
      if d.negative && d.digits = 0 then some (.float (d.round .double))
      else some (ofInt (if d.negative then -d.digits else d.digits))
    else
      match d.round .double with
      | .finite negative mantissa exponent => some (.float (.finite negative mantissa exponent))
      | _ => none

def readNumber? (cs : List Char) : Option (Json × List Char) := do
  let (n, rest) :=
    match cs with
    | '-' :: rest => Numeral.scan true rest
    | cs => Numeral.scan false cs
  let value ← ofNumeral? n
  some (value, rest)

mutual

/-- Reads a value, leading spaces skipped. -/
def readValue? : Nat → List Char → Option (Json × List Char)
  | 0, _ => none
  | fuel + 1, cs =>
    match skip cs with
    | 'n' :: 'u' :: 'l' :: 'l' :: rest => some (.null, rest)
    | 't' :: 'r' :: 'u' :: 'e' :: rest => some (.bool true, rest)
    | 'f' :: 'a' :: 'l' :: 's' :: 'e' :: rest => some (.bool false, rest)
    | '\x22' :: rest => do
      let (s, rest) ← readString? (rest.length + 1) [] rest
      some (.string s, rest)
    | '[' :: rest =>
      match skip rest with
      | ']' :: rest => some (.array [], rest)
      | rest => do
        let (items, rest) ← readItems? fuel rest
        some (.array items, rest)
    | '\x7b' :: rest =>
      match skip rest with
      | '\x7d' :: rest => some (.object [], rest)
      | rest => do
        let (members, rest) ← readMembers? fuel rest
        some (ofPairs members, rest)
    | cs => readNumber? cs

/-- Reads the items of an array that is not empty, with the closing bracket. -/
def readItems? : Nat → List Char → Option (List Json × List Char)
  | 0, _ => none
  | fuel + 1, cs => do
    let (item, rest) ← readValue? fuel cs
    match skip rest with
    | ']' :: rest => some ([item], rest)
    | ',' :: rest => do
      let (items, rest) ← readItems? fuel rest
      some (item :: items, rest)
    | _ => none

/-- Reads the members of an object that is not empty, with the closing brace. -/
def readMembers? : Nat → List Char → Option (List (String × Json) × List Char)
  | 0, _ => none
  | fuel + 1, cs =>
    match skip cs with
    | '\x22' :: rest => do
      let (key, rest) ← readString? (rest.length + 1) [] rest
      match skip rest with
      | ':' :: rest => do
        let (value, rest) ← readValue? fuel rest
        match skip rest with
        | '\x7d' :: rest => some ([(key, value)], rest)
        | ',' :: rest => do
          let (members, rest) ← readMembers? fuel rest
          some ((key, value) :: members, rest)
        | _ => none
      | _ => none
    | _ => none

end

/-- The value that a text holds, blanks around it skipped. -/
def parse? (text : String) : Option Json := do
  let cs := text.toList
  let (value, rest) ← readValue? (2 * cs.length + 2) cs
  if (skip rest).isEmpty then some value else none

end SqlBuilder.Json
