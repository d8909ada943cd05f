import SqlBuilder.Number.Binary

/-!
# Decimal numerals

A numeral is read in two steps. `Numeral.scan` takes the characters of a numeral off the front of a
text without judging them; what counts as well formed differs between formats and is asked of the
scanned parts. A `Decimal` is the number written, and `Decimal.round` takes it to the nearest number
of a binary format in one rounding.
-/

namespace SqlBuilder

def natOfDigits (cs : List Char) : Nat :=
  cs.foldl (fun n c => n * 10 + (c.toNat - 48)) 0

/-- The natural number that a text writes, if the text is one or more decimal digits. -/
def natOfDigits? (cs : List Char) : Option Nat :=
  if !cs.isEmpty && cs.all Char.isDigit then some (natOfDigits cs) else none

/-- A decimal number: `digits * 10 ^ exponent` with a sign. -/
structure Decimal where
  negative : Bool
  digits : Nat
  exponent : Int
  deriving DecidableEq

/-- The parts of a numeral as written. An absent part differs from an empty one. -/
structure Numeral where
  negative : Bool
  whole : List Char
  fraction : Option (List Char)
  exponent : Option (Bool × List Char)

namespace Numeral

/-- Takes the digits off the front of a text. -/
def scanDigits (cs : List Char) : List Char × List Char :=
  cs.span Char.isDigit

/-- Takes a point and the digits after it off the front of a text. -/
def scanFraction : List Char → Option (List Char) × List Char
  | '.' :: rest =>
    let (digits, rest) := scanDigits rest
    (some digits, rest)
  | cs => (none, cs)

/-- Takes an exponent off the front of a text: its mark, a sign or none, digits. -/
def scanExponent : List Char → Option (Bool × List Char) × List Char
  | c :: rest =>
    if c.toLower = 'e' then
      let (negative, rest) :=
        match rest with
        | '-' :: rest => (true, rest)
        | '+' :: rest => (false, rest)
        | rest => (false, rest)
      let (digits, rest) := scanDigits rest
      (some (negative, digits), rest)
    else (none, c :: rest)
  | [] => (none, [])

/-- Takes the parts of a numeral after its sign off the front of a text. -/
def scan (negative : Bool) (cs : List Char) : Numeral × List Char :=
  let (whole, rest) := scanDigits cs
  let (fraction, rest) := scanFraction rest
  let (exponent, rest) := scanExponent rest
  (⟨negative, whole, fraction, exponent⟩, rest)

/-- Whether the numeral has no point and no exponent. -/
def isWhole (n : Numeral) : Bool :=
  n.fraction.isNone && n.exponent.isNone

/-- Whether an exponent, if there is one, has a digit. -/
def exponentOk (n : Numeral) : Bool :=
  n.exponent.all fun (_, digits) => !digits.isEmpty

def toDecimal (n : Numeral) : Decimal :=
  let fraction := n.fraction.getD []
  let power : Int :=
    match n.exponent with
    | none => 0
    | some (true, digits) => -natOfDigits digits
    | some (false, digits) => natOfDigits digits
  ⟨n.negative, natOfDigits (n.whole ++ fraction), power - fraction.length⟩

end Numeral

namespace Decimal

/-- The number of the format that is nearest to a decimal. A decimal above `10 ^ 400` or below
`10 ^ -400` is beyond every format and is not expanded. -/
def round (f : BinaryFormat) (d : Decimal) : Binary :=
  let places : Int := (Nat.toDigits 10 d.digits).length + d.exponent
  if d.digits = 0 || places < -400 then .finite d.negative 0 f.leastExponent
  else if 400 < places then .infinity d.negative
  else
    let (num, den) := Binary.scaled d.digits 1 10 d.exponent
    Binary.round f d.negative num den

end Decimal

/-- A number read from text: a numeral with digits on either side of its point, an infinity or
`nan`, in any case. -/
def Binary.ofText? (f : BinaryFormat) (text : String) : Option Binary :=
  let (negative, cs) :=
    match text.toList with
    | '-' :: rest => (true, rest)
    | '+' :: rest => (false, rest)
    | cs => (false, cs)
  match String.ofList (cs.map Char.toLower) with
  | "nan" => some .nan
  | "inf" => some (.infinity negative)
  | "infinity" => some (.infinity negative)
  | _ =>
    let (n, rest) := Numeral.scan negative cs
    if rest.isEmpty && n.exponentOk && !(n.whole.isEmpty && (n.fraction.getD []).isEmpty) then
      some (n.toDecimal.round f)
    else none

example : Binary.ofText? .double "-1.5e1" = some (.finite true (15 * 2 ^ 49) (-49)) := by
  decide +kernel

example : Binary.ofText? .double "1e999999999999" = some (.infinity false) := by decide +kernel

example : Binary.ofText? .single "." = none := by decide +kernel

end SqlBuilder
