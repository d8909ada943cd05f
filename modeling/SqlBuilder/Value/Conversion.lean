import SqlBuilder.Value.Basic

/-!
# Conversions into values

Identifiers, calendar dates and decimals are bound as text. The text of each is fixed here: an
identifier in groups of 8, 4, 4, 4 and 12 hexadecimal digits, a date as `YYYY-MM-DD`, a decimal with
exactly as many fraction digits as its scale.
-/

namespace SqlBuilder.Value

/-- A number in decimal digits, zeros in front up to a width. -/
def padded (width n : Nat) : String :=
  let digits := Nat.toDigits 10 n
  String.ofList (List.replicate (width - digits.length) '0' ++ digits)

/-- The value, `null` for an absent one. -/
def ofOption : Option Value → Value
  | some v => v
  | none => .null

def ofUInt32 (n : UInt32) : Value :=
  .int64 (Int64.ofNat n.toNat)

def hexOctet (b : UInt8) : List Char :=
  [Nat.digitChar (b.toNat / 16), Nat.digitChar (b.toNat % 16)]

/-- The sixteen octets of a universally unique identifier. -/
def ofUuid (octets : List UInt8) : Value :=
  let group (start size : Nat) : String :=
    String.ofList (((octets.drop start).take size).flatMap hexOctet)
  .string (String.intercalate "-" [group 0 4, group 4 2, group 6 2, group 8 2, group 10 6])

/-- A year: four digits, with a sign and at least four digits outside 0 to 9999. -/
def yearText (year : Int) : String :=
  if year < 0 then "-" ++ padded 4 year.natAbs
  else if year ≤ 9999 then padded 4 year.natAbs
  else "+" ++ padded 4 year.natAbs

def dateText (year : Int) (month day : Nat) : String :=
  yearText year ++ "-" ++ padded 2 month ++ "-" ++ padded 2 day

def ofDate (year : Int) (month day : Nat) : Value :=
  .string (dateText year month day)

/-- A calendar date with a time of day. -/
def ofDateTime (year : Int) (month day hour minute second : Nat) : Value :=
  .string (dateText year month day ++ " " ++ padded 2 hour ++ ":" ++ padded 2 minute ++ ":"
    ++ padded 2 second)

/-- The decimal `mantissa / 10 ^ scale`. -/
def ofDecimal (mantissa : Int) (scale : Nat) : Value :=
  let unit := Nat.pow 10 scale
  let sign := if mantissa < 0 then "-" else ""
  let whole := sign ++ toString (mantissa.natAbs / unit)
  .string (if scale = 0 then whole else whole ++ "." ++ padded scale (mantissa.natAbs % unit))

example : ofDecimal (-5) 1 = .string "-0.5" ∧ ofDecimal 0 2 = .string "0.00" :=
  ⟨rfl, rfl⟩

example : dateText 10000 1 2 = "+10000-01-02" ∧ dateText (-1) 12 31 = "-0001-12-31" := by
  decide

end SqlBuilder.Value
