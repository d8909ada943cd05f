/-!
# Binary floating-point numbers

A number of a binary format is held exactly: a sign, a natural mantissa and a power of two. What the
formats add is rounding, `Binary.round`, which takes a fraction to the nearest number of the format,
a tie to the one whose mantissa is even. A number is kept with the mantissa that fills the precision
of its format, or with the format's least exponent, so equal numbers have equal representations.
-/

namespace SqlBuilder

/-- A binary format: mantissas below `2 ^ precision`, times a power of two between the two
exponents. -/
structure BinaryFormat where
  precision : Nat
  leastExponent : Int
  greatestExponent : Int
  deriving DecidableEq

def BinaryFormat.single : BinaryFormat := ⟨24, -149, 104⟩

def BinaryFormat.double : BinaryFormat := ⟨53, -1074, 971⟩

/-- A floating-point number: `mantissa * 2 ^ exponent` with a sign, an infinity or no number. -/
inductive Binary where
  | nan
  | infinity (negative : Bool)
  | finite (negative : Bool) (mantissa : Nat) (exponent : Int)
  deriving DecidableEq

namespace Binary

/-- Whether the number is neither an infinity nor `nan`. -/
def isFinite : Binary → Bool
  | .finite .. => true
  | _ => false

/-- The fraction `num / den * base ^ exponent` as a numerator and a denominator. -/
def scaled (num den base : Nat) (exponent : Int) : Nat × Nat :=
  if exponent < 0 then (num, den * Nat.pow base exponent.natAbs)
  else (num * Nat.pow base exponent.natAbs, den)

/-- The natural number nearest to `num / den`, a tie going to the even one. -/
def roundHalfEven (num den : Nat) : Nat :=
  let q := num / den
  let r := num % den
  if 2 * r < den then q
  else if 2 * r = den then q + q % 2
  else q + 1

/-- The number of the format that is nearest to `num / den`. A fraction that would round to a number
beyond the greatest one becomes an infinity. -/
def round (f : BinaryFormat) (negative : Bool) (num den : Nat) : Binary :=
  if num = 0 then .finite negative 0 f.leastExponent
  else
    let quotient (e : Int) : Nat × Nat := scaled num den 2 (-e)
    let low : Int := max ((Nat.log2 num : Int) - Nat.log2 den - f.precision) f.leastExponent
    let (n, d) := quotient low
    let e := if Nat.pow 2 f.precision ≤ n / d then low + 1 else low
    let (n, d) := quotient e
    let m := roundHalfEven n d
    let (m, e) :=
      if m = Nat.pow 2 f.precision then (Nat.pow 2 (f.precision - 1), e + 1) else (m, e)
    if f.greatestExponent < e then .infinity negative else .finite negative m e

/-- The number of the format that is nearest to a natural number. -/
def ofNat (f : BinaryFormat) (negative : Bool) (n : Nat) : Binary :=
  round f negative n 1

/-- The number of the format that is nearest to a number of any format. -/
def convert (f : BinaryFormat) : Binary → Binary
  | .finite negative mantissa exponent =>
    let (num, den) := scaled mantissa 1 2 exponent
    round f negative num den
  | x => x

/-- The natural number next to zero from a number, at most `limit`; zero for anything negative and
for `nan`. -/
def truncate (limit : Nat) : Binary → Nat
  | .finite false mantissa exponent =>
    let (num, den) := scaled mantissa 1 2 exponent
    min (num / den) limit
  | .infinity false => limit
  | _ => 0

example : round .double false 1 10 = .finite false 0x1999999999999A (-56) := by decide +kernel

example : convert .double (round .single false 1 10) = .finite false (0xCCCCCD * 2 ^ 29) (-56) := by
  decide +kernel

example : round .double true 1 (2 ^ 1076) = .finite true 0 (-1074) := by decide +kernel

end Binary

end SqlBuilder
