import SqlBuilder.Number.Binary

/-!
# Shortest decimal text

The decimals that round to a number of a format form an interval around it, with its ends if the
mantissa is even. `Binary.shortest` finds the coarsest grid `10 ^ k` with a point inside, which
leaves the fewest digits, and of the two neighbours of the number on that grid the nearer one.
`plainText` writes the digits without an exponent.
-/

namespace SqlBuilder.Binary

/-- Where a number halfway between two grid points goes. -/
inductive Tie where
  | toEven
  | up

/-- Digits times a power of ten. -/
structure Shortest where
  digits : Nat
  exponent : Int
  deriving DecidableEq

/-- The nearer neighbour on the grid `10 ^ k` of the number `m * 2 ^ e` that rounds back to it, if
one does. -/
def onGrid? (f : BinaryFormat) (tie : Tie) (m : Nat) (e k : Int) : Option Nat :=
  let two := scaled 1 1 2 e
  let ten := scaled 1 1 10 k
  let unit := two.1 * ten.2
  let step := ten.1 * two.2
  let below := if m = Nat.pow 2 (f.precision - 1) && f.leastExponent < e then 1 else 2
  let inside (c : Nat) : Bool :=
    let point := 4 * c * step
    let low := (4 * m - below) * unit
    let high := (4 * m + 2) * unit
    if m % 2 = 0 then low ≤ point && point ≤ high else low < point && point < high
  let c := m * unit / step
  let rest := m * unit % step
  match inside c, inside (c + 1) with
  | true, false => some c
  | false, true => some (c + 1)
  | false, false => none
  | true, true =>
    if 2 * rest < step then some c
    else if step < 2 * rest then some (c + 1)
    else match tie with
      | .up => some (c + 1)
      | .toEven => some (c + c % 2)

/-- The first grid that holds a point, from `10 ^ k` on down for a number of steps. -/
def search (f : BinaryFormat) (tie : Tie) (m : Nat) (e : Int) : Nat → Int → Shortest
  | 0, k => ⟨m, k⟩
  | steps + 1, k =>
    match onGrid? f tie m e k with
    | some c => ⟨c, k⟩
    | none => search f tie m e steps (k - 1)

/-- The fewest digits that round back to `m * 2 ^ e`, the nearest ones of that number. The search
starts above the number, `30103 / 100000` being a little more than the logarithm of two, and every
format here has a decimal of 17 digits in each of its intervals. -/
def shortest (f : BinaryFormat) (tie : Tie) (m : Nat) (e : Int) : Shortest :=
  search f tie m e 24 (((Nat.log2 m : Int) + 1 + e) * 30103 / 100000 + 2)

def zeros (n : Nat) : String :=
  String.ofList (List.replicate n '0')

/-- Digits with the decimal point after the first `point` of them, zeros filling the gap on either
side. Without a fraction there is no point and `whole` follows. -/
def positional (digits : List Char) (point : Int) (whole : String) : String :=
  if point ≤ 0 then "0." ++ zeros point.natAbs ++ String.ofList digits
  else
    let n := point.natAbs
    if digits.length ≤ n then String.ofList digits ++ zeros (n - digits.length) ++ whole
    else String.ofList (digits.take n) ++ "." ++ String.ofList (digits.drop n)

def signText (negative : Bool) : String :=
  if negative then "-" else ""

/-- The shortest digits, never with an exponent and without a point where no fraction follows; a
number halfway between two candidates takes the greater. -/
def plainText (f : BinaryFormat) : Binary → String
  | .nan => "NaN"
  | .infinity negative => signText negative ++ "inf"
  | .finite negative 0 _ => signText negative ++ "0"
  | .finite negative m e =>
    let s := shortest f .up m e
    let digits := Nat.toDigits 10 s.digits
    signText negative ++ positional digits (digits.length + s.exponent) ""

example : plainText .double (round .double false 1 10) = "0.1" := by decide +kernel

example : plainText .single (round .single true (10 ^ 21) 1) = "-1000000000000000000000" := by
  decide +kernel

end SqlBuilder.Binary
