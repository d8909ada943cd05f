import SqlBuilder.Number.Decimal

/-!
# JSON values

A number is an integer or a finite double-precision number; which of the two it is shows in its
text, so the two stay apart. The members of an object are kept in the order of their keys, each key
once: `Fields.ofList` brings any list of pairs into that form, the last pair of a key counting.
-/

namespace SqlBuilder

/-- Pairs of a key and a value, the keys strictly increasing. -/
abbrev Fields (α : Type) := List (String × α)

namespace Fields

variable {α : Type}

/-- Puts a value under a key, in place of the one that is there. -/
def insert (key : String) (value : α) : Fields α → Fields α
  | [] => [(key, value)]
  | (k, v) :: rest =>
    if key < k then (key, value) :: (k, v) :: rest
    else if key = k then (key, value) :: rest
    else (k, v) :: insert key value rest

/-- The pairs in the order of their keys, the last pair of each key. -/
def ofList (pairs : List (String × α)) : Fields α :=
  pairs.foldl (fun fields (key, value) => fields.insert key value) []

def get? (key : String) (fields : Fields α) : Option α :=
  List.lookup key fields

/-- The pairs with other keys. -/
def erase (key : String) (fields : Fields α) : Fields α :=
  fields.filter fun (k, _) => k ≠ key

end Fields

inductive Json where
  | null
  | bool (b : Bool)
  | int (n : Int)
  | float (x : Binary)
  | string (s : String)
  | array (items : List Json)
  | object (members : List (String × Json))
  deriving Inhabited

namespace Json

def maxUnsigned : Nat := 18446744073709551615

def minSigned : Int := -9223372036854775808

def maxSigned : Int := 9223372036854775807

/-- The integer as a number: exact where it fits a signed or an unsigned 64-bit word, else the
nearest double-precision number. -/
def ofInt (n : Int) : Json :=
  if minSigned ≤ n && n ≤ maxUnsigned then .int n
  else .float (Binary.ofNat .double (n < 0) n.natAbs)

/-- A floating-point number of any format; `null` where it is not finite. -/
def ofBinary (x : Binary) : Json :=
  if x.isFinite then .float (x.convert .double) else .null

def ofPairs (pairs : List (String × Json)) : Json :=
  .object (Fields.ofList pairs)

def isNull : Json → Bool
  | .null => true
  | _ => false

/-- The value as a signed 64-bit integer, if it is an integer of that range. -/
def toInt64? : Json → Option Int64
  | .int n => if minSigned ≤ n && n ≤ maxSigned then some (Int64.ofInt n) else none
  | _ => none

end Json

example : Fields.ofList [("b", 1), ("a", 2), ("b", 3)] = [("a", 2), ("b", 3)] := by decide

end SqlBuilder
