/-!
# Numbered parameters

Some databases want the parameters of a statement numbered. `Placeholder.number` replaces each
question mark outside quotes by a dollar sign and its number, counted from one. The count has 32
bits and a sign, and the greatest number is followed by the least. A quote is open from a quote
character to the next one of its kind; a doubled quote closes and opens again, and what is not
closed stays open to the end.
-/

namespace SqlBuilder.Placeholder

/-- Whether a character opens quoted text. -/
def isQuote (c : Char) : Bool :=
  c = '\x27' || c = '\x22'

def mark (number : Int32) : List Char :=
  '$' :: (toString number.toInt).toList

/-- The text with its parameters numbered, read with a quote open or none and after a number of
parameters. -/
def scan : (quote : Option Char) → (count : Int32) → List Char → List Char
  | _, _, [] => []
  | some q, count, c :: cs => c :: scan (if c = q then none else some q) count cs
  | none, count, c :: cs =>
    if isQuote c then c :: scan (some c) count cs
    else if c = '?' then mark (count + 1) ++ scan none (count + 1) cs
    else c :: scan none count cs

def number (sql : String) : String :=
  String.ofList (scan none 0 sql.toList)

example : number "SELECT '?' AS \"a?\" WHERE x = ? AND y IN (?, ?)" =
    "SELECT '?' AS \"a?\" WHERE x = $1 AND y IN ($2, $3)" := by decide +kernel

end SqlBuilder.Placeholder
