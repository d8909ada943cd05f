import SqlBuilder.Text.Blank

/-!
# Comparison operators

The operators that may stand in a condition. A text names an operator if it has the operator's words
in any case and with any blanks between and around them; no other text does.
-/

namespace SqlBuilder

inductive Operator where
  | eq
  | lt
  | gt
  | lte
  | gte
  | ne
  | neq
  | like
  | notLike
  | ilike
  | notIlike
  | regexp
  | notRegexp
  | bitAnd
  | bitOr
  | bitXor
  | shiftLeft
  | shiftRight
  deriving DecidableEq, Inhabited

namespace Operator

def sql : Operator → String
  | .eq => "="
  | .lt => "<"
  | .gt => ">"
  | .lte => "<="
  | .gte => ">="
  | .ne => "<>"
  | .neq => "!="
  | .like => "LIKE"
  | .notLike => "NOT LIKE"
  | .ilike => "ILIKE"
  | .notIlike => "NOT ILIKE"
  | .regexp => "REGEXP"
  | .notRegexp => "NOT REGEXP"
  | .bitAnd => "&"
  | .bitOr => "|"
  | .bitXor => "^"
  | .shiftLeft => "<<"
  | .shiftRight => ">>"

def all : List Operator :=
  [.eq, .lt, .gt, .lte, .gte, .ne, .neq, .like, .notLike, .ilike, .notIlike, .regexp, .notRegexp,
    .bitAnd, .bitOr, .bitXor, .shiftLeft, .shiftRight]

/-- The capital of a letter of an operator word. Of the letters outside ASCII only the dotless `ı`
has a capital that such a word contains. -/
def capital (c : Char) : Char :=
  if c = 'ı' then 'I' else c.toUpper

def parse? (text : String) : Option Operator :=
  let name := [' '].intercalate (Text.words text.toList)
  all.find? fun op => op.sql.toList = name.map capital

/-- The operator that a text names, equality if it names none. -/
def ofText (text : String) : Operator :=
  (parse? text).getD .eq

example : parse? " not\tlike " = some .notLike ∧ parse? "= 1 OR 1 =" = none := by decide

/-- An operator is read back from its SQL. -/
theorem parse?_sql (op : Operator) : parse? op.sql = some op := by
  cases op <;> decide

end Operator

end SqlBuilder
