import SqlBuilder.Text.Blank
import SqlBuilder.Text.Split

/-!
# Projections and orderings

What a query shows of its rows and in which order: the entries of a select list, an aggregate in
their place, and the columns that rows are ordered by.
-/

namespace SqlBuilder

inductive Direction where
  | asc
  | desc
  deriving DecidableEq

namespace Direction

def sql : Direction → String
  | .asc => "ASC"
  | .desc => "DESC"

/-- The direction that a text names: descending for `desc` in any case and with blanks around it,
ascending for all else. -/
def ofText (text : String) : Direction :=
  if Text.lowerAscii (Text.trim text.toList) = "desc".toList then .desc else .asc

end Direction

structure OrderBy where
  column : String
  direction : Direction

inductive Selection where
  | column (reference : String)
  /-- An expression that is written verbatim. -/
  | raw (sql : String)

inductive AggregateFunction where
  | count
  | min
  | max
  | avg
  | sum
  deriving DecidableEq

namespace AggregateFunction

def sql : AggregateFunction → String
  | .count => "COUNT"
  | .min => "MIN"
  | .max => "MAX"
  | .avg => "AVG"
  | .sum => "SUM"

def all : List AggregateFunction :=
  [.count, .min, .max, .avg, .sum]

/-- The aggregate function of a name in any case. -/
def parse? (name : String) : Option AggregateFunction :=
  all.find? fun f => Text.lowerAscii f.sql.toList = Text.lowerAscii name.toList

end AggregateFunction

/-- An aggregate that takes the place of a select list. -/
structure Aggregate where
  function : AggregateFunction
  columns : List String

end SqlBuilder
