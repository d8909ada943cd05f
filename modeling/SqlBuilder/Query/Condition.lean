import SqlBuilder.Query.Operator
import SqlBuilder.Value.Basic

/-!
# Conditions

Comparisons, and how conditions are put together: they come in lists of `Linked` items, each with
the connector that joins it to the ones before it. Joined tables have conditions of their own, which
compare columns to columns.
-/

namespace SqlBuilder

/-- How a condition is joined to the conditions before it. -/
inductive Connector where
  | and
  | or
  deriving DecidableEq

def Connector.sql : Connector → String
  | .and => "AND"
  | .or => "OR"

/-- An item of a chain of conditions. The connector of the first item has no effect. -/
structure Linked (α : Type) where
  connector : Connector
  item : α

/-- A column compared to a value. -/
structure Comparison where
  column : String
  operator : Operator
  value : Value

inductive JoinKind where
  | inner
  | left
  | right
  | full
  | cross
  deriving DecidableEq

def JoinKind.sql : JoinKind → String
  | .inner => "INNER"
  | .left => "LEFT"
  | .right => "RIGHT"
  | .full => "FULL OUTER"
  | .cross => "CROSS"

/-- Two columns compared to each other. -/
structure JoinCondition where
  left : String
  operator : Operator
  right : String

structure Join where
  kind : JoinKind
  table : String
  on : List (Linked JoinCondition) := []

end SqlBuilder
