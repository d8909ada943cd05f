import SqlBuilder.Query.Condition
import SqlBuilder.Query.Projection

/-!
# Queries

A query is a record of clauses over one table, and a predicate is a node of the tree of conditions
in its WHERE clause. The two types contain each other, since a predicate may ask about the rows of
another query. A query also keeps the values of its clauses in the order in which they came;
`Query.bindings` lists those that are bound, predicates before HAVING conditions, whichever were
added first.
-/

namespace SqlBuilder

mutual

/-- A SELECT over one table, or what an UPDATE or a DELETE applies to. -/
structure Query where
  table : String
  distinct : Bool := false
  /-- The select list; every column where there is none. -/
  selects : Option (List Selection) := none
  aggregate : Option Aggregate := none
  joins : List Join := []
  wheres : List (Linked Predicate) := []
  groupings : List String := []
  havings : List (Linked Comparison) := []
  orderings : List OrderBy := []
  limit : Option UInt64 := none
  offset : Option UInt64 := none
  /-- The values of the predicates, in the order in which they were added. -/
  whereValues : List Value := []
  /-- The values of the HAVING conditions, in the order in which they were added. -/
  havingValues : List Value := []

/-- A condition on a row. -/
inductive Predicate where
  | comparison (condition : Comparison)
  /-- The column is one of the values, or none of them. -/
  | member (negated : Bool) (column : String) (values : List Value)
  /-- The column lies between two values, both included, or outside. -/
  | between (negated : Bool) (column : String) (low high : Value)
  /-- The column is null, or is not. -/
  | null (negated : Bool) (column : String)
  /-- SQL that is written verbatim, with the values for its question marks. -/
  | raw (sql : String) (bindings : List Value)
  /-- A chain of conditions in parentheses. -/
  | group (members : List (Linked Predicate))
  /-- The column is among the rows of another query, or is not. -/
  | memberOf (negated : Bool) (column : String) (query : Query)
  /-- Another query has a row, or has none. -/
  | present (negated : Bool) (query : Query)

end

namespace Query

/-- The values bound by a query, in the order of their marks. Raw values are written into the
statement instead. -/
def bindings (q : Query) : List Value :=
  Value.bound (q.whereValues ++ q.havingValues)

/-- A query of every row and column of a table. -/
def ofTable (table : String) : Query :=
  { table }

/-- The query with one more predicate and the values for its marks. -/
def addWhere (q : Query) (connector : Connector) (predicate : Predicate) (values : List Value) :
    Query :=
  { q with
    wheres := q.wheres ++ [⟨connector, predicate⟩]
    whereValues := q.whereValues ++ values }

/-- The query with one more HAVING condition and the value it compares to. -/
def addHaving (q : Query) (connector : Connector) (condition : Comparison) : Query :=
  { q with
    havings := q.havings ++ [⟨connector, condition⟩]
    havingValues := q.havingValues ++ [condition.value] }

/-- The query for one page of rows, pages being counted from one. -/
def onPage (q : Query) (page perPage : UInt64) : Query :=
  { q with offset := some ((max page 1 - 1) * perPage), limit := some perPage }

end Query

end SqlBuilder
