import SqlBuilder.Query.Finder

/-!
# Building a query

A query is built from that of a whole table by a sequence of steps, which are data:
`Step.apply` carries one out. Only a finder can fail, its own or one inside a nested group or
another query. A group is built as a query of its own on the same table, of which the predicates are
taken with their values; a group without predicates is left out.
-/

namespace SqlBuilder

inductive Step where
  | select (columns : List String)
  | selectRaw (sql : String)
  | distinct
  | compare (connector : Connector) (condition : Comparison)
  | nested (connector : Connector) (steps : List Step)
  | member (connector : Connector) (negated : Bool) (column : String) (values : List Value)
  | between (connector : Connector) (negated : Bool) (column : String) (low high : Value)
  | null (connector : Connector) (negated : Bool) (column : String)
  | raw (connector : Connector) (sql : String) (bindings : List Value)
  /-- The column is among the rows of the query built on a table by steps, or is not. -/
  | memberOf (negated : Bool) (column table : String) (steps : List Step)
  /-- The query built on a table by steps has a row, or has none. -/
  | present (negated : Bool) (table : String) (steps : List Step)
  | resetWhere
  | join (j : Join)
  | groupBy (columns : List String)
  | having (connector : Connector) (condition : Comparison)
  | orderBy (column : String) (direction : Direction)
  | skip (count : UInt64)
  | take (count : UInt64)
  | page (n perPage : UInt64)
  /-- The equalities of a method name. -/
  | finder (method : String) (values : List Value)
  | setAggregate (aggregate : Aggregate)

/-- The query with the predicates of another one as a group, unless there are none. -/
def Query.addGroup (q : Query) (connector : Connector) (inner : Query) : Query :=
  if inner.wheres.isEmpty then q
  else q.addWhere connector (.group inner.wheres) inner.whereValues

mutual

def Step.apply : Step → Query → Except Error Query
  | .select columns, q => .ok { q with selects := some (columns.map .column) }
  | .selectRaw sql, q => .ok { q with selects := some (q.selects.getD [] ++ [.raw sql]) }
  | .distinct, q => .ok { q with distinct := true }
  | .compare connector condition, q => .ok (q.addWhere connector (.comparison condition) [condition.value])
  | .nested connector steps, q => do
    let group ← Step.applyAll steps (Query.ofTable q.table)
    .ok (q.addGroup connector group)
  | .member connector negated column values, q =>
    .ok (q.addWhere connector (.member negated column values) values)
  | .between connector negated column low high, q =>
    .ok (q.addWhere connector (.between negated column low high) [low, high])
  | .null connector negated column, q => .ok (q.addWhere connector (.null negated column) [])
  | .raw connector sql bindings, q => .ok (q.addWhere connector (.raw sql bindings) bindings)
  | .memberOf negated column table steps, q => do
    let source ← Step.applyAll steps (Query.ofTable table)
    .ok (q.addWhere .and (.memberOf negated column source) source.bindings)
  | .present negated table steps, q => do
    let source ← Step.applyAll steps (Query.ofTable table)
    .ok (q.addWhere .and (.present negated source) source.bindings)
  | .resetWhere, q => .ok { q with wheres := [], whereValues := [] }
  | .join j, q => .ok { q with joins := q.joins ++ [j] }
  | .groupBy columns, q => .ok { q with groupings := q.groupings ++ columns }
  | .having connector condition, q => .ok (q.addHaving connector condition)
  | .orderBy column direction, q =>
    .ok { q with orderings := q.orderings ++ [⟨column, direction⟩] }
  | .skip count, q => .ok { q with offset := some count }
  | .take count, q => .ok { q with limit := some count }
  | .page n perPage, q => .ok (q.onPage n perPage)
  | .finder method values, q => q.addFinder method values
  | .setAggregate aggregate, q => .ok { q with aggregate := some aggregate }

def Step.applyAll : List Step → Query → Except Error Query
  | [], q => .ok q
  | s :: ss, q => do
    let q ← s.apply q
    Step.applyAll ss q

end

/-- The query that steps build on a table. -/
def Query.build (table : String) (steps : List Step) : Except Error Query :=
  Step.applyAll steps (Query.ofTable table)

end SqlBuilder
