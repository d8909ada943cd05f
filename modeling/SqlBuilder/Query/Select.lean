import SqlBuilder.Query.Paging

/-!
# SELECT statements

`Query.select` writes a query as a statement of a target. The text of the predicates is found by
recursion over the tree of predicates and the queries inside them; all other clauses depend on the
query alone. A statement fails only where SQL Server would need a row number beyond the greatest.
-/

namespace SqlBuilder

/-- The clauses of a SELECT in their order. -/
structure Clauses where
  select : Sql
  fromTable : Sql
  joins : Sql
  wheres : Sql
  groups : Sql
  havings : Sql
  orders : Sql
  limit : Sql
  offset : Sql

/-- The clauses that are there, separated by blanks. -/
def Clauses.statement (c : Clauses) : Sql :=
  Sql.clauses [c.select, c.fromTable, c.joins, c.wheres, c.groups, c.havings, c.orders, c.limit,
    c.offset]

namespace Target

variable (t : Target)

/-- The clauses of a query, its conditions given as SQL. -/
def clauses (q : Query) (conditions : List (Linked Sql)) : Clauses where
  select := t.selectClause q
  fromTable := t.fromTable q
  joins := t.joins q
  wheres := behind "WHERE" (Linked.chain conditions)
  groups := t.groups q
  havings := t.havings q
  orders := t.orders q
  limit := t.limit q
  offset := t.offset q

/-- The statement of a query, its conditions given as SQL. -/
def statement (q : Query) (conditions : List (Linked Sql)) : Except Error Sql :=
  let c := t.clauses q conditions
  if t.numbersRows q then t.windowed q { c with orders := [], limit := [], offset := [] }.statement
  else .ok c.statement

/-- The column is, or is not, one of the rows or values that follow. -/
def memberOf (negated : Bool) (column : String) (source : Sql) : Sql :=
  t.reference column ++ Sql.lit (if negated then " NOT IN (" else " IN (") ++ source ++ Sql.lit ")"

/-- The column is, or is not, one of a list of values. Nothing is one of no values. -/
def member (negated : Bool) (column : String) (values : List Value) : Sql :=
  match values with
  | [] => Sql.lit (if negated then "1 = 1" else "0 = 1")
  | values => t.memberOf negated column (Sql.params values)

/-- The column lies, or does not lie, between two values. -/
def between (negated : Bool) (column : String) (low high : Value) : Sql :=
  t.reference column ++ Sql.lit (if negated then " NOT BETWEEN " else " BETWEEN ")
    ++ [.param low] ++ Sql.lit " AND " ++ [.param high]

/-- The column is, or is not, null. -/
def nullity (negated : Bool) (column : String) : Sql :=
  t.reference column ++ Sql.lit (if negated then " IS NOT NULL" else " IS NULL")

/-- Another query has, or has not, a row. -/
def presence (negated : Bool) (query : Sql) : Sql :=
  Sql.lit (if negated then "NOT EXISTS (" else "EXISTS (") ++ query ++ Sql.lit ")"

end Target

mutual

def Query.select (t : Target) : Query → Except Error Sql
  | q@⟨_, _, _, _, _, wheres, _, _, _, _, _, _, _⟩ => do
    let conditions ← Predicate.chain t wheres
    t.statement q conditions

def Predicate.chain (t : Target) : List (Linked Predicate) → Except Error (List (Linked Sql))
  | [] => .ok []
  | p :: ps => do
    let condition ← Predicate.linked t p
    let conditions ← Predicate.chain t ps
    .ok (condition :: conditions)

def Predicate.linked (t : Target) : Linked Predicate → Except Error (Linked Sql)
  | ⟨connector, p⟩ => do
    let condition ← p.condition t
    .ok ⟨connector, condition⟩

def Predicate.condition (t : Target) : Predicate → Except Error Sql
  | .comparison c => .ok (t.comparison c)
  | .member negated column values => .ok (t.member negated column values)
  | .between negated column low high => .ok (t.between negated column low high)
  | .null negated column => .ok (t.nullity negated column)
  | .raw sql bindings => .ok [.fragment sql bindings]
  | .group members => do
    let conditions ← Predicate.chain t members
    .ok (Sql.lit "(" ++ Linked.chain conditions ++ Sql.lit ")")
  | .memberOf negated column query => do
    let source ← query.select t
    .ok (t.memberOf negated column source)
  | .present negated query => do
    let source ← query.select t
    .ok (Target.presence negated source)

end

theorem Query.select_eq (t : Target) (q : Query) :
    q.select t = (Predicate.chain t q.wheres).bind (t.statement q) := by
  cases q
  simp only [Query.select]
  rfl

def Query.clauses (t : Target) (q : Query) : Except Error Clauses := do
  let conditions ← Predicate.chain t q.wheres
  .ok (t.clauses q conditions)

/-- The WHERE clause of a query, empty if it has no predicates. -/
def Query.whereClause (t : Target) (q : Query) : Except Error Sql := do
  let conditions ← Predicate.chain t q.wheres
  .ok (Target.behind "WHERE" (Linked.chain conditions))

example :
    (((Query.ofTable "users").addWhere .and (.member false "id" [.null]) [.null]).select
        ⟨.sqlserver, "a_"⟩).toOption.map Sql.text =
      some "SELECT * FROM [a_users] WHERE [id] IN (?)" := by
  decide +kernel

end SqlBuilder
