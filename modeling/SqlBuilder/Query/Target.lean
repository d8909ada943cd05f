import SqlBuilder.Identifier
import SqlBuilder.Query.Basic
import SqlBuilder.Sql

/-!
# Clauses of a SELECT

What statements are written for, `Target`, and the text of each clause but the predicates. A clause
that a query does not have is empty. Chains of conditions drop the connector of their first item.
-/

namespace SqlBuilder

/-- What a statement is written for: a dialect, and the prefix of table names. -/
structure Target where
  dialect : Dialect
  tablePrefix : String := ""

/-- Conditions set one after the other, each but the first behind its connector. -/
def Linked.chain : List (Linked Sql) → Sql
  | [] => []
  | first :: rest =>
    Sql.joined " " (first.item :: rest.map fun l => Sql.lit (l.connector.sql ++ " ") ++ l.item)

namespace Target

variable (t : Target)

def naming : Naming :=
  ⟨t.dialect.quotes, t.tablePrefix⟩

def reference (column : String) : Sql :=
  Sql.lit (t.naming.reference column)

/-- A column compared to a value. -/
def comparison (c : Comparison) : Sql :=
  t.reference c.column ++ Sql.lit (" " ++ c.operator.sql ++ " ") ++ [.param c.value]

def selection : Selection → String
  | .column reference => t.naming.reference reference
  | .raw sql => sql

/-- The select list of a query, a star for an empty one. -/
def projection (q : Query) : Sql :=
  match q.selects with
  | none => Sql.lit "*"
  | some [] => Sql.lit "*"
  | some selects => Sql.lit (String.intercalate ", " (selects.map t.selection))

/-- The SELECT of an aggregate. The star is not made distinct. -/
def aggregate (distinct : Bool) (a : Aggregate) : Sql :=
  let columns := t.naming.references a.columns
  let columns := if distinct && columns ≠ "*" then "DISTINCT " ++ columns else columns
  Sql.lit ("SELECT " ++ a.function.sql ++ "(" ++ columns ++ ") AS "
    ++ t.naming.reference "aggregate")

def fromTable (q : Query) : Sql :=
  Sql.lit ("FROM " ++ t.naming.table q.table)

def joinCondition (c : JoinCondition) : Sql :=
  Sql.lit (t.naming.reference c.left ++ " " ++ c.operator.sql ++ " " ++ t.naming.reference c.right)

/-- A joined table. A cross join has no conditions, and neither has one that was given none. -/
def join (j : Join) : Sql :=
  let head := Sql.lit (j.kind.sql ++ " JOIN " ++ t.naming.table j.table)
  if j.kind = .cross || j.on.isEmpty then head
  else
    head ++ Sql.lit " ON "
      ++ Linked.chain (j.on.map fun l => ⟨l.connector, t.joinCondition l.item⟩)

def joins (q : Query) : Sql :=
  Sql.joined " " (q.joins.map t.join)

/-- A keyword before a clause that is there. -/
def behind (keyword : String) (clause : Sql) : Sql :=
  if clause.isEmpty then [] else Sql.lit (keyword ++ " ") ++ clause

def groups (q : Query) : Sql :=
  if q.groupings.isEmpty then []
  else behind "GROUP BY" (Sql.lit (t.naming.references q.groupings))

/-- The conditions on the groups of a query. -/
def havings (q : Query) : Sql :=
  behind "HAVING" (Linked.chain (q.havings.map fun l => ⟨l.connector, t.comparison l.item⟩))

/-- Columns with directions, separated by commas; `name` gives the column as SQL. -/
def orderTerms (name : String → String) (orderings : List OrderBy) : Sql :=
  Sql.lit (String.intercalate ", "
    (orderings.map fun o => name o.column ++ " " ++ o.direction.sql))

def orders (q : Query) : Sql :=
  if q.orderings.isEmpty then []
  else behind "ORDER BY" (orderTerms t.naming.reference q.orderings)

end Target

end SqlBuilder
