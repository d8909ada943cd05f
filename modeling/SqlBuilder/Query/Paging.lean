import SqlBuilder.Error
import SqlBuilder.Query.Target

/-!
# Paging

How the limit and the offset of a query are written. Most dialects have clauses for them. SQL Server
has a limit only, behind SELECT; where it needs an offset the rows are numbered in a derived table
and the window of wanted numbers is cut out of that.

A limit of zero and an offset of zero count as absent.
-/

namespace SqlBuilder

/-- A limit or an offset that has an effect. -/
def effective (n : Option UInt64) : Option UInt64 :=
  n.filter (0 < ·)

/-- The greatest number of a row. -/
def maxRowNumber : Nat := 18446744073709551615

/-- The condition on the row numbers of a window: greater than the offset and, with a limit, at most
the offset and the limit together. There is none if a bound is no row number. -/
def rowWindow (limit offset : Option UInt64) : Except Error String :=
  let skipped := offset.getD 0
  let start := skipped.toNat + 1
  if maxRowNumber < start then .error (.invalidQuery (.offsetRange skipped))
  else
    match effective limit with
    | none => .ok (">= " ++ toString start)
    | some count =>
      let last := skipped.toNat + count.toNat
      if maxRowNumber < last then .error (.invalidQuery (.windowRange skipped count))
      else .ok ("BETWEEN " ++ toString start ++ " AND " ++ toString last)

namespace Target

variable (t : Target)

/-- Whether the offset of a query is written by numbering its rows. An aggregate has one row and
needs no offset. -/
def numbersRows (q : Query) : Bool :=
  t.dialect == .sqlserver && q.aggregate.isNone && (effective q.offset).isSome

/-- The limit clause of a query. Two dialects have no offset without a limit and get the greatest
limit they take. -/
def limit (q : Query) : Sql :=
  match effective q.limit, effective q.offset, t.dialect with
  | _, _, .sqlserver => []
  | some count, _, _ => Sql.lit ("LIMIT " ++ toString count.toNat)
  | none, some _, .mysql => Sql.lit ("LIMIT " ++ toString maxRowNumber)
  | none, some _, .sqlite => Sql.lit "LIMIT -1"
  | none, _, _ => []

def offset (q : Query) : Sql :=
  match effective q.offset, t.dialect with
  | _, .sqlserver => []
  | some skipped, _ => Sql.lit ("OFFSET " ++ toString skipped.toNat)
  | none, _ => []

/-- The column that numbers rows, as SQL. -/
def rowNumber : String :=
  t.naming.reference ((Dialect.numberColumn? .sqlserver).getD "")

/-- A column reference without its qualifiers. -/
def unqualified (column : String) : String :=
  String.ofList ((column.toList.splitOn '.').getLastD [])

/-- The numbering of rows in the order of a query. In a derived table the columns are known by their
names alone. -/
def numbering (q : Query) (derived : Bool) : Sql :=
  let name (column : String) : String :=
    t.naming.reference (if derived then unqualified column else column)
  let order :=
    if q.orderings.isEmpty then Sql.lit "(SELECT 0)" else orderTerms name q.orderings
  Sql.lit "ROW_NUMBER() OVER (ORDER BY " ++ order ++ Sql.lit (") AS " ++ t.rowNumber)

/-- The SELECT of a query. Rows to be numbered are numbered here unless they are distinct ones,
which have to be found first. -/
def selectClause (q : Query) : Sql :=
  match q.aggregate with
  | some a => t.aggregate q.distinct a
  | none =>
    let top :=
      match t.dialect, effective q.limit, effective q.offset with
      | .sqlserver, some count, none => "TOP " ++ toString count.toNat ++ " "
      | _, _, _ => ""
    let numbered :=
      if t.numbersRows q && !q.distinct then Sql.lit ", " ++ t.numbering q false else []
    Sql.lit ("SELECT " ++ (if q.distinct then "DISTINCT " else "") ++ top) ++ t.projection q
      ++ numbered

/-- The rows of an inner SELECT whose numbers lie in the window of a query. -/
def windowed (q : Query) (inner : Sql) : Except Error Sql := do
  let window ← rowWindow q.limit q.offset
  let numbered :=
    if q.distinct then
      Sql.lit "SELECT *, " ++ t.numbering q true ++ Sql.lit " FROM (" ++ inner
        ++ Sql.lit (") AS " ++ t.naming.reference "TempDistinct")
    else inner
  .ok (Sql.lit "SELECT * FROM (" ++ numbered
    ++ Sql.lit (") AS " ++ t.naming.reference "TempTable" ++ " WHERE " ++ t.rowNumber ++ " "
      ++ window ++ " ORDER BY " ++ t.rowNumber))

end Target

end SqlBuilder
