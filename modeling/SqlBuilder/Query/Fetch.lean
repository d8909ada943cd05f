import SqlBuilder.Database.Basic
import SqlBuilder.Json.Writer
import SqlBuilder.Query.Finder
import SqlBuilder.Query.Select

/-!
# Running a SELECT

The reads of a query: rows, single rows, single columns, aggregates and pages. A read uses the query
as a builder that goes on living. It forgets its select list, an aggregate lasts for one statement,
and the limits and predicates that a read adds stay. An `Outcome` holds the query and the session as
they are afterwards, also where the read failed.
-/

namespace SqlBuilder

/-- The result of a read, with the query and the session after it. -/
structure Outcome (σ α : Type) where
  result : Except Error α
  query : Query
  session : Session σ

/-- An outcome with its result passed on to a function. -/
def Outcome.andThen {σ α β : Type} (o : Outcome σ α) (f : α → Except Error β) : Outcome σ β :=
  { o with result := o.result >>= f }

/-- An outcome with a function applied to its result. -/
def Outcome.map {σ α β : Type} (f : α → β) (o : Outcome σ α) : Outcome σ β :=
  { o with result := o.result.map f }

/-- What a member of a record may hold. -/
inductive FieldKind where
  | integer
  | text

abbrev Shape := List (String × FieldKind)

/-- Whether a JSON value is of a kind. An integer is one of 64 bits with a sign. -/
def FieldKind.admits : FieldKind → Json → Bool
  | .integer, j => j.toInt64?.isSome
  | .text, .string _ => true
  | .text, _ => false

/-- The members of a record taken from a row, other columns being ignored. -/
def Shape.read (shape : Shape) (row : ResultRow) : Except Error ResultRow :=
  match shape.mapM fun (name, kind) => ((row.get? name).filter kind.admits).map (name, ·) with
  | some members => .ok members
  | none => .error .serialization

structure Page where
  results : List ResultRow
  total : UInt64
  page : UInt64
  perPage : UInt64
  lastPage : UInt64

/-- The number of the last page, at least one. -/
def lastPage (total perPage : UInt64) : UInt64 :=
  max (total / perPage + (if total % perPage = 0 then 0 else 1)) 1

/-- A JSON value as a key: the text of a string, compact JSON for all else. -/
def keyText : Json → String
  | .string s => s
  | j => j.compact

/-- The number that digits, with a plus before them or not, write in 64 bits. -/
def parseUnsigned? (text : String) : Option UInt64 :=
  let digits :=
    match text.toList with
    | '+' :: rest => rest
    | cs => cs
  (natOfDigits? digits).bind fun n =>
    if n ≤ Json.maxUnsigned then some (UInt64.ofNat n) else none

/-- The count that a JSON value holds: an integer in the range of 64 bits, a number without its
fraction and brought into that range, or such an integer as text; else zero. -/
def countOf : Json → UInt64
  | .int n => UInt64.ofNat (min n.toNat Json.maxUnsigned)
  | .float x => UInt64.ofNat (x.truncate Json.maxUnsigned)
  | .string s => (parseUnsigned? s).getD 0
  | _ => 0

namespace Query

variable {σ : Type} (db : Database σ)

/-- A result row without the column that numbers the rows of a window. -/
def withoutRowNumber (q : Query) (row : ResultRow) : ResultRow :=
  match effective q.offset, db.target.dialect.numberColumn? with
  | some _, some column => row.erase column
  | _, _ => row

/-- Every row of the query. -/
def get (q : Query) (s : Session σ) : Outcome σ (List ResultRow) :=
  let after := { q with selects := none }
  match q.select db.target with
  | .error e => ⟨.error e, after, s⟩
  | .ok sql =>
    let (rows, s) := db.select sql.text q.bindings s
    ⟨rows.map fun rows => rows.map (q.withoutRowNumber db), after, s⟩

/-- Every row of the query as a record. -/
def records (shape : Shape) (q : Query) (s : Session σ) : Outcome σ (List ResultRow) :=
  (q.get db s).andThen fun rows => rows.mapM shape.read

/-- The first row of the query. -/
def first (q : Query) (s : Session σ) : Outcome σ (Option ResultRow) :=
  (({ q with limit := some 1 } : Query).get db s).map List.head?

/-- The first row of the query as a record. -/
def firstRecord (shape : Shape) (q : Query) (s : Session σ) : Outcome σ (Option ResultRow) :=
  (q.first db s).andThen fun row => row.mapM shape.read

/-- The column of a row that a reference asks for. -/
def columnOf (q : Query) (reference : String) (row : ResultRow) : Except Error Json :=
  match row.get? (resultName reference) with
  | some value => .ok value
  | none => .error (.columnNotFound q.table reference)

/-- One column of the first row. -/
def firstValue (column : String) (q : Query) (s : Session σ) : Outcome σ (Option Json) :=
  (({ q with selects := some [.column column] } : Query).first db s).andThen fun row =>
    row.mapM (q.columnOf column)

/-- The first row whose column `id` has a value, a predicate that the query keeps. -/
def find (id : Value) (q : Query) (s : Session σ) : Outcome σ (Option ResultRow) :=
  (q.whereEq .and "id" id).first db s

/-- One column of every row. -/
def columnValues (column : String) (q : Query) (s : Session σ) : Outcome σ (List Json) :=
  (({ q with selects := some [.column column] } : Query).get db s).andThen fun rows =>
    rows.mapM (q.columnOf column)

/-- One column of a row under the text of another. The key is taken out of the row first, so the two
cannot be one column. -/
def pairOf (q : Query) (column key : String) (row : ResultRow) :
    Except Error (String × Json) := do
  let k ← q.columnOf key row
  let v ← q.columnOf column (row.erase (resultName key))
  .ok (keyText k, v)

/-- One column of every row under the text of another. -/
def keyedValues (column key : String) (q : Query) (s : Session σ) :
    Outcome σ (List (String × Json)) :=
  (({ q with selects := some [.column column, .column key] } : Query).get db s).andThen fun rows =>
    rows.mapM (q.pairOf column key)

/-- The value of an aggregate over the rows of the query, if it is not null. -/
def aggregateOf (a : Aggregate) (q : Query) (s : Session σ) : Outcome σ (Option Json) :=
  let after := { q with aggregate := none }
  match ({ q with aggregate := some a } : Query).select db.target with
  | .error e => ⟨.error e, after, s⟩
  | .ok sql =>
    let (rows, s) := db.select sql.text q.bindings s
    let value := rows.map fun rows =>
      (rows.head?.bind (Fields.get? "aggregate")).filter (!·.isNull)
    ⟨value, after, s⟩

def count (q : Query) (s : Session σ) : Outcome σ UInt64 :=
  (q.aggregateOf db ⟨.count, ["*"]⟩ s).map fun value => (value.map countOf).getD 0

/-- The value of the aggregate function that a method name stands for. -/
def aggregateNamed (method column : String) (q : Query) (s : Session σ) : Outcome σ (Option Json) :=
  match Method.parse method with
  | .error e => ⟨.error e, q, s⟩
  | .ok (.aggregate f) => q.aggregateOf db ⟨f, [column]⟩ s
  | .ok (.finder _) => ⟨.error (.undefinedMethod method), q, s⟩

/-- A page of the rows of the query, after a statement that counts them all. The page asked for is
brought into the range of pages that there are. A count that fails leaves ordering and paging as
they were. -/
def paginate (page perPage : UInt64) (q : Query) (s : Session σ) : Outcome σ Page :=
  let perPage := max perPage 1
  let counted := ({ q with orderings := [], limit := none, offset := none } : Query).count db s
  let after := { counted.query with orderings := q.orderings }
  match counted.result with
  | .error e => ⟨.error e, { after with limit := q.limit, offset := q.offset }, counted.session⟩
  | .ok total =>
    let last := lastPage total perPage
    let page := min (max page 1) last
    ((after.onPage page perPage).get db counted.session).map fun results =>
      { results, total, page, perPage, lastPage := last }

end Query

end SqlBuilder
