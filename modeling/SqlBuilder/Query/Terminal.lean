import SqlBuilder.Query.Fetch
import SqlBuilder.Query.Modify

/-!
# Terminal operations

The operations that end the building of a query by running it, as data, so that a session is a
sequence of them. `Terminal.run` carries one out.
-/

namespace SqlBuilder

inductive Terminal where
  | get
  | records (shape : Shape)
  | first
  | firstRecord (shape : Shape)
  | firstValue (column : String)
  | find (id : Value)
  | columnValues (column : String)
  | keyedValues (column key : String)
  | aggregate (a : Aggregate)
  | count
  | aggregateNamed (method column : String)
  | paginate (page perPage : UInt64)
  | insert (rows : Rows)
  | insertReturning (row : Row Value) (idColumn : String)
  | update (row : Row Value)
  | increment (column : String) (amount : Int64)
  | decrement (column : String) (amount : Int64)
  | delete
  | deleteId (id : Value)

inductive Answer where
  | rows (rows : List ResultRow)
  | row (row : Option ResultRow)
  | value (value : Option Json)
  | values (values : List Json)
  | pairs (pairs : List (String × Json))
  | page (page : Page)
  /-- A number of rows. -/
  | number (n : UInt64)
  | key (id : Option Int64)

namespace Terminal

variable {σ : Type} (db : Database σ)

/-- The outcome of a write, which leaves the query as it is. -/
def unchanged {α : Type} (q : Query) (answer : α → Answer) (o : Except Error α × Session σ) :
    Outcome σ Answer :=
  ⟨o.1.map answer, q, o.2⟩

def run (q : Query) (s : Session σ) : Terminal → Outcome σ Answer
  | .get => (q.get db s).map .rows
  | .records shape => (q.records db shape s).map .rows
  | .first => (q.first db s).map .row
  | .firstRecord shape => (q.firstRecord db shape s).map .row
  | .firstValue column => (q.firstValue db column s).map .value
  | .find id => (q.find db id s).map .row
  | .columnValues column => (q.columnValues db column s).map .values
  | .keyedValues column key => (q.keyedValues db column key s).map .pairs
  | .aggregate a => (q.aggregateOf db a s).map .value
  | .count => (q.count db s).map .number
  | .aggregateNamed method column => (q.aggregateNamed db method column s).map .value
  | .paginate page perPage => (q.paginate db page perPage s).map .page
  | .insert rows => unchanged q .number (q.insert db rows s)
  | .insertReturning row idColumn => unchanged q .key (q.insertReturning db row idColumn s)
  | .update row => unchanged q .number (q.set db row s)
  | .increment column amount => unchanged q .number (q.increment db column amount s)
  | .decrement column amount => unchanged q .number (q.decrement db column amount s)
  | .delete => unchanged q .number (q.remove db s)
  | .deleteId id => unchanged q .number (q.removeId db id s)

/-- Carries out terminal operations one after the other, each on what the one before left. -/
def runAll (q : Query) (s : Session σ) : List Terminal → Query × Session σ
  | [] => (q, s)
  | op :: ops =>
    let o := run db q s op
    runAll o.query o.session ops

end Terminal

end SqlBuilder
