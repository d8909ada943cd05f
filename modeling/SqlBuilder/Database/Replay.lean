import SqlBuilder.Database.Basic

/-!
# A connection that replays results

`Replay.connection` needs no database. It records the statements sent to it and answers them from a
queue of result sets, the last of which is answered again and again. Statements can be made to fail
by their position.
-/

namespace SqlBuilder

inductive StatementKind where
  | select
  | execute
  deriving DecidableEq

structure Executed where
  kind : StatementKind
  sql : String
  bindings : List Value

/-- What is left to answer, and the statements answered so far. -/
structure Replay where
  results : List (List ResultRow) := []
  /-- The positions of the statements that fail, counted from zero. -/
  failAt : List Nat := []
  /-- What a statement for its effect reports. -/
  effect : Effect := ⟨1, none⟩
  /-- The statements so far, the oldest first. -/
  executed : List Executed := []

namespace Replay

/-- The error of a statement that is made to fail. -/
def failure : Error :=
  .sqlGeneration "mock failure"

/-- Records a statement and answers it with a function of what is left, unless it is to fail. -/
def run {α : Type} (kind : StatementKind) (answer : Replay → α × Replay) (sql : String)
    (bindings : List Value) (r : Replay) : Except Error α × Replay :=
  let recorded := { r with executed := r.executed ++ [⟨kind, sql, bindings⟩] }
  if r.failAt.contains r.executed.length then (.error failure, recorded)
  else
    let (a, left) := answer recorded
    (.ok a, left)

/-- The next result set. The last one stays. -/
def nextRows (r : Replay) : List ResultRow × Replay :=
  match r.results with
  | [] => ([], r)
  | [rows] => (rows, r)
  | rows :: rest => (rows, { r with results := rest })

def connection : Connection Replay where
  select := run .select nextRows
  execute := run .execute fun r => (r.effect, r)

end Replay

end SqlBuilder
