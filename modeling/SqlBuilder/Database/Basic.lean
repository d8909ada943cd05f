import SqlBuilder.Database.Config
import SqlBuilder.Query.Target

/-!
# Databases

A connection runs statements. It is given by what it answers: each of its two functions takes the
state that the connection is in and returns an answer or an error, and the state after. A database
is a connection with its configuration, and a session is the state of the connection together with
the log of the statements sent to it.
-/

namespace SqlBuilder

/-- A result row: its columns in the order of their names. -/
abbrev ResultRow := Fields Json

/-- What a statement without result rows reports. -/
structure Effect where
  rowsAffected : UInt64
  lastInsertId : Option Int64

/-- How statements with bound values are run, `σ` being the states of the connection. -/
structure Connection (σ : Type) where
  /-- Runs a statement for its rows. -/
  select : String → List Value → σ → Except Error (List ResultRow) × σ
  /-- Runs a statement for its effect. -/
  execute : String → List Value → σ → Except Error Effect × σ

structure LogEntry where
  sql : String
  bindings : List Value

/-- A connection in use. -/
structure Session (σ : Type) where
  state : σ
  /-- The statements sent so far, the oldest first. -/
  log : List LogEntry := []

/-- The session with no statement in its log. -/
def Session.clearLog {σ : Type} (s : Session σ) : Session σ :=
  { s with log := [] }

structure Database (σ : Type) where
  connection : Connection σ
  config : Config
  /-- Whether sessions log their statements. -/
  keepsLog : Bool := false

namespace Database

variable {σ : Type} (db : Database σ)

def target : Target :=
  ⟨Dialect.forName db.config.driver, db.config.tablePrefix⟩

/-- The session after a statement: the state of the connection moves on, and the statement is logged
whether it failed or not. -/
def after (sql : String) (bindings : List Value) (s : Session σ) (state : σ) : Session σ :=
  { state, log := if db.keepsLog then s.log ++ [⟨sql, bindings⟩] else s.log }

/-- Runs a statement for its rows. -/
def select (sql : String) (bindings : List Value) (s : Session σ) :
    Except Error (List ResultRow) × Session σ :=
  let (answer, state) := db.connection.select sql bindings s.state
  (answer, db.after sql bindings s state)

/-- Runs a statement for its effect. -/
def execute (sql : String) (bindings : List Value) (s : Session σ) :
    Except Error Effect × Session σ :=
  let (answer, state) := db.connection.execute sql bindings s.state
  (answer, db.after sql bindings s state)

end Database

end SqlBuilder
