import SqlBuilder.Database.Basic
import SqlBuilder.Schema.MySql
import SqlBuilder.Schema.Postgres
import SqlBuilder.Schema.SqlServer
import SqlBuilder.Schema.Sqlite

/-!
# Running blueprints

A blueprint is run on a database by compiling every command first and then sending the statements
one after the other, up to the first that fails. Nothing is sent for a blueprint that belongs to
another connection, for a driver without schema statements, or if a command does not compile.
-/

namespace SqlBuilder.Schema

def Ddl.ofDriver (tablePrefix : String) : Driver → Ddl
  | .mysql => MySql.ddl tablePrefix
  | .sqlite => Sqlite.ddl tablePrefix
  | .postgres => Postgres.ddl tablePrefix
  | .sqlserver => SqlServer.ddl tablePrefix

/-- The schema statements for a driver name; a name that is not known has none. -/
def Ddl.forName (name tablePrefix : String) : Except Error Ddl :=
  (Driver.parse name).map (Ddl.ofDriver tablePrefix)

/-- The statements of a blueprint on a database. -/
def statements (config : Config) (b : Blueprint) : Except Error (List String) :=
  match b.connection with
  | some bound =>
    if bound = config.name then build
    else .error (.invalidQuery (.otherConnection b.name bound config.name))
  | none => build
where
  /-- The statements in the dialect of the driver. -/
  build : Except Error (List String) := do
    let g ← Ddl.forName config.driver config.tablePrefix
    (g.build b).1

/-- Sends statements one after the other, up to the first that fails. -/
def sendAll {σ : Type} (db : Database σ) : List String → Session σ → Except Error Unit × Session σ
  | [], s => (.ok (), s)
  | sql :: rest, s =>
    match db.execute sql [] s with
    | (.ok _, s) => sendAll db rest s
    | (.error e, s) => (.error e, s)

def run {σ : Type} (db : Database σ) (b : Blueprint) (s : Session σ) :
    Except Error Unit × Session σ :=
  match statements db.config b with
  | .error e => (.error e, s)
  | .ok sqls => sendAll db sqls s

/-- Creates a table with what the steps describe. -/
def create {σ : Type} (db : Database σ) (table : String) (steps : List Blueprint.Step)
    (s : Session σ) : Except Error Unit × Session σ :=
  run db (Blueprint.ofSteps table (.command .create :: steps)) s

def table {σ : Type} (db : Database σ) (name : String) (steps : List Blueprint.Step)
    (s : Session σ) : Except Error Unit × Session σ :=
  run db (Blueprint.ofSteps name steps) s

def command {σ : Type} (db : Database σ) (table : String) (c : Command) (s : Session σ) :
    Except Error Unit × Session σ :=
  run db (Blueprint.ofSteps table [.command c]) s

end SqlBuilder.Schema
