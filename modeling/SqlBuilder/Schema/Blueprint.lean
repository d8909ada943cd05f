import SqlBuilder.Schema.Column
import SqlBuilder.Schema.Command

/-!
# Blueprints

A blueprint describes what is to be done to one table: columns and commands in the order in which
they were asked for. `Blueprint.complete` adds the commands that are implied: one that adds the
columns, unless the table is created with them, and one for each index asked for with a column. That
happens once, so a blueprint can be built again and again.
-/

namespace SqlBuilder.Schema

/-- What is to be done to a table. -/
structure Blueprint where
  name : String
  /-- The connection that the table belongs to. -/
  connection : Option String := none
  engine : Option String := none
  charset : Option String := none
  collation : Option String := none
  columns : List Column := []
  commands : List Command := []
  /-- Whether the implied commands are among the commands. -/
  completed : Bool := false

namespace Blueprint

/-- A blueprint that asks for nothing. -/
def ofTable (name : String) : Blueprint :=
  { name }

def createsTable (b : Blueprint) : Bool :=
  b.commands.contains .create

/-- The indexes asked for with a column, as indexes on the table. -/
def columnIndexes (table : String) (c : Column) : List Command :=
  c.indexes.map fun inline =>
    let i := Index.ofColumns inline.kind table [c.name]
    .index { i with name := inline.name.getD i.name }

/-- The commands that the columns imply in front of those asked for. -/
def impliedBefore (b : Blueprint) : List Command :=
  if !b.columns.isEmpty && !b.createsTable then [.add] else []

/-- The commands that the columns imply behind those asked for. -/
def impliedAfter (b : Blueprint) : List Command :=
  b.columns.flatMap (columnIndexes b.name)

/-- The blueprint with the implied commands, which are added once. -/
def complete (b : Blueprint) : Blueprint :=
  if b.completed then b
  else { b with commands := b.impliedBefore ++ b.commands ++ b.impliedAfter, completed := true }

/-- A blueprint is completed once. -/
theorem complete_complete (b : Blueprint) : b.complete.complete = b.complete := by
  by_cases h : b.completed <;> simp [complete, h]

def addCommand (b : Blueprint) (c : Command) : Blueprint :=
  { b with commands := b.commands ++ [c] }

def addColumn (b : Blueprint) (c : Column) : Blueprint :=
  { b with columns := b.columns ++ [c] }

inductive Step where
  | connection (name : String)
  | engine (name : String)
  | charset (name : String)
  | collation (name : String)
  | command (c : Command)
  /-- An index, under its default name unless it is given another. -/
  | index (kind : IndexKind) (columns : List String) (name catalog key : Option String)
  /-- A foreign key, under its default name unless it is given another. -/
  | foreign (columns : List String) (name : Option String) (references : List String)
      (on onDelete onUpdate : Option String)
  | column (name : String) (type : ColumnType) (modifiers : List Modifier)
  /-- The columns for the times of creation and of the last change. -/
  | timestamps

def step (b : Blueprint) : Step → Blueprint
  | .connection name => { b with connection := some name }
  | .engine name => { b with engine := some name }
  | .charset name => { b with charset := some name }
  | .collation name => { b with collation := some name }
  | .command c => b.addCommand c
  | .index kind columns name catalog key =>
    let i := Index.ofColumns kind b.name columns
    b.addCommand (.index { i with name := name.getD i.name, catalog, key })
  | .foreign columns name references on onDelete onUpdate =>
    let f := ForeignKey.ofColumns b.name columns
    b.addCommand (.foreign { f with name := name.getD f.name, references, on, onDelete, onUpdate })
  | .column name type modifiers => b.addColumn (({ name, type } : Column).modifyAll modifiers)
  | .timestamps =>
    let column (name : String) : Column := { name, type := .dateTime, nullable := true }
    (b.addColumn (column "created_at")).addColumn (column "updated_at")

def stepAll (b : Blueprint) (steps : List Step) : Blueprint :=
  steps.foldl step b

def ofSteps (name : String) (steps : List Step) : Blueprint :=
  (ofTable name).stepAll steps

end Blueprint

end SqlBuilder.Schema
