import SqlBuilder.Error
import SqlBuilder.Identifier
import SqlBuilder.Schema.Blueprint
import SqlBuilder.Schema.Literal

/-!
# Schema statements

How the commands of a blueprint become statements. A dialect says how names are written, gives the
types and definitions of columns, and has its own forms of commands. A command without a form of its
own has the standard one, and where the standard has none it is not supported.
-/

namespace SqlBuilder.Schema

structure Ddl where
  name : String
  naming : Naming
  typeName : Column → Except Error String
  definition : Column → Except Error String
  /-- The statements of a command that the dialect has a form of its own for. -/
  own : Blueprint → Command → Option (Except Error (List String))

def commas (parts : List String) : String :=
  String.intercalate ", " parts

/-- The error for an operation that a dialect does not have. -/
def refused {α : Type} (dialect operation : String) : Except Error α :=
  .error (.unsupported dialect operation none)

def nullClause (c : Column) : String :=
  if c.nullable then " NULL" else " NOT NULL"

/-- The DEFAULT clause of a column, empty for a column without a default. -/
def defaultClause (c : Column) : String :=
  match c.default with
  | some value => " DEFAULT " ++ defaultLiteral value
  | none => ""

/-- A clause of a keyword and a text, empty where there is no text. -/
def optional (keyword : String) (text : Option String) : String :=
  match text with
  | some text => keyword ++ text
  | none => ""

/-- The condition that a column holds one of a list of texts. -/
def checkAllowed (n : Naming) (c : Column) (allowed : List String) : String :=
  "CHECK (" ++ n.reference c.name ++ " IN (" ++ literals allowed ++ "))"

/-- A statement that alters the table of a blueprint. -/
def alter (n : Naming) (b : Blueprint) (clause : String) : String :=
  "ALTER TABLE " ++ n.table b.name ++ " " ++ clause

/-- The columns of a foreign key, what they refer to and its actions. The key has to tell the table
and at least one column that it refers to. -/
def referenceClause (n : Naming) (f : ForeignKey) : Except Error String :=
  match f.on with
  | none => .error (.invalidQuery (.noReferencedTable f.name))
  | some table =>
    if f.references.isEmpty then .error (.invalidQuery (.noReferencedColumns f.name))
    else
      .ok ("FOREIGN KEY (" ++ n.references f.columns ++ ") REFERENCES " ++ n.table table ++ " ("
        ++ n.references f.references ++ ")" ++ optional " ON DELETE " f.onDelete
        ++ optional " ON UPDATE " f.onUpdate)

/-- A foreign key as a named constraint of an existing table. -/
def addForeign (n : Naming) (b : Blueprint) (f : ForeignKey) : Except Error (List String) := do
  let reference ← referenceClause n f
  .ok [alter n b ("ADD CONSTRAINT " ++ n.value f.name ++ " " ++ reference)]

def dropConstraint (n : Naming) (b : Blueprint) (name : String) : String :=
  alter n b ("DROP CONSTRAINT " ++ n.value name)

def standard (dialect : String) (n : Naming) (b : Blueprint) :
    Command → Except Error (List String)
  | .rename target => .ok [alter n b ("RENAME TO " ++ n.table target)]
  | .drop => .ok ["DROP TABLE " ++ n.table b.name]
  | .dropIfExists => .ok ["DROP TABLE IF EXISTS " ++ n.table b.name]
  | .foreign f => addForeign n b f
  | .dropForeign name => .ok [dropConstraint n b name]
  | c => refused dialect c.name

namespace Ddl

/-- The statements of a command, in the order in which they run. -/
def compile (g : Ddl) (b : Blueprint) (c : Command) : Except Error (List String) :=
  (g.own b c).getD (standard g.name g.naming b c)

/-- The statements of commands one after the other, or the first error. -/
def compileAll (g : Ddl) (b : Blueprint) : List Command → Except Error (List String)
  | [] => .ok []
  | c :: cs => do
    let statements ← g.compile b c
    let rest ← compileAll g b cs
    .ok (statements ++ rest)

/-- The statements of a blueprint, its implied commands included, and the blueprint after. That is
the completed one, whether every command has statements or not. -/
def build (g : Ddl) (b : Blueprint) : Except Error (List String) × Blueprint :=
  let completed := b.complete
  (g.compileAll completed completed.commands, completed)

/-- Building a blueprint again gives what building it first gives, in whatever dialect it was built
before. -/
theorem build_build (g h : Ddl) (b : Blueprint) : g.build (h.build b).2 = g.build b := by
  simp [build, Blueprint.complete_complete]

/-- A dialect of standard forms alone: every column is a text, names stand between angle brackets,
and neither columns nor indexes can be created. -/
def plain (tablePrefix : String) : Ddl :=
  let naming : Naming := ⟨⟨'<', '>'⟩, tablePrefix⟩
  { name := "plain"
    naming
    typeName := fun _ => .ok "TEXT"
    definition := fun c => .ok (naming.reference c.name ++ " TEXT")
    own := fun _ _ => none }

end Ddl

end SqlBuilder.Schema
