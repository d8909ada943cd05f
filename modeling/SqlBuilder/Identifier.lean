import SqlBuilder.Dialect
import SqlBuilder.Text.Blank
import SqlBuilder.Text.Split

/-!
# Identifiers

How the name of a table or a column is written. A name is quoted by setting it between the quotes of
the dialect with every closing quote in it written twice; a name between quotes already and the star
are left alone. A reference is a path of names joined by points, with an alias after ` as `; the
segment of a path that names a table gets the prefix of the connection.

The rules are stated on characters. `Naming.reference`, `Naming.table` and `Naming.value` apply them
to strings.
-/

namespace SqlBuilder

namespace Quotes

/-- Whether a name stands between quotes already. -/
def isQuoted (q : Quotes) (cs : List Char) : Bool :=
  2 ≤ cs.length && cs.head? == some q.opening && cs.getLast? == some q.closing

/-- The characters with each closing quote written twice. -/
def escape (q : Quotes) (cs : List Char) : List Char :=
  cs.flatMap fun c => if c = q.closing then [c, c] else [c]

def quote (q : Quotes) (cs : List Char) : List Char :=
  if cs = ['*'] || q.isQuoted cs then cs else q.opening :: q.escape cs ++ [q.closing]

end Quotes

/-- A reference cut at its first ` as `: the name before it and the alias behind it, both without
blanks at their ends. -/
def cutAlias? (cs : List Char) : Option (List Char × List Char) :=
  (Text.splitFirst? (Text.stripWord? [' ', 'a', 's', ' ']) cs).map fun (name, label) =>
    (Text.trim name, Text.trim label)

/-- The name under which a referenced column comes back in a result row: its alias, or else what
follows its last point. -/
def resultName (reference : String) : String :=
  match cutAlias? reference.toList with
  | some (_, label) => String.ofList label
  | none => String.ofList ((reference.toList.splitOn '.').getLastD [])

/-- How names are written: the quotes, and what stands in front of a table name. -/
structure Naming where
  quotes : Quotes
  tablePrefix : String

namespace Naming

variable (n : Naming)

/-- The segment of a path that names a table. -/
def tableSegment (cs : List Char) : List Char :=
  if n.quotes.isQuoted cs then cs else n.quotes.quote (n.tablePrefix.toList ++ cs)

/-- The segments of a column path: of several, the first names a table. -/
def columnSegments : List (List Char) → List (List Char)
  | first :: second :: rest => n.tableSegment first :: (second :: rest).map n.quotes.quote
  | segments => segments.map n.quotes.quote

/-- The segments of a table path: the last names the table, those before it are a column path. -/
def tableSegments (segments : List (List Char)) : List (List Char) :=
  n.columnSegments segments.dropLast ++ (segments.getLast?.map n.tableSegment).toList

/-- A path with a function applied to its list of segments. -/
def mapPath (f : List (List Char) → List (List Char)) (cs : List Char) : List Char :=
  ['.'].intercalate (f (cs.splitOn '.'))

/-- A table path; a path between quotes as a whole is left alone. -/
def tablePath (cs : List Char) : List Char :=
  if n.quotes.isQuoted cs then cs else mapPath n.tableSegments cs

def columnPath (cs : List Char) : List Char :=
  mapPath n.columnSegments cs

/-- A reference: a path, and a quoted alias if it has one. -/
def aliased (path : List Char → List Char) (cs : List Char) : List Char :=
  match cutAlias? cs with
  | some (name, label) => path name ++ " AS ".toList ++ n.quotes.quote label
  | none => path cs

def reference (column : String) : String :=
  String.ofList (n.aliased n.columnPath column.toList)

def table (name : String) : String :=
  String.ofList (n.aliased n.tablePath name.toList)

def value (name : String) : String :=
  String.ofList (n.quotes.quote name.toList)

def references (columns : List String) : String :=
  String.intercalate ", " (columns.map n.reference)

end Naming

example : Naming.table ⟨⟨'[', ']'⟩, "app_"⟩ "dbo.users as u" = "[dbo].[app_users] AS [u]" := by
  decide

example : Naming.reference ⟨⟨'\x60', '\x60'⟩, ""⟩ "odd\x60name.id" =
    "\x60odd\x60\x60name\x60.\x60id\x60" := by
  decide

example : Naming.value ⟨⟨'[', ']'⟩, ""⟩ "a]; --" = "[a]]; --]" := by decide

end SqlBuilder
