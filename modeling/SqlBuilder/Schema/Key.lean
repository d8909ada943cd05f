import SqlBuilder.Text.Lowercase

/-!
# Indexes and foreign keys

The keys of a table. A key has a name; one that is not given a name gets a default made of the
table, the columns and the kind.
-/

namespace SqlBuilder.Schema

inductive IndexKind where
  | primary
  | unique
  | fulltext
  | index
  | spatial
  deriving DecidableEq

def IndexKind.name : IndexKind → String
  | .primary => "primary"
  | .unique => "unique"
  | .fulltext => "fulltext"
  | .index => "index"
  | .spatial => "spatial"

/-- The default name of an index: table, columns and kind joined by underscores, in small letters
and with underscores for hyphens and points. -/
def defaultName (table : String) (columns : List String) (kind : String) : String :=
  let name := table ++ "_" ++ String.intercalate "_" columns ++ "_" ++ kind
  String.ofList ((Text.lowercase name.toList).map fun c => if c = '-' || c = '.' then '_' else c)

structure Index where
  kind : IndexKind
  name : String
  columns : List String
  catalog : Option String := none
  /-- The unique key index that a full-text index refers to rows by. -/
  key : Option String := none
  deriving DecidableEq

def Index.ofColumns (kind : IndexKind) (table : String) (columns : List String) : Index :=
  { kind, name := defaultName table columns kind.name, columns }

structure ForeignKey where
  name : String
  columns : List String
  references : List String := []
  on : Option String := none
  onDelete : Option String := none
  onUpdate : Option String := none
  deriving DecidableEq

def ForeignKey.ofColumns (table : String) (columns : List String) : ForeignKey :=
  { name := defaultName table columns "foreign", columns }

example : defaultName "Users" ["first.name", "last-name"] "unique" =
    "users_first_name_last_name_unique" := by decide +kernel

end SqlBuilder.Schema
