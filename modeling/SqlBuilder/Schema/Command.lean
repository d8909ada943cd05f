import SqlBuilder.Schema.Key

/-!
# Commands on a table

The operations that a blueprint asks for, and the names that errors give them.
-/

namespace SqlBuilder.Schema

inductive Command where
  | create
  /-- Adds or changes every column of the blueprint. -/
  | add
  | rename (target : String)
  | drop
  | dropIfExists
  | dropColumn (columns : List String)
  | dropColumnIfExists (columns : List String)
  | renameColumn (source target : String)
  | index (i : Index)
  | foreign (key : ForeignKey)
  /-- A dialect may need no name, or find it by a convention. -/
  | dropPrimary (name : Option String)
  | dropUnique (name : String)
  | dropFulltext (name : String)
  | dropIndex (name : String)
  | dropSpatial (name : String)
  | dropForeign (name : String)
  | dropIndexIfExists (name : String)
  | dropUniqueIfExists (name : String)
  | dropFulltextIfExists (name : String)
  | dropForeignIfExists (name : String)
  deriving DecidableEq

/-- The name of an operation, as errors give it. -/
def Command.name : Command → String
  | .create => "create"
  | .add => "add"
  | .rename _ => "rename"
  | .drop => "drop"
  | .dropIfExists => "drop_if_exists"
  | .dropColumn _ => "drop_column"
  | .dropColumnIfExists _ => "drop_column_if_exists"
  | .renameColumn .. => "rename_column"
  | .index i => i.kind.name
  | .foreign _ => "foreign"
  | .dropPrimary _ => "drop_primary"
  | .dropUnique _ => "drop_unique"
  | .dropFulltext _ => "drop_fulltext"
  | .dropIndex _ => "drop_index"
  | .dropSpatial _ => "drop_spatial"
  | .dropForeign _ => "drop_foreign"
  | .dropIndexIfExists _ => "drop_index_if_exists"
  | .dropUniqueIfExists _ => "drop_unique_if_exists"
  | .dropFulltextIfExists _ => "drop_fulltext_if_exists"
  | .dropForeignIfExists _ => "drop_foreign_if_exists"

end SqlBuilder.Schema
