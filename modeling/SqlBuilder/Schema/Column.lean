import SqlBuilder.Schema.Key
import SqlBuilder.Value.Basic

/-!
# Columns of a table

A column has a logical type, which every dialect maps to one of its own, and modifiers. The
modifiers are data and are applied one after the other; of two that set the same thing the later
counts.
-/

namespace SqlBuilder.Schema

inductive ColumnType where
  | string (length : UInt32)
  | char (length : UInt32)
  | integer
  | bigInteger
  | smallInteger
  | float
  | double
  | decimal (precision scale : UInt32)
  | boolean
  | date
  | dateTime
  | time
  | timestamp
  | text
  | mediumText
  | longText
  | blob
  | json
  | jsonb
  | uuid
  | ipAddress
  | macAddress
  | enumeration (allowed : List String)
  | set (allowed : List String)
  | geometry
  | point
  | lineString
  | polygon
  deriving DecidableEq

/-- Whether a type is one of the integers, which alone can be unsigned. -/
def ColumnType.isIntegral : ColumnType → Bool
  | .integer | .bigInteger | .smallInteger => true
  | _ => false

/-- The length of a string column for which none is given. -/
def ColumnType.defaultLength : UInt32 := 200

/-- An index on one column, asked for with the column. -/
structure ColumnIndex where
  kind : IndexKind
  /-- The name of the index, if it is not to be the default one. -/
  name : Option String := none
  deriving DecidableEq

/-- A column to add to a table or to change. -/
structure Column where
  name : String
  type : ColumnType
  nullable : Bool := false
  default : Option Value := none
  unsigned : Bool := false
  /-- Numbers its rows and is the primary key. -/
  increment : Bool := false
  comment : Option String := none
  charset : Option String := none
  collation : Option String := none
  /-- The column that this one is put behind. -/
  after : Option String := none
  /-- Whether the column is put before all others. -/
  first : Bool := false
  /-- Whether an existing column is changed. -/
  change : Bool := false
  indexes : List ColumnIndex := []

inductive Modifier where
  | nullable
  | defaults (value : Value)
  | unsigned
  | increment
  | comment (text : String)
  | charset (name : String)
  | collation (name : String)
  | after (column : String)
  | first
  | change
  | index (kind : IndexKind)
  /-- Names the index that was asked for last; without one nothing changes. -/
  | indexedAs (name : String)

/-- The indexes with a name for the last one. -/
def nameLast (name : String) (indexes : List ColumnIndex) : List ColumnIndex :=
  match indexes.getLast? with
  | some last => indexes.dropLast ++ [{ last with name := some name }]
  | none => []

namespace Column

def modify (c : Column) : Modifier → Column
  | .nullable => { c with nullable := true }
  | .defaults value => { c with default := some value }
  | .unsigned => { c with unsigned := true }
  | .increment => { c with increment := true }
  | .comment text => { c with comment := some text }
  | .charset name => { c with charset := some name }
  | .collation name => { c with collation := some name }
  | .after column => { c with after := some column }
  | .first => { c with first := true }
  | .change => { c with change := true }
  | .index kind => { c with indexes := c.indexes ++ [{ kind }] }
  | .indexedAs name => { c with indexes := nameLast name c.indexes }

def modifyAll (c : Column) (modifiers : List Modifier) : Column :=
  modifiers.foldl modify c

end Column

end SqlBuilder.Schema
