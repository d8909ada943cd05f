import SqlBuilder.Value.Basic

/-!
# Statement text

A statement under construction is a list of pieces, so that its text and the values bound to it are
two views of one thing: `Sql.text` writes a question mark for each parameter, `Sql.bindings` lists
the values of the parameters in the order of the marks. A raw value is written into the text and
is not bound.
-/

namespace SqlBuilder

inductive Piece where
  /-- Keywords, punctuation and identifiers. -/
  | text (sql : String)
  /-- SQL of the caller with the values for the question marks in it. -/
  | fragment (sql : String) (values : List Value)
  | param (value : Value)

/-- What the statement shows for a value: raw SQL itself, a question mark for all else. -/
def Value.placeholder : Value → String
  | .raw sql => sql
  | _ => "?"

namespace Piece

/-- The piece as it stands in the statement. -/
def sql : Piece → String
  | .text sql => sql
  | .fragment sql _ => sql
  | .param value => value.placeholder

def bindings : Piece → List Value
  | .text _ => []
  | .fragment _ values => Value.bound values
  | .param value => Value.bound [value]

end Piece

abbrev Sql := List Piece

namespace Sql

def text (s : Sql) : String :=
  String.join (s.map Piece.sql)

/-- The values bound to a statement, in the order of their marks. -/
def bindings (s : Sql) : List Value :=
  s.flatMap Piece.bindings

def lit (sql : String) : Sql :=
  [.text sql]

/-- Parts set one after the other with a text between them. -/
def joined (separator : String) (parts : List Sql) : Sql :=
  (lit separator).intercalate parts

def params (values : List Value) : Sql :=
  joined ", " (values.map fun v => [.param v])

/-- The parts that are there, separated by blanks. -/
def clauses (parts : List Sql) : Sql :=
  joined " " (parts.filter (!·.isEmpty))

@[simp]
theorem text_lit (sql : String) : text (lit sql) = sql := by
  simp [text, lit, Piece.sql]

@[simp]
theorem bindings_lit (sql : String) : bindings (lit sql) = [] :=
  rfl

@[simp]
theorem text_append (s t : Sql) : text (s ++ t) = text s ++ text t := by
  apply String.toList_inj.1
  simp [text, String.toList_join]

@[simp]
theorem bindings_append (s t : Sql) : bindings (s ++ t) = bindings s ++ bindings t := by
  simp [bindings]

end Sql

end SqlBuilder
