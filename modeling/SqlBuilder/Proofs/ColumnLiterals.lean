import SqlBuilder.Proofs.Literals
import SqlBuilder.Schema.MySql

/-!
# Literals in the definitions of columns

A statement with literals is split into these and the SQL between them (`StatementPart`), and is
read back if each of its literals is read from where it begins to where the next part does. Where no
literal is followed by a quote that depends on the texts alone (`StatementPart.readsBack_iff`).

On MySQL the allowed values, the default and the comment of a column are literals, and behind them
the definition goes on with a blank, a comma or a bracket (`MySql.separated_definitionParts`). So
the statements that create a table and that add or change its columns are read back exactly if these
texts keep their backslashes (`MySql.readsBack_statements_iff`).
-/

namespace SqlBuilder.Schema

/-! ## Statements with literals -/

/-- A text that does not begin with a quote. -/
def Open (text : String) : Prop :=
  text.toList.head? ≠ some '\x27'

instance (text : String) : Decidable (Open text) :=
  inferInstanceAs (Decidable (_ ≠ _))

theorem Open.append {text more : String} (h : Open text) (hmore : Open more) :
    Open (text ++ more) := by
  rw [Open] at h hmore ⊢
  rw [String.toList_append, List.head?_append]
  cases hhead : text.toList.head? with
  | none => exact hmore
  | some c => rwa [hhead] at h

/-- A text begins with the keyword in front of it. -/
theorem open_keyword (keyword : String) (h : keyword.toList ≠ [] ∧ Open keyword) (text : String) :
    Open (keyword ++ text) := by
  obtain ⟨hne, hopen⟩ := h
  rwa [Open, String.toList_append, List.head?_append_of_ne_nil _ hne]

theorem open_optional (keyword : String) (h : keyword.toList ≠ [] ∧ Open keyword)
    (text : Option String) : Open (optional keyword text) := by
  cases text with
  | none => exact (by decide : Open "")
  | some text => exact open_keyword keyword h text

/-- A part of a statement: SQL, or a literal of a text. -/
inductive StatementPart where
  | sql (text : String)
  | literal (text : String)

namespace StatementPart

/-- The part as it stands in the statement. -/
def written : StatementPart → String
  | .sql text => text
  | .literal text => Schema.literal text

/-- The text of a literal. -/
def text? : StatementPart → Option String
  | .sql _ => none
  | .literal text => some text

/-- The statement that parts make. -/
def statement (parts : List StatementPart) : String :=
  String.join (parts.map written)

/-- The texts that are to be read back from a statement. -/
def texts (parts : List StatementPart) : List String :=
  parts.filterMap text?

/-- Parts of several things with commas between them. -/
def listed (items : List (List StatementPart)) : List StatementPart :=
  [.sql ", "].intercalate items

/-- Every literal of a statement is read back, up to where the next part begins. -/
def ReadsBack (e : Escapes) : List StatementPart → Prop
  | [] => True
  | .sql _ :: parts => ReadsBack e parts
  | .literal text :: parts =>
    e.readLiteral (statement (.literal text :: parts)).toList =
      some (text.toList, (statement parts).toList) ∧ ReadsBack e parts

instance decidableReadsBack (e : Escapes) :
    (parts : List StatementPart) → Decidable (ReadsBack e parts)
  | [] => isTrue trivial
  | .sql _ :: parts => decidableReadsBack e parts
  | .literal text :: parts =>
    have := decidableReadsBack e parts
    inferInstanceAs (Decidable (e.readLiteral (statement (.literal text :: parts)).toList =
      some (text.toList, (statement parts).toList) ∧ ReadsBack e parts))

/-- Behind a literal the statement does not go on with a quote. -/
def Separated : List StatementPart → Prop
  | [] => True
  | .sql _ :: parts => Separated parts
  | .literal _ :: parts => Open (statement parts) ∧ Separated parts

variable {parts more : List StatementPart}

@[simp]
theorem statement_nil : statement [] = "" :=
  rfl

@[simp]
theorem statement_cons (part : StatementPart) (parts : List StatementPart) :
    statement (part :: parts) = part.written ++ statement parts := by
  simp [statement, String.join_cons]

theorem statement_singleton (part : StatementPart) : statement [part] = part.written :=
  (statement_cons part []).trans String.append_empty

@[simp]
theorem statement_append (parts more : List StatementPart) :
    statement (parts ++ more) = statement parts ++ statement more := by
  apply String.toList_inj.1
  simp [statement, String.toList_join]

theorem texts_sql (text : String) (parts : List StatementPart) :
    texts (.sql text :: parts) = texts parts :=
  rfl

theorem texts_nil : texts [] = [] :=
  rfl

@[simp]
theorem texts_append (parts more : List StatementPart) :
    texts (parts ++ more) = texts parts ++ texts more :=
  List.filterMap_append

theorem listed_cons_cons (item next : List StatementPart) (items : List (List StatementPart)) :
    listed (item :: next :: items) = item ++ .sql ", " :: listed (next :: items) := by
  rw [listed, List.intercalate_cons_cons, List.append_assoc]
  rfl

theorem statement_listed (items : List (List StatementPart)) :
    statement (listed items) = commas (items.map statement) := by
  induction items with
  | nil => rfl
  | cons item items ih =>
    cases items with
    | nil => rw [listed, List.intercalate_singleton, commas, List.map_singleton,
        String.intercalate_singleton]
    | cons next items =>
      rw [listed_cons_cons, statement_append, statement_cons, ih, commas, commas, List.map_cons,
        List.map_cons, List.map_cons, String.intercalate_cons_cons, String.append_assoc]
      rfl

theorem texts_listed (items : List (List StatementPart)) :
    texts (listed items) = items.flatMap texts := by
  induction items with
  | nil => rfl
  | cons item items ih =>
    cases items with
    | nil => rw [listed, List.intercalate_singleton, List.flatMap_singleton]
    | cons next items =>
      rw [listed_cons_cons, texts_append, List.flatMap_cons, ← ih]
      rfl

/-! ## What stands behind a literal -/

theorem separated_append (h : Separated parts) (hmore : Separated more)
    (hopen : Open (statement more)) : Separated (parts ++ more) := by
  induction parts with
  | nil => exact hmore
  | cons part parts ih =>
    cases part with
    | sql text => exact ih h
    | literal text =>
      have hbehind := h.1.append hopen
      rw [← statement_append] at hbehind
      exact ⟨hbehind, ih h.2⟩

theorem separated_listed {items : List (List StatementPart)} (h : ∀ item ∈ items, Separated item) :
    Separated (listed items) := by
  induction items with
  | nil => trivial
  | cons item items ih =>
    obtain ⟨hitem, hitems⟩ := List.forall_mem_cons.1 h
    cases items with
    | nil => rwa [listed, List.intercalate_singleton]
    | cons next items =>
      rw [listed_cons_cons]
      refine separated_append hitem (ih hitems) ?_
      rw [statement_cons]
      exact open_keyword ", " (by decide) _

/-- Where no literal is followed by a quote, a statement is read back exactly if each of its texts
keeps its backslashes. -/
theorem readsBack_iff {e : Escapes} (h : Separated parts) :
    ReadsBack e parts ↔ ∀ text ∈ texts parts, e.Keeps text.toList := by
  induction parts with
  | nil => exact iff_of_true trivial fun _ htext => nomatch htext
  | cons part parts ih =>
    cases part with
    | sql text => exact ih h
    | literal text =>
      have htexts : texts (.literal text :: parts) = text :: texts parts := rfl
      rw [ReadsBack, statement_cons, written, String.toList_append,
        Escapes.readLiteral_literal_iff h.1, ih h.2, htexts, List.forall_mem_cons]

end StatementPart

/-! ## Columns -/

/-- The text of a default that is written as a literal. -/
def defaultText? : Value → Option String
  | .raw _ => none
  | .null => none
  | .bool b => some (if b then "1" else "0")
  | .int32 n => some (toString n.toInt)
  | .int64 n => some (toString n.toInt)
  | .float32 x => some (x.plainText .single)
  | .float64 x => some (x.plainText .double)
  | .string s => some s
  | .bytes octets => some (Text.Utf8.decodeLossy octets)
  | .json j => some j.compact

/-- A default as a part of a statement. -/
def defaultPart (value : Value) : StatementPart :=
  match defaultText? value with
  | some text => .literal text
  | none => .sql (defaultLiteral value)

theorem written_defaultPart (value : Value) :
    (defaultPart value).written = defaultLiteral value := by
  cases value <;> rfl

/-- The values that a type allows. -/
def ColumnType.allowed : ColumnType → List String
  | .enumeration allowed => allowed
  | .set allowed => allowed
  | _ => []

/-- The texts of a column that are written as literals: the values that it allows, its default and
its comment. -/
def Column.texts (c : Column) : List String :=
  c.type.allowed ++ (c.default.bind defaultText?).toList ++ c.comment.toList

namespace MySql

open StatementPart

def typeParts (c : Column) : List StatementPart :=
  match c.type with
  | .enumeration allowed =>
    .sql "ENUM(" :: listed (allowed.map fun text => [.literal text]) ++ [.sql ")"]
  | .set allowed => .sql "SET(" :: listed (allowed.map fun text => [.literal text]) ++ [.sql ")"]
  | _ => [.sql (typeName c)]

def defaultParts (c : Column) : List StatementPart :=
  match c.default with
  | some value => [.sql " DEFAULT ", defaultPart value]
  | none => []

def commentParts (c : Column) : List StatementPart :=
  match c.comment with
  | some comment => [.sql " COMMENT ", .literal comment]
  | none => []

/-- What stands between the type of a column and its default. -/
def attributes (c : Column) : String :=
  (if c.type.isIntegral && (c.unsigned || c.increment) then " UNSIGNED" else "")
    ++ optional " CHARACTER SET " c.charset ++ optional " COLLATE " c.collation ++ nullClause c

/-- What stands behind the default of a column. -/
def keyClause (c : Column) : String :=
  if c.increment then " AUTO_INCREMENT PRIMARY KEY" else ""

def definitionParts (n : Naming) (c : Column) : List StatementPart :=
  .sql (n.reference c.name ++ " ") :: (typeParts c ++ .sql (attributes c) :: (defaultParts c ++
    .sql (keyClause c) :: (commentParts c ++ [.sql (placement n c)])))

/-- The parts of the statement that creates a table. -/
def createParts (n : Naming) (b : Blueprint) : List StatementPart :=
  .sql ("CREATE TABLE " ++ n.table b.name ++ " (") ::
    (listed (b.columns.map (definitionParts n)) ++
      [.sql (")" ++ optional " DEFAULT CHARACTER SET " b.charset ++ optional " COLLATE " b.collation
        ++ optional " ENGINE = " b.engine)])

/-- The parts of the statement that adds and changes columns. -/
def addParts (n : Naming) (b : Blueprint) : List StatementPart :=
  .sql ("ALTER TABLE " ++ n.table b.name ++ " ") ::
    listed (b.columns.map fun c =>
      .sql (if c.change then "MODIFY " else "ADD ") :: definitionParts n c)

/-! ## The parts make the statements -/

theorem statement_literals (texts : List String) :
    statement (listed (texts.map fun text => [.literal text])) = literals texts := by
  rw [statement_listed, List.map_map, literals, commas]
  refine congrArg (String.intercalate ", ") (List.map_congr_left fun text _ => ?_)
  exact statement_singleton (.literal text)

theorem statement_typeParts (c : Column) : statement (typeParts c) = typeName c := by
  have hlist (keyword : String) (allowed : List String) :
      statement (.sql keyword :: listed (allowed.map fun text => [.literal text]) ++ [.sql ")"]) =
        keyword ++ literals allowed ++ ")" := by
    rw [statement_append, statement_cons, statement_literals, statement_singleton]
    rfl
  unfold typeParts
  cases htype : c.type
  case enumeration allowed => rw [typeName, htype]; exact hlist "ENUM(" allowed
  case set allowed => rw [typeName, htype]; exact hlist "SET(" allowed
  all_goals exact statement_singleton _

theorem statement_defaultParts (c : Column) : statement (defaultParts c) = defaultClause c := by
  unfold defaultParts defaultClause
  cases c.default with
  | none => rfl
  | some value => rw [statement_cons, statement_singleton, written_defaultPart]; rfl

theorem statement_commentParts (c : Column) :
    statement (commentParts c) = optional " COMMENT " (c.comment.map literal) := by
  unfold commentParts
  cases c.comment with
  | none => rfl
  | some comment => rw [statement_cons, statement_singleton]; rfl

theorem statement_definitionParts (n : Naming) (c : Column) :
    statement (definitionParts n c) = definition n c := by
  simp only [definitionParts, statement_cons, statement_append, statement_typeParts,
    statement_defaultParts, statement_commentParts, statement_nil, written, attributes, keyClause,
    definition, String.append_assoc, String.append_empty]

theorem statement_createParts (n : Naming) (b : Blueprint) :
    statement (createParts n b) = createTable n b := by
  have hcolumns : (b.columns.map (definitionParts n)).map statement =
      b.columns.map (definition n) := by
    rw [List.map_map]
    exact List.map_congr_left fun c _ => statement_definitionParts n c
  rw [createParts, statement_cons, statement_append, statement_listed, hcolumns,
    statement_singleton]
  unfold createTable
  simp only [written, String.append_assoc]

theorem statement_addParts (n : Naming) (b : Blueprint) :
    statement (addParts n b) = alter n b (commas (b.columns.map (addColumn n))) := by
  have hcolumns : (b.columns.map fun c =>
      .sql (if c.change then "MODIFY " else "ADD ") :: definitionParts n c).map statement =
      b.columns.map (addColumn n) := by
    rw [List.map_map]
    refine List.map_congr_left fun c _ => ?_
    exact (statement_cons _ _).trans (congrArg _ (statement_definitionParts n c))
  rw [addParts, statement_cons, statement_listed, hcolumns, alter]
  rfl

/-! ## The texts are those of the columns -/

theorem texts_typeParts (c : Column) : texts (typeParts c) = c.type.allowed := by
  have hlist (keyword : String) (allowed : List String) :
      texts (.sql keyword :: listed (allowed.map fun text => [.literal text]) ++ [.sql ")"]) =
        allowed := by
    rw [texts_append]
    refine (List.append_nil _).trans ((texts_listed _).trans ?_)
    rw [List.flatMap_map]
    exact List.flatMap_singleton' allowed
  unfold typeParts
  cases c.type
  case enumeration allowed => exact hlist "ENUM(" allowed
  case set allowed => exact hlist "SET(" allowed
  all_goals rfl

theorem texts_definitionParts (n : Naming) (c : Column) :
    texts (definitionParts n c) = c.texts := by
  have hdefault : texts (defaultParts c) = (c.default.bind defaultText?).toList := by
    unfold defaultParts
    cases c.default with
    | none => rfl
    | some value => cases value <;> rfl
  have hcomment : texts (commentParts c) = c.comment.toList := by
    unfold commentParts
    cases c.comment <;> rfl
  simp only [definitionParts, texts_sql, texts_append, texts_typeParts, hdefault, hcomment,
    texts_nil, List.append_nil, Column.texts, List.append_assoc]

theorem texts_createParts (n : Naming) (b : Blueprint) :
    texts (createParts n b) = b.columns.flatMap Column.texts := by
  rw [createParts, texts_sql, texts_append, texts_sql, texts_nil, List.append_nil, texts_listed,
    List.flatMap_map]
  exact congrArg (b.columns.flatMap ·) (funext (texts_definitionParts n))

theorem texts_addParts (n : Naming) (b : Blueprint) :
    texts (addParts n b) = b.columns.flatMap Column.texts := by
  rw [addParts, texts_sql, texts_listed, List.flatMap_map]
  exact congrArg (b.columns.flatMap ·) (funext (texts_definitionParts n))

/-! ## No quotes behind a literal -/

theorem separated_typeParts (c : Column) : Separated (typeParts c) := by
  have hlist (keyword : String) (allowed : List String) : Separated
      (.sql keyword :: listed (allowed.map fun text => [.literal text]) ++ [.sql ")"]) := by
    refine separated_append (separated_listed fun item hitem => ?_) trivial (by decide)
    obtain ⟨text, -, rfl⟩ := List.mem_map.1 hitem
    exact ⟨by decide, trivial⟩
  unfold typeParts
  cases c.type
  case enumeration allowed => exact hlist "ENUM(" allowed
  case set allowed => exact hlist "SET(" allowed
  all_goals trivial

theorem open_attributes (c : Column) : Open (attributes c) := by
  have hunsigned : Open
      (if c.type.isIntegral && (c.unsigned || c.increment) then " UNSIGNED" else "") := by
    split <;> decide
  have hnull : Open (nullClause c) := by
    unfold nullClause
    split <;> decide
  have hcharset := open_optional " CHARACTER SET " (by decide) c.charset
  have hcollation := open_optional " COLLATE " (by decide) c.collation
  exact ((hunsigned.append hcharset).append hcollation).append hnull

theorem open_keyClause (c : Column) : Open (keyClause c) := by
  unfold keyClause
  split <;> decide

theorem open_placement (n : Naming) (c : Column) : Open (placement n c) := by
  unfold placement
  cases c.after with
  | some column => exact open_keyword " AFTER " (by decide) _
  | none =>
    dsimp only
    split <;> decide

theorem separated_defaultParts (c : Column) : Separated (defaultParts c) := by
  unfold defaultParts
  cases c.default with
  | none => trivial
  | some value => cases value <;> trivial

theorem separated_commentParts (c : Column) : Separated (commentParts c) := by
  unfold commentParts
  cases c.comment with
  | none => trivial
  | some comment => exact ⟨by decide, trivial⟩

/-- Behind each of its literals a definition goes on with a blank, a comma or a bracket. -/
theorem separated_definitionParts (n : Naming) (c : Column) : Separated (definitionParts n c) := by
  have hplacement : Open (statement [.sql (placement n c)]) := by
    rw [statement_singleton]
    exact open_placement n c
  have hcomment : Open (statement (.sql (keyClause c) ::
      (commentParts c ++ [.sql (placement n c)]))) := by
    rw [statement_cons, statement_append, statement_commentParts]
    have hclause := open_optional " COMMENT " (by decide) (c.comment.map literal)
    exact (open_keyClause c).append (hclause.append hplacement)
  have hdefault : Open (defaultClause c) := by
    unfold defaultClause
    cases c.default with
    | none => exact (by decide : Open "")
    | some value => exact open_keyword " DEFAULT " (by decide) _
  rw [definitionParts, Separated]
  refine separated_append (separated_typeParts c) ?_ ?_
  · refine separated_append (separated_defaultParts c) ?_ hcomment
    exact separated_append (separated_commentParts c) trivial hplacement
  · rw [statement_cons, statement_append, statement_defaultParts]
    exact (open_attributes c).append (hdefault.append hcomment)

theorem separated_createParts (n : Naming) (b : Blueprint) : Separated (createParts n b) := by
  refine separated_append (separated_listed fun item hitem => ?_) trivial ?_
  · obtain ⟨c, -, rfl⟩ := List.mem_map.1 hitem
    exact separated_definitionParts n c
  · rw [statement_singleton, written, String.append_assoc, String.append_assoc]
    exact open_keyword ")" (by decide) _

theorem separated_addParts (n : Naming) (b : Blueprint) : Separated (addParts n b) := by
  refine separated_listed fun item hitem => ?_
  obtain ⟨c, -, rfl⟩ := List.mem_map.1 hitem
  exact separated_definitionParts n c

/-! ## Statements of MySQL -/

/-- A command is one statement of parts, and its literals are the texts of the columns. -/
def MadeOf (g : Ddl) (b : Blueprint) (c : Command) (parts : List StatementPart) : Prop :=
  g.compile b c = .ok [statement parts] ∧ texts parts = b.columns.flatMap Column.texts

theorem readsBack_columns_iff {e : Escapes} {b : Blueprint} {parts : List StatementPart}
    (htexts : texts parts = b.columns.flatMap Column.texts) (h : Separated parts) :
    ReadsBack e parts ↔ ∀ c ∈ b.columns, ∀ text ∈ c.texts, e.Keeps text.toList := by
  rw [StatementPart.readsBack_iff h, htexts, List.forall_mem_flatMap]

/-- The statements that create a table and that add or change columns have the allowed values, the
defaults and the comments of all columns as their literals. Each of these ends where it was meant to
and is read as the text it was written for, exactly if every backslash in them stands before a
character that it has no meaning for. -/
theorem readsBack_statements_iff (e : Escapes) (tablePrefix : String) (b : Blueprint) :
    MadeOf (ddl tablePrefix) b .create (createParts (ddl tablePrefix).naming b) ∧
      MadeOf (ddl tablePrefix) b .add (addParts (ddl tablePrefix).naming b) ∧
      (ReadsBack e (createParts (ddl tablePrefix).naming b) ↔
        ∀ c ∈ b.columns, ∀ text ∈ c.texts, e.Keeps text.toList) ∧
      (ReadsBack e (addParts (ddl tablePrefix).naming b) ↔
        ∀ c ∈ b.columns, ∀ text ∈ c.texts, e.Keeps text.toList) := by
  have hcreate := texts_createParts (ddl tablePrefix).naming b
  have hadd := texts_addParts (ddl tablePrefix).naming b
  refine ⟨⟨?_, hcreate⟩, ⟨?_, hadd⟩, ?_, ?_⟩
  · rw [statement_createParts]
    rfl
  · rw [statement_addParts]
    rfl
  · exact readsBack_columns_iff hcreate (separated_createParts _ b)
  · exact readsBack_columns_iff hadd (separated_addParts _ b)

/-- A table with a column of two values, a backslash and what looks like the end of a statement. -/
def backslashSteps : List Blueprint.Step :=
  [.command .create, .column "e" (.enumeration ["\\", ") --"]) []]

/-- The first value is read on into the second one, of which the text is then SQL. -/
theorem not_readsBack :
    (ddl "").compile (Blueprint.ofSteps "t" backslashSteps) .create =
      .ok ["CREATE TABLE \x60t\x60 (\x60e\x60 ENUM('\\', ') --') NOT NULL)"] ∧
    Escapes.mysql.readLiteral "'\\', ') --') NOT NULL)".toList =
      some ("', ".toList, ") --') NOT NULL)".toList) ∧
    ¬ ReadsBack Escapes.mysql
      (createParts (ddl "").naming (Blueprint.ofSteps "t" backslashSteps)) :=
  ⟨by decide +kernel, by decide +kernel, by decide +kernel⟩

end MySql

end SqlBuilder.Schema
