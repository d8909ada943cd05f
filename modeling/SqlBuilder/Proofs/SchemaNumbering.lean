import SqlBuilder.Proofs.Implications
import SqlBuilder.Proofs.Numbering

/-!
# Numbered schema statements

Schema statements have no parameters, but they are numbered like all others. On Postgres a question
mark can stand in a name, which is between double quotes, or in a comment, a default or an allowed
value, which is between single quotes; and a quote of either kind can stand between quotes of the
other. Each of these is inert by itself (`Naming.inert_reference`, `inert_literal`), so every
statement is, and numbering leaves it as it is (`number_of_build`).

What is verbatim in a statement has to be inert on its own: a name that is between double quotes
already, a default of raw SQL, and the actions of a foreign key.
-/

namespace SqlBuilder.Schema

/-- A name that is not between double quotes already. -/
def Unquoted (name : String) : Prop :=
  (Dialect.quotes .postgres).isQuoted name.toList = false

instance (name : String) : Decidable (Unquoted name) :=
  inferInstanceAs (Decidable (_ = _))

/-- A reference that is not between double quotes already, with its alias or without, and has no
name that is. -/
structure Bare (name : String) : Prop where
  whole : Unquoted name
  path : (Dialect.quotes .postgres).isQuoted
    (['.'].intercalate (Reference.ofText name.toList).path) = false
  names : (Reference.ofText name.toList).Unquoted (Dialect.quotes .postgres)

instance (name : String) : Decidable (Bare name) :=
  decidable_of_iff
    (Unquoted name ∧ (Dialect.quotes .postgres).isQuoted
        (['.'].intercalate (Reference.ofText name.toList).path) = false ∧
      (Reference.ofText name.toList).Unquoted (Dialect.quotes .postgres))
    ⟨fun ⟨h₁, h₂, h₃⟩ => ⟨h₁, h₂, h₃⟩, fun h => ⟨h.whole, h.path, h.names⟩⟩

/-- A column whose names are not between double quotes and whose default is not verbatim. -/
structure Column.Bare (c : Column) : Prop where
  name : Schema.Bare c.name
  default : ∀ value ∈ c.default, value.isRaw = false
  indexes : ∀ i ∈ c.indexes, ∀ given ∈ i.name, Unquoted given

structure ForeignKey.Bare (f : ForeignKey) : Prop where
  name : Unquoted f.name
  columns : ∀ c ∈ f.columns, Schema.Bare c
  references : ∀ c ∈ f.references, Schema.Bare c
  on : ∀ table ∈ f.on, Schema.Bare table
  onDelete : ∀ action ∈ f.onDelete, action.toList.all isPlain = true
  onUpdate : ∀ action ∈ f.onUpdate, action.toList.all isPlain = true

structure Index.Bare (i : Index) : Prop where
  name : Unquoted i.name
  columns : ∀ c ∈ i.columns, Schema.Bare c

/-- A command whose names are not between double quotes. -/
def Command.Bare : Command → Prop
  | .rename target => Schema.Bare target
  | .dropColumn columns => ∀ c ∈ columns, Schema.Bare c
  | .dropColumnIfExists columns => ∀ c ∈ columns, Schema.Bare c
  | .renameColumn source target => Schema.Bare source ∧ Schema.Bare target
  | .index i => i.Bare
  | .foreign f => f.Bare
  | .dropPrimary given => ∀ name ∈ given, Unquoted name
  | .dropUnique name => Unquoted name
  | .dropFulltext name => Unquoted name
  | .dropIndex name => Unquoted name
  | .dropSpatial name => Unquoted name
  | .dropForeign name => Unquoted name
  | .dropIndexIfExists name => Unquoted name
  | .dropUniqueIfExists name => Unquoted name
  | .dropFulltextIfExists name => Unquoted name
  | .dropForeignIfExists name => Unquoted name
  | .create => True
  | .add => True
  | .drop => True
  | .dropIfExists => True

structure Blueprint.Bare (b : Blueprint) : Prop where
  name : Schema.Bare b.name
  columns : ∀ c ∈ b.columns, c.Bare
  commands : ∀ c ∈ b.commands, c.Bare

/-! ## Literals -/

/-- The quotes of a string literal. -/
def literalQuotes : Quotes :=
  ⟨'\x27', '\x27'⟩

theorem toList_literal (text : String) :
    (literal text).toList = literalQuotes.enclose text.toList :=
  String.toList_ofList

/-- A statement or a part of one that is left out of the numbering of parameters. -/
abbrev Inert (sql : String) : Prop :=
  Piece.Inert (.text sql)

theorem inert : TextClass Piece.Inert :=
  Piece.inert_textClass

theorem inert_literal (text : String) : Inert (literal text) := by
  rw [Inert, Piece.Inert, toList_literal]
  exact Quotes.inert_enclose rfl rfl text.toList

theorem inert_commas {parts : List String} (h : ∀ part ∈ parts, Inert part) :
    Inert (commas parts) :=
  inert.intercalate (inert.plain (by decide)) h

theorem inert_literals (texts : List String) : Inert (literals texts) := by
  refine inert_commas fun part hpart => ?_
  obtain ⟨text, -, rfl⟩ := List.mem_map.1 hpart
  exact inert_literal text

/-- A default is a literal or a keyword, unless it is SQL. -/
theorem inert_defaultLiteral {v : Value} (h : v.isRaw = false) : Inert (defaultLiteral v) := by
  cases v with
  | raw sql => cases h
  | null => exact inert.plain (by decide)
  | _ => exact inert_literal _

/-! ## Names -/

theorem isQuoted_eq_false {q : Quotes} {cs : List Char} (h : cs.getLast? ≠ some q.closing) :
    q.isQuoted cs = false :=
  Bool.eq_false_iff.2 (mt Quotes.getLast?_of_isQuoted h)

/-- A text in small letters ends in the small form of its last character. -/
theorem exists_lowercaseAfter_append {c : Char} (hc : c ≠ Text.capitalSigma) :
    ∀ cs before : List Char,
      ∃ front, Text.lowercaseAfter before (cs ++ [c]) = front ++ Text.lowerChar c
  | [], before => ⟨[], by simp [Text.lowercaseAfter, hc]⟩
  | d :: cs, before => by
    obtain ⟨front, hfront⟩ := exists_lowercaseAfter_append hc cs (d :: before)
    rw [List.cons_append, Text.lowercaseAfter, hfront, ← List.append_assoc]
    exact ⟨_, rfl⟩

theorem IndexKind.getLast?_name (kind : IndexKind) :
    ∃ c, kind.name.toList.getLast? = some c ∧ c.isAlpha ∧ Text.lowerChar c = [c] := by
  cases kind with
  | primary => exact ⟨'y', by decide +kernel⟩
  | unique => exact ⟨'e', by decide +kernel⟩
  | fulltext => exact ⟨'t', by decide +kernel⟩
  | index => exact ⟨'x', by decide +kernel⟩
  | spatial => exact ⟨'l', by decide +kernel⟩

/-- The default name of an index ends in a letter. -/
theorem unquoted_defaultName (table : String) (columns : List String) (kind : IndexKind) :
    Unquoted (defaultName table columns kind.name) := by
  obtain ⟨c, hlast, halpha, hsmall⟩ := kind.getLast?_name
  obtain ⟨word, hword⟩ := List.getLast?_eq_some_iff.1 hlast
  have hne {d : Char} (hd : d.isAlpha = false) : c ≠ d := by
    rintro rfl
    exact absurd (halpha.symm.trans hd) (by decide)
  have hname : (table ++ "_" ++ String.intercalate "_" columns ++ "_" ++ kind.name).toList =
      (table ++ "_" ++ String.intercalate "_" columns ++ "_").toList ++ word ++ [c] := by
    rw [String.toList_append, hword, List.append_assoc]
  obtain ⟨front, hfront⟩ := exists_lowercaseAfter_append (c := c) (hne rfl)
    ((table ++ "_" ++ String.intercalate "_" columns ++ "_").toList ++ word) []
  have hkept : (if c = '-' || c = '.' then '_' else c) = c := by
    simp [hne (d := '-') rfl, hne (d := '.') rfl]
  refine isQuoted_eq_false ?_
  rw [defaultName, String.toList_ofList, hname, Text.lowercase, hfront, hsmall, List.map_append,
    List.map_singleton, List.getLast?_concat, hkept]
  exact fun hquote => hne rfl (Option.some.inj hquote)

namespace Postgres

/-- Names are written as for Postgres, behind a prefix without double quotes. -/
structure Writes (n : Naming) : Prop where
  quotes : n.quotes = Dialect.quotes .postgres
  free : '\x22' ∉ n.tablePrefix.toList

section

variable {n : Naming} (hn : Writes n)
include hn

theorem inert_value {name : String} (h : Unquoted name) : Inert (n.value name) := by
  rw [Unquoted, ← hn.quotes] at h
  rw [Inert, Piece.Inert, Naming.value, String.toList_ofList]
  exact Naming.inert_quote hn.quotes h

theorem inert_reference {column : String} (h : Bare column) : Inert (n.reference column) :=
  Naming.inert_reference hn.quotes hn.free (hn.quotes ▸ h.names)

theorem inert_table {name : String} (h : Bare name) : Inert (n.table name) :=
  Naming.inert_table hn.quotes hn.free (hn.quotes ▸ h.names) (hn.quotes ▸ h.path)

theorem inert_references {columns : List String} (h : ∀ c ∈ columns, Bare c) :
    Inert (n.references columns) := by
  refine inert_commas fun part hpart => ?_
  obtain ⟨column, hcolumn, rfl⟩ := List.mem_map.1 hpart
  exact inert_reference hn (h column hcolumn)

/-! ## Columns -/

theorem inert_checkAllowed {c : Column} (h : c.Bare) (allowed : List String) :
    Inert (checkAllowed n c allowed) := by
  have hhead := inert.behind "CHECK (" (by decide) (inert_reference hn h.name)
  have hlist := inert.between " IN (" (by decide) hhead (inert_literals allowed)
  exact inert.before "))" (by decide) hlist

theorem inert_typeName {c : Column} (h : c.Bare) {type : String} (htype : typeName n c = .ok type) :
    Inert type := by
  have hlength {keyword : String} (hkeyword : Inert keyword) (length : Nat) :
      Inert (keyword ++ toString length ++ ")") :=
    inert.before ")" (by decide) (inert.append hkeyword (inert.ofNat length))
  have hserial {serial plain : String} (hs : Inert serial) (hp : Inert plain) :
      Inert (if c.increment then serial else plain) := by
    split
    · exact hs
    · exact hp
  unfold typeName at htype
  cases hkind : c.type
  all_goals
    rw [hkind] at htype
    cases htype
  case integer => exact hserial (inert.plain (by decide)) (inert.plain (by decide))
  case bigInteger => exact hserial (inert.plain (by decide)) (inert.plain (by decide))
  case smallInteger => exact hserial (inert.plain (by decide)) (inert.plain (by decide))
  case string length => exact hlength (inert.plain (by decide)) length.toNat
  case char length => exact hlength (inert.plain (by decide)) length.toNat
  case decimal precision scale =>
    have hprecision := inert.behind "DECIMAL(" (by decide) (inert.ofNat precision.toNat)
    exact hlength (inert.before ", " (by decide) hprecision) scale.toNat
  case enumeration allowed =>
    exact inert.behind "VARCHAR(255) " (by decide) (inert_checkAllowed hn h allowed)
  all_goals exact inert.plain (by decide)

omit hn in
theorem inert_defaultClause {c : Column} (h : c.Bare) : Inert (defaultClause c) := by
  unfold defaultClause
  cases hdefault : c.default with
  | none => exact inert.plain (by decide)
  | some v =>
    exact inert.behind " DEFAULT " (by decide) (inert_defaultLiteral (h.default v hdefault))

theorem inert_definition {c : Column} (h : c.Bare) {text : String}
    (htext : definition n c = .ok text) : Inert text := by
  obtain ⟨type, htype, htext⟩ := bind_eq_ok.1 htext
  cases htext
  have hnull : Inert (nullClause c) := by
    unfold nullClause
    split <;> exact inert.plain (by decide)
  have hkey : Inert (if c.increment then " PRIMARY KEY" else "") := by
    split <;> exact inert.plain (by decide)
  have htyped := inert.between " " (by decide) (inert_reference hn h.name)
    (inert_typeName hn h htype)
  exact inert.append (inert.append (inert.append htyped hnull) (inert_defaultClause h)) hkey

theorem inert_changedColumn {c : Column} (h : c.Bare) {clauses : List String}
    (hclauses : changedColumn n c = .ok clauses) : ∀ clause ∈ clauses, Inert clause := by
  obtain ⟨type, htype, hclauses⟩ := bind_eq_ok.1 hclauses
  cases hclauses
  have hcolumn := inert.behind "ALTER COLUMN " (by decide) (inert_reference hn h.name)
  have hnull : Inert (if c.nullable then " DROP NOT NULL" else " SET NOT NULL") := by
    split <;> exact inert.plain (by decide)
  intro clause hclause
  rcases List.mem_append.1 hclause with hclause | hclause
  · rcases List.mem_pair.1 hclause with rfl | rfl
    · exact inert.between " TYPE " (by decide) hcolumn (inert_typeName hn h htype)
    · exact inert.append hcolumn hnull
  · obtain ⟨value, hvalue, rfl⟩ := Option.map_eq_some_iff.1 (Option.mem_toList.1 hclause)
    have hdefault := inert_defaultLiteral (h.default value hvalue)
    exact inert.between " SET DEFAULT " (by decide) hcolumn hdefault

theorem inert_columnClauses {c : Column} (h : c.Bare) {clauses : List String}
    (hclauses : columnClauses n c = .ok clauses) : ∀ clause ∈ clauses, Inert clause := by
  unfold columnClauses at hclauses
  split at hclauses
  · exact inert_changedColumn hn h hclauses
  · cases hdefinition : definition n c with
    | error e =>
      rw [hdefinition] at hclauses
      cases hclauses
    | ok text =>
      rw [hdefinition] at hclauses
      cases hclauses
      have hadded := inert.behind "ADD COLUMN " (by decide) (inert_definition hn h hdefinition)
      exact List.forall_mem_singleton.2 hadded

/-! ## Statements -/

section

variable {b : Blueprint} (hb : b.Bare)
include hb

theorem inert_alter {clause : String} (h : Inert clause) : Inert (alter n b clause) := by
  have htable := inert.behind "ALTER TABLE " (by decide) (inert_table hn hb.name)
  exact inert.between " " (by decide) htable h

theorem inert_commentStatements : ∀ sql ∈ commentStatements n b, Inert sql := by
  intro sql hsql
  obtain ⟨c, hc, hcomment⟩ := List.mem_filterMap.1 hsql
  obtain ⟨comment, -, rfl⟩ := Option.map_eq_some_iff.1 hcomment
  have htable := inert.behind "COMMENT ON COLUMN " (by decide) (inert_table hn hb.name)
  have hcolumn := inert.between "." (by decide) htable
    (inert_value hn (hb.columns c hc).name.whole)
  exact inert.between " IS " (by decide) hcolumn (inert_literal comment)

omit hn in
/-- What is written for every column has a property if what is written for one has it. -/
theorem forall_mem_of_mapM {α : Type} {f : Column → Except Error α} {P : α → Prop}
    (hf : ∀ c : Column, c.Bare → ∀ a, f c = .ok a → P a) {as : List α}
    (has : b.columns.mapM f = .ok as) : ∀ a ∈ as, P a := by
  intro a ha
  have hmem : .ok a ∈ b.columns.map f := by
    rw [mapM_eq_ok_iff.1 has]
    exact List.mem_map_of_mem ha
  obtain ⟨c, hc, hca⟩ := List.mem_map.1 hmem
  exact hf c (hb.columns c hc) a hca

theorem inert_createTable {sqls : List String} (h : createTable n b = .ok sqls) :
    ∀ sql ∈ sqls, Inert sql := by
  obtain ⟨definitions, hdefinitions, h⟩ := bind_eq_ok.1 h
  cases h
  have hcolumns := inert_commas
    (forall_mem_of_mapM hb (fun c hc text => inert_definition hn hc) hdefinitions)
  have htable := inert.behind "CREATE TABLE " (by decide) (inert_table hn hb.name)
  have hopened := inert.between " (" (by decide) htable hcolumns
  exact List.forall_mem_cons.2 ⟨inert.before ")" (by decide) hopened, inert_commentStatements hn hb⟩

theorem inert_addColumns {sqls : List String} (h : addColumns n b = .ok sqls) :
    ∀ sql ∈ sqls, Inert sql := by
  obtain ⟨clauses, hclauses, h⟩ := bind_eq_ok.1 h
  cases h
  have hall := forall_mem_of_mapM hb (fun c hc texts => inert_columnClauses hn hc) hclauses
  refine List.forall_mem_cons.2 ⟨inert_alter hn hb (inert_commas ?_), inert_commentStatements hn hb⟩
  intro clause hclause
  obtain ⟨texts, htexts, hmem⟩ := List.mem_flatten.1 hclause
  exact hall texts htexts clause hmem

theorem inert_indexStatement {i : Index} (hi : i.Bare) {target : String} (htarget : Inert target) :
    Inert (indexStatement n b i target) := by
  have hname := inert.behind "CREATE INDEX " (by decide) (inert_value hn hi.name)
  have htable := inert.between " ON " (by decide) hname (inert_table hn hb.name)
  exact inert.between " " (by decide) htable htarget

theorem inert_index {i : Index} (hi : i.Bare) : Inert (index n b i) := by
  have hcolumns : Inert (n.references i.columns) := inert_references hn hi.columns
  have hclosed {before : String} (hbefore : Inert before) :
      Inert (before ++ n.references i.columns ++ ")") :=
    inert.before ")" (by decide) (inert.append hbefore hcolumns)
  unfold index
  cases i.kind with
  | primary => exact inert_alter hn hb (hclosed (inert.plain (by decide)))
  | unique =>
    have hname := inert.behind "ADD CONSTRAINT " (by decide) (inert_value hn hi.name)
    exact inert_alter hn hb (hclosed (inert.before " UNIQUE (" (by decide) hname))
  | index => exact inert_indexStatement hn hb hi (hclosed (inert.plain (by decide)))
  | fulltext =>
    have hdocument : Inert (String.intercalate " || ' ' || " (i.columns.map n.reference)) := by
      refine inert.intercalate ⟨rfl, rfl⟩ fun part hpart => ?_
      obtain ⟨column, hcolumn, rfl⟩ := List.mem_map.1 hpart
      exact inert_reference hn (hi.columns column hcolumn)
    have hopened : Inert "USING gin(to_tsvector('english', " := ⟨rfl, rfl⟩
    exact inert_indexStatement hn hb hi
      (inert.before "))" (by decide) (inert.append hopened hdocument))
  | spatial => exact inert_indexStatement hn hb hi (hclosed (inert.plain (by decide)))

omit hn hb in
theorem inert_optional {k : String} (hkeyword : Inert k) {text : Option String}
    (h : ∀ action ∈ text, action.toList.all isPlain = true) : Inert (optional k text) := by
  cases text with
  | none => exact inert.plain (s := "") (by decide)
  | some action => exact inert.append hkeyword (inert.plain (h action rfl))

theorem inert_addForeign {f : ForeignKey} (hf : f.Bare) {sqls : List String}
    (h : addForeign n b f = .ok sqls) : ∀ sql ∈ sqls, Inert sql := by
  obtain ⟨reference, hreference, h⟩ := bind_eq_ok.1 h
  cases h
  have hclause : Inert reference := by
    unfold referenceClause at hreference
    cases hon : f.on with
    | none =>
      rw [hon] at hreference
      cases hreference
    | some table =>
      rw [hon] at hreference
      dsimp only at hreference
      split at hreference
      · cases hreference
      · cases hreference
        have hcolumns := inert.behind "FOREIGN KEY (" (by decide)
          (inert_references hn hf.columns)
        have htable := inert.between ") REFERENCES " (by decide) hcolumns
          (inert_table hn (hf.on table hon))
        have hreferences := inert.between " (" (by decide) htable
          (inert_references hn hf.references)
        have hdelete := inert.between ")" (by decide) hreferences
          (inert_optional (k := " ON DELETE ") (inert.plain (by decide)) hf.onDelete)
        exact inert.append hdelete (inert_optional (inert.plain (by decide)) hf.onUpdate)
  have hname := inert.behind "ADD CONSTRAINT " (by decide) (inert_value hn hf.name)
  exact List.forall_mem_singleton.2
    (inert_alter hn hb (inert.between " " (by decide) hname hclause))

theorem inert_droppedColumns {guard : String} (hguard : Inert guard) {columns : List String}
    (hcolumns : ∀ c ∈ columns, Bare c) : Inert (droppedColumns n b guard columns) := by
  refine inert_alter hn hb (inert_commas fun part hpart => ?_)
  obtain ⟨column, hcolumn, rfl⟩ := List.mem_map.1 hpart
  have hdrop := inert.behind "DROP COLUMN " (by decide) hguard
  exact inert.append hdrop (inert_reference hn (hcolumns column hcolumn))

omit hn hb in
/-- The name of the primary key ends in a letter. -/
theorem unquoted_primaryName : Unquoted (primaryName n b) := by
  refine isQuoted_eq_false ?_
  rw [primaryName, String.toList_append, List.getLast?_append]
  exact fun hquote => absurd (Option.some.inj hquote) (by decide)

end

end

/-- The statements of a command are inert. -/
theorem inert_compile {tablePrefix : String} (hfree : '\x22' ∉ tablePrefix.toList) {b : Blueprint}
    (hb : b.Bare) {c : Command} (hc : c.Bare) {sqls : List String}
    (h : (ddl tablePrefix).compile b c = .ok sqls) : ∀ sql ∈ sqls, Inert sql := by
  have hn : Writes (ddl tablePrefix).naming := ⟨rfl, hfree⟩
  have hnamed {keyword name : String} (hkeyword : Inert keyword) (hname : Unquoted name) :
      Inert (keyword ++ (ddl tablePrefix).naming.value name) :=
    inert.append hkeyword (inert_value hn hname)
  have htable {keyword name : String} (hkeyword : Inert keyword) (hname : Bare name) :
      Inert (keyword ++ (ddl tablePrefix).naming.table name) :=
    inert.append hkeyword (inert_table hn hname)
  cases c
  case create => exact inert_createTable hn hb h
  case add => exact inert_addColumns hn hb h
  case «foreign» f => exact inert_addForeign hn hb hc h
  -- all other commands have one statement
  all_goals
    cases h
    refine List.forall_mem_singleton.2 ?_
  case rename target => exact inert_alter hn hb (htable (inert.plain (by decide)) hc)
  case drop => exact htable (inert.plain (by decide)) hb.name
  case dropIfExists => exact htable (inert.plain (by decide)) hb.name
  case dropColumn columns => exact inert_droppedColumns hn hb (inert.plain (by decide)) hc
  case dropColumnIfExists columns => exact inert_droppedColumns hn hb (inert.plain (by decide)) hc
  case renameColumn source target =>
    have hsource := inert.behind "RENAME COLUMN " (by decide) (inert_reference hn hc.1)
    exact inert_alter hn hb (inert.between " TO " (by decide) hsource (inert_reference hn hc.2))
  case index i => exact inert_index hn hb hc
  case dropPrimary given =>
    have hname : Unquoted (given.getD (primaryName (ddl tablePrefix).naming b)) := by
      cases given with
      | none => exact unquoted_primaryName
      | some name => exact hc name rfl
    exact inert_alter hn hb (hnamed (inert.plain (by decide)) hname)
  case dropUnique name | dropForeign name | dropUniqueIfExists name | dropForeignIfExists name =>
    exact inert_alter hn hb (hnamed (inert.plain (by decide)) hc)
  all_goals exact hnamed (inert.plain (by decide)) hc

end Postgres

/-! ## Blueprints -/

theorem Ddl.forall_mem_compileAll {g : Ddl} {b : Blueprint} {P : String → Prop} {cs : List Command}
    (h : ∀ c ∈ cs, ∀ own, g.compile b c = .ok own → ∀ sql ∈ own, P sql) {sqls : List String}
    (hsqls : g.compileAll b cs = .ok sqls) : ∀ sql ∈ sqls, P sql := by
  induction cs generalizing sqls with
  | nil =>
    cases hsqls
    exact List.forall_mem_nil _
  | cons c cs ih =>
    obtain ⟨hc, hcs⟩ := List.forall_mem_cons.1 h
    obtain ⟨own, hown, hsqls⟩ := bind_eq_ok.1 hsqls
    obtain ⟨rest, hrest, hsqls⟩ := bind_eq_ok.1 hsqls
    cases hsqls
    exact List.forall_mem_append.2 ⟨hc own hown, ih hcs hrest⟩

/-- The implied indexes are on columns of the blueprint, under names given with the columns or
default ones. -/
theorem Blueprint.Bare.complete {b : Blueprint} (hb : b.Bare) : b.complete.Bare := by
  unfold Blueprint.complete
  split
  · exact hb
  · have hbefore : ∀ c ∈ b.impliedBefore, c.Bare := by
      rw [Blueprint.impliedBefore_eq]
      split
      · exact List.forall_mem_singleton.2 trivial
      · exact List.forall_mem_nil _
    have hafter : ∀ c ∈ b.impliedAfter, c.Bare := by
      intro c hc
      rw [Blueprint.impliedAfter_eq] at hc
      obtain ⟨column, hcolumn, hc⟩ := List.mem_flatMap.1 hc
      obtain ⟨i, hi, rfl⟩ := List.mem_map.1 hc
      have hbare := hb.columns column hcolumn
      refine ⟨?_, List.forall_mem_singleton.2 hbare.name⟩
      cases hgiven : i.name with
      | none => exact unquoted_defaultName b.name [column.name] i.kind
      | some given => exact hbare.indexes i hi given hgiven
    exact ⟨hb.name, hb.columns,
      List.forall_mem_append.2 ⟨List.forall_mem_append.2 ⟨hbefore, hb.commands⟩, hafter⟩⟩

/-- Numbering leaves the statements of a blueprint as they are, whatever stands in its comments, its
defaults and the values that its columns allow, and whatever characters its names consist of. -/
theorem Postgres.number_of_build {tablePrefix : String} (hfree : '\x22' ∉ tablePrefix.toList)
    {b : Blueprint} (hb : b.Bare) {sqls : List String}
    (h : ((ddl tablePrefix).build b).1 = .ok sqls) :
    ∀ sql ∈ sqls, Placeholder.number sql = sql := by
  have hinert : ∀ sql ∈ sqls, Inert sql := by
    refine Ddl.forall_mem_compileAll (fun c hc own hown => ?_) h
    exact inert_compile hfree hb.complete (hb.complete.commands c hc) hown
  intro sql hsql
  rw [Placeholder.number, Placeholder.scan_eq_self 0 (hinert sql hsql).unmarked,
    String.ofList_toList]

/-- Question marks and quotes of both kinds in names, a comment, allowed values and a default. -/
def notesBlueprint : Blueprint :=
  .ofSteps "it's.no?\x22tes"
    [.command .create,
      .column "wh\x22at? as \x22" (.enumeration ["a?", "it's", "\x22"])
        [.defaults (.bytes [0x27, 0x3F, 0x22]), .comment "it's \x22?", .index .fulltext],
      .foreign ["what?'"] none ["\x22i?d"] (some "oth\x22er?") (some "cascade") none]

theorem bare_notesBlueprint : notesBlueprint.Bare where
  name := by decide
  columns := List.forall_mem_singleton.2
    { name := by decide
      default := fun _ hv => Option.some.inj hv ▸ rfl
      indexes := List.forall_mem_singleton.2 fun _ hgiven => nomatch hgiven }
  commands := List.forall_mem_cons.2 ⟨trivial, List.forall_mem_singleton.2
    { name := by decide +kernel
      columns := by decide
      references := by decide
      on := fun _ ht => Option.some.inj ht ▸ by decide
      onDelete := fun _ ha => Option.some.inj ha ▸ by decide
      onUpdate := fun _ ha => nomatch ha }⟩

theorem Postgres.number_of_build_notes : ∃ sqls,
    ((ddl "app_?'").build notesBlueprint).1 = .ok sqls ∧ sqls.length = 4 ∧
      ∀ sql ∈ sqls, Placeholder.number sql = sql := by
  obtain ⟨sqls, hbuild, hlength⟩ :
      ∃ sqls, ((ddl "app_?'").build notesBlueprint).1 = .ok sqls ∧ sqls.length = 4 :=
    ⟨_, rfl, rfl⟩
  exact ⟨sqls, hbuild, hlength, number_of_build (by decide) bare_notesBlueprint hbuild⟩

end SqlBuilder.Schema
