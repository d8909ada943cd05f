import Mathlib.Data.List.Infix
import SqlBuilder.Proofs.Identifiers
import SqlBuilder.Schema.Migration

/-!
# Keys, made and removed

What the statements about keys say, read off their text: the statement that makes a key makes a
constraint or an index of its table, or a table of its own (`Makes`), and the statement that removes
one names such an object (`Removes`). The statement of a command that drops a key removes the object
that the command for the key made, with one exception: Postgres makes a primary key without the name
it was given, and removes the constraint of that name (`targets_iff`).
-/

namespace SqlBuilder.Schema

/-! ## Commands -/

/-- The second command drops the key of the first: the same sort of key under the same name. -/
inductive Undoes : Command → Command → Prop
  | primary (i : Index) (h : i.kind = .primary) : Undoes (.index i) (.dropPrimary (some i.name))
  | unique (i : Index) (h : i.kind = .unique) : Undoes (.index i) (.dropUnique i.name)
  | uniqueIfExists (i : Index) (h : i.kind = .unique) :
    Undoes (.index i) (.dropUniqueIfExists i.name)
  | fulltext (i : Index) (h : i.kind = .fulltext) : Undoes (.index i) (.dropFulltext i.name)
  | fulltextIfExists (i : Index) (h : i.kind = .fulltext) :
    Undoes (.index i) (.dropFulltextIfExists i.name)
  | index (i : Index) (h : i.kind = .index) : Undoes (.index i) (.dropIndex i.name)
  | indexIfExists (i : Index) (h : i.kind = .index) : Undoes (.index i) (.dropIndexIfExists i.name)
  | spatial (i : Index) (h : i.kind = .spatial) : Undoes (.index i) (.dropSpatial i.name)
  | foreign (f : ForeignKey) : Undoes (.foreign f) (.dropForeign f.name)
  | foreignIfExists (f : ForeignKey) : Undoes (.foreign f) (.dropForeignIfExists f.name)

/-! ## Statements -/

/-- What a key is in the database, with its identifier as it is written. -/
inductive KeyObject where
  /-- A constraint of the table. -/
  | constraint (identifier : String)
  | index (identifier : String)
  | table (identifier : String)
  /-- The primary key of a table, which has one. -/
  | primaryKey
  /-- The full-text index of a table, which has one. -/
  | fulltextIndex

/-- The words for an index of some sort. -/
def indexWords : List String :=
  ["INDEX", "UNIQUE INDEX", "FULLTEXT INDEX", "SPATIAL INDEX"]

/-- The words between a DROP and a name. -/
def guards : List String :=
  ["", "IF EXISTS "]

section Statements

variable (n : Naming)

/-- What a clause of an ALTER TABLE adds. To a primary key without a name Postgres gives the name
`unnamed`. -/
inductive Adds (unnamed : String) : Driver → String → KeyObject → Prop
  | constraint (d : Driver) (name rest : String) :
    Adds unnamed d ("ADD CONSTRAINT " ++ n.value name ++ " " ++ rest) (.constraint (n.value name))
  | index (word name rest : String) (h : word ∈ indexWords) :
    Adds unnamed .mysql ("ADD " ++ word ++ " " ++ n.value name ++ " " ++ rest)
      (.index (n.value name))
  | primaryKey (rest : String) : Adds unnamed .mysql ("ADD PRIMARY KEY " ++ rest) .primaryKey
  | primaryConstraint (rest : String) :
    Adds unnamed .postgres ("ADD PRIMARY KEY " ++ rest) (.constraint (n.value unnamed))

/-- What a statement makes for a table. -/
inductive Makes (unnamed table : String) : Driver → String → KeyObject → Prop
  | alter (d : Driver) (clause : String) (o : KeyObject) (h : Adds n unnamed d clause o) :
    Makes unnamed table d ("ALTER TABLE " ++ n.table table ++ " " ++ clause) o
  | index (d : Driver) (word name rest : String) (h : word ∈ indexWords) :
    Makes unnamed table d
      ("CREATE " ++ word ++ " " ++ n.value name ++ " ON " ++ n.table table ++ " " ++ rest)
      (.index (n.value name))
  | fulltextIndex (rest : String) :
    Makes unnamed table .sqlserver ("CREATE FULLTEXT INDEX ON " ++ n.table table ++ " " ++ rest)
      .fulltextIndex
  | table (name rest : String) :
    Makes unnamed table .sqlite ("CREATE VIRTUAL TABLE " ++ n.value name ++ " USING " ++ rest)
      (.table (n.value name))

/-- What a clause of an ALTER TABLE drops. -/
inductive Drops : Driver → String → KeyObject → Prop
  | constraint (d : Driver) (guard name : String) (h : guard ∈ guards) :
    Drops d ("DROP CONSTRAINT " ++ guard ++ n.value name) (.constraint (n.value name))
  | foreignKey (name : String) :
    Drops .mysql ("DROP FOREIGN KEY " ++ n.value name) (.constraint (n.value name))
  | index (name : String) : Drops .mysql ("DROP INDEX " ++ n.value name) (.index (n.value name))
  | primaryKey : Drops .mysql "DROP PRIMARY KEY" .primaryKey

/-- What a statement removes from a table. SQLite and Postgres find an index by its name, without
its table. -/
inductive Removes (table : String) : Driver → String → KeyObject → Prop
  | alter (d : Driver) (clause : String) (o : KeyObject) (h : Drops n d clause o) :
    Removes table d ("ALTER TABLE " ++ n.table table ++ " " ++ clause) o
  | index (d : Driver) (guard name : String) (hd : d = .sqlite ∨ d = .postgres)
    (h : guard ∈ guards) :
    Removes table d ("DROP INDEX " ++ guard ++ n.value name) (.index (n.value name))
  | tableIndex (guard name : String) (h : guard ∈ guards) :
    Removes table .sqlserver ("DROP INDEX " ++ guard ++ n.value name ++ " ON " ++ n.table table)
      (.index (n.value name))
  | fulltextIndex :
    Removes table .sqlserver ("DROP FULLTEXT INDEX ON " ++ n.table table) .fulltextIndex
  | table (guard name : String) (h : guard ∈ guards) :
    Removes table .sqlite ("DROP TABLE " ++ guard ++ n.value name) (.table (n.value name))

/-- One of the statements `made` makes for a table what the statement `removed` removes. -/
def Targets (unnamed table : String) (d : Driver) (made removed : List String) : Prop :=
  ∃ o, (∃ sql ∈ made, Makes n unnamed table d sql o) ∧
    ∃ sql, removed = [sql] ∧ Removes n table d sql o

end Statements

variable {n : Naming} {d : Driver} {unnamed tablePrefix : String} {b b' : Blueprint}
  {c c' : Command} {made removed : List String}

theorem Targets.of_makes {sql : String} {o : KeyObject} (hb : b'.name = b.name)
    (hmakes : ∃ sql ∈ made, Makes n unnamed b.name d sql o) (hremoves : Removes n b'.name d sql o) :
    Targets n unnamed b.name d made [sql] :=
  ⟨o, hmakes, sql, rfl, hb ▸ hremoves⟩

theorem exists_makes_singleton {sql : String} {o : KeyObject} (h : Makes n unnamed b.name d sql o) :
    ∃ sql' ∈ [sql], Makes n unnamed b.name d sql' o :=
  ⟨sql, List.mem_singleton_self sql, h⟩

/-! ## What the dialects share -/

/-- A constraint whose columns stand behind some words. -/
theorem makes_constraint (name columns rest : String) {words : String}
    (hwords : words = " " ++ rest) :
    Makes n unnamed b.name d
      (alter n b ("ADD CONSTRAINT " ++ n.value name ++ words ++ columns ++ ")"))
      (.constraint (n.value name)) := by
  refine .alter _ _ _ ?_
  have hadds : Adds n unnamed d _ (.constraint _) := .constraint d name (rest ++ columns ++ ")")
  simp only [hwords, String.append_assoc] at hadds ⊢
  exact hadds

theorem exists_makes_addForeign {f : ForeignKey} (h : addForeign n b f = .ok made) :
    ∃ sql ∈ made, Makes n unnamed b.name d sql (.constraint (n.value f.name)) := by
  obtain ⟨reference, -, h⟩ := bind_eq_ok.1 h
  cases h
  exact exists_makes_singleton (.alter _ _ _ (.constraint d f.name reference))

theorem removes_dropConstraint (name : String) :
    Removes n b.name d (dropConstraint n b name) (.constraint (n.value name)) := by
  have hdrops : Drops n d _ (.constraint _) := .constraint d "" name (by decide)
  rw [String.append_empty] at hdrops
  exact .alter _ _ _ hdrops

theorem removes_dropConstraintIfExists (name : String) :
    Removes n b.name d (alter n b ("DROP CONSTRAINT IF EXISTS " ++ n.value name))
      (.constraint (n.value name)) := by
  have hguard : "DROP CONSTRAINT IF EXISTS " = "DROP CONSTRAINT " ++ "IF EXISTS " := by decide
  rw [hguard]
  exact .alter _ _ _ (.constraint d "IF EXISTS " name (by decide))

/-- An index on columns, made by a statement of its own. -/
theorem makes_index {word : String} (h : word ∈ indexWords) (name columns : String) :
    Makes n unnamed b.name d ("CREATE " ++ word ++ " " ++ n.value name ++ " ON "
      ++ n.table b.name ++ " (" ++ columns ++ ")") (.index (n.value name)) := by
  have hparenthesis : " (" = " " ++ "(" := by decide
  have hmakes : Makes n unnamed b.name d _ (.index _) :=
    .index d word name ("(" ++ columns ++ ")") h
  simp only [hparenthesis, String.append_assoc] at hmakes ⊢
  exact hmakes

/-! ## MySQL -/

namespace MySql

theorem adds_primaryKey {i : Index} (h : i.kind = .primary) :
    Adds n unnamed .mysql (addIndex n i) .primaryKey := by
  have htext : addIndex n i = "ADD PRIMARY KEY " ++ ("(" ++ (n.references i.columns ++ ")")) := by
    have hwords : "ADD " ++ indexKeyword .primary ++ " " ++ "" = "ADD PRIMARY KEY " := by decide
    rw [addIndex, if_pos h, h, hwords, String.append_assoc, String.append_assoc]
  rw [htext]
  exact .primaryKey _

theorem adds_index {i : Index} (h : i.kind ≠ .primary) :
    Adds n unnamed .mysql (addIndex n i) (.index (n.value i.name)) := by
  have hword : indexKeyword i.kind ∈ indexWords := by
    cases hk : i.kind with
    | primary => exact absurd hk h
    | _ => decide
  have htext : addIndex n i = "ADD " ++ indexKeyword i.kind ++ " " ++ n.value i.name ++ " "
      ++ ("(" ++ n.references i.columns ++ ")") := by
    rw [addIndex, if_neg h]
    simp only [String.append_assoc]
  rw [htext]
  exact .index _ _ _ hword

theorem targets_index (hb : b'.name = b.name) {i : Index} (h : i.kind ≠ .primary) :
    Targets n unnamed b.name .mysql [alter n b (addIndex n i)]
      [alter n b' ("DROP INDEX " ++ n.value i.name)] :=
  .of_makes hb (exists_makes_singleton (.alter _ _ _ (adds_index h)))
    (.alter _ _ _ (.index i.name))

theorem targets (hb : b'.name = b.name) (h : Undoes c c')
    (hmade : (ddl tablePrefix).compile b c = .ok made)
    (hremoved : (ddl tablePrefix).compile b' c' = .ok removed) :
    Targets (ddl tablePrefix).naming unnamed b.name .mysql made removed := by
  cases h with
  | primary i hk =>
    cases hmade
    cases hremoved
    exact .of_makes hb (exists_makes_singleton (.alter _ _ _ (adds_primaryKey hk)))
      (.alter _ _ _ .primaryKey)
  | unique i hk =>
    cases hmade
    cases hremoved
    exact targets_index hb (by simp [hk])
  | fulltext i hk =>
    cases hmade
    cases hremoved
    exact targets_index hb (by simp [hk])
  | index i hk =>
    cases hmade
    cases hremoved
    exact targets_index hb (by simp [hk])
  | spatial i hk =>
    cases hmade
    cases hremoved
    exact targets_index hb (by simp [hk])
  | foreign f =>
    cases hremoved
    exact .of_makes hb (exists_makes_addForeign hmade) (.alter _ _ _ (.foreignKey f.name))
  -- nothing is dropped on the condition that it exists
  | uniqueIfExists => cases hremoved
  | fulltextIfExists => cases hremoved
  | indexIfExists => cases hremoved
  | foreignIfExists => cases hremoved

end MySql

/-! ## SQLite -/

namespace Sqlite

theorem removes_index (guard name : String) {word : String} (h : guard ∈ guards)
    (hword : "DROP " ++ word ++ " " = "DROP INDEX " ++ guard) :
    Removes n b.name .sqlite ("DROP " ++ word ++ " " ++ n.value name) (.index (n.value name)) := by
  rw [hword]
  exact .index _ _ _ (Or.inl rfl) h

theorem removes_table (guard name : String) {word : String} (h : guard ∈ guards)
    (hword : "DROP " ++ word ++ " " = "DROP TABLE " ++ guard) :
    Removes n b.name .sqlite ("DROP " ++ word ++ " " ++ n.value name) (.table (n.value name)) := by
  rw [hword]
  exact .table _ _ h

/-- An index that can be dropped is made by a statement of its own. -/
theorem exists_makes {i : Index} (hk : i.kind = .unique ∨ i.kind = .index)
    (h : (ddl tablePrefix).compile b (.index i) = .ok made) :
    ∃ sql ∈ made, Makes (ddl tablePrefix).naming unnamed b.name .sqlite sql
      (.index ((ddl tablePrefix).naming.value i.name)) := by
  obtain ⟨kind, name, columns, catalog, key⟩ := i
  rcases hk with hk | hk
  · obtain rfl : kind = .unique := hk
    cases h
    exact exists_makes_singleton (makes_index (by decide) name _)
  · obtain rfl : kind = .index := hk
    cases h
    exact exists_makes_singleton (makes_index (by decide) name _)

theorem exists_makes_fulltext {i : Index} (hk : i.kind = .fulltext)
    (h : (ddl tablePrefix).compile b (.index i) = .ok made) :
    ∃ sql ∈ made, Makes (ddl tablePrefix).naming unnamed b.name .sqlite sql
      (.table ((ddl tablePrefix).naming.value i.name)) := by
  obtain ⟨kind, name, columns, catalog, key⟩ := i
  obtain rfl : kind = .fulltext := hk
  cases h
  refine exists_makes_singleton ?_
  have husing : " USING fts4(" = " USING " ++ "fts4(" := by decide
  have hmakes : Makes (ddl tablePrefix).naming unnamed b.name .sqlite _ (.table _) :=
    .table name ("fts4(" ++ (ddl tablePrefix).naming.references columns ++ ")")
  simp only [String.append_assoc, husing] at hmakes ⊢
  exact hmakes

theorem targets (hb : b'.name = b.name) (h : Undoes c c')
    (hmade : (ddl tablePrefix).compile b c = .ok made)
    (hremoved : (ddl tablePrefix).compile b' c' = .ok removed) :
    Targets (ddl tablePrefix).naming unnamed b.name .sqlite made removed := by
  cases h with
  | unique i hk =>
    cases hremoved
    exact .of_makes hb (exists_makes (Or.inl hk) hmade)
      (removes_index "" i.name (by decide) (by decide))
  | uniqueIfExists i hk =>
    cases hremoved
    exact .of_makes hb (exists_makes (Or.inl hk) hmade)
      (removes_index "IF EXISTS " i.name (by decide) (by decide))
  | index i hk =>
    cases hremoved
    exact .of_makes hb (exists_makes (Or.inr hk) hmade)
      (removes_index "" i.name (by decide) (by decide))
  | indexIfExists i hk =>
    cases hremoved
    exact .of_makes hb (exists_makes (Or.inr hk) hmade)
      (removes_index "IF EXISTS " i.name (by decide) (by decide))
  | fulltext i hk =>
    cases hremoved
    exact .of_makes hb (exists_makes_fulltext hk hmade)
      (removes_table "" i.name (by decide) (by decide))
  | fulltextIfExists i hk =>
    cases hremoved
    exact .of_makes hb (exists_makes_fulltext hk hmade)
      (removes_table "IF EXISTS " i.name (by decide) (by decide))
  -- the other keys cannot be dropped
  | primary => cases hremoved
  | spatial => cases hremoved
  | foreign => cases hremoved
  | foreignIfExists => cases hremoved

end Sqlite

/-! ## SQL Server -/

namespace SqlServer

/-- An index that is no constraint and no full-text index is made by a statement of its own. -/
theorem exists_makes {i : Index} (hp : i.kind ≠ .primary) (hf : i.kind ≠ .fulltext)
    (h : (ddl tablePrefix).compile b (.index i) = .ok made) :
    ∃ sql ∈ made, Makes (ddl tablePrefix).naming unnamed b.name .sqlserver sql
      (.index ((ddl tablePrefix).naming.value i.name)) := by
  obtain ⟨kind, name, columns, catalog, key⟩ := i
  cases kind with
  | primary => exact absurd rfl hp
  | fulltext => exact absurd rfl hf
  | unique =>
    cases h
    exact exists_makes_singleton (makes_index (by decide) name _)
  | index =>
    cases h
    exact exists_makes_singleton (makes_index (by decide) name _)
  | spatial =>
    cases h
    exact exists_makes_singleton (makes_index (by decide) name _)

theorem exists_makes_primary {i : Index} (hk : i.kind = .primary)
    (h : (ddl tablePrefix).compile b (.index i) = .ok made) :
    ∃ sql ∈ made, Makes (ddl tablePrefix).naming unnamed b.name .sqlserver sql
      (.constraint ((ddl tablePrefix).naming.value i.name)) := by
  obtain ⟨kind, name, columns, catalog, key⟩ := i
  obtain rfl : kind = .primary := hk
  cases h
  exact exists_makes_singleton (makes_constraint name _ "PRIMARY KEY (" (by decide))

/-- The catalog is made before the index. -/
theorem exists_makes_fulltext {i : Index} (hk : i.kind = .fulltext)
    (h : (ddl tablePrefix).compile b (.index i) = .ok made) :
    ∃ sql ∈ made, Makes (ddl tablePrefix).naming unnamed b.name .sqlserver sql
      .fulltextIndex := by
  obtain ⟨kind, name, columns, catalog, key⟩ := i
  obtain rfl : kind = .fulltext := hk
  cases key with
  | none => cases h
  | some key =>
    cases h
    refine ⟨_, List.mem_cons_of_mem _ (List.mem_singleton_self _), ?_⟩
    have hparenthesis : " (" = " " ++ "(" := by decide
    have hmakes (rest : String) :
        Makes (ddl tablePrefix).naming unnamed b.name .sqlserver _ .fulltextIndex :=
      .fulltextIndex rest
    simp only [String.append_assoc, hparenthesis] at hmakes ⊢
    exact hmakes _

theorem targets (hb : b'.name = b.name) (h : Undoes c c')
    (hmade : (ddl tablePrefix).compile b c = .ok made)
    (hremoved : (ddl tablePrefix).compile b' c' = .ok removed) :
    Targets (ddl tablePrefix).naming unnamed b.name .sqlserver made removed := by
  cases h with
  | primary i hk =>
    cases hremoved
    exact .of_makes hb (exists_makes_primary hk hmade) (removes_dropConstraint i.name)
  | unique i hk =>
    cases hremoved
    exact .of_makes hb (exists_makes (by simp [hk]) (by simp [hk]) hmade)
      (.tableIndex "" i.name (by decide))
  | uniqueIfExists i hk =>
    cases hremoved
    exact .of_makes hb (exists_makes (by simp [hk]) (by simp [hk]) hmade)
      (.tableIndex "IF EXISTS " i.name (by decide))
  | index i hk =>
    cases hremoved
    exact .of_makes hb (exists_makes (by simp [hk]) (by simp [hk]) hmade)
      (.tableIndex "" i.name (by decide))
  | indexIfExists i hk =>
    cases hremoved
    exact .of_makes hb (exists_makes (by simp [hk]) (by simp [hk]) hmade)
      (.tableIndex "IF EXISTS " i.name (by decide))
  | spatial i hk =>
    cases hremoved
    exact .of_makes hb (exists_makes (by simp [hk]) (by simp [hk]) hmade)
      (.tableIndex "" i.name (by decide))
  | fulltext i hk =>
    cases hremoved
    exact .of_makes hb (exists_makes_fulltext hk hmade) .fulltextIndex
  | foreign f =>
    cases hremoved
    exact .of_makes hb (exists_makes_addForeign hmade) (removes_dropConstraint f.name)
  | foreignIfExists f =>
    cases hremoved
    exact .of_makes hb (exists_makes_addForeign hmade) (removes_dropConstraintIfExists f.name)
  | fulltextIfExists => cases hremoved

end SqlServer

/-! ## Postgres -/

namespace Postgres

/-- Two texts that differ before the end of the shorter one differ, whatever follows. -/
theorem append_ne_append {s t x y : String}
    (h : ¬ (s.toList <+: t.toList ∨ t.toList <+: s.toList)) : s ++ x ≠ t ++ y := by
  intro he
  have hs : s.toList <+: (s ++ x).toList := by
    rw [String.toList_append]
    exact List.prefix_append _ _
  have ht : t.toList <+: (s ++ x).toList := by
    rw [he, String.toList_append]
    exact List.prefix_append _ _
  exact h (List.prefix_or_prefix_of_prefix hs ht)

theorem alter_ne_append {s y clause : String}
    (h : ¬ ("ALTER TABLE ".toList <+: s.toList ∨ s.toList <+: "ALTER TABLE ".toList)) :
    alter n b clause ≠ s ++ y := by
  unfold alter
  rw [String.append_assoc, String.append_assoc]
  exact append_ne_append h

theorem eq_of_alter {clause clause' : String} (h : alter n b clause = alter n b clause') :
    clause = clause' :=
  (String.append_right_inj _).1 h

/-- What is written for a name begins with a quote, or is a star. -/
theorem head?_value (name : String) :
    (n.value name).toList.head? = some '*' ∨
      (n.value name).toList.head? = some n.quotes.opening := by
  rw [Naming.value, String.toList_ofList]
  rcases Quotes.star_or_isQuoted_quote n.quotes name.toList with hstar | hquoted
  · exact Or.inl (by rw [hstar, List.head?_cons])
  · exact Or.inr (Quotes.head?_of_isQuoted hquoted)

theorem value_ne_guarded {name text : String} (hq : n.quotes.opening ≠ 'I') :
    n.value name ≠ "IF EXISTS " ++ text := by
  intro h
  have hhead : (n.value name).toList.head? = some 'I' := by
    rw [h, String.toList_append]
    rfl
  rcases head?_value (n := n) name with hstar | hopening
  · exact absurd (hhead.symm.trans hstar) (by decide)
  · exact hq (Option.some.inj (hopening.symm.trans hhead))

theorem makes_indexStatement (i : Index) (target : String) :
    Makes n unnamed b.name .postgres (indexStatement n b i target) (.index (n.value i.name)) := by
  have hword : "CREATE INDEX " = "CREATE " ++ "INDEX" ++ " " := by decide
  unfold indexStatement
  rw [hword]
  exact .index _ _ _ _ (by decide)

theorem makes_primary (columns : String) :
    Makes n unnamed b.name .postgres (alter n b ("ADD PRIMARY KEY (" ++ columns ++ ")"))
      (.constraint (n.value unnamed)) := by
  have hparenthesis : "ADD PRIMARY KEY (" = "ADD PRIMARY KEY " ++ "(" := by decide
  rw [hparenthesis, String.append_assoc, String.append_assoc]
  exact .alter _ _ _ (.primaryConstraint _)

/-- The statement that makes a primary key makes nothing but the constraint that Postgres names. -/
theorem eq_of_makes_primary {columns : String} {o : KeyObject}
    (h : Makes n unnamed b.name .postgres (alter n b ("ADD PRIMARY KEY (" ++ columns ++ ")")) o) :
    o = .constraint (n.value unnamed) := by
  generalize hsql : alter n b _ = sql at h
  cases h with
  | alter d clause o hadds =>
    have hclause := eq_of_alter hsql
    cases hadds with
    | constraint d name rest =>
      simp only [String.append_assoc] at hclause
      exact absurd hclause (append_ne_append (by decide))
    | primaryConstraint rest => rfl
  | index d word name rest hword =>
    simp only [String.append_assoc] at hsql
    exact absurd hsql (alter_ne_append (by decide))

theorem eq_of_removes_dropConstraint (hq : n.quotes.opening ≠ 'I') {name : String} {o : KeyObject}
    (h : Removes n b.name .postgres (dropConstraint n b name) o) :
    o = .constraint (n.value name) := by
  generalize hsql : dropConstraint n b name = sql at h
  cases h with
  | alter d clause o hdrops =>
    have hclause := eq_of_alter hsql
    cases hdrops with
    | constraint d guard name' hguard =>
      rw [String.append_assoc, String.append_right_inj] at hclause
      rcases List.mem_pair.1 hguard with rfl | rfl
      · rw [hclause, String.empty_append]
      · exact absurd hclause (value_ne_guarded hq)
  | index d guard name' hd hguard =>
    rw [String.append_assoc] at hsql
    exact absurd hsql (alter_ne_append (by decide))

/-- The primary key that is made is the one that is removed where it is written the name that
Postgres gives it. -/
theorem targets_primary_iff (hq : n.quotes.opening ≠ 'I') (hb : b'.name = b.name)
    {columns name : String} :
    Targets n unnamed b.name .postgres [alter n b ("ADD PRIMARY KEY (" ++ columns ++ ")")]
      [dropConstraint n b' name] ↔ n.value name = n.value unnamed := by
  constructor
  · rintro ⟨o, ⟨sql, hsql, hmakes⟩, sql', hsql', hremoves⟩
    rw [List.mem_singleton.1 hsql] at hmakes
    rw [← List.singleton_inj.1 hsql', ← hb] at hremoves
    have ho := (eq_of_removes_dropConstraint hq hremoves).symm.trans (eq_of_makes_primary hmakes)
    exact KeyObject.constraint.inj ho
  · intro h
    exact .of_makes hb (exists_makes_singleton (makes_primary columns))
      (h ▸ removes_dropConstraint name)

theorem exists_makes_unique {i : Index} (hk : i.kind = .unique)
    (h : (ddl tablePrefix).compile b (.index i) = .ok made) :
    ∃ sql ∈ made, Makes (ddl tablePrefix).naming unnamed b.name .postgres sql
      (.constraint ((ddl tablePrefix).naming.value i.name)) := by
  obtain ⟨kind, name, columns, catalog, key⟩ := i
  obtain rfl : kind = .unique := hk
  cases h
  exact exists_makes_singleton (makes_constraint name _ "UNIQUE (" (by decide))

/-- An index that is no constraint is made by a statement of its own. -/
theorem exists_makes {i : Index} (hp : i.kind ≠ .primary) (hu : i.kind ≠ .unique)
    (h : (ddl tablePrefix).compile b (.index i) = .ok made) :
    ∃ sql ∈ made, Makes (ddl tablePrefix).naming unnamed b.name .postgres sql
      (.index ((ddl tablePrefix).naming.value i.name)) := by
  obtain ⟨kind, name, columns, catalog, key⟩ := i
  cases kind with
  | primary => exact absurd rfl hp
  | unique => exact absurd rfl hu
  | index =>
    cases h
    exact exists_makes_singleton (makes_indexStatement _ _)
  | fulltext =>
    cases h
    exact exists_makes_singleton (makes_indexStatement _ _)
  | spatial =>
    cases h
    exact exists_makes_singleton (makes_indexStatement _ _)

/-- Every key that is given its name is removed by it. -/
theorem targets (hb : b'.name = b.name) (h : Undoes c c')
    (hc : ∀ i, c = .index i → i.kind ≠ .primary)
    (hmade : (ddl tablePrefix).compile b c = .ok made)
    (hremoved : (ddl tablePrefix).compile b' c' = .ok removed) :
    Targets (ddl tablePrefix).naming unnamed b.name .postgres made removed := by
  cases h with
  | primary i hk => exact absurd hk (hc i rfl)
  | unique i hk =>
    cases hremoved
    exact .of_makes hb (exists_makes_unique hk hmade) (removes_dropConstraint i.name)
  | uniqueIfExists i hk =>
    cases hremoved
    exact .of_makes hb (exists_makes_unique hk hmade) (removes_dropConstraintIfExists i.name)
  | index i hk =>
    cases hremoved
    exact .of_makes hb (exists_makes (by simp [hk]) (by simp [hk]) hmade)
      (.index _ "" i.name (Or.inr rfl) (by decide))
  | indexIfExists i hk =>
    cases hremoved
    exact .of_makes hb (exists_makes (by simp [hk]) (by simp [hk]) hmade)
      (.index _ "IF EXISTS " i.name (Or.inr rfl) (by decide))
  | fulltext i hk =>
    cases hremoved
    exact .of_makes hb (exists_makes (by simp [hk]) (by simp [hk]) hmade)
      (.index _ "" i.name (Or.inr rfl) (by decide))
  | fulltextIfExists i hk =>
    cases hremoved
    exact .of_makes hb (exists_makes (by simp [hk]) (by simp [hk]) hmade)
      (.index _ "IF EXISTS " i.name (Or.inr rfl) (by decide))
  | spatial i hk =>
    cases hremoved
    exact .of_makes hb (exists_makes (by simp [hk]) (by simp [hk]) hmade)
      (.index _ "" i.name (Or.inr rfl) (by decide))
  | foreign f =>
    cases hremoved
    exact .of_makes hb (exists_makes_addForeign hmade) (removes_dropConstraint f.name)
  | foreignIfExists f =>
    cases hremoved
    exact .of_makes hb (exists_makes_addForeign hmade) (removes_dropConstraintIfExists f.name)

theorem targets_iff_of_primary (hb : b'.name = b.name) {i : Index} (hk : i.kind = .primary)
    (h : Undoes (.index i) c') (hmade : (ddl tablePrefix).compile b (.index i) = .ok made)
    (hremoved : (ddl tablePrefix).compile b' c' = .ok removed) :
    Targets (ddl tablePrefix).naming unnamed b.name .postgres made removed ↔
      (ddl tablePrefix).naming.value i.name = (ddl tablePrefix).naming.value unnamed := by
  obtain ⟨kind, name, columns, catalog, key⟩ := i
  obtain rfl : kind = .primary := hk
  cases h with
  | primary =>
    cases hmade
    cases hremoved
    have hq : Dialect.postgres.quotes.opening ≠ 'I' := by decide
    exact targets_primary_iff hq hb
  | unique _ hk => cases hk
  | uniqueIfExists _ hk => cases hk
  | fulltext _ hk => cases hk
  | fulltextIfExists _ hk => cases hk
  | index _ hk => cases hk
  | indexIfExists _ hk => cases hk
  | spatial _ hk => cases hk

/-- Without a name the primary key is removed under the name that it has by convention. -/
theorem targets_unnamed (hb : b'.name = b.name) {i : Index} (hk : i.kind = .primary)
    (hmade : (ddl tablePrefix).compile b (.index i) = .ok made)
    (hremoved : (ddl tablePrefix).compile b' (.dropPrimary none) = .ok removed) :
    Targets (ddl tablePrefix).naming (primaryName (ddl tablePrefix).naming b) b.name .postgres made
      removed := by
  obtain ⟨kind, name, columns, catalog, key⟩ := i
  obtain rfl : kind = .primary := hk
  cases hmade
  cases hremoved
  have hname : primaryName (ddl tablePrefix).naming b' = primaryName (ddl tablePrefix).naming b :=
    congrArg (fun name => (ddl tablePrefix).naming.tablePrefix ++ name ++ "_pkey") hb
  have hq : Dialect.postgres.quotes.opening ≠ 'I' := by decide
  exact (targets_primary_iff hq hb).2 (congrArg _ hname)

end Postgres

/-! ## All dialects -/

/-- The statement that drops a key removes what the statements for the key made, unless the key is
a primary key on Postgres whose name is not the one that Postgres gives a primary key `unnamed`, by
convention the name of the table and `_pkey`. -/
theorem targets_iff (hb : b'.name = b.name) (h : Undoes c c')
    (hmade : (Ddl.ofDriver tablePrefix d).compile b c = .ok made)
    (hremoved : (Ddl.ofDriver tablePrefix d).compile b' c' = .ok removed) :
    Targets (Ddl.ofDriver tablePrefix d).naming unnamed b.name d made removed ↔
      ∀ i, d = .postgres → c = .index i → i.kind = .primary →
        (Ddl.ofDriver tablePrefix d).naming.value i.name =
          (Ddl.ofDriver tablePrefix d).naming.value unnamed := by
  cases d with
  | mysql => exact iff_of_true (MySql.targets hb h hmade hremoved) (by rintro i ⟨⟩)
  | sqlite => exact iff_of_true (Sqlite.targets hb h hmade hremoved) (by rintro i ⟨⟩)
  | sqlserver => exact iff_of_true (SqlServer.targets hb h hmade hremoved) (by rintro i ⟨⟩)
  | postgres =>
    by_cases hp : ∃ i, c = .index i ∧ i.kind = .primary
    · obtain ⟨i, rfl, hk⟩ := hp
      refine (Postgres.targets_iff_of_primary hb hk h hmade hremoved).trans ⟨?_, ?_⟩
      · rintro hname _ - ⟨⟩ -
        exact hname
      · intro hnames
        exact hnames i rfl rfl hk
    · have hc : ∀ i, c = .index i → i.kind ≠ .primary := fun i hi hk => hp ⟨i, hi, hk⟩
      exact iff_of_true (Postgres.targets hb h hc hmade hremoved)
        fun i _ hi hk => absurd hk (hc i hi)

/-- A primary key on one column. -/
def primaryKey (name : String) : Index :=
  { kind := .primary, name, columns := ["id"] }

/-- A primary key under the name that Postgres would give it. -/
theorem targets_iff_posts :
    Undoes (.index (primaryKey "posts_pkey")) (.dropPrimary (some "posts_pkey")) ∧
      (Ddl.ofDriver "" .postgres).compile { name := "posts" } (.index (primaryKey "posts_pkey")) =
        .ok ["ALTER TABLE \"posts\" ADD PRIMARY KEY (\"id\")"] ∧
      (Ddl.ofDriver "" .postgres).compile { name := "posts" } (.dropPrimary (some "posts_pkey")) =
        .ok ["ALTER TABLE \"posts\" DROP CONSTRAINT \"posts_pkey\""] ∧
      Targets (Ddl.ofDriver "" .postgres).naming "posts_pkey" "posts" .postgres
        ["ALTER TABLE \"posts\" ADD PRIMARY KEY (\"id\")"]
        ["ALTER TABLE \"posts\" DROP CONSTRAINT \"posts_pkey\""] := by
  have hundoes : Undoes (.index (primaryKey "posts_pkey")) (.dropPrimary (some "posts_pkey")) :=
    .primary (primaryKey "posts_pkey") rfl
  have hmade : (Ddl.ofDriver "" .postgres).compile { name := "posts" }
      (.index (primaryKey "posts_pkey")) =
      .ok ["ALTER TABLE \"posts\" ADD PRIMARY KEY (\"id\")"] := by decide +kernel
  have hremoved : (Ddl.ofDriver "" .postgres).compile { name := "posts" }
      (.dropPrimary (some "posts_pkey")) =
      .ok ["ALTER TABLE \"posts\" DROP CONSTRAINT \"posts_pkey\""] := by decide +kernel
  refine ⟨hundoes, hmade, hremoved, (targets_iff rfl hundoes hmade hremoved).2 ?_⟩
  rintro _ - ⟨⟩ -
  rfl

/-- Under another name the constraint to remove is none that was made. -/
theorem not_targets_posts :
    Undoes (.index (primaryKey "posts_key")) (.dropPrimary (some "posts_key")) ∧
      (Ddl.ofDriver "" .postgres).compile { name := "posts" } (.index (primaryKey "posts_key")) =
        .ok ["ALTER TABLE \"posts\" ADD PRIMARY KEY (\"id\")"] ∧
      (Ddl.ofDriver "" .postgres).compile { name := "posts" } (.dropPrimary (some "posts_key")) =
        .ok ["ALTER TABLE \"posts\" DROP CONSTRAINT \"posts_key\""] ∧
      ¬ Targets (Ddl.ofDriver "" .postgres).naming "posts_pkey" "posts" .postgres
        ["ALTER TABLE \"posts\" ADD PRIMARY KEY (\"id\")"]
        ["ALTER TABLE \"posts\" DROP CONSTRAINT \"posts_key\""] := by
  have hundoes : Undoes (.index (primaryKey "posts_key")) (.dropPrimary (some "posts_key")) :=
    .primary (primaryKey "posts_key") rfl
  have hmade : (Ddl.ofDriver "" .postgres).compile { name := "posts" }
      (.index (primaryKey "posts_key")) =
      .ok ["ALTER TABLE \"posts\" ADD PRIMARY KEY (\"id\")"] := by decide +kernel
  have hremoved : (Ddl.ofDriver "" .postgres).compile { name := "posts" }
      (.dropPrimary (some "posts_key")) =
      .ok ["ALTER TABLE \"posts\" DROP CONSTRAINT \"posts_key\""] := by decide +kernel
  refine ⟨hundoes, hmade, hremoved, fun htargets => ?_⟩
  have hname := (Postgres.targets_iff_of_primary rfl rfl hundoes hmade hremoved).1 htargets
  exact absurd hname (by decide)

end SqlBuilder.Schema
