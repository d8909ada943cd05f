import SqlBuilder.Proofs.Constraints
import SqlBuilder.Proofs.Migrations

/-!
# Blueprints that a driver rejects

A command fails to compile for one of three reasons. The dialect lacks the command altogether, as
`MySql.lacks`, `SqlServer.lacks` and `Sqlite.lacks` list; something is missing in the command, such
as the table that a foreign key refers to; or it writes columns of which one has a type or a change
that the dialect does not know. For each dialect one lemma says which commands these are
(`MySql.fails_iff`, `Postgres.fails_iff`, `SqlServer.fails_iff`, `Sqlite.fails_iff`).

A blueprint is rejected exactly if one of its commands fails, and the implied ones count. Read back
over what was asked for, that is a condition on the columns and the commands of the blueprint alone
(`exists_error_iff_rejected`).
-/

namespace SqlBuilder.Schema

/-- A computation gives an error. -/
def Fails {α : Type} (x : Except Error α) : Prop :=
  ∃ e, x = .error e

section

variable {α β : Type} {x : Except Error α}

@[simp]
theorem fails_error (e : Error) : Fails (.error e : Except Error α) :=
  ⟨e, rfl⟩

@[simp]
theorem not_fails_ok (a : α) : ¬ Fails (.ok a : Except Error α) :=
  fun ⟨_, h⟩ => nomatch h

theorem not_fails_iff : ¬ Fails x ↔ ∃ a, x = .ok a := by
  cases x with
  | error e => exact iff_of_false (fun h => h (fails_error e)) fun ⟨_, h⟩ => nomatch h
  | ok a => exact iff_of_true (not_fails_ok a) ⟨a, rfl⟩

/-- A computation behind another one that fails under a condition on neither's result. -/
theorem fails_bind {f : α → Except Error β} {p : Prop} (hf : ∀ a, Fails (f a) ↔ p) :
    Fails (x >>= f) ↔ Fails x ∨ p := by
  cases x with
  | error e => exact iff_of_true (fails_error e) (Or.inl (fails_error e))
  | ok a => exact (hf a).trans (or_iff_right (not_fails_ok a)).symm

/-- What a computation gives can be put into another form without failure. -/
theorem fails_bind_ok {f : α → β} : Fails (x >>= fun a => .ok (f a)) ↔ Fails x :=
  (fails_bind fun a => iff_false_intro (not_fails_ok (f a))).trans (iff_of_eq (or_false _))

theorem fails_map {f : α → β} : Fails (x.map f) ↔ Fails x := by
  cases x with
  | error e => exact iff_of_true (fails_error e) (fails_error e)
  | ok a => exact iff_of_false (not_fails_ok (f a)) (not_fails_ok a)

/-- Computations one after the other fail exactly if one of them does. -/
theorem fails_mapM {f : α → Except Error β} {xs : List α} :
    Fails (xs.mapM f) ↔ ∃ x ∈ xs, Fails (f x) := by
  rw [← not_iff_not, not_fails_iff, exists_mapM_iff]
  simp only [← not_fails_iff, not_exists, not_and]

end

/-! ## What was asked for -/

/-- A foreign key does not tell its table or the columns that it refers to. -/
def ForeignKey.Incomplete (f : ForeignKey) : Prop :=
  f.on = none ∨ f.references = []

namespace Blueprint

def HasSet (b : Blueprint) : Prop :=
  ∃ c ∈ b.columns, ∃ allowed, c.type = .set allowed

def HasChange (b : Blueprint) : Prop :=
  ∃ c ∈ b.columns, c.change = true

def HasForeign (b : Blueprint) : Prop :=
  ∃ f, .foreign f ∈ b.commands

def HasIncomplete (b : Blueprint) : Prop :=
  ∃ f, .foreign f ∈ b.commands ∧ f.Incomplete

/-- An index of a kind is asked for, by a command or with a column. -/
def HasIndex (b : Blueprint) (kind : IndexKind) : Prop :=
  (∃ i, .index i ∈ b.commands ∧ i.kind = kind) ∨ ∃ c ∈ b.columns, ∃ i ∈ c.indexes, i.kind = kind

/-- A full-text index is asked for by a command that tells no key index, or with a column, where
none can be told. -/
def HasKeylessFulltext (b : Blueprint) : Prop :=
  (∃ i, .index i ∈ b.commands ∧ i.kind = .fulltext ∧ i.key = none) ∨
    ∃ c ∈ b.columns, ∃ i ∈ c.indexes, i.kind = .fulltext

end Blueprint

/-- The commands that MySQL has no statement for. -/
def MySql.lacks : Command → Bool
  | .dropColumnIfExists _ => true
  | .dropIndexIfExists _ => true
  | .dropUniqueIfExists _ => true
  | .dropFulltextIfExists _ => true
  | .dropForeignIfExists _ => true
  | _ => false

/-- The commands that SQL Server has no statement for. -/
def SqlServer.lacks : Command → Bool
  | .dropPrimary name => name.isNone
  | .dropFulltextIfExists _ => true
  | _ => false

/-- The commands that SQLite has no statement for, indexes apart. -/
def Sqlite.lacks : Command → Bool
  | .dropPrimary _ => true
  | .dropSpatial _ => true
  | .dropForeign _ => true
  | .dropColumnIfExists _ => true
  | .renameColumn .. => true
  | .dropForeignIfExists _ => true
  | _ => false

/-- What a driver rejects in a blueprint. -/
def Rejected (b : Blueprint) : Driver → Prop
  | .mysql => (∃ c ∈ b.commands, MySql.lacks c) ∨ b.HasIncomplete
  | .postgres => b.HasSet ∨ b.HasIncomplete
  | .sqlserver =>
    b.HasSet ∨ b.HasIncomplete ∨ b.HasKeylessFulltext ∨ ∃ c ∈ b.commands, SqlServer.lacks c
  | .sqlite =>
    (∃ c ∈ b.commands, Sqlite.lacks c) ∨ b.HasIndex .spatial ∨
      (.create ∉ b.commands ∧ (b.HasChange ∨ b.HasIndex .primary ∨ b.HasForeign)) ∨
      (.create ∈ b.commands ∧ b.HasIncomplete)

/-! ## Which commands fail -/

section

variable {n : Naming} {b : Blueprint} {c : Command} {col : Column} {f : ForeignKey}

theorem fails_referenceClause : Fails (referenceClause n f) ↔ f.Incomplete := by
  unfold referenceClause ForeignKey.Incomplete
  cases f.on with
  | none => exact iff_of_true (fails_error _) (Or.inl rfl)
  | some table =>
    cases f.references with
    | nil => exact iff_of_true (fails_error _) (Or.inr rfl)
    | cons r rs => simp

theorem fails_addForeign : Fails (addForeign n b f) ↔ f.Incomplete :=
  fails_bind_ok.trans fails_referenceClause

/-- A dialect without a form of its own for foreign keys adds them as the standard does. -/
theorem fails_foreign {g : Ddl} (h : g.own b (.foreign f) = none) :
    Fails (g.compile b (.foreign f)) ↔ f.Incomplete := by
  rw [Ddl.compile, h]
  exact fails_addForeign

namespace MySql

theorem fails_iff (tablePrefix : String) (b : Blueprint) (c : Command) :
    Fails ((ddl tablePrefix).compile b c) ↔ lacks c ∨ ∃ f, c = .foreign f ∧ f.Incomplete := by
  cases c with
  | foreign f => simp [fails_foreign (g := ddl tablePrefix) rfl, lacks]
  | _ => simp [Ddl.compile, ddl, own, standard, refused, lacks]

end MySql

namespace Postgres

theorem fails_typeName : Fails (typeName n col) ↔ ∃ allowed, col.type = .set allowed := by
  unfold typeName
  cases col.type <;> simp [refused]

theorem fails_definition : Fails (definition n col) ↔ ∃ allowed, col.type = .set allowed :=
  fails_bind_ok.trans fails_typeName

theorem fails_columnClauses :
    Fails (columnClauses n col) ↔ ∃ allowed, col.type = .set allowed := by
  unfold columnClauses
  by_cases hchange : col.change
  · rw [if_pos hchange]
    exact fails_bind_ok.trans fails_typeName
  · rw [if_neg hchange]
    exact fails_map.trans fails_definition

theorem fails_createTable : Fails (createTable n b) ↔ b.HasSet := by
  rw [createTable, fails_bind_ok, fails_mapM]
  simp only [fails_definition, Blueprint.HasSet]

theorem fails_addColumns : Fails (addColumns n b) ↔ b.HasSet := by
  rw [addColumns, fails_bind_ok, fails_mapM]
  simp only [fails_columnClauses, Blueprint.HasSet]

theorem fails_iff (tablePrefix : String) (b : Blueprint) (c : Command) :
    Fails ((ddl tablePrefix).compile b c) ↔
      (c = .create ∨ c = .add) ∧ b.HasSet ∨ ∃ f, c = .foreign f ∧ f.Incomplete := by
  cases c with
  | create => simp [Ddl.compile, ddl, own, fails_createTable]
  | add => simp [Ddl.compile, ddl, own, fails_addColumns]
  | foreign f => simp [fails_foreign (g := ddl tablePrefix) rfl]
  | _ => simp [Ddl.compile, ddl, own, standard]

end Postgres

namespace SqlServer

theorem fails_typeName : Fails (typeName n col) ↔ ∃ allowed, col.type = .set allowed := by
  unfold typeName
  cases col.type <;> simp [refused]

theorem fails_definition : Fails (definition n col) ↔ ∃ allowed, col.type = .set allowed :=
  fails_bind_ok.trans fails_typeName

theorem fails_createTable : Fails (createTable n b) ↔ b.HasSet := by
  rw [createTable, fails_bind_ok, fails_mapM]
  simp only [fails_definition, Blueprint.HasSet]

/-- New columns and changed ones are written apart, and all are written. -/
theorem fails_addColumns : Fails (addColumns n b) ↔ b.HasSet := by
  rw [addColumns, fails_bind fun added => fails_bind_ok, fails_mapM, fails_mapM]
  simp only [fails_definition, Blueprint.HasSet, List.mem_filter]
  constructor
  · rintro (⟨col, ⟨hcol, -⟩, hset⟩ | ⟨col, ⟨hcol, -⟩, hset⟩)
    · exact ⟨col, hcol, hset⟩
    · exact ⟨col, hcol, hset⟩
  · rintro ⟨col, hcol, hset⟩
    cases hchange : col.change with
    | false => exact Or.inl ⟨col, ⟨hcol, by rw [hchange]; rfl⟩, hset⟩
    | true => exact Or.inr ⟨col, ⟨hcol, hchange⟩, hset⟩

theorem fails_index {i : Index} : Fails (index n b i) ↔ i.kind = .fulltext ∧ i.key = none := by
  unfold index
  cases hkind : i.kind with
  | fulltext =>
    simp only [true_and]
    unfold fulltext
    cases i.key <;> simp
  | _ => simp

theorem fails_iff (tablePrefix : String) (b : Blueprint) (c : Command) :
    Fails ((ddl tablePrefix).compile b c) ↔
      (c = .create ∨ c = .add) ∧ b.HasSet ∨ (∃ f, c = .foreign f ∧ f.Incomplete) ∨
        (∃ i, c = .index i ∧ i.kind = .fulltext ∧ i.key = none) ∨ lacks c := by
  cases c with
  | create => simp [Ddl.compile, ddl, own, fails_createTable, lacks]
  | add => simp [Ddl.compile, ddl, own, fails_addColumns, lacks]
  | foreign f => simp [fails_foreign (g := ddl tablePrefix) rfl, lacks]
  | index i => simp [Ddl.compile, ddl, own, fails_index, lacks]
  | dropPrimary name => cases name <;> simp [Ddl.compile, ddl, own, lacks]
  | _ => simp [Ddl.compile, ddl, own, standard, refused, lacks]

end SqlServer

namespace Sqlite

theorem fails_createTable : Fails (createTable n b) ↔ b.HasIncomplete := by
  rw [createTable, keyClauses, fails_bind_ok, fails_bind_ok, fails_mapM]
  simp only [fails_referenceClause, Blueprint.HasIncomplete, List.mem_filterMap]
  constructor
  · rintro ⟨f, ⟨c, hc, hf⟩, hincomplete⟩
    cases c with
    | foreign g =>
      cases hf
      exact ⟨f, hc, hincomplete⟩
    | _ => cases hf
  · rintro ⟨f, hf, hincomplete⟩
    exact ⟨f, ⟨.foreign f, hf, rfl⟩, hincomplete⟩

theorem fails_addColumns : Fails (b.columns.mapM (addColumn n b)) ↔ b.HasChange := by
  rw [fails_mapM, Blueprint.HasChange]
  refine exists_congr fun col => and_congr_right fun _ => ?_
  unfold addColumn
  by_cases hchange : col.change <;> simp [hchange]

theorem fails_index {i : Index} (tablePrefix : String) (b : Blueprint) :
    Fails ((ddl tablePrefix).compile b (.index i)) ↔
      i.kind = .spatial ∨ i.kind = .primary ∧ .create ∉ b.commands := by
  rw [← Blueprint.createsTable_iff]
  cases hkind : i.kind with
  | primary =>
    by_cases hcreate : b.createsTable <;>
      simp [Ddl.compile, ddl, own, index, standard, refused, hkind, hcreate]
  | _ => simp [Ddl.compile, ddl, own, index, standard, refused, hkind]

theorem fails_foreign (tablePrefix : String) (b : Blueprint) (f : ForeignKey) :
    Fails ((ddl tablePrefix).compile b (.foreign f)) ↔ .create ∉ b.commands := by
  rw [← Blueprint.createsTable_iff]
  by_cases hcreate : b.createsTable <;> simp [Ddl.compile, ddl, own, refused, hcreate]

theorem fails_iff (tablePrefix : String) (b : Blueprint) (c : Command) :
    Fails ((ddl tablePrefix).compile b c) ↔
      lacks c ∨ (∃ i, c = .index i ∧ i.kind = .spatial) ∨ (c = .add ∧ b.HasChange) ∨
        (∃ i, c = .index i ∧ i.kind = .primary ∧ .create ∉ b.commands) ∨
        (∃ f, c = .foreign f ∧ .create ∉ b.commands) ∨ (c = .create ∧ b.HasIncomplete) := by
  cases c with
  | create => simp [Ddl.compile, ddl, own, fails_createTable, lacks]
  | add => simp [Ddl.compile, ddl, own, fails_addColumns, lacks]
  | index i => simp [fails_index, lacks]
  | foreign f => simp [fails_foreign, lacks]
  | _ => simp [Ddl.compile, ddl, own, standard, refused, lacks]

end Sqlite

end

/-! ## Over the implied commands -/

section

variable {b : Blueprint}

/-- A command of a completed blueprint adds its columns, was asked for, or makes an index that was
asked for with a column. -/
theorem mem_complete_iff (hb : b.completed = false) {c : Command} :
    c ∈ b.complete.commands ↔
      (b.columns ≠ [] ∧ .create ∉ b.commands ∧ c = .add) ∨ c ∈ b.commands ∨
        ∃ col ∈ b.columns, ∃ i ∈ col.indexes,
          c = .index ⟨i.kind, i.name.getD (defaultName b.name [col.name] i.kind.name), [col.name],
            none, none⟩ := by
  rw [Blueprint.complete_eq hb, List.mem_append, List.mem_append, Blueprint.impliedBefore_eq,
    Blueprint.impliedAfter_eq, or_assoc]
  simp only [List.mem_flatMap, List.mem_map]
  refine or_congr ?_ (or_congr_right ?_)
  · split <;> simp_all
  · simp only [eq_comm]

theorem columns_complete : b.complete.columns = b.columns := by
  unfold Blueprint.complete
  split <;> rfl

theorem hasSet_complete : b.complete.HasSet ↔ b.HasSet := by
  rw [Blueprint.HasSet, columns_complete, Blueprint.HasSet]

theorem hasChange_complete : b.complete.HasChange ↔ b.HasChange := by
  rw [Blueprint.HasChange, columns_complete, Blueprint.HasChange]

section

variable {cs : List Command}

theorem exists_mem_or_iff {p r : Command → Prop} :
    (∃ c ∈ cs, p c ∨ r c) ↔ (∃ c ∈ cs, p c) ∨ ∃ c ∈ cs, r c := by
  simp only [and_or_left, exists_or]

theorem exists_mem_eq_iff {d : Command} {p : Prop} : (∃ c ∈ cs, c = d ∧ p) ↔ d ∈ cs ∧ p := by
  constructor
  · rintro ⟨_, hc, rfl, hp⟩
    exact ⟨hc, hp⟩
  · rintro ⟨hd, hp⟩
    exact ⟨d, hd, rfl, hp⟩

/-- Some command of a sort has a property. -/
theorem exists_mem_sort_iff {ι : Type} {g : ι → Command} {p : ι → Prop} :
    (∃ c ∈ cs, ∃ x, c = g x ∧ p x) ↔ ∃ x, g x ∈ cs ∧ p x := by
  constructor
  · rintro ⟨_, hc, x, rfl, hx⟩
    exact ⟨x, hc, hx⟩
  · rintro ⟨x, hc, hx⟩
    exact ⟨g x, hc, x, rfl, hx⟩

end

section

variable (hb : b.completed = false)
include hb

theorem create_mem_complete_iff : .create ∈ b.complete.commands ↔ .create ∈ b.commands := by
  simp [mem_complete_iff hb]

theorem foreign_mem_complete_iff {f : ForeignKey} :
    .foreign f ∈ b.complete.commands ↔ .foreign f ∈ b.commands := by
  simp [mem_complete_iff hb]

theorem add_mem_complete_iff (hadd : .add ∉ b.commands) :
    .add ∈ b.complete.commands ↔ b.columns ≠ [] ∧ .create ∉ b.commands := by
  simp [mem_complete_iff hb, hadd]

theorem hasIncomplete_complete : b.complete.HasIncomplete ↔ b.HasIncomplete := by
  simp only [Blueprint.HasIncomplete, foreign_mem_complete_iff hb]

/-- The columns of a blueprint are written by a command of the completed one. -/
theorem exists_writes_columns (h : b.columns ≠ []) :
    ∃ c ∈ b.complete.commands, c = .create ∨ c = .add := by
  by_cases hcreate : .create ∈ b.commands
  · exact ⟨.create, (create_mem_complete_iff hb).2 hcreate, Or.inl rfl⟩
  · exact ⟨.add, (mem_complete_iff hb).2 (Or.inl ⟨h, hcreate, rfl⟩), Or.inr rfl⟩

/-- What fails for a set fails for a blueprint with one. -/
theorem exists_writes_set :
    (∃ c ∈ b.complete.commands, (c = .create ∨ c = .add) ∧ b.HasSet) ↔ b.HasSet := by
  constructor
  · rintro ⟨-, -, -, hset⟩
    exact hset
  · rintro ⟨col, hcol, hset⟩
    obtain ⟨c, hc, hwrites⟩ := exists_writes_columns hb (List.ne_nil_of_mem hcol)
    exact ⟨c, hc, hwrites, col, hcol, hset⟩

/-- A property of commands that neither the columns nor indexes have is one of those asked for. -/
theorem exists_lacks_complete {lacks : Command → Bool} (hadd : lacks .add = false)
    (hindex : ∀ i, lacks (.index i) = false) :
    (∃ c ∈ b.complete.commands, lacks c) ↔ ∃ c ∈ b.commands, lacks c := by
  refine exists_congr fun c => and_congr_left fun hc => ?_
  rw [mem_complete_iff hb]
  constructor
  · rintro (⟨-, -, rfl⟩ | hmem | ⟨col, -, i, -, rfl⟩)
    · exact absurd (hadd.symm.trans hc) Bool.false_ne_true
    · exact hmem
    · exact absurd ((hindex _).symm.trans hc) Bool.false_ne_true
  · exact fun hmem => Or.inr (Or.inl hmem)

/-- An index of a completed blueprint was asked for by a command or with a column. -/
theorem exists_index_complete {p : Index → Prop} :
    (∃ i, .index i ∈ b.complete.commands ∧ p i) ↔
      (∃ i, .index i ∈ b.commands ∧ p i) ∨ ∃ col ∈ b.columns, ∃ i ∈ col.indexes,
        p ⟨i.kind, i.name.getD (defaultName b.name [col.name] i.kind.name), [col.name],
          none, none⟩ := by
  constructor
  · rintro ⟨i, hi, hp⟩
    rcases (mem_complete_iff hb).1 hi with ⟨-, -, h⟩ | h | ⟨col, hcol, j, hj, h⟩
    · cases h
    · exact Or.inl ⟨i, h, hp⟩
    · cases h
      exact Or.inr ⟨col, hcol, j, hj, hp⟩
  · rintro (⟨i, hi, hp⟩ | ⟨col, hcol, i, hi, hp⟩)
    · exact ⟨i, Blueprint.mem_commands_complete hi, hp⟩
    · exact ⟨_, (mem_complete_iff hb).2 (Or.inr (Or.inr ⟨col, hcol, i, hi, rfl⟩)), hp⟩

theorem exists_kind_complete (kind : IndexKind) :
    (∃ i, .index i ∈ b.complete.commands ∧ i.kind = kind) ↔ b.HasIndex kind :=
  exists_index_complete hb

theorem exists_keyless_complete :
    (∃ i, .index i ∈ b.complete.commands ∧ i.kind = .fulltext ∧ i.key = none) ↔
      b.HasKeylessFulltext := by
  rw [exists_index_complete hb, Blueprint.HasKeylessFulltext]
  simp only [and_true]

/-! ## Which blueprints are rejected -/

omit hb in
theorem fails_build_iff_exists {g : Ddl} :
    Fails (g.build b).1 ↔ ∃ c ∈ b.complete.commands, Fails (g.compile b.complete c) :=
  Ddl.compileAll_eq_error_iff

theorem MySql.fails_build_iff (tablePrefix : String) :
    Fails ((ddl tablePrefix).build b).1 ↔ Rejected b .mysql := by
  rw [fails_build_iff_exists]
  simp only [fails_iff, exists_mem_or_iff, exists_mem_sort_iff]
  rw [exists_lacks_complete hb rfl fun _ => rfl]
  exact or_congr_right (hasIncomplete_complete hb)

theorem Postgres.fails_build_iff (tablePrefix : String) :
    Fails ((ddl tablePrefix).build b).1 ↔ Rejected b .postgres := by
  rw [fails_build_iff_exists]
  simp only [fails_iff, hasSet_complete, exists_mem_or_iff, exists_mem_sort_iff]
  rw [exists_writes_set hb]
  exact or_congr_right (hasIncomplete_complete hb)

theorem SqlServer.fails_build_iff (tablePrefix : String) :
    Fails ((ddl tablePrefix).build b).1 ↔ Rejected b .sqlserver := by
  rw [fails_build_iff_exists]
  simp only [fails_iff, hasSet_complete, exists_mem_or_iff, exists_mem_sort_iff]
  rw [exists_writes_set hb, exists_keyless_complete hb, exists_lacks_complete hb rfl fun _ => rfl]
  exact or_congr_right (or_congr_left (hasIncomplete_complete hb))

/-- A column of a table that is not created here is written by a command of its own. -/
theorem Sqlite.add_and_hasChange_iff (hadd : .add ∉ b.commands) :
    .add ∈ b.complete.commands ∧ b.HasChange ↔ .create ∉ b.commands ∧ b.HasChange := by
  rw [add_mem_complete_iff hb hadd]
  constructor
  · rintro ⟨⟨-, hcreate⟩, hchange⟩
    exact ⟨hcreate, hchange⟩
  · rintro ⟨hcreate, col, hcol, hchange⟩
    exact ⟨⟨List.ne_nil_of_mem hcol, hcreate⟩, col, hcol, hchange⟩

theorem Sqlite.fails_build_iff (tablePrefix : String) (hadd : .add ∉ b.commands) :
    Fails ((ddl tablePrefix).build b).1 ↔ Rejected b .sqlite := by
  rw [fails_build_iff_exists]
  simp only [fails_iff, exists_mem_or_iff, exists_mem_sort_iff, exists_mem_eq_iff]
  simp only [← and_assoc, exists_and_right]
  rw [exists_lacks_complete hb rfl fun _ => rfl, exists_kind_complete hb, exists_kind_complete hb,
    hasIncomplete_complete hb, hasChange_complete, add_and_hasChange_iff hb hadd,
    create_mem_complete_iff hb]
  simp only [foreign_mem_complete_iff hb]
  rw [Rejected, Blueprint.HasForeign]
  by_cases hcreate : .create ∈ b.commands <;> simp [hcreate]

end

theorem add_mem_step {s : Blueprint.Step} (h : .add ∈ (b.step s).commands) :
    .add ∈ b.commands ∨ s = .command .add := by
  have happended {c : Command} (hc : .add ∈ (b.addCommand c).commands) :
      .add ∈ b.commands ∨ c = .add :=
    (List.mem_append.1 hc).imp_right fun hc => (List.mem_singleton.1 hc).symm
  cases s with
  | command c => exact (happended h).imp_right (congrArg _)
  | index kind columns name catalog key => exact (happended h).imp_right fun hc => nomatch hc
  | «foreign» columns name references on onDelete onUpdate =>
    exact (happended h).imp_right fun hc => nomatch hc
  | _ => exact Or.inl h

/-- Steps that do not add the columns themselves leave that to the implied commands. -/
theorem add_notMem_ofSteps {name : String} {steps : List Blueprint.Step}
    (h : .command .add ∉ steps) : .add ∉ (Blueprint.ofSteps name steps).commands := by
  suffices hall : ∀ b : Blueprint, .add ∉ b.commands → .add ∉ (b.stepAll steps).commands from
    hall (.ofTable name) List.not_mem_nil
  unfold Blueprint.stepAll
  induction steps with
  | nil => exact fun b hb => hb
  | cons s ss ih =>
    intro b hb
    obtain ⟨hs, hss⟩ := List.ne_and_not_mem_of_not_mem_cons h
    exact ih hss (b.step s) fun hstep => (add_mem_step hstep).elim hb fun heq => hs heq.symm

/-- A blueprint that was never built has no statements for a driver exactly if the driver rejects
something that was asked for. The prefix of the tables has no part in it. -/
theorem exists_error_iff_rejected (d : Driver) (tablePrefix name : String)
    {steps : List Blueprint.Step} (h : .command .add ∉ steps) :
    (∃ e, ((Ddl.ofDriver tablePrefix d).build (.ofSteps name steps)).1 = .error e) ↔
      Rejected (.ofSteps name steps) d := by
  have hb := Blueprint.completed_ofSteps name steps
  cases d with
  | mysql => exact MySql.fails_build_iff hb tablePrefix
  | sqlite => exact Sqlite.fails_build_iff hb tablePrefix (add_notMem_ofSteps h)
  | postgres => exact Postgres.fails_build_iff hb tablePrefix
  | sqlserver => exact SqlServer.fails_build_iff hb tablePrefix

end

/-- A set and a full-text index without a key. -/
def tagSteps : List Blueprint.Step :=
  [.column "kind" (.set ["a", "b"]) [], .column "body" .text [.index .fulltext]]

theorem exists_error_iff_rejected_tags : .command .add ∉ tagSteps ∧
    (∃ e, ((Ddl.ofDriver "app_" .sqlserver).build (.ofSteps "tags" tagSteps)).1 = .error e) ∧
    ¬ ∃ e, ((Ddl.ofDriver "app_" .sqlite).build (.ofSteps "tags" tagSteps)).1 = .error e := by
  have hsteps : .command .add ∉ tagSteps := by simp [tagSteps]
  have hset : Blueprint.HasSet (.ofSteps "tags" tagSteps) :=
    ⟨_, List.mem_cons_self, ["a", "b"], rfl⟩
  have haccepted : ¬ Rejected (.ofSteps "tags" tagSteps) .sqlite := by
    simp [Rejected, Blueprint.HasIndex, Blueprint.HasChange, Blueprint.HasForeign, tagSteps,
      Blueprint.ofSteps, Blueprint.ofTable, Blueprint.stepAll, Blueprint.step,
      Blueprint.addColumn, Column.modifyAll, Column.modify]
  refine ⟨hsteps, ?_, ?_⟩
  · exact (exists_error_iff_rejected .sqlserver "app_" "tags" hsteps).2 (Or.inl hset)
  · exact mt (exists_error_iff_rejected .sqlite "app_" "tags" hsteps).1 haccepted

end SqlBuilder.Schema
