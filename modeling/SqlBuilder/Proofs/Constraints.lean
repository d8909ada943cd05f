import Mathlib.Data.List.Perm.Subperm
import SqlBuilder.Proofs.Implications
import SqlBuilder.Schema.Sqlite

/-!
# Keys of a table that is created

On SQLite the primary key and the foreign keys of a table are constraints in the statement that
creates it; their own commands give no statements. One pass over the commands collects the
constraints: the first primary key, and behind it every foreign key (`map_clause_foldedKeys`). So
each key, asked for by a command or with a column, has a constraint exactly if no more than one of
them is a primary key (`keeps_iff`).
-/

namespace SqlBuilder.Schema

/-- The statements of a command are among those of all commands. -/
theorem Ddl.exists_compile_of_mem {g : Ddl} {b : Blueprint} {c : Command} {cs : List Command}
    {statements : List String} (hc : c ∈ cs) (h : g.compileAll b cs = .ok statements) :
    ∃ own, g.compile b c = .ok own ∧ own ⊆ statements := by
  induction cs generalizing statements with
  | nil => exact absurd hc List.not_mem_nil
  | cons d cs ih =>
    rw [compileAll] at h
    obtain ⟨first, hfirst, h⟩ := bind_eq_ok.1 h
    obtain ⟨rest, hrest, h⟩ := bind_eq_ok.1 h
    cases h
    rcases List.mem_cons.1 hc with rfl | hc
    · exact ⟨first, hfirst, List.subset_append_left first rest⟩
    · obtain ⟨own, hown, hsub⟩ := ih hc hrest
      exact ⟨own, hown, List.subset_append_of_subset_right first hsub⟩

namespace Sqlite

/-! ## Keys -/

/-- A key that can only be made together with its table. -/
inductive TableKey where
  | primary (columns : List String)
  | foreign (key : ForeignKey)
  deriving DecidableEq

namespace TableKey

def isPrimary : TableKey → Bool
  | .primary _ => true
  | .foreign _ => false

/-- The key that a command asks for. -/
def of? : Command → Option TableKey
  | .index i => if i.kind = .primary then some (.primary i.columns) else none
  | .foreign f => some (.foreign f)
  | _ => none

/-- The constraint of a key, on its own columns. -/
def clause (n : Naming) : TableKey → Except Error String
  | .primary columns => .ok ("PRIMARY KEY (" ++ n.references columns ++ ")")
  | .foreign f => referenceClause n f

theorem filter_of? (c : Command) :
    (of? c).filter isPrimary = (primaryColumns? c).map .primary := by
  cases c with
  | index i =>
    by_cases hi : i.kind = .primary
    · rw [of?, primaryColumns?, if_pos hi, if_pos hi]
      rfl
    · rw [of?, primaryColumns?, if_neg hi, if_neg hi]
      rfl
  | _ => rfl

theorem filter_not_of? (c : Command) :
    (of? c).filter (!·.isPrimary) = (foreignKey? c).map .foreign := by
  cases c with
  | index i =>
    by_cases hi : i.kind = .primary
    · rw [of?, if_pos hi]
      rfl
    · rw [of?, if_neg hi]
      rfl
  | _ => rfl

/-- The constraint of a foreign key does not read as that of a primary key. -/
theorem isPrimary_of_clause_eq {n : Naming} {k : TableKey} {columns : List String}
    (h : k.clause n = (primary columns).clause n) : k.isPrimary := by
  cases k with
  | primary _ => rfl
  | foreign f =>
    rw [clause, clause, referenceClause] at h
    split at h
    · cases h
    · split at h
      · cases h
      · have hchars := congrArg String.toList (Except.ok.inj h)
        simp only [String.toList_append, List.append_assoc] at hchars
        exact absurd (List.cons.inj hchars).1 (by decide)

end TableKey

open TableKey

/-- The keys that the commands of a blueprint ask for, in their order. -/
def keys (b : Blueprint) : List TableKey :=
  b.commands.filterMap of?

/-- The primary keys asked for with the columns of a blueprint. -/
def inlineKeys (b : Blueprint) : List TableKey :=
  b.columns.flatMap fun c => (c.indexes.filter (·.kind = .primary)).map fun _ => .primary [c.name]

/-- Of some keys the first primary key, and behind it every foreign key. -/
def foldedKeys (ks : List TableKey) : List TableKey :=
  (ks.filter isPrimary).take 1 ++ ks.filter (!·.isPrimary)

/-- Every key has a constraint of its own. -/
def Keeps (n : Naming) (ks : List TableKey) (constraints : List String) : Prop :=
  (ks.map (clause n)).Subperm (constraints.map .ok)

/-- Every key has a constraint of its own, in the order of the keys. -/
def KeepsInOrder (n : Naming) (ks : List TableKey) (constraints : List String) : Prop :=
  (ks.map (clause n)).Sublist (constraints.map .ok)

section

variable {n : Naming} {b : Blueprint} {ks : List TableKey} {constraints : List String}

/-- Building a blueprint for the first time, the keys asked for with columns come last. -/
theorem keys_complete (hb : b.completed = false) : keys b.complete = keys b ++ inlineKeys b := by
  have hbefore : b.impliedBefore.filterMap of? = [] := by
    unfold Blueprint.impliedBefore
    split <;> rfl
  have hcolumn (c : Column) : (Blueprint.columnIndexes b.name c).filterMap of? =
      (c.indexes.filter (·.kind = .primary)).map fun _ => .primary [c.name] := by
    unfold Blueprint.columnIndexes
    rw [List.filterMap_map, ← List.filterMap_eq_map, List.filterMap_filter]
    refine List.filterMap_congr fun i _ => ?_
    by_cases hi : i.kind = .primary <;> simp [of?, Index.ofColumns, hi]
  rw [keys, Blueprint.complete_eq hb, List.filterMap_append, List.filterMap_append, hbefore,
    List.nil_append, Blueprint.impliedAfter, List.filterMap_flatMap]
  simp only [hcolumn]
  rfl

/-! ## Constraints -/

theorem map_primary_primaryColumns (b : Blueprint) :
    ((b.commands.findSome? primaryColumns?).map .primary).toList =
      ((keys b).filter isPrimary).take 1 := by
  rw [keys, List.filter_filterMap, List.take_one, ← List.head?_filterMap, ← List.head?_map,
    List.map_filterMap]
  simp only [filter_of?]

theorem map_foreign_foreignKey (b : Blueprint) :
    (b.commands.filterMap foreignKey?).map .foreign = (keys b).filter (!·.isPrimary) := by
  rw [keys, List.filter_filterMap, List.map_filterMap]
  simp only [filter_not_of?]

/-- The constraints of a table are those of the keys that its statement has. -/
theorem map_clause_foldedKeys (h : keyClauses n b = .ok constraints) :
    (foldedKeys (keys b)).map (clause n) = constraints.map .ok := by
  obtain ⟨foreign, hforeign, h⟩ := bind_eq_ok.1 h
  cases h
  rw [foldedKeys, ← map_primary_primaryColumns, ← map_foreign_foreignKey, List.map_append,
    List.map_append, List.map_map]
  congr 1
  · cases b.commands.findSome? primaryColumns? <;> rfl
  · exact mapM_eq_ok_iff.1 hforeign

/-- The statement that creates the table of a blueprint with some constraints. -/
def createStatement (n : Naming) (b : Blueprint) (constraints : List String) : String :=
  "CREATE TABLE " ++ n.table b.name ++ " ("
    ++ commas (b.columns.map (definition n) ++ constraints) ++ ")"

theorem createTable_eq_ok_iff {own : List String} : createTable n b = .ok own ↔
    ∃ constraints, keyClauses n b = .ok constraints ∧ own = [createStatement n b constraints] := by
  unfold createTable
  rw [bind_eq_ok]
  refine exists_congr fun constraints => and_congr_right fun _ => ?_
  rw [Except.ok.injEq, eq_comm]
  rfl

/-! ## Which keys are kept -/

theorem keeps_iff_length (h : (foldedKeys ks).map (clause n) = constraints.map .ok) :
    Keeps n ks constraints ↔ (ks.filter isPrimary).length ≤ 1 := by
  rw [Keeps, ← h]
  constructor
  · intro hsub
    have hlength := hsub.length_le
    rw [List.length_map, List.length_map, foldedKeys, List.length_append, List.length_take,
      List.length_eq_length_filter_add isPrimary] at hlength
    omega
  · intro hle
    rw [foldedKeys, List.take_of_length_le hle]
    exact ((List.filter_append_perm isPrimary ks).symm.map (clause n)).subperm

/-- Keys of which none but the first is a primary key are written as they come. -/
theorem foldedKeys_eq_self (h : ∀ k ∈ ks.tail, k.isPrimary = false) : foldedKeys ks = ks := by
  cases ks with
  | nil => rfl
  | cons k rest =>
    have hnone : rest.filter isPrimary = [] :=
      List.filter_eq_nil_iff.2 fun k' hk' => by rw [h k' hk']; exact Bool.false_ne_true
    have hall : rest.filter (!·.isPrimary) = rest :=
      List.filter_eq_self.2 fun k' hk' => by rw [h k' hk']; rfl
    cases k with
    | primary columns =>
      rw [foldedKeys, List.filter_cons_of_pos rfl, List.filter_cons_of_neg Bool.false_ne_true,
        hnone, hall]
      rfl
    | foreign f =>
      rw [foldedKeys, List.filter_cons_of_neg Bool.false_ne_true, List.filter_cons_of_pos rfl,
        hnone, hall]
      rfl

theorem keepsInOrder_iff_tail (h : (foldedKeys ks).map (clause n) = constraints.map .ok) :
    KeepsInOrder n ks constraints ↔ ∀ k ∈ ks.tail, k.isPrimary = false := by
  constructor
  · intro hsub
    have hle : (ks.filter isPrimary).length ≤ 1 := (keeps_iff_length h).1 hsub.subperm
    rw [KeepsInOrder, ← h, foldedKeys, List.take_of_length_le hle] at hsub
    have heq := hsub.eq_of_length
      (by rw [List.length_map, List.length_map, (List.filter_append_perm isPrimary ks).length_eq])
    cases ks with
    | nil => exact fun k hk => absurd hk List.not_mem_nil
    | cons k rest =>
      suffices hrest : rest.filter isPrimary = [] from
        fun k' hk' => Bool.eq_false_iff.2 (List.filter_eq_nil_iff.1 hrest k' hk')
      cases k with
      | primary columns =>
        rw [List.filter_cons_of_pos rfl, List.length_cons] at hle
        exact List.length_eq_zero_iff.1 (by omega)
      | foreign f =>
        rw [List.filter_cons_of_neg Bool.false_ne_true] at heq
        cases hps : rest.filter isPrimary with
        | nil => rfl
        | cons p ps =>
          -- the first constraint would be that of `f` and that of a primary key
          have hp : p.isPrimary := (List.mem_filter.1 (hps ▸ List.mem_cons_self)).2
          rw [hps] at heq
          cases p with
          | primary columns =>
            exact absurd (isPrimary_of_clause_eq (List.cons.inj heq).1) Bool.false_ne_true
          | foreign g => cases hp
  · intro htail
    rw [KeepsInOrder, ← h, foldedKeys_eq_self htail]

theorem createStatement_complete : createStatement n b.complete = createStatement n b := by
  unfold Blueprint.complete
  split <;> rfl

/-- A table is created with the constraints of its foreign keys, in their order, behind that of the
first primary key. So the keys asked for by commands, and behind them those asked for with columns,
all have constraints exactly if at most one is a primary key, and have them in their order exactly
if no other key stands in front of it. -/
theorem keeps_iff {tablePrefix : String} {statements : List String}
    (hcreate : .create ∈ b.commands)
    (h : ((ddl tablePrefix).build b).1 = .ok statements) :
    ∃ constraints, createStatement (ddl tablePrefix).naming b constraints ∈ statements ∧
      (foldedKeys (keys b.complete)).map (clause (ddl tablePrefix).naming) =
        constraints.map .ok ∧
      (Keeps (ddl tablePrefix).naming (keys b.complete) constraints ↔
        ((keys b.complete).filter isPrimary).length ≤ 1) ∧
      (KeepsInOrder (ddl tablePrefix).naming (keys b.complete) constraints ↔
        ∀ k ∈ (keys b.complete).tail, k.isPrimary = false) ∧
      (b.completed = false → keys b.complete = keys b ++ inlineKeys b) := by
  obtain ⟨own, hown, hsub⟩ := Ddl.exists_compile_of_mem (Blueprint.mem_commands_complete hcreate) h
  obtain ⟨constraints, hclauses, rfl⟩ := createTable_eq_ok_iff.1 hown
  rw [createStatement_complete] at hsub
  have hfolded := map_clause_foldedKeys hclauses
  exact ⟨constraints, hsub List.mem_cons_self, hfolded, keeps_iff_length hfolded,
    keepsInOrder_iff_tail hfolded, keys_complete⟩

end

/-- A table whose foreign key is asked for before its primary key. -/
def membershipsBlueprint : Blueprint :=
  .ofSteps "memberships"
    [.foreign ["team_id"] none ["id"] (some "teams") (some "cascade") none, .command .create,
      .column "id" .integer [.index .primary], .column "team_id" .integer []]

theorem keeps_iff_memberships : ∃ statements constraints,
    ((ddl "app_").build membershipsBlueprint).1 = .ok statements ∧
      createStatement (ddl "app_").naming membershipsBlueprint constraints ∈ statements ∧
      Keeps (ddl "app_").naming (keys membershipsBlueprint.complete) constraints ∧
      ¬ KeepsInOrder (ddl "app_").naming (keys membershipsBlueprint.complete) constraints := by
  obtain ⟨statements, hbuild⟩ :
      ∃ statements, ((ddl "app_").build membershipsBlueprint).1 = .ok statements :=
    ⟨_, rfl⟩
  obtain ⟨constraints, hmem, -, hkeeps, horder, -⟩ :=
    keeps_iff (b := membershipsBlueprint) (by decide) hbuild
  exact ⟨statements, constraints, hbuild, hmem, hkeeps.2 (by decide),
    fun h => absurd (horder.1 h) (by decide)⟩

/-- A table with a primary key asked for by a command, and one asked for with a column. -/
def pairBlueprint : Blueprint :=
  .ofSteps "pairs"
    [.command .create, .column "a" .integer [.index .primary], .column "b" .integer [],
      .index .primary ["b"] none none none]

/-- The primary key asked for with the column has no constraint. -/
theorem not_keeps : pairBlueprint.completed = false ∧
    keys pairBlueprint.complete = [.primary ["b"], .primary ["a"]] ∧
    ((ddl "").build pairBlueprint).1 =
      .ok [createStatement (ddl "").naming pairBlueprint ["PRIMARY KEY (\"b\")"]] ∧
    createStatement (ddl "").naming pairBlueprint ["PRIMARY KEY (\"b\")"] =
      "CREATE TABLE \"pairs\" (\"a\" INTEGER NOT NULL, \"b\" INTEGER NOT NULL, " ++
        "PRIMARY KEY (\"b\"))" ∧
    ¬ Keeps (ddl "").naming (keys pairBlueprint.complete) ["PRIMARY KEY (\"b\")"] := by
  refine ⟨rfl, by decide +kernel, by decide +kernel, by decide +kernel, fun hsub => ?_⟩
  exact absurd hsub.length_le (by decide +kernel)

end Sqlite

end SqlBuilder.Schema
