import SqlBuilder.Proofs.Vocabulary

/-!
# Other values in the same query

A `Rewriting` puts other values, and other verbatim predicates, in the place of those of a query, at
any depth. The statement of the rewritten query is the rewritten statement (`Query.select_rewrite`),
and so are INSERT, UPDATE and DELETE: where the values stand, and whether there is a statement at
all, does not hang on what the values are.

A rewritten query keeps no record of its values: statements are written from the clauses alone.
-/

namespace SqlBuilder

/-- What to put in the place of a value, and of a verbatim predicate with its values. -/
structure Rewriting where
  value : Value → Value
  fragment : String → List Value → String × List Value

/-- An item with a function applied to it. -/
def Linked.map {α β : Type} (f : α → β) (l : Linked α) : Linked β :=
  ⟨l.connector, f l.item⟩

namespace Rewriting

/-- The rewriting that leaves everything as it is. -/
def refl : Rewriting :=
  ⟨id, fun sql values => (sql, values)⟩

variable (ρ : Rewriting)

def comparison (c : Comparison) : Comparison :=
  { c with value := ρ.value c.value }

def row (row : Row Value) : Row Value :=
  row.map fun (column, v) => (column, ρ.value v)

def insertRows (v : InsertRows) : InsertRows :=
  { v with rows := v.rows.map fun row => row.map ρ.value }

end Rewriting

def Piece.rewrite (ρ : Rewriting) : Piece → Piece
  | .text sql => .text sql
  | .fragment sql values => .fragment (ρ.fragment sql values).1 (ρ.fragment sql values).2
  | .param v => .param (ρ.value v)

def Sql.rewrite (ρ : Rewriting) (s : Sql) : Sql :=
  s.map (Piece.rewrite ρ)

variable (ρ : Rewriting)

mutual

/-- A query with its values rewritten and no record of them. -/
def Query.rewrite : Query → Query
  | ⟨table, distinct, selects, aggregate, joins, wheres, groupings, havings, orderings, limit,
      offset, _, _⟩ =>
    { table, distinct, selects, aggregate, joins, wheres := Predicate.rewriteChain wheres,
      groupings, havings := havings.map (Linked.map ρ.comparison), orderings, limit, offset }

def Predicate.rewriteChain : List (Linked Predicate) → List (Linked Predicate)
  | [] => []
  | p :: ps => Predicate.rewriteLinked p :: Predicate.rewriteChain ps

def Predicate.rewriteLinked : Linked Predicate → Linked Predicate
  | ⟨connector, p⟩ => ⟨connector, p.rewrite⟩

def Predicate.rewrite : Predicate → Predicate
  | .comparison c => .comparison (ρ.comparison c)
  | .member negated column values => .member negated column (values.map ρ.value)
  | .between negated column low high => .between negated column (ρ.value low) (ρ.value high)
  | .null negated column => .null negated column
  | .raw sql bindings => .raw (ρ.fragment sql bindings).1 (ρ.fragment sql bindings).2
  | .group members => .group (Predicate.rewriteChain members)
  | .memberOf negated column query => .memberOf negated column query.rewrite
  | .present negated query => .present negated query.rewrite

end

variable {ρ}

theorem Query.rewrite_eq (q : Query) : q.rewrite ρ =
    { q with
      wheres := Predicate.rewriteChain ρ q.wheres
      havings := q.havings.map (Linked.map ρ.comparison)
      whereValues := []
      havingValues := [] } := by
  cases q
  simp only [Query.rewrite]

theorem Query.rewrite_wheres (q : Query) :
    (q.rewrite ρ).wheres = Predicate.rewriteChain ρ q.wheres := by
  rw [Query.rewrite_eq]

theorem Predicate.rewriteChain_append (ps qs : List (Linked Predicate)) :
    Predicate.rewriteChain ρ (ps ++ qs) =
      Predicate.rewriteChain ρ ps ++ Predicate.rewriteChain ρ qs := by
  induction ps with
  | nil => rfl
  | cons p ps ih => simp [Predicate.rewriteChain, ih]

@[simp]
theorem Predicate.rewriteChain_isEmpty (ps : List (Linked Predicate)) :
    (Predicate.rewriteChain ρ ps).isEmpty = ps.isEmpty := by
  cases ps <;> rfl

/-! ## Pieces and the operators on them -/

namespace Sql

@[simp]
theorem rewrite_nil : rewrite ρ [] = [] :=
  rfl

@[simp]
theorem rewrite_lit (sql : String) : rewrite ρ (lit sql) = lit sql :=
  rfl

@[simp]
theorem rewrite_param (v : Value) : rewrite ρ [.param v] = [.param (ρ.value v)] :=
  rfl

@[simp]
theorem rewrite_append (s t : Sql) : rewrite ρ (s ++ t) = rewrite ρ s ++ rewrite ρ t :=
  List.map_append

@[simp]
theorem rewrite_isEmpty (s : Sql) : (rewrite ρ s).isEmpty = s.isEmpty :=
  List.isEmpty_map

theorem rewrite_refl (s : Sql) : rewrite .refl s = s := by
  induction s with
  | nil => rfl
  | cons p ps ih =>
    have hp : p.rewrite .refl = p := by cases p <;> rfl
    rw [rewrite, List.map_cons, hp]
    exact congrArg (p :: ·) ih

/-- Texts are not rewritten. -/
theorem rewrite_of_isText {s : Sql} (h : ∀ p ∈ s, p.IsText) : rewrite ρ s = s := by
  refine (List.map_congr_left fun p hp => ?_).trans (List.map_id s)
  obtain ⟨x, rfl⟩ := h p hp
  rfl

theorem rewrite_joined (sep : String) (parts : List Sql) :
    rewrite ρ (joined sep parts) = joined sep (parts.map (rewrite ρ)) := by
  induction parts with
  | nil => rfl
  | cons a as ih =>
    cases as with
    | nil => simp
    | cons b bs => simp [joined_cons_cons, ih]

theorem rewrite_params (values : List Value) :
    rewrite ρ (params values) = params (values.map ρ.value) := by
  simp [params, rewrite_joined, List.map_map, Function.comp_def]

theorem rewrite_clauses (parts : List Sql) :
    rewrite ρ (clauses parts) = clauses (parts.map (rewrite ρ)) := by
  simp [clauses, rewrite_joined, List.filter_map, Function.comp_def]

end Sql

theorem Linked.rewrite_chain (items : List (Linked Sql)) :
    (chain items).rewrite ρ = chain (items.map (Linked.map (Sql.rewrite ρ))) := by
  cases items with
  | nil => rfl
  | cons first rest =>
    simp [chain, Sql.rewrite_joined, Linked.map, List.map_map, Function.comp_def]

/-! ## Conditions -/

namespace Target

variable (t : Target)

theorem rewrite_behind (keyword : String) (clause : Sql) :
    (behind keyword clause).rewrite ρ = behind keyword (clause.rewrite ρ) := by
  unfold behind
  rw [Sql.rewrite_isEmpty]
  split <;> simp

theorem rewrite_memberOf (negated : Bool) (column : String) (source : Sql) :
    (t.memberOf negated column source).rewrite ρ =
      t.memberOf negated column (source.rewrite ρ) := by
  simp [memberOf, reference]

theorem rewrite_member (negated : Bool) (column : String) (values : List Value) :
    (t.member negated column values).rewrite ρ =
      t.member negated column (values.map ρ.value) := by
  cases values with
  | nil => rfl
  | cons v vs => exact (rewrite_memberOf t negated column _).trans (by rw [Sql.rewrite_params]; rfl)

theorem rewrite_presence (negated : Bool) (source : Sql) :
    (presence negated source).rewrite ρ = presence negated (source.rewrite ρ) := by
  simp [presence]

theorem rewrite_havings (q : Query) : (t.havings q).rewrite ρ = t.havings (q.rewrite ρ) := by
  simp only [havings, rewrite_behind, Linked.rewrite_chain, List.map_map, Query.rewrite_eq]
  rfl

end Target

/-! ## Statements -/

def Clauses.rewrite (ρ : Rewriting) (c : Clauses) : Clauses where
  select := c.select.rewrite ρ
  fromTable := c.fromTable.rewrite ρ
  joins := c.joins.rewrite ρ
  wheres := c.wheres.rewrite ρ
  groups := c.groups.rewrite ρ
  havings := c.havings.rewrite ρ
  orders := c.orders.rewrite ρ
  limit := c.limit.rewrite ρ
  offset := c.offset.rewrite ρ

theorem Clauses.rewrite_statement (c : Clauses) :
    c.statement.rewrite ρ = (c.rewrite ρ).statement :=
  Sql.rewrite_clauses _

namespace Target

variable (t : Target)

theorem windowed_rewrite (q : Query) (inner : Sql) :
    t.windowed (q.rewrite ρ) (inner.rewrite ρ) = (t.windowed q inner).map (Sql.rewrite ρ) := by
  -- the numbering holds names only
  have hn : (t.numbering q true).rewrite ρ = t.numbering q true :=
    Sql.rewrite_of_isText (forall_mem_numbering (Vocabulary.names_fits t) fun _ _ => ⟨_, rfl⟩)
  rw [Query.rewrite_eq]
  simp only [windowed]
  cases rowWindow q.limit q.offset with
  | error e => rfl
  | ok window =>
    simp only [bind, Except.bind, Except.map, Sql.rewrite_append, Sql.rewrite_lit]
    split
    · simp only [Sql.rewrite_append, Sql.rewrite_lit, hn]
      rfl
    · rfl

/-- Only the conditions of a query hold values. -/
theorem clauses_rewrite (q : Query) (conditions : List (Linked Sql)) :
    t.clauses (q.rewrite ρ) (conditions.map (Linked.map (Sql.rewrite ρ))) =
      (t.clauses q conditions).rewrite ρ := by
  have fits := Vocabulary.names_fits t
  have names := q.names_names
  have hwheres : (behind "WHERE" (Linked.chain conditions)).rewrite ρ =
      behind "WHERE" (Linked.chain (conditions.map (Linked.map (Sql.rewrite ρ)))) := by
    rw [rewrite_behind, Linked.rewrite_chain]
  simp only [Clauses.rewrite, clauses, Sql.rewrite_of_isText (forall_mem_selectClause fits names),
    Sql.rewrite_of_isText (forall_mem_fromTable fits names),
    Sql.rewrite_of_isText (forall_mem_joins fits names),
    Sql.rewrite_of_isText (forall_mem_groups fits names),
    Sql.rewrite_of_isText (forall_mem_orders fits names),
    Sql.rewrite_of_isText (forall_mem_limit fits q),
    Sql.rewrite_of_isText (forall_mem_offset fits q), hwheres, rewrite_havings]
  rw [Query.rewrite_eq]
  rfl

theorem statement_rewrite (q : Query) (conditions : List (Linked Sql)) :
    t.statement (q.rewrite ρ) (conditions.map (Linked.map (Sql.rewrite ρ))) =
      (t.statement q conditions).map (Sql.rewrite ρ) := by
  have hnumbers : t.numbersRows (q.rewrite ρ) = t.numbersRows q := by
    rw [Query.rewrite_eq]
    rfl
  simp only [statement, hnumbers, clauses_rewrite]
  split
  · rw [← windowed_rewrite, Clauses.rewrite_statement]
    rfl
  · rw [Except.map, Clauses.rewrite_statement]

end Target

mutual

/-- Rewriting the values of a query rewrites its statement. -/
theorem Query.select_rewrite (t : Target) : ∀ q : Query,
    (q.rewrite ρ).select t = (q.select t).map (Sql.rewrite ρ)
  | ⟨_, _, _, _, _, wheres, _, _, _, _, _, _, _⟩ => by
    rw [Query.select_eq, Query.select_eq, Query.rewrite_wheres, Predicate.chain_rewrite t wheres]
    cases Predicate.chain t wheres with
    | error e => rfl
    | ok conditions => exact Target.statement_rewrite t _ conditions

theorem Predicate.chain_rewrite (t : Target) : ∀ ps : List (Linked Predicate),
    Predicate.chain t (Predicate.rewriteChain ρ ps) =
      (Predicate.chain t ps).map (List.map (Linked.map (Sql.rewrite ρ)))
  | [] => rfl
  | p :: ps => by
    simp only [Predicate.rewriteChain, Predicate.chain, Predicate.linked_rewrite t p,
      Predicate.chain_rewrite t ps]
    cases Predicate.linked t p with
    | error e => rfl
    | ok condition => cases Predicate.chain t ps <;> rfl

theorem Predicate.linked_rewrite (t : Target) : ∀ l : Linked Predicate,
    Predicate.linked t (Predicate.rewriteLinked ρ l) =
      (Predicate.linked t l).map (Linked.map (Sql.rewrite ρ))
  | ⟨_, p⟩ => by
    simp only [Predicate.rewriteLinked, Predicate.linked, Predicate.condition_rewrite t p]
    cases p.condition t <;> rfl

theorem Predicate.condition_rewrite (t : Target) : ∀ p : Predicate,
    (p.rewrite ρ).condition t = (p.condition t).map (Sql.rewrite ρ)
  | .comparison c => rfl
  | .member negated column values => by
    simp only [Predicate.rewrite, Predicate.condition, ← Target.rewrite_member]
    rfl
  | .between negated column low high => rfl
  | .null negated column => rfl
  | .raw sql bindings => rfl
  | .group members => by
    simp only [Predicate.rewrite, Predicate.condition, Predicate.chain_rewrite t members]
    cases Predicate.chain t members with
    | error e => rfl
    | ok conditions =>
      simp only [bind, Except.bind, Except.map, Sql.rewrite_append, Sql.rewrite_lit,
        Linked.rewrite_chain]
  | .memberOf negated column query => by
    simp only [Predicate.rewrite, Predicate.condition, Query.select_rewrite t query]
    cases query.select t with
    | error e => rfl
    | ok source => simp only [bind, Except.bind, Except.map, Target.rewrite_memberOf]
  | .present negated query => by
    simp only [Predicate.rewrite, Predicate.condition, Query.select_rewrite t query]
    cases query.select t with
    | error e => rfl
    | ok source => simp only [bind, Except.bind, Except.map, Target.rewrite_presence]

end

/-! ## Statements that write -/

namespace Query

theorem whereClause_rewrite (t : Target) (q : Query) :
    (q.rewrite ρ).whereClause t = (q.whereClause t).map (Sql.rewrite ρ) := by
  simp only [whereClause, rewrite_wheres, Predicate.chain_rewrite]
  cases Predicate.chain t q.wheres with
  | error e => rfl
  | ok conditions =>
    simp only [bind, Except.bind, Except.map, Target.rewrite_behind, Linked.rewrite_chain]

theorem rewrite_behindStatement (statement clause : Sql) :
    (behindStatement statement clause).rewrite ρ =
      behindStatement (statement.rewrite ρ) (clause.rewrite ρ) := by
  unfold behindStatement
  rw [Sql.rewrite_isEmpty]
  split <;> simp

theorem update_rewrite (t : Target) (q : Query) (row : Row Value) :
    (q.rewrite ρ).update t (ρ.row row) = (q.update t row).map (Sql.rewrite ρ) := by
  have hempty : (ρ.row row).isEmpty = row.isEmpty := List.isEmpty_map
  have htable : (q.rewrite ρ).table = q.table := by rw [rewrite_eq]
  simp only [update, hempty, htable, whereClause_rewrite]
  split
  · rfl
  · cases q.whereClause t with
    | error e => rfl
    | ok clause =>
      simp only [bind, Except.bind, Except.map, rewrite_behindStatement, Sql.rewrite_append,
        Sql.rewrite_lit, Sql.rewrite_joined, Rewriting.row, List.map_map]
      rfl

theorem delete_rewrite (t : Target) (q : Query) :
    (q.rewrite ρ).delete t = (q.delete t).map (Sql.rewrite ρ) := by
  have htable : (q.rewrite ρ).table = q.table := by rw [rewrite_eq]
  simp only [delete, htable, whereClause_rewrite]
  cases q.whereClause t with
  | error e => rfl
  | ok clause =>
    simp only [bind, Except.bind, Except.map, rewrite_behindStatement, Sql.rewrite_lit]

end Query

namespace Target

variable (t : Target)

theorem rewrite_rowSelect (columns : List String) (row : List Value) :
    (t.rowSelect columns row).rewrite ρ = t.rowSelect columns (row.map ρ.value) := by
  simp only [rowSelect, Sql.rewrite_append, Sql.rewrite_lit, Sql.rewrite_joined, List.zip_map_left,
    List.map_map]
  rfl

theorem insert_rewrite (table : String) (v : InsertRows) :
    t.insert table (ρ.insertRows v) = (t.insert table v).map (Sql.rewrite ρ) := by
  simp only [insert, Rewriting.insertRows, List.length_map, List.isEmpty_map]
  split
  · simp [Except.map, insertHead, Sql.rewrite_joined, List.map_map, Function.comp_def,
      rewrite_rowSelect]
  · split
    · rfl
    · simp [Except.map, insertHead, Sql.rewrite_joined, List.map_map, Function.comp_def,
        Sql.rewrite_params]

theorem insertReturning_rewrite (table : String) (v : InsertRows) (idColumn : String) :
    t.insertReturning table (ρ.insertRows v) idColumn =
      (t.insertReturning table v idColumn).map (Sql.rewrite ρ) := by
  simp only [insertReturning, insert_rewrite]
  cases t.insert table v with
  | error e => rfl
  | ok sql =>
    simp only [bind, Except.bind, Except.map]
    split <;> simp

end Target

end SqlBuilder
