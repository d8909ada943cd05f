import SqlBuilder.Proofs.Vocabulary
import SqlBuilder.Query.Step

/-!
# The values of a query in order

`Query.values` collects the values that the clauses of a query bind, in the order of the clauses and
down to the queries inside the predicates. These are the values that a statement of the query binds
(`Query.bindings_select`), and the values that a query has recorded once it is built
(`Query.bindings_of_build`): a step records a value exactly where it puts one into a clause.
-/

namespace SqlBuilder

/-- The values that HAVING conditions compare to. -/
def Comparison.values (havings : List (Linked Comparison)) : List Value :=
  havings.map (·.item.value)

mutual

/-- The values bound by the clauses of a query. -/
def Query.values : Query → List Value
  | ⟨_, _, _, _, _, wheres, _, havings, _, _, _, _, _⟩ =>
    Value.bound (Predicate.chainValues wheres ++ Comparison.values havings)

/-- The values in a chain of predicates, raw ones included. -/
def Predicate.chainValues : List (Linked Predicate) → List Value
  | [] => []
  | p :: ps => Predicate.linkedValues p ++ Predicate.chainValues ps

def Predicate.linkedValues : Linked Predicate → List Value
  | ⟨_, p⟩ => p.values

def Predicate.values : Predicate → List Value
  | .comparison condition => [condition.value]
  | .member _ _ values => values
  | .between _ _ low high => [low, high]
  | .null .. => []
  | .raw _ bindings => bindings
  | .group members => Predicate.chainValues members
  | .memberOf _ _ query => query.values
  | .present _ query => query.values

end

theorem Query.values_eq (q : Query) :
    q.values = Value.bound (Predicate.chainValues q.wheres ++ Comparison.values q.havings) := by
  cases q
  simp [Query.values]

theorem Value.bound_bound (values : List Value) : bound (bound values) = bound values :=
  List.filter_filter.trans (by simp [bound])

theorem Query.bound_values (q : Query) : Value.bound q.values = q.values := by
  rw [Query.values_eq, Value.bound_bound]

theorem Predicate.chainValues_append (ps qs : List (Linked Predicate)) :
    Predicate.chainValues (ps ++ qs) = Predicate.chainValues ps ++ Predicate.chainValues qs := by
  induction ps with
  | nil => rfl
  | cons p ps ih => simp [Predicate.chainValues, ih]

theorem Predicate.chainValues_singleton (connector : Connector) (p : Predicate) :
    Predicate.chainValues [⟨connector, p⟩] = p.values := by
  simp [Predicate.chainValues, Predicate.linkedValues]

/-! ## The values bound by a statement -/

namespace Target

variable (t : Target)

@[simp]
theorem bindings_reference (column : String) : (t.reference column).bindings = [] :=
  rfl

@[simp]
theorem bindings_comparison (c : Comparison) :
    (t.comparison c).bindings = Value.bound [c.value] := by
  simp [comparison]

@[simp]
theorem bindings_memberOf (negated : Bool) (column : String) (source : Sql) :
    (t.memberOf negated column source).bindings = source.bindings := by
  simp [memberOf]

theorem bindings_member (negated : Bool) (column : String) (values : List Value) :
    (t.member negated column values).bindings = Value.bound values := by
  cases values with
  | nil => rfl
  | cons v vs => simp [member]

theorem bindings_between (negated : Bool) (column : String) (low high : Value) :
    (t.between negated column low high).bindings = Value.bound [low, high] := by
  simp only [between, Sql.bindings_append, bindings_reference, Sql.bindings_lit, Sql.bindings_param,
    List.nil_append, List.append_nil]
  exact (Value.bound_append [low] [high]).symm

theorem bindings_nullity (negated : Bool) (column : String) :
    (t.nullity negated column).bindings = [] := by
  simp [nullity]

theorem bindings_presence (negated : Bool) (source : Sql) :
    (presence negated source).bindings = source.bindings := by
  simp [presence]

theorem bindings_havings (q : Query) :
    (t.havings q).bindings = Value.bound (Comparison.values q.havings) := by
  simp only [havings, bindings_behind, Linked.bindings_chain, List.flatMap_map, bindings_comparison]
  exact Value.flatMap_bound (fun l : Linked Comparison => l.item.value) q.havings

theorem bindings_windowed {q : Query} {inner sql : Sql} (h : t.windowed q inner = .ok sql) :
    sql.bindings = inner.bindings := by
  have hn : (t.numbering q true).bindings = [] :=
    Sql.bindings_of_isText (forall_mem_numbering (Vocabulary.names_fits t) fun _ _ => ⟨_, rfl⟩)
  unfold windowed at h
  obtain ⟨window, -, h⟩ := bind_eq_ok.1 h
  cases h
  cases q.distinct <;> simp [hn]

theorem bindings_statement {q : Query} {conditions : List (Linked Sql)} {sql : Sql}
    (h : t.statement q conditions = .ok sql) :
    sql.bindings =
      conditions.flatMap (·.item.bindings) ++ Value.bound (Comparison.values q.havings) := by
  have fits := Vocabulary.names_fits t
  have names := q.names_names
  have hselect := Sql.bindings_of_isText (forall_mem_selectClause fits names)
  have hfrom := Sql.bindings_of_isText (forall_mem_fromTable fits names)
  have hjoins := Sql.bindings_of_isText (forall_mem_joins fits names)
  have hgroups := Sql.bindings_of_isText (forall_mem_groups fits names)
  simp only [statement] at h
  split at h
  · rw [bindings_windowed t h]
    simp [Clauses.statement, clauses, hselect, hfrom, hjoins, hgroups, bindings_havings,
      Sql.bindings_of_isText (s := [])]
  · cases h
    simp [Clauses.statement, clauses, hselect, hfrom, hjoins, hgroups, bindings_havings,
      Sql.bindings_of_isText (forall_mem_orders fits names),
      Sql.bindings_of_isText (forall_mem_limit fits q),
      Sql.bindings_of_isText (forall_mem_offset fits q)]

end Target

section Statement

variable {t : Target}

mutual

theorem Query.bindings_select : ∀ {q : Query} {sql : Sql}, q.select t = .ok sql →
    sql.bindings = q.values
  | ⟨_, _, _, _, _, wheres, _, havings, _, _, _, _, _⟩, sql, h => by
    simp only [Query.select] at h
    obtain ⟨conditions, hc, h⟩ := bind_eq_ok.1 h
    rw [Target.bindings_statement t h, Predicate.bindings_chain hc]
    simp only [Query.values, Value.bound_append]

theorem Predicate.bindings_chain :
    ∀ {ps : List (Linked Predicate)} {conditions : List (Linked Sql)},
      Predicate.chain t ps = .ok conditions →
        conditions.flatMap (·.item.bindings) = Value.bound (Predicate.chainValues ps)
  | [], _, h => by
    cases h
    rfl
  | p :: ps, _, h => by
    simp only [Predicate.chain] at h
    obtain ⟨condition, hc, h⟩ := bind_eq_ok.1 h
    obtain ⟨conditions, hcs, h⟩ := bind_eq_ok.1 h
    cases h
    simp only [List.flatMap_cons, Predicate.chainValues, Value.bound_append]
    rw [Predicate.bindings_linked hc, Predicate.bindings_chain hcs]

theorem Predicate.bindings_linked : ∀ {l : Linked Predicate} {condition : Linked Sql},
    Predicate.linked t l = .ok condition →
      condition.item.bindings = Value.bound (Predicate.linkedValues l)
  | ⟨_, p⟩, _, h => by
    simp only [Predicate.linked] at h
    obtain ⟨condition, hc, h⟩ := bind_eq_ok.1 h
    cases h
    simp only [Predicate.linkedValues]
    exact Predicate.bindings_condition hc

theorem Predicate.bindings_condition : ∀ {p : Predicate} {sql : Sql}, p.condition t = .ok sql →
    sql.bindings = Value.bound p.values
  | .comparison c, _, h => by
    cases h
    exact Target.bindings_comparison t c
  | .member negated column values, _, h => by
    cases h
    exact Target.bindings_member t negated column values
  | .between negated column low high, _, h => by
    cases h
    exact Target.bindings_between t negated column low high
  | .null negated column, _, h => by
    cases h
    exact Target.bindings_nullity t negated column
  | .raw sql bindings, _, h => by
    cases h
    simp [Sql.bindings, Piece.bindings, Predicate.values]
  | .group members, _, h => by
    simp only [Predicate.condition] at h
    obtain ⟨conditions, hc, h⟩ := bind_eq_ok.1 h
    cases h
    simp [Predicate.values, Predicate.bindings_chain hc]
  | .memberOf negated column query, _, h => by
    simp only [Predicate.condition] at h
    obtain ⟨source, hc, h⟩ := bind_eq_ok.1 h
    cases h
    -- the values of a query are bound ones already
    rw [Target.bindings_memberOf, Query.bindings_select hc, Predicate.values, query.bound_values]
  | .present negated query, _, h => by
    simp only [Predicate.condition] at h
    obtain ⟨source, hc, h⟩ := bind_eq_ok.1 h
    cases h
    rw [Target.bindings_presence, Query.bindings_select hc, Predicate.values, query.bound_values]

end

end Statement

/-! ## The values recorded by the steps -/

/-- A query has recorded the values of its conditions. -/
structure Query.Recorded (q : Query) : Prop where
  wheres : q.whereValues = Predicate.chainValues q.wheres
  havings : q.havingValues = Comparison.values q.havings

namespace Query

theorem Recorded.bindings {q : Query} (h : q.Recorded) : q.bindings = q.values := by
  rw [Query.bindings, h.wheres, h.havings, values_eq]

theorem recorded_ofTable (table : String) : (ofTable table).Recorded :=
  ⟨rfl, rfl⟩

theorem Recorded.addWhere {q : Query} (h : q.Recorded) (connector : Connector) {p : Predicate}
    {values : List Value} (hv : values = p.values) : (q.addWhere connector p values).Recorded := by
  refine ⟨?_, h.havings⟩
  simp only [Query.addWhere]
  rw [h.wheres, hv, Predicate.chainValues_append, Predicate.chainValues_singleton]

theorem Recorded.addHaving {q : Query} (h : q.Recorded) (connector : Connector) (c : Comparison) :
    (q.addHaving connector c).Recorded := by
  refine ⟨h.wheres, ?_⟩
  simp only [Query.addHaving, Comparison.values, List.map_append, h.havings]
  rfl

theorem Recorded.addGroup {q inner : Query} (h : q.Recorded) (hi : inner.Recorded)
    (connector : Connector) : (q.addGroup connector inner).Recorded := by
  unfold Query.addGroup
  split
  · exact h
  · exact h.addWhere connector hi.wheres

theorem Recorded.foldl_whereEq {columns : List (Linked String × Value)} :
    ∀ {q : Query}, q.Recorded →
      (columns.foldl (fun q (l, v) => q.whereEq l.connector l.item v) q).Recorded := by
  induction columns with
  | nil => intro q h; exact h
  | cons x xs ih => intro q h; exact ih (h.addWhere x.1.connector rfl)

theorem Recorded.addFinder {q r : Query} (h : q.Recorded) {method : String} {values : List Value}
    (hr : q.addFinder method values = .ok r) : r.Recorded := by
  unfold Query.addFinder at hr
  obtain ⟨m, -, hr⟩ := bind_eq_ok.1 hr
  cases m with
  | aggregate f => cases hr
  | finder columns =>
    simp only at hr
    split at hr
    · cases hr
    · cases hr
      exact h.foldl_whereEq

end Query

mutual

/-- A step records the values that it puts into a query. -/
theorem Step.recorded_apply : ∀ {s : Step} {q r : Query}, q.Recorded → s.apply q = .ok r →
    r.Recorded
  | .select _, _, _, h, hr => by cases hr; exact ⟨h.wheres, h.havings⟩
  | .selectRaw _, _, _, h, hr => by cases hr; exact ⟨h.wheres, h.havings⟩
  | .distinct, _, _, h, hr => by cases hr; exact ⟨h.wheres, h.havings⟩
  | .compare connector _, _, _, h, hr => by cases hr; exact h.addWhere connector rfl
  | .nested connector steps, _, _, h, hr => by
    simp only [Step.apply] at hr
    obtain ⟨inner, hi, hr⟩ := bind_eq_ok.1 hr
    cases hr
    exact h.addGroup (Step.recorded_applyAll (Query.recorded_ofTable _) hi) connector
  | .member connector _ _ _, _, _, h, hr => by cases hr; exact h.addWhere connector rfl
  | .between connector _ _ _ _, _, _, h, hr => by cases hr; exact h.addWhere connector rfl
  | .null connector _ _, _, _, h, hr => by cases hr; exact h.addWhere connector rfl
  | .raw connector _ _, _, _, h, hr => by cases hr; exact h.addWhere connector rfl
  | .memberOf _ _ _ steps, _, _, h, hr => by
    simp only [Step.apply] at hr
    obtain ⟨source, hi, hr⟩ := bind_eq_ok.1 hr
    cases hr
    have hs := Step.recorded_applyAll (Query.recorded_ofTable _) hi
    exact h.addWhere .and (by simp only [Predicate.values]; exact hs.bindings)
  | .present _ _ steps, _, _, h, hr => by
    simp only [Step.apply] at hr
    obtain ⟨source, hi, hr⟩ := bind_eq_ok.1 hr
    cases hr
    have hs := Step.recorded_applyAll (Query.recorded_ofTable _) hi
    exact h.addWhere .and (by simp only [Predicate.values]; exact hs.bindings)
  | .resetWhere, _, _, h, hr => by cases hr; exact ⟨rfl, h.havings⟩
  | .join _, _, _, h, hr => by cases hr; exact ⟨h.wheres, h.havings⟩
  | .groupBy _, _, _, h, hr => by cases hr; exact ⟨h.wheres, h.havings⟩
  | .having connector c, _, _, h, hr => by cases hr; exact h.addHaving connector c
  | .orderBy _ _, _, _, h, hr => by cases hr; exact ⟨h.wheres, h.havings⟩
  | .skip _, _, _, h, hr => by cases hr; exact ⟨h.wheres, h.havings⟩
  | .take _, _, _, h, hr => by cases hr; exact ⟨h.wheres, h.havings⟩
  | .page _ _, _, _, h, hr => by cases hr; exact ⟨h.wheres, h.havings⟩
  | .finder _ _, _, _, h, hr => h.addFinder hr
  | .setAggregate _, _, _, h, hr => by cases hr; exact ⟨h.wheres, h.havings⟩

theorem Step.recorded_applyAll : ∀ {ss : List Step} {q r : Query}, q.Recorded →
    Step.applyAll ss q = .ok r → r.Recorded
  | [], _, _, h, hr => by
    cases hr
    exact h
  | s :: ss, _, _, h, hr => by
    simp only [Step.applyAll] at hr
    obtain ⟨q, hq, hr⟩ := bind_eq_ok.1 hr
    exact Step.recorded_applyAll (Step.recorded_apply h hq) hr

end

/-- A query that is built has recorded the values of its conditions. -/
theorem Query.recorded_of_build {table : String} {steps : List Step} {q : Query}
    (h : Query.build table steps = .ok q) : q.Recorded :=
  Step.recorded_applyAll (Query.recorded_ofTable table) h

end SqlBuilder
