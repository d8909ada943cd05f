import SqlBuilder.Proofs.Rewriting
import SqlBuilder.Query.Step

/-!
# Other values in the same steps

Steps with their values rewritten build the rewritten query, apart from what it records: where steps
build `q`, the rewritten steps build a query with the clauses of `q.rewrite ρ`
(`Query.exists_build_rewrite`), so that its statements are the rewritten statements of `q`
(`Query.Mirrors.select`).
-/

namespace SqlBuilder

variable (ρ : Rewriting)

mutual

/-- A step with its values rewritten, down to the steps inside it. -/
def Step.rewrite : Step → Step
  | .compare connector condition => .compare connector (ρ.comparison condition)
  | .nested connector steps => .nested connector (Step.rewriteAll steps)
  | .member connector negated column values =>
    .member connector negated column (values.map ρ.value)
  | .between connector negated column low high =>
    .between connector negated column (ρ.value low) (ρ.value high)
  | .raw connector sql bindings =>
    .raw connector (ρ.fragment sql bindings).1 (ρ.fragment sql bindings).2
  | .memberOf negated column table steps => .memberOf negated column table (Step.rewriteAll steps)
  | .present negated table steps => .present negated table (Step.rewriteAll steps)
  | .having connector condition => .having connector (ρ.comparison condition)
  | .finder method values => .finder method (values.map ρ.value)
  | s => s

def Step.rewriteAll : List Step → List Step
  | [] => []
  | s :: ss => s.rewrite :: Step.rewriteAll ss

end

variable {ρ}

namespace Query

/-- The clauses of one query are the rewritten clauses of another. -/
def Mirrors (ρ : Rewriting) (q q' : Query) : Prop :=
  q'.rewrite .refl = q.rewrite ρ

theorem mirrors_ofTable (table : String) : Mirrors ρ (ofTable table) (ofTable table) := by
  simp only [Mirrors, rewrite_eq]
  rfl

/-- A change that has no part in the values of a query. -/
theorem Mirrors.change {q q' : Query} (h : Mirrors ρ q q') (f : Query → Query)
    (hf : ∀ (ρ : Rewriting) (q : Query), (f q).rewrite ρ = f (q.rewrite ρ)) :
    Mirrors ρ (f q) (f q') := by
  rw [Mirrors, hf, hf, h]

theorem Mirrors.addWhere {q q' : Query} (h : Mirrors ρ q q') (connector : Connector)
    {p p' : Predicate} {values values' : List Value} (hp : p'.rewrite .refl = p.rewrite ρ) :
    Mirrors ρ (q.addWhere connector p values) (q'.addWhere connector p' values') := by
  have key (ρ : Rewriting) (q : Query) (p : Predicate) (values : List Value) :
      (q.addWhere connector p values).rewrite ρ =
        { q.rewrite ρ with wheres := (q.rewrite ρ).wheres ++ [⟨connector, p.rewrite ρ⟩] } := by
    simp [rewrite_eq, Query.addWhere, Predicate.rewriteChain_append, Predicate.rewriteChain,
      Predicate.rewriteLinked]
  rw [Mirrors, key, key, h, hp]

theorem Mirrors.addHaving {q q' : Query} (h : Mirrors ρ q q') (connector : Connector)
    (c : Comparison) :
    Mirrors ρ (q.addHaving connector c) (q'.addHaving connector (ρ.comparison c)) := by
  have key (ρ : Rewriting) (q : Query) (c : Comparison) :
      (q.addHaving connector c).rewrite ρ =
        { q.rewrite ρ with
          havings := (q.rewrite ρ).havings ++ [⟨connector, ρ.comparison c⟩] } := by
    simp [rewrite_eq, Query.addHaving, Linked.map]
  rw [Mirrors, key, key, h]
  rfl

theorem Mirrors.addGroup {q q' inner inner' : Query} (h : Mirrors ρ q q')
    (hi : Mirrors ρ inner inner') (connector : Connector) :
    Mirrors ρ (q.addGroup connector inner) (q'.addGroup connector inner') := by
  have hwheres : Predicate.rewriteChain .refl inner'.wheres =
      Predicate.rewriteChain ρ inner.wheres := by
    rw [← rewrite_wheres, ← rewrite_wheres, hi]
  have hempty : inner'.wheres.isEmpty = inner.wheres.isEmpty := by
    rw [← Predicate.rewriteChain_isEmpty, hwheres, Predicate.rewriteChain_isEmpty]
  simp only [Query.addGroup, hempty]
  split
  · exact h
  · refine h.addWhere connector ?_
    simp only [Predicate.rewrite, hwheres]

theorem Mirrors.foldl_whereEq {columns : List (Linked String × Value)} :
    ∀ {q q' : Query}, Mirrors ρ q q' →
      Mirrors ρ (columns.foldl (fun q (l, v) => q.whereEq l.connector l.item v) q)
        ((columns.map fun (l, v) => (l, ρ.value v)).foldl
          (fun q (l, v) => q.whereEq l.connector l.item v) q') := by
  induction columns with
  | nil => intro q q' h; exact h
  | cons x xs ih =>
    intro q q' h
    exact ih (h.addWhere x.1.connector rfl)

theorem Mirrors.addFinder {q q' r : Query} (h : Mirrors ρ q q') {method : String}
    {values : List Value} (hr : q.addFinder method values = .ok r) :
    ∃ r', q'.addFinder method (values.map ρ.value) = .ok r' ∧ Mirrors ρ r r' := by
  unfold Query.addFinder at hr ⊢
  obtain ⟨m, hm, hr⟩ := bind_eq_ok.1 hr
  rw [hm]
  cases m with
  | aggregate f => cases hr
  | finder columns =>
    simp only at hr
    split at hr
    · cases hr
    · next hlen =>
      cases hr
      refine ⟨_, ?_, h.foldl_whereEq⟩
      simp only [bind, Except.bind, List.length_map, hlen, ↓reduceIte, List.zip_map_right]
      rfl

end Query

mutual

/-- A rewritten step takes a mirrored query to the mirror of what the step makes. -/
theorem Step.exists_apply_rewrite : ∀ {s : Step} {q q' r : Query}, Query.Mirrors ρ q q' →
    s.apply q = .ok r → ∃ r', (s.rewrite ρ).apply q' = .ok r' ∧ Query.Mirrors ρ r r'
  | .select columns, _, _, _, h, hr => by
    cases hr
    exact ⟨_, rfl, h.change (fun q => { q with selects := some (columns.map .column) })
      fun _ _ => by simp only [Query.rewrite_eq]⟩
  | .selectRaw sql, _, _, _, h, hr => by
    cases hr
    exact ⟨_, rfl, h.change (fun q => { q with selects := some (q.selects.getD [] ++ [.raw sql]) })
      fun _ _ => by simp only [Query.rewrite_eq]⟩
  | .distinct, _, _, _, h, hr => by
    cases hr
    exact ⟨_, rfl, h.change (fun q => { q with distinct := true })
      fun _ _ => by simp only [Query.rewrite_eq]⟩
  | .compare connector _, _, _, _, h, hr => by
    cases hr
    exact ⟨_, rfl, h.addWhere connector rfl⟩
  | .nested connector steps, q, q', _, h, hr => by
    simp only [Step.apply] at hr
    obtain ⟨inner, hi, hr⟩ := bind_eq_ok.1 hr
    cases hr
    -- a group is built on the table of its query, which rewriting leaves
    have htable : q'.table = q.table := by
      simpa only [Query.rewrite_eq] using congrArg Query.table h
    obtain ⟨inner', hi', hm⟩ := Step.exists_applyAll_rewrite (Query.mirrors_ofTable _) hi
    refine ⟨_, ?_, h.addGroup hm connector⟩
    simp only [Step.rewrite, Step.apply, htable]
    exact bind_eq_ok.2 ⟨inner', hi', rfl⟩
  | .member connector _ _ _, _, _, _, h, hr => by
    cases hr
    exact ⟨_, rfl, h.addWhere connector (by simp [Predicate.rewrite, Rewriting.refl])⟩
  | .between connector _ _ _ _, _, _, _, h, hr => by
    cases hr
    exact ⟨_, rfl, h.addWhere connector rfl⟩
  | .null connector _ _, _, _, _, h, hr => by
    cases hr
    exact ⟨_, rfl, h.addWhere connector rfl⟩
  | .raw connector _ _, _, _, _, h, hr => by
    cases hr
    exact ⟨_, rfl, h.addWhere connector rfl⟩
  | .memberOf negated column table steps, _, _, _, h, hr => by
    simp only [Step.apply] at hr
    obtain ⟨source, hi, hr⟩ := bind_eq_ok.1 hr
    cases hr
    obtain ⟨source', hi', hm⟩ := Step.exists_applyAll_rewrite (Query.mirrors_ofTable _) hi
    refine ⟨_, bind_eq_ok.2 ⟨source', hi', rfl⟩, h.addWhere .and ?_⟩
    simp only [Predicate.rewrite]
    rw [hm]
  | .present negated table steps, _, _, _, h, hr => by
    simp only [Step.apply] at hr
    obtain ⟨source, hi, hr⟩ := bind_eq_ok.1 hr
    cases hr
    obtain ⟨source', hi', hm⟩ := Step.exists_applyAll_rewrite (Query.mirrors_ofTable _) hi
    refine ⟨_, bind_eq_ok.2 ⟨source', hi', rfl⟩, h.addWhere .and ?_⟩
    simp only [Predicate.rewrite]
    rw [hm]
  | .resetWhere, _, _, _, h, hr => by
    cases hr
    exact ⟨_, rfl, h.change (fun q => { q with wheres := [], whereValues := [] })
      fun _ _ => by simp only [Query.rewrite_eq, Predicate.rewriteChain]⟩
  | .join j, _, _, _, h, hr => by
    cases hr
    exact ⟨_, rfl, h.change (fun q => { q with joins := q.joins ++ [j] })
      fun _ _ => by simp only [Query.rewrite_eq]⟩
  | .groupBy columns, _, _, _, h, hr => by
    cases hr
    exact ⟨_, rfl, h.change (fun q => { q with groupings := q.groupings ++ columns })
      fun _ _ => by simp only [Query.rewrite_eq]⟩
  | .having connector c, _, _, _, h, hr => by
    cases hr
    exact ⟨_, rfl, h.addHaving connector c⟩
  | .orderBy column direction, _, _, _, h, hr => by
    cases hr
    exact ⟨_, rfl, h.change (fun q => { q with orderings := q.orderings ++ [⟨column, direction⟩] })
      fun _ _ => by simp only [Query.rewrite_eq]⟩
  | .skip count, _, _, _, h, hr => by
    cases hr
    exact ⟨_, rfl, h.change (fun q => { q with offset := some count })
      fun _ _ => by simp only [Query.rewrite_eq]⟩
  | .take count, _, _, _, h, hr => by
    cases hr
    exact ⟨_, rfl, h.change (fun q => { q with limit := some count })
      fun _ _ => by simp only [Query.rewrite_eq]⟩
  | .page n perPage, _, _, _, h, hr => by
    cases hr
    exact ⟨_, rfl, h.change (fun q => q.onPage n perPage)
      fun _ _ => by simp only [Query.rewrite_eq, Query.onPage]⟩
  | .finder _ _, _, _, _, h, hr => h.addFinder hr
  | .setAggregate a, _, _, _, h, hr => by
    cases hr
    exact ⟨_, rfl, h.change (fun q => { q with aggregate := some a })
      fun _ _ => by simp only [Query.rewrite_eq]⟩

theorem Step.exists_applyAll_rewrite : ∀ {ss : List Step} {q q' r : Query}, Query.Mirrors ρ q q' →
    Step.applyAll ss q = .ok r →
      ∃ r', Step.applyAll (Step.rewriteAll ρ ss) q' = .ok r' ∧ Query.Mirrors ρ r r'
  | [], _, _, _, h, hr => by
    cases hr
    exact ⟨_, rfl, h⟩
  | s :: ss, _, _, _, h, hr => by
    simp only [Step.applyAll] at hr
    obtain ⟨q, hq, hr⟩ := bind_eq_ok.1 hr
    obtain ⟨q', hq', hm⟩ := Step.exists_apply_rewrite h hq
    obtain ⟨r', hr', hm⟩ := Step.exists_applyAll_rewrite hm hr
    refine ⟨r', ?_, hm⟩
    simp only [Step.rewriteAll, Step.applyAll]
    exact bind_eq_ok.2 ⟨q', hq', hr'⟩

end

namespace Query

/-- Rewritten steps build the mirror of what the steps build. -/
theorem exists_build_rewrite (ρ : Rewriting) {table : String} {steps : List Step} {q : Query}
    (h : Query.build table steps = .ok q) :
    ∃ q', Query.build table (Step.rewriteAll ρ steps) = .ok q' ∧ Mirrors ρ q q' :=
  Step.exists_applyAll_rewrite (mirrors_ofTable table) h

theorem map_rewrite_refl (x : Except Error Sql) : x.map (Sql.rewrite .refl) = x := by
  cases x with
  | error e => rfl
  | ok sql => exact congrArg Except.ok (Sql.rewrite_refl sql)

theorem Mirrors.select {q q' : Query} (h : Mirrors ρ q q') (t : Target) :
    q'.select t = (q.select t).map (Sql.rewrite ρ) := by
  rw [← select_rewrite, ← h, select_rewrite, map_rewrite_refl]

theorem Mirrors.delete {q q' : Query} (h : Mirrors ρ q q') (t : Target) :
    q'.delete t = (q.delete t).map (Sql.rewrite ρ) := by
  rw [← delete_rewrite, ← h, delete_rewrite, map_rewrite_refl]

theorem Mirrors.update {q q' : Query} (h : Mirrors ρ q q') (t : Target) (row : Row Value) :
    q'.update t (ρ.row row) = (q.update t row).map (Sql.rewrite ρ) := by
  have hrow : Rewriting.refl.row (ρ.row row) = ρ.row row := List.map_id _
  rw [← update_rewrite, ← h, ← hrow, update_rewrite, map_rewrite_refl, hrow]

end Query

end SqlBuilder
