import SqlBuilder.Query.Step

/-!
# Steps in another order

A query has parts, and a step writes one of them. It reads that part and the name of the table, and
whether it fails is decided by the name of the table alone. So each part of a built query is what
the steps of that part build by themselves, and steps build a query exactly if the steps of every
part do (`Query.build_eq_ok_iff`). In which order steps of different parts come makes no difference
(`Query.build_of_reordered`).
-/

namespace SqlBuilder

/-- What a step can write. Predicates and HAVING conditions go with their values. -/
inductive Query.Part where
  | projection
  | distinct
  | predicates
  | joins
  | groupings
  | havings
  | orderings
  | paging
  | aggregate
  deriving DecidableEq

def Step.part : Step → Query.Part
  | .select _ | .selectRaw _ => .projection
  | .distinct => .distinct
  | .compare .. | .nested .. | .member .. | .between .. | .null .. | .raw .. | .memberOf ..
  | .present .. | .resetWhere | .finder .. => .predicates
  | .join _ => .joins
  | .groupBy _ => .groupings
  | .having .. => .havings
  | .orderBy .. => .orderings
  | .skip _ | .take _ | .page .. => .paging
  | .setAggregate _ => .aggregate

/-- The same steps of every part in the same order, hence the same steps in all. Between steps of
different parts the order may differ. -/
def Step.Reordered (ss ts : List Step) : Prop :=
  ∀ p : Query.Part, ss.filter (·.part = p) = ts.filter (·.part = p)

namespace Query

/-- A query with one of its parts alone. -/
def only (p : Part) (q : Query) : Query :=
  match p with
  | .projection => { table := q.table, selects := q.selects }
  | .distinct => { table := q.table, distinct := q.distinct }
  | .predicates => { table := q.table, wheres := q.wheres, whereValues := q.whereValues }
  | .joins => { table := q.table, joins := q.joins }
  | .groupings => { table := q.table, groupings := q.groupings }
  | .havings => { table := q.table, havings := q.havings, havingValues := q.havingValues }
  | .orderings => { table := q.table, orderings := q.orderings }
  | .paging => { table := q.table, limit := q.limit, offset := q.offset }
  | .aggregate => { table := q.table, aggregate := q.aggregate }

variable {p : Part} {q r : Query}

theorem only_ofTable (p : Part) (table : String) : (ofTable table).only p = ofTable table := by
  cases p <;> rfl

theorem table_only (p : Part) (q : Query) : (q.only p).table = q.table := by
  cases p <;> rfl

/-- A query is the sum of its parts. -/
theorem eq_of_only (h : ∀ p, q.only p = r.only p) : q = r := by
  have hprojection := h .projection
  have hdistinct := h .distinct
  have hpredicates := h .predicates
  have hjoins := h .joins
  have hgroupings := h .groupings
  have hhavings := h .havings
  have horderings := h .orderings
  have hpaging := h .paging
  have haggregate := h .aggregate
  cases q
  cases r
  simp_all [only]

/-! ## Predicates -/

theorem only_addWhere (hp : p ≠ .predicates) (connector : Connector) (predicate : Predicate)
    (values : List Value) : (q.addWhere connector predicate values).only p = q.only p := by
  cases p with
  | predicates => exact absurd rfl hp
  | _ => rfl

theorem only_addGroup (hp : p ≠ .predicates) (connector : Connector) (inner : Query) :
    (q.addGroup connector inner).only p = q.only p := by
  unfold addGroup
  split
  · rfl
  · exact only_addWhere hp _ _ _

theorem addGroup_only (q : Query) (connector : Connector) (inner : Query) :
    (q.only .predicates).addGroup connector inner =
      (q.addGroup connector inner).only .predicates := by
  unfold addGroup
  split <;> rfl

theorem only_foldl_whereEq (hp : p ≠ .predicates) {columns : List (Linked String × Value)} :
    ∀ q : Query,
      (columns.foldl (fun q (l, v) => q.whereEq l.connector l.item v) q).only p = q.only p := by
  induction columns with
  | nil => intro q; rfl
  | cons x xs ih => intro q; exact (ih _).trans (only_addWhere hp _ _ _)

theorem foldl_whereEq_only {columns : List (Linked String × Value)} :
    ∀ q : Query,
      columns.foldl (fun q (l, v) => q.whereEq l.connector l.item v) (q.only .predicates) =
        (columns.foldl (fun q (l, v) => q.whereEq l.connector l.item v) q).only .predicates := by
  induction columns with
  | nil => intro q; rfl
  | cons x xs ih => intro q; exact ih (q.whereEq x.1.connector x.1.item x.2)

/-- A finder has its equalities or its error whatever query it is added to. -/
theorem addFinder_cases (method : String) (values : List Value) :
    (∃ e, ∀ q : Query, q.addFinder method values = .error e) ∨
      ∃ columns : List (Linked String × Value), ∀ q : Query, q.addFinder method values =
        .ok (columns.foldl (fun q (l, v) => q.whereEq l.connector l.item v) q) := by
  unfold addFinder
  cases Method.parse method with
  | error e => exact Or.inl ⟨e, fun _ => rfl⟩
  | ok m =>
    cases m with
    | aggregate f => exact Or.inl ⟨_, fun _ => rfl⟩
    | finder columns =>
      by_cases hlength : columns.length ≠ values.length
      · exact Or.inl ⟨_, fun _ => if_pos hlength⟩
      · exact Or.inr ⟨columns.zip values, fun _ => if_neg hlength⟩

end Query

/-! ## One step -/

namespace Step

variable {p : Query.Part} {s : Step} {q q' r : Query}

/-- What a step does to its part it does to that part alone. -/
theorem apply_only (s : Step) (q : Query) :
    s.apply (q.only s.part) = (s.apply q).map (Query.only s.part) := by
  cases s with
  | nested connector steps =>
    simp only [apply, part, Query.table_only]
    cases applyAll steps (Query.ofTable q.table) with
    | error e => rfl
    | ok group => exact congrArg Except.ok (Query.addGroup_only q connector group)
  | memberOf negated column table steps =>
    simp only [apply]
    cases applyAll steps (Query.ofTable table) <;> rfl
  | present negated table steps =>
    simp only [apply]
    cases applyAll steps (Query.ofTable table) <;> rfl
  | finder method values =>
    rcases Query.addFinder_cases method values with ⟨e, he⟩ | ⟨columns, hc⟩
    · simp only [apply, he]
      rfl
    · simp only [apply, part, hc, Query.foldl_whereEq_only]
      rfl
  | _ => rfl

/-- A step leaves all parts but its own as they are. -/
theorem only_of_apply (hp : p ≠ s.part) (h : s.apply q = .ok r) : r.only p = q.only p := by
  cases s with
  | nested connector steps =>
    simp only [apply] at h
    obtain ⟨group, -, h⟩ := bind_eq_ok.1 h
    cases h
    exact Query.only_addGroup hp _ _
  | memberOf negated column table steps =>
    simp only [apply] at h
    obtain ⟨source, -, h⟩ := bind_eq_ok.1 h
    cases h
    exact Query.only_addWhere hp _ _ _
  | present negated table steps =>
    simp only [apply] at h
    obtain ⟨source, -, h⟩ := bind_eq_ok.1 h
    cases h
    exact Query.only_addWhere hp _ _ _
  | finder method values =>
    rcases Query.addFinder_cases method values with ⟨e, he⟩ | ⟨columns, hc⟩
    · simp only [apply, he] at h
      cases h
    · simp only [apply, hc] at h
      cases h
      exact Query.only_foldl_whereEq hp q
  | _ =>
    cases h
    cases p with
    | _ => first | rfl | exact absurd rfl hp

/-- No step changes the table. -/
theorem table_of_apply (h : s.apply q = .ok r) : r.table = q.table := by
  obtain ⟨p, hp⟩ : ∃ p, p ≠ s.part := by
    by_cases hs : s.part = .distinct
    · exact ⟨.joins, by simp [hs]⟩
    · exact ⟨.distinct, Ne.symm hs⟩
  rw [← Query.table_only p r, only_of_apply hp h, Query.table_only]

/-- A step that can be done to one query of a table can be done to all. -/
theorem exists_apply (ht : q'.table = q.table) (h : s.apply q = .ok r) :
    ∃ r', s.apply q' = .ok r' := by
  cases s with
  | nested connector steps =>
    simp only [apply] at h ⊢
    obtain ⟨group, hg, -⟩ := bind_eq_ok.1 h
    rw [ht, hg]
    exact ⟨_, rfl⟩
  | memberOf negated column table steps =>
    simp only [apply] at h ⊢
    obtain ⟨source, hs, -⟩ := bind_eq_ok.1 h
    rw [hs]
    exact ⟨_, rfl⟩
  | present negated table steps =>
    simp only [apply] at h ⊢
    obtain ⟨source, hs, -⟩ := bind_eq_ok.1 h
    rw [hs]
    exact ⟨_, rfl⟩
  | finder method values =>
    rcases Query.addFinder_cases method values with ⟨e, he⟩ | ⟨columns, hc⟩
    · simp only [apply, he] at h
      cases h
    · simp only [apply, hc]
      exact ⟨_, rfl⟩
  | _ => exact ⟨_, rfl⟩

/-! ## All steps -/

variable {ss : List Step}

/-- A part of what steps make is what the steps of the part make of it. -/
theorem applyAll_only (h : applyAll ss q = .ok r) :
    applyAll (ss.filter (·.part = p)) (q.only p) = .ok (r.only p) := by
  induction ss generalizing q with
  | nil =>
    cases h
    rfl
  | cons s ss ih =>
    simp only [applyAll] at h
    obtain ⟨q₁, hs, h⟩ := bind_eq_ok.1 h
    by_cases hp : s.part = p
    · rw [List.filter_cons_of_pos (by simpa using hp)]
      simp only [applyAll]
      have hstep : s.apply (q.only p) = .ok (q₁.only p) := by
        rw [← hp, apply_only, hs]
        rfl
      rw [hstep]
      exact ih h
    · rw [List.filter_cons_of_neg (by simpa using hp), ← only_of_apply (Ne.symm hp) hs]
      exact ih h

/-- Every step of a run can be done to the query that the run starts from. -/
theorem exists_apply_of_mem (h : applyAll ss q = .ok r) (hs : s ∈ ss) :
    ∃ r', s.apply q = .ok r' := by
  induction ss generalizing q with
  | nil => cases hs
  | cons s' ss ih =>
    simp only [applyAll] at h
    obtain ⟨q₁, hq₁, h⟩ := bind_eq_ok.1 h
    rcases List.mem_cons.1 hs with rfl | hs
    · exact ⟨q₁, hq₁⟩
    · obtain ⟨r', hr'⟩ := ih h hs
      exact exists_apply (table_of_apply hq₁).symm hr'

theorem exists_applyAll (h : ∀ s ∈ ss, ∃ r, s.apply q = .ok r) : ∃ r, applyAll ss q = .ok r := by
  induction ss generalizing q with
  | nil => exact ⟨q, rfl⟩
  | cons s ss ih =>
    obtain ⟨⟨q₁, hq₁⟩, hrest⟩ := List.forall_mem_cons.1 h
    simp only [applyAll]
    rw [hq₁]
    refine ih fun s hs => ?_
    obtain ⟨r, hr⟩ := hrest s hs
    exact exists_apply (table_of_apply hq₁) hr

end Step

namespace Query

/-- Steps build a query exactly if the steps of each part build that part of it. -/
theorem build_eq_ok_iff {table : String} {ss : List Step} {q : Query} :
    build table ss = .ok q ↔ ∀ p, build table (ss.filter (·.part = p)) = .ok (q.only p) := by
  constructor
  · intro h p
    have hp := Step.applyAll_only (p := p) h
    rwa [only_ofTable] at hp
  · intro h
    have hsteps : ∀ s ∈ ss, ∃ r, s.apply (ofTable table) = .ok r := by
      intro s hs
      exact Step.exists_apply_of_mem (h s.part) (List.mem_filter.2 ⟨hs, by simp⟩)
    obtain ⟨r, hr⟩ := Step.exists_applyAll hsteps
    have hparts : ∀ p, r.only p = q.only p := by
      intro p
      have hp := Step.applyAll_only (p := p) hr
      rw [only_ofTable] at hp
      exact Except.ok.inj (hp.symm.trans (h p))
    rw [build, hr, eq_of_only hparts]

/-- Steps in another order, but those of each part in the same, build the same query. So its
statement in every dialect is the same, and its bindings are the same in the same order. -/
theorem build_of_reordered {table : String} {ss ts : List Step} {q : Query}
    (h : Step.Reordered ss ts) (hq : build table ss = .ok q) : build table ts = .ok q := by
  rw [build_eq_ok_iff] at hq ⊢
  intro p
  rw [← h p]
  exact hq p

/-- Steps of every part, one after the other as they come to mind. -/
def scatteredSteps : List Step :=
  [.having .and ⟨"n", .gt, .int64 2⟩, .compare .and ⟨"draft", .eq, .bool true⟩, .resetWhere,
    .select ["id"], .finder "where_author_or_state" [.string "ada", .string "?"], .take 5,
    .nested .or [.member .and false "tag" [.string "a", .raw "b"], .null .or true "gone"],
    .join ⟨.left, "authors", [⟨.and, ⟨"authors.id", .eq, "posts.author"⟩⟩]⟩,
    .present true "bans" [.compare .and ⟨"open", .eq, .bool true⟩], .orderBy "id" .desc,
    .selectRaw "count(*) AS n", .groupBy ["id"], .distinct, .page 3 20, .orderBy "n" .asc]

/-- The same steps in the order of the clauses they go to. -/
def gatheredSteps : List Step :=
  [.distinct, .select ["id"], .selectRaw "count(*) AS n",
    .join ⟨.left, "authors", [⟨.and, ⟨"authors.id", .eq, "posts.author"⟩⟩]⟩,
    .compare .and ⟨"draft", .eq, .bool true⟩, .resetWhere,
    .finder "where_author_or_state" [.string "ada", .string "?"],
    .nested .or [.member .and false "tag" [.string "a", .raw "b"], .null .or true "gone"],
    .present true "bans" [.compare .and ⟨"open", .eq, .bool true⟩],
    .groupBy ["id"], .having .and ⟨"n", .gt, .int64 2⟩,
    .orderBy "id" .desc, .orderBy "n" .asc, .take 5, .page 3 20]

theorem build_of_reordered_gathered : Step.Reordered scatteredSteps gatheredSteps ∧
    ∃ q, build "posts" scatteredSteps = .ok q ∧ build "posts" gatheredSteps = .ok q ∧
      q.bindings.length = 5 := by
  have h : Step.Reordered scatteredSteps gatheredSteps := by
    intro p
    cases p <;> rfl
  have hlength : (build "posts" scatteredSteps).toOption.map (·.bindings.length) = some 5 := by
    decide +kernel
  cases hq : build "posts" scatteredSteps with
  | error e =>
    rw [hq] at hlength
    cases hlength
  | ok q =>
    rw [hq] at hlength
    exact ⟨h, q, rfl, build_of_reordered h hq, Option.some.inj hlength⟩

end Query

end SqlBuilder
