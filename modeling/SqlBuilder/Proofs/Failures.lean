import SqlBuilder.Query.Step
import SqlBuilder.Query.Write

/-!
# Queries and rows without a statement

A statement of a query can fail in one place only: where SQL Server has to number rows and the
window of a query ends behind the greatest number (`Query.Beyond`). The failure of a query inside a
predicate, however deep, is a failure of all statements around it, and none is lost or made on the
way: a SELECT fails exactly if the query or one of its `subqueries` is beyond the numbers, an UPDATE
and a DELETE exactly if one of the `subqueries` fails (`Query.select_fails_iff`).

An INSERT fails for rows that hold nothing, whatever the dialect, unless they are several and are
written as a union of SELECTs: nobody asks for the columns then (`Target.refusesEmpty_iff`).
-/

namespace SqlBuilder

/-- A computation fails exactly under a condition, and then because the request has no meaning. -/
structure FailsIff {α : Type} (x : Except Error α) (condition : Prop) : Prop where
  iff : (∃ e, x = .error e) ↔ condition
  invalid : ∀ e, x = .error e → ∃ fault, e = .invalidQuery fault

namespace FailsIff

variable {α β : Type} {x : Except Error α} {f : α → Except Error β} {p r : Prop}

theorem ok (a : α) : FailsIff (.ok a : Except Error α) False where
  iff := ⟨fun ⟨_, h⟩ => (nomatch h), False.elim⟩
  invalid _ h := nomatch h

theorem error (fault : Fault) : FailsIff (.error (.invalidQuery fault) : Except Error α) True where
  iff := iff_of_true ⟨_, rfl⟩ trivial
  invalid _ h := ⟨fault, (Except.error.inj h).symm⟩

theorem congr (h : FailsIff x p) (hp : p ↔ r) : FailsIff x r :=
  ⟨h.iff.trans hp, h.invalid⟩

/-- Of two computations, one after the other, the first may fail or the second. -/
theorem bind (hx : FailsIff x p) (hf : ∀ a, x = .ok a → FailsIff (f a) r) :
    FailsIff (x >>= f) (p ∨ r) := by
  cases x with
  | error e =>
    obtain ⟨fault, rfl⟩ := hx.invalid e rfl
    exact (error fault).congr (iff_of_true trivial (Or.inl (hx.iff.1 ⟨_, rfl⟩)))
  | ok a =>
    have hp : ¬ p := fun h => by
      obtain ⟨e, he⟩ := hx.iff.2 h
      cases he
    exact (hf a rfl).congr (or_iff_right hp).symm

/-- What a computation gives can be put into another form without failure. -/
theorem map (hx : FailsIff x p) (f : α → β) : FailsIff (x >>= fun a => .ok (f a)) p :=
  (hx.bind fun a _ => ok (f a)).congr (iff_of_eq (or_false p))

end FailsIff

/-! ## Queries inside predicates -/

mutual

/-- The queries inside the predicates of a query, at any depth. -/
def Query.subqueries : Query → List Query
  | ⟨_, _, _, _, _, wheres, _, _, _, _, _, _, _⟩ => Predicate.chainSubqueries wheres

def Predicate.chainSubqueries : List (Linked Predicate) → List Query
  | [] => []
  | p :: ps => Predicate.linkedSubqueries p ++ Predicate.chainSubqueries ps

def Predicate.linkedSubqueries : Linked Predicate → List Query
  | ⟨_, p⟩ => p.subqueries

def Predicate.subqueries : Predicate → List Query
  | .comparison _ => []
  | .member .. => []
  | .between .. => []
  | .null .. => []
  | .raw .. => []
  | .group members => Predicate.chainSubqueries members
  | .memberOf _ _ query => query :: query.subqueries
  | .present _ query => query :: query.subqueries

end

theorem Query.subqueries_eq (q : Query) : q.subqueries = Predicate.chainSubqueries q.wheres := by
  cases q
  rw [Query.subqueries]

section Closed

variable {s s' : Query}

mutual

/-- What is inside a query inside a query is inside that query. -/
theorem Query.mem_subqueries_trans (hs' : s' ∈ s.subqueries) :
    ∀ q : Query, s ∈ q.subqueries → s' ∈ q.subqueries
  | ⟨_, _, _, _, _, wheres, _, _, _, _, _, _, _⟩, h => by
    rw [Query.subqueries] at h ⊢
    exact Predicate.mem_chainSubqueries_trans hs' wheres h

theorem Predicate.mem_chainSubqueries_trans (hs' : s' ∈ s.subqueries) :
    ∀ ps : List (Linked Predicate),
      s ∈ Predicate.chainSubqueries ps → s' ∈ Predicate.chainSubqueries ps
  | [], h => by
    rw [Predicate.chainSubqueries] at h
    cases h
  | ⟨_, p⟩ :: ps, h => by
    rw [Predicate.chainSubqueries, Predicate.linkedSubqueries, List.mem_append] at h ⊢
    exact h.imp (Predicate.mem_subqueries_trans hs' p) (Predicate.mem_chainSubqueries_trans hs' ps)

theorem Predicate.mem_subqueries_trans (hs' : s' ∈ s.subqueries) :
    ∀ p : Predicate, s ∈ p.subqueries → s' ∈ p.subqueries
  | .comparison _, h => by simp [Predicate.subqueries] at h
  | .member _ _ _, h => by simp [Predicate.subqueries] at h
  | .between _ _ _ _, h => by simp [Predicate.subqueries] at h
  | .null _ _, h => by simp [Predicate.subqueries] at h
  | .raw _ _, h => by simp [Predicate.subqueries] at h
  | .group members, h => by
    rw [Predicate.subqueries] at h ⊢
    exact Predicate.mem_chainSubqueries_trans hs' members h
  | .memberOf _ _ query, h => by
    rw [Predicate.subqueries] at h ⊢
    rcases List.mem_cons.1 h with rfl | h
    · exact List.mem_cons_of_mem _ hs'
    · exact List.mem_cons_of_mem _ (Query.mem_subqueries_trans hs' query h)
  | .present _ query, h => by
    rw [Predicate.subqueries] at h ⊢
    rcases List.mem_cons.1 h with rfl | h
    · exact List.mem_cons_of_mem _ hs'
    · exact List.mem_cons_of_mem _ (Query.mem_subqueries_trans hs' query h)

end

end Closed

/-! ## Windows that end behind the greatest number -/

/-- The first row behind an offset, or the last one within a limit, has no number of 64 bits. -/
def Unnumbered (limit : Option UInt64) (skipped : UInt64) : Prop :=
  UInt64.size ≤ skipped.toNat + 1 ∨
    ∃ count, limit = some count ∧ 0 < count ∧ UInt64.size ≤ skipped.toNat + count.toNat

/-- Rows behind an offset are asked for, and the numbers do not reach them. -/
def Query.Beyond (q : Query) : Prop :=
  q.aggregate = none ∧ ∃ skipped, q.offset = some skipped ∧ 0 < skipped ∧ Unnumbered q.limit skipped

theorem effective_eq_some_iff {n : Option UInt64} {k : UInt64} :
    effective n = some k ↔ n = some k ∧ 0 < k := by
  rw [effective, Option.filter_eq_some_iff, decide_eq_true_iff]

theorem failsIff_rowWindow (limit : Option UInt64) (skipped : UInt64) :
    FailsIff (rowWindow limit (some skipped)) (Unnumbered limit skipped) := by
  have hmax {n : Nat} : maxRowNumber < n ↔ UInt64.size ≤ n := Iff.rfl
  unfold rowWindow
  rw [Option.getD_some]
  by_cases hstart : UInt64.size ≤ skipped.toNat + 1
  · simp only [if_pos (hmax.2 hstart)]
    exact (FailsIff.error _).congr (iff_of_true trivial (Or.inl hstart))
  · simp only [if_neg (mt hmax.1 hstart)]
    cases hlimit : effective limit with
    | none =>
      refine (FailsIff.ok _).congr (iff_of_false id ?_)
      rintro (h | ⟨count, hcount, hpos, -⟩)
      · exact hstart h
      · rw [effective_eq_some_iff.2 ⟨hcount, hpos⟩] at hlimit
        cases hlimit
    | some count =>
      obtain ⟨hcount, hpos⟩ := effective_eq_some_iff.1 hlimit
      have hlast : Unnumbered limit skipped ↔ UInt64.size ≤ skipped.toNat + count.toNat := by
        rw [Unnumbered, or_iff_right hstart, hcount]
        constructor
        · rintro ⟨count', he, -, h⟩
          rwa [Option.some.inj he]
        · exact fun h => ⟨count, rfl, hpos, h⟩
      by_cases hbeyond : UInt64.size ≤ skipped.toNat + count.toNat
      · simp only [if_pos (hmax.2 hbeyond)]
        exact (FailsIff.error _).congr (iff_of_true trivial (hlast.2 hbeyond))
      · simp only [if_neg (mt hmax.1 hbeyond)]
        exact (FailsIff.ok _).congr (iff_of_false id (mt hlast.1 hbeyond))

namespace Target

variable (t : Target)

theorem failsIff_windowed {q : Query} {skipped : UInt64} (ho : q.offset = some skipped)
    (inner : Sql) : FailsIff (t.windowed q inner) (Unnumbered q.limit skipped) := by
  unfold windowed
  rw [ho]
  exact (failsIff_rowWindow q.limit skipped).map _

theorem numbersRows_iff {q : Query} : t.numbersRows q = true ↔
    t.dialect = .sqlserver ∧ q.aggregate = none ∧ ∃ skipped, q.offset = some skipped ∧
      0 < skipped := by
  simp only [numbersRows, Bool.and_eq_true, beq_iff_eq, Option.isNone_iff_eq_none,
    Option.isSome_iff_exists, effective_eq_some_iff, and_assoc]

/-- Once the conditions of a query are there, its own window decides. -/
theorem failsIff_statement (q : Query) (conditions : List (Linked Sql)) :
    FailsIff (t.statement q conditions) (t.dialect = .sqlserver ∧ q.Beyond) := by
  unfold statement
  by_cases hn : t.numbersRows q = true
  · obtain ⟨hd, ha, skipped, ho, hpos⟩ := t.numbersRows_iff.1 hn
    simp only [if_pos hn]
    refine (t.failsIff_windowed ho _).congr ⟨fun h => ⟨hd, ha, skipped, ho, hpos, h⟩, ?_⟩
    rintro ⟨-, -, skipped', ho', -, h⟩
    rwa [Option.some.inj (ho.symm.trans ho')]
  · simp only [if_neg hn]
    refine (FailsIff.ok _).congr (iff_of_false id ?_)
    rintro ⟨hd, ha, skipped, ho, hpos, -⟩
    exact hn (t.numbersRows_iff.2 ⟨hd, ha, skipped, ho, hpos⟩)

/-- One of several queries is beyond the numbers of a dialect that needs them. -/
def AnyBeyond (queries : List Query) : Prop :=
  t.dialect = .sqlserver ∧ ∃ s ∈ queries, s.Beyond

/-- Without queries nothing fails. -/
theorem failsIff_nil {α : Type} (a : α) : FailsIff (.ok a : Except Error α) (t.AnyBeyond []) := by
  refine (FailsIff.ok a).congr (iff_of_false id ?_)
  rintro ⟨-, s, hs, -⟩
  cases hs

theorem anyBeyond_append (qs rs : List Query) :
    t.AnyBeyond (qs ++ rs) ↔ t.AnyBeyond qs ∨ t.AnyBeyond rs := by
  simp only [AnyBeyond, List.mem_append, or_and_right, exists_or, and_or_left]

theorem anyBeyond_cons (q : Query) (qs : List Query) :
    t.AnyBeyond (q :: qs) ↔ t.AnyBeyond qs ∨ t.dialect = .sqlserver ∧ q.Beyond := by
  simp only [AnyBeyond, List.mem_cons, or_and_right, exists_or, exists_eq_left, and_or_left]
  exact or_comm

end Target

/-! ## Failures at any depth -/

section

variable (t : Target)

mutual

theorem Query.failsIff_select : ∀ q : Query,
    FailsIff (q.select t) (t.AnyBeyond (q :: q.subqueries))
  | q@⟨_, _, _, _, _, wheres, _, _, _, _, _, _, _⟩ => by
    rw [Query.select, Query.subqueries]
    refine FailsIff.congr ?_ (t.anyBeyond_cons _ _).symm
    exact (Predicate.failsIff_chain wheres).bind fun conditions _ =>
      t.failsIff_statement _ conditions

theorem Predicate.failsIff_chain : ∀ ps : List (Linked Predicate),
    FailsIff (Predicate.chain t ps) (t.AnyBeyond (Predicate.chainSubqueries ps))
  | [] => by
    rw [Predicate.chain, Predicate.chainSubqueries]
    exact t.failsIff_nil _
  | p :: ps => by
    rw [Predicate.chain, Predicate.chainSubqueries]
    refine FailsIff.congr ?_ (t.anyBeyond_append _ _).symm
    exact (Predicate.failsIff_linked p).bind fun _ _ => (Predicate.failsIff_chain ps).map _

theorem Predicate.failsIff_linked : ∀ l : Linked Predicate,
    FailsIff (Predicate.linked t l) (t.AnyBeyond (Predicate.linkedSubqueries l))
  | ⟨_, p⟩ => by
    rw [Predicate.linked, Predicate.linkedSubqueries]
    exact (Predicate.failsIff_condition p).map _

theorem Predicate.failsIff_condition : ∀ p : Predicate,
    FailsIff (p.condition t) (t.AnyBeyond p.subqueries)
  | .comparison _ => by
    rw [Predicate.condition, Predicate.subqueries]
    exact t.failsIff_nil _
  | .member _ _ _ => by
    rw [Predicate.condition, Predicate.subqueries]
    exact t.failsIff_nil _
  | .between _ _ _ _ => by
    rw [Predicate.condition, Predicate.subqueries]
    exact t.failsIff_nil _
  | .null _ _ => by
    rw [Predicate.condition, Predicate.subqueries]
    exact t.failsIff_nil _
  | .raw _ _ => by
    rw [Predicate.condition, Predicate.subqueries]
    exact t.failsIff_nil _
  | .group members => by
    rw [Predicate.condition, Predicate.subqueries]
    exact (Predicate.failsIff_chain members).map _
  | .memberOf _ _ query => by
    rw [Predicate.condition, Predicate.subqueries]
    exact (Query.failsIff_select query).map _
  | .present _ query => by
    rw [Predicate.condition, Predicate.subqueries]
    exact (Query.failsIff_select query).map _

end

end

namespace Query

variable (t : Target) (q : Query)

theorem failsIff_whereClause : FailsIff (q.whereClause t) (t.AnyBeyond q.subqueries) := by
  rw [subqueries_eq]
  exact (Predicate.failsIff_chain t q.wheres).map _

/-- A query inside is beyond the numbers exactly if a query inside has no statement. -/
theorem anyBeyond_subqueries_iff : t.AnyBeyond q.subqueries ↔
    ∃ s ∈ q.subqueries, ∃ e, s.select t = .error e := by
  constructor
  · rintro ⟨hd, s, hs, hbeyond⟩
    exact ⟨s, hs, (s.failsIff_select t).iff.2 ⟨hd, s, List.mem_cons_self, hbeyond⟩⟩
  · rintro ⟨s, hs, hfails⟩
    obtain ⟨hd, s', hs', hbeyond⟩ := (s.failsIff_select t).iff.1 hfails
    rcases List.mem_cons.1 hs' with rfl | hs'
    · exact ⟨hd, _, hs, hbeyond⟩
    · exact ⟨hd, s', mem_subqueries_trans hs' q hs, hbeyond⟩

/-- A SELECT fails exactly if rows of the query, or of one inside its predicates, would need numbers
beyond the greatest, and then because it has no meaning; only SQL Server numbers rows. An UPDATE and
a DELETE fail exactly if the SELECT of a query inside does. -/
theorem select_fails_iff {row : Row Value} (hrow : row ≠ []) :
    ((∃ e, q.select t = .error e) ↔
        t.dialect = .sqlserver ∧ ∃ s ∈ q :: q.subqueries, s.Beyond) ∧
      (∀ e, q.select t = .error e → ∃ fault, e = .invalidQuery fault) ∧
      ((∃ e, q.update t row = .error e) ↔ ∃ s ∈ q.subqueries, ∃ e, s.select t = .error e) ∧
      ((∃ e, q.delete t = .error e) ↔ ∃ s ∈ q.subqueries, ∃ e, s.select t = .error e) := by
  obtain ⟨hselect, hinvalid⟩ := q.failsIff_select t
  have hwhere := (q.failsIff_whereClause t).congr (q.anyBeyond_subqueries_iff t)
  refine ⟨hselect, hinvalid, ?_, ?_⟩
  · have hfilled : row.isEmpty = false := List.isEmpty_eq_false_iff.2 hrow
    rw [update, hfilled]
    exact (hwhere.map _).iff
  · exact (hwhere.map _).iff

/-- Orders of which no line has an audit among the last that have a number, as many as counted. -/
def auditedSteps (count : UInt64) : List Step :=
  [.compare .and ⟨"open", .eq, .bool true⟩,
    .nested .or [.null .and false "void", .memberOf false "id" "lines"
      [.present true "audits" [.skip 18446744073709551614, .take count]]]]

/-- The greatest number is reached by one row behind the offset and passed by two. -/
theorem select_fails_iff_audited : ([("open", .bool false)] : Row Value) ≠ [] ∧ ∃ q r,
    Query.build "orders" (auditedSteps 1) = .ok q ∧ Query.build "orders" (auditedSteps 2) = .ok r ∧
      (¬ ∃ e, q.select ⟨.sqlserver, "app_"⟩ = .error e) ∧
      (∃ e, r.update ⟨.sqlserver, "app_"⟩ [("open", .bool false)] = .error e) ∧
      ¬ ∃ e, r.update ⟨.postgres, "app_"⟩ [("open", .bool false)] = .error e := by
  have hrow : ([("open", .bool false)] : Row Value) ≠ [] := List.cons_ne_nil _ _
  have hbuilt : ∀ count, ∃ q audits lines, Query.build "orders" (auditedSteps count) = .ok q ∧
      q.subqueries = [lines, audits] ∧ q.offset = none ∧ lines.offset = none ∧
      audits.aggregate = none ∧ audits.offset = some 18446744073709551614 ∧
      audits.limit = some count := fun count => ⟨_, _, _, rfl, rfl, rfl, rfl, rfl, rfl, rfl⟩
  obtain ⟨q, audits, lines, hq, hsub, hq₀, hlines, -, ho, hl⟩ := hbuilt 1
  obtain ⟨r, audits', lines', hr, hsub', -, -, ha', ho', hl'⟩ := hbuilt 2
  refine ⟨hrow, q, r, hq, hr, ?_, ?_, ?_⟩
  · rw [(select_fails_iff ⟨.sqlserver, "app_"⟩ q hrow).1, hsub]
    rintro ⟨-, s, hs, -, skipped, hs₀, -, hpast⟩
    simp only [List.mem_cons, List.not_mem_nil, or_false] at hs
    rcases hs with rfl | rfl | rfl
    · cases hq₀.symm.trans hs₀
    · cases hlines.symm.trans hs₀
    · cases ho.symm.trans hs₀
      rcases hpast with hpast | ⟨count, hcount, -, hpast⟩
      · exact absurd hpast (by decide)
      · cases hl.symm.trans hcount
        exact absurd hpast (by decide)
  · have hpast : audits'.Beyond := ⟨ha', _, ho', by decide, Or.inr ⟨2, hl', by decide, by decide⟩⟩
    have hfails := (select_fails_iff ⟨.sqlserver, "app_"⟩ audits' hrow).1.2
      ⟨rfl, audits', List.mem_cons_self, hpast⟩
    refine (select_fails_iff ⟨.sqlserver, "app_"⟩ r hrow).2.2.1.2 ⟨audits', ?_, hfails⟩
    rw [hsub']
    simp
  · rw [(select_fails_iff ⟨.postgres, "app_"⟩ r hrow).2.2.1]
    rintro ⟨s, -, hfails⟩
    obtain ⟨hd, -⟩ := (select_fails_iff ⟨.postgres, "app_"⟩ s hrow).1.1 hfails
    cases hd

end Query

/-! ## Rows that hold nothing -/

/-- There is no column or no row. -/
def InsertRows.HoldsNothing (v : InsertRows) : Prop :=
  v.columns = [] ∨ v.rows = []

namespace Target

variable (t : Target) (v : InsertRows)

/-- An INSERT of rows, with or without an answer of the key, is refused if they hold nothing, and
for no other reason. -/
structure RefusesEmpty : Prop where
  insert : ∀ table, FailsIff (t.insert table v) v.HoldsNothing
  insertReturning : ∀ table idColumn,
    FailsIff (t.insertReturning table v idColumn) v.HoldsNothing

/-- The rows are written as a union of SELECTs. -/
def Unites : Prop :=
  t.dialect = .sqlite ∧ 2 ≤ v.rows.length

variable {t v}

theorem failsIff_insert (table : String) :
    FailsIff (t.insert table v) (v.HoldsNothing ∧ ¬ t.Unites v) := by
  have hmany : (t.dialect = .sqlite && 2 ≤ v.rows.length) = true ↔ t.Unites v := by
    simp [Unites]
  have hempty : (v.columns.isEmpty || v.rows.isEmpty) = true ↔ v.HoldsNothing := by
    simp [InsertRows.HoldsNothing]
  unfold insert
  by_cases hunites : t.Unites v
  · rw [if_pos (hmany.2 hunites)]
    exact (FailsIff.ok _).congr (iff_of_false id fun h => h.2 hunites)
  · rw [if_neg (mt hmany.1 hunites)]
    by_cases hnothing : v.HoldsNothing
    · rw [if_pos (hempty.2 hnothing)]
      exact (FailsIff.error _).congr (iff_of_true trivial ⟨hnothing, hunites⟩)
    · rw [if_neg (mt hempty.1 hnothing)]
      exact (FailsIff.ok _).congr (iff_of_false id fun h => hnothing h.1)

/-- The answer of the key is put behind a statement that is there. -/
theorem failsIff_insertReturning (table idColumn : String) :
    FailsIff (t.insertReturning table v idColumn) (v.HoldsNothing ∧ ¬ t.Unites v) := by
  unfold insertReturning
  refine FailsIff.congr ((failsIff_insert table).bind fun statement _ => ?_)
    (iff_of_eq (or_false _))
  split
  · exact FailsIff.ok _
  · exact FailsIff.ok _

/-- Rows that hold nothing are refused in every dialect, and no others are, except for several rows
without columns where they are united. -/
theorem refusesEmpty_iff :
    t.RefusesEmpty v ↔ ¬ (t.dialect = .sqlite ∧ v.columns = [] ∧ 2 ≤ v.rows.length) := by
  constructor
  · rintro h ⟨hd, hcolumns, hrows⟩
    have hnothing : v.HoldsNothing := Or.inl hcolumns
    have hfails := (h.insert "").iff.2 hnothing
    exact ((failsIff_insert "").iff.1 hfails).2 ⟨hd, hrows⟩
  · intro h
    have hnot : v.HoldsNothing ∧ ¬ t.Unites v ↔ v.HoldsNothing := by
      refine and_iff_left_of_imp ?_
      rintro (hcolumns | hrows) ⟨hd, hmany⟩
      · exact h ⟨hd, hcolumns, hmany⟩
      · rw [hrows] at hmany
        exact absurd hmany (by decide)
    exact ⟨fun table => (failsIff_insert table).congr hnot,
      fun table idColumn => (failsIff_insertReturning table idColumn).congr hnot⟩

/-- Two rows that hold nothing are no rows in one dialect and a statement in another. -/
theorem not_refusesEmpty :
    (Target.mk .mysql "").insert "users" ⟨[], [[], []]⟩ = .error (.invalidQuery .emptyInsert) ∧
      ((Target.mk .sqlite "").insert "users" ⟨[], [[], []]⟩).toOption.map Sql.text =
        some "INSERT INTO \"users\" () SELECT  UNION ALL SELECT " ∧
      ¬ (Target.mk .sqlite "").RefusesEmpty ⟨[], [[], []]⟩ := by
  refine ⟨rfl, by decide +kernel, fun h => ?_⟩
  obtain ⟨e, he⟩ := (h.insert "users").iff.2 (Or.inl rfl)
  cases he

end Target

end SqlBuilder
