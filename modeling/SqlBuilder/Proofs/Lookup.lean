import SqlBuilder.Proofs.Truth
import SqlBuilder.Proofs.Writes

/-!
# Looking a row up by its key

Reading and deleting the row with a key puts the equality of the key behind the predicates of the
query, joined by AND. As AND binds tighter than OR, the key belongs to the last alternative only:
the WHERE list implies the equality exactly if no predicate behind the first one is joined by OR
(`Query.truth_whereEq_iff`, `Terminal.keyed_iff`).
-/

namespace SqlBuilder

namespace Query

variable {q : Query} {column : String} {v : Value}

theorem truths_whereEq (row : List Nat → Truth) :
    Predicate.truths row [] 0 (q.whereEq .and column v).wheres =
      Predicate.truths row [] 0 q.wheres ++ [⟨.and, row [q.wheres.length]⟩] := by
  have happend := Predicate.truths_append row [] 0 q.wheres
    [⟨.and, .comparison ⟨column, .eq, v⟩⟩]
  rw [Nat.zero_add] at happend
  exact happend

/-- The row that makes everything true but one predicate of the WHERE list. -/
def rowWithout (n : Nat) (place : List Nat) : Truth :=
  if place = [n] then .no else .yes

theorem truths_rowWithout {ps : List (Linked Predicate)} {n : Nat} (h : ps.length ≤ n) :
    ∀ l ∈ Predicate.truths (rowWithout n) [] 0 ps, l.item = .yes := by
  refine Predicate.truths_of_forall ps fun inner j _ hj => if_neg fun he => ?_
  rw [List.append_nil] at he
  have hlast : [j] = [n] := List.append_inj_right' (he.trans (List.nil_append [n]).symm) rfl
  have hjn := List.singleton_inj.1 hlast
  omega

/-- What stands before an OR is true without the predicates behind it. -/
theorem truth_rowWithout {before : List (Linked Predicate)} {n : Nat} (hne : before ≠ [])
    (hn : before.length ≤ n) (p : Predicate) (after : List (Linked Predicate))
    (rest : List (Linked Truth)) :
    Linked.truth (Predicate.truths (rowWithout n) [] 0 (before ++ ⟨.or, p⟩ :: after) ++ rest) =
      .yes := by
  have htruths : Predicate.truths (rowWithout n) [] 0 before ≠ [] := by
    cases before with
    | nil => exact absurd rfl hne
    | cons first before => exact List.cons_ne_nil _ _
  rw [Predicate.truths_append, List.append_assoc]
  exact Linked.truth_of_before htruths (Linked.truth_of_forall (truths_rowWithout hn)) _ _

/-- An equality behind a chain of predicates follows from the whole exactly if the predicates are
joined by AND. -/
theorem truth_whereEq_iff :
    (∀ row, (q.whereEq .and column v).truth row = .yes → row [q.wheres.length] = .yes) ↔
      ∀ l ∈ q.wheres.tail, l.connector = .and := by
  constructor
  · intro h l hl
    obtain ⟨connector, p⟩ := l
    cases connector with
    | and => rfl
    | or =>
      obtain ⟨first, before, after, hw⟩ : ∃ first before after,
          q.wheres = first :: before ++ ⟨.or, p⟩ :: after := by
        cases hw : q.wheres with
        | nil => rw [hw] at hl; cases hl
        | cons first rest =>
          rw [hw] at hl
          obtain ⟨before, after, rfl⟩ := List.append_of_mem hl
          exact ⟨first, before, after, rfl⟩
      have hlength : (first :: before).length ≤ q.wheres.length := by
        rw [hw, List.length_append]
        omega
      -- without the key the list is still true, by what stands before the OR
      have htruth := truth_rowWithout (List.cons_ne_nil _ _) hlength p after
        [⟨.and, rowWithout q.wheres.length [q.wheres.length]⟩]
      rw [← hw, ← truths_whereEq] at htruth
      have hkey : rowWithout q.wheres.length [q.wheres.length] = .no := if_pos rfl
      rw [h _ htruth] at hkey
      cases hkey
  · intro h row htruth
    -- a chain of ANDs is true only if its last condition is
    rw [truth, truths_whereEq, Linked.truth_of_and] at htruth
    · exact htruth _ (List.mem_append_right _ List.mem_cons_self)
    · intro l hl
      have htail := Predicate.and_of_mem_tail_truths row h [] 0
      cases ht : Predicate.truths row [] 0 q.wheres with
      | nil => rw [ht] at hl; cases hl
      | cons first rest =>
        rw [ht] at hl htail
        rcases List.mem_append.1 hl with hl | hl
        · exact htail l hl
        · rw [List.mem_singleton.1 hl]

end Query

/-! ## The WHERE list of a statement -/

theorem Target.infix_windowed {t : Target} {q : Query} {inner sql : Sql}
    (h : t.windowed q inner = .ok sql) : inner <:+: sql := by
  unfold windowed at h
  obtain ⟨window, -, h⟩ := bind_eq_ok.1 h
  cases h
  refine List.IsInfix.trans ?_ (List.infix_append _ _ _)
  split
  · rw [List.append_assoc _ inner]
    exact List.infix_append' _ _ _
  · exact List.infix_rfl

namespace Query

variable {t : Target} {q : Query} {sql : Sql}

theorem whereClause_congr {r : Query} (h : q.wheres = r.wheres) :
    q.whereClause t = r.whereClause t := by
  rw [whereClause, whereClause, h]

theorem infix_select (h : q.select t = .ok sql) :
    ∃ clause, q.whereClause t = .ok clause ∧ clause <:+: sql := by
  rw [select_eq] at h
  obtain ⟨conditions, hc, h⟩ := bind_eq_ok.1 h
  refine ⟨_, bind_eq_ok.2 ⟨conditions, hc, rfl⟩, ?_⟩
  simp only [Target.statement] at h
  split at h
  · refine List.IsInfix.trans ?_ (Target.infix_windowed h)
    exact Sql.infix_clauses (by simp [Target.clauses])
  · cases h
    exact Sql.infix_clauses (by simp [Target.clauses])

theorem infix_delete (h : q.delete t = .ok sql) :
    ∃ clause, q.whereClause t = .ok clause ∧ clause <:+: sql := by
  obtain ⟨clause, hclause, h⟩ := bind_eq_ok.1 h
  cases h
  refine ⟨clause, hclause, ?_⟩
  unfold behindStatement
  split
  · next he =>
    rw [List.isEmpty_iff.1 he]
    exact List.nil_infix
  · exact (List.suffix_append _ _).isInfix

end Query

/-- The WHERE list of a query stands in a statement that was sent. -/
def LogEntry.HasWhere (t : Target) (q : Query) (e : LogEntry) : Prop :=
  ∃ clause, q.whereClause t = .ok clause ∧ ∃ before after, e.sql = before ++ clause.text ++ after

theorem LogEntry.hasWhere_of_infix {t : Target} {q : Query} {sql : Sql} {bindings : List Value}
    (h : ∃ clause, q.whereClause t = .ok clause ∧ clause <:+: sql) :
    LogEntry.HasWhere t q ⟨sql.text, bindings⟩ := by
  obtain ⟨clause, hclause, before, after, rfl⟩ := h
  refine ⟨clause, hclause, Sql.text before, Sql.text after, ?_⟩
  rw [Sql.text_append, Sql.text_append]

namespace Terminal

variable {σ : Type} {db : Database σ} {q : Query} {s : Session σ} {op : Terminal} {v : Value}
  {e : LogEntry}

theorem log_get (q : Query) (s : Session σ) :
    (q.get { db with keepsLog := true } s).session.log =
      s.log ++ ((q.select db.target).toOption.map fun sql => ⟨sql.text, q.bindings⟩).toList := by
  have htarget : Database.target { db with keepsLog := true } = db.target := rfl
  simp only [Query.get, htarget]
  cases q.select db.target with
  | error e => exact (List.append_nil _).symm
  | ok sql => rfl

/-- The key is looked up by one SELECT, if it can be written. -/
theorem sent_find : (find v).sent db q s =
    ((({ q.whereEq .and "id" v with limit := some 1 } : Query).select db.target).toOption.map
      fun sql => (⟨sql.text, (q.whereEq .and "id" v).bindings⟩ : LogEntry)).toList :=
  log_get _ s.clearLog

/-- The statements that look a row up, or delete it, by its key. -/
theorem hasWhere_of_mem_sent (hop : op = .find v ∨ op = .deleteId v) (he : e ∈ op.sent db q s) :
    e.HasWhere db.target (q.whereEq .and "id" v) := by
  rcases hop with rfl | rfl
  · rw [sent_find] at he
    cases hsql : ({ q.whereEq .and "id" v with limit := some 1 } : Query).select db.target with
    | error _ => rw [hsql] at he; cases he
    | ok sql =>
      rw [hsql] at he
      obtain ⟨clause, hclause, hinfix⟩ := Query.infix_select hsql
      rw [Query.whereClause_congr rfl] at hclause
      rw [List.mem_singleton.1 he]
      exact LogEntry.hasWhere_of_infix ⟨clause, hclause, hinfix⟩
  · obtain ⟨sql, hsql, rfl⟩ := (mem_sent_iff rfl).1 he
    exact LogEntry.hasWhere_of_infix (Query.infix_delete hsql)

/-- The statement that looks a row up, or deletes it, by its key has the predicates of the query in
its WHERE list and the key behind them. Whatever truth the predicates have for a row, the list being
true for it implies that the row has the key, exactly if the predicates are joined by AND. -/
theorem keyed_iff (hop : op = .find v ∨ op = .deleteId v) (he : e ∈ op.sent db q s) :
    e.HasWhere db.target (q.whereEq .and "id" v) ∧
      (q.whereEq .and "id" v).wheres[q.wheres.length]? =
        some ⟨.and, .comparison ⟨"id", .eq, v⟩⟩ ∧
      ((∀ row, (q.whereEq .and "id" v).truth row = .yes → row [q.wheres.length] = .yes) ↔
        ∀ l ∈ q.wheres.tail, l.connector = .and) := by
  refine ⟨hasWhere_of_mem_sent hop he, ?_, Query.truth_whereEq_iff⟩
  exact List.getElem?_concat_length

/-- A group, open at both ends, among conditions that are joined by AND. -/
def tenantSteps : List Step :=
  [.nested .or [.compare .and ⟨"owner", .eq, .int64 3⟩, .null .or false "owner"],
    .member .and true "state" [.string "closed"]]

theorem keyed_iff_deleteId : ∃ q e, Query.build "orders" tenantSteps = .ok q ∧
    e ∈ (deleteId (.int64 5)).sent (replaying "postgres" "app_") q ⟨{}, []⟩ ∧
    e.HasWhere (replaying "postgres" "app_").target (q.whereEq .and "id" (.int64 5)) ∧
    ∀ row, (q.whereEq .and "id" (.int64 5)).truth row = .yes → row [q.wheres.length] = .yes := by
  obtain ⟨q, sql, hq, hsql⟩ : ∃ q sql, Query.build "orders" tenantSteps = .ok q ∧
      (q.whereEq .and "id" (.int64 5)).delete (replaying "postgres" "app_").target = .ok sql :=
    exists_of_isOk_bind (by decide +kernel)
  have hc : (deleteId (.int64 5)).change? (replaying "postgres" "app_").target q =
      some ⟨q.whereEq .and "id" (.int64 5), none⟩ := rfl
  have he := (mem_sent_iff (s := ⟨{}, []⟩) hc).2 ⟨sql, hsql, rfl⟩
  have hand : ∀ l ∈ q.wheres.tail, l.connector = .and := by
    cases hq
    simp [Query.addGroup, Query.addWhere, Query.ofTable]
  obtain ⟨hwhere, -, hkeyed⟩ := keyed_iff (Or.inr rfl) he
  exact ⟨q, _, hq, he, hwhere, hkeyed.2 hand⟩

/-- An alternative before the key stands by itself. -/
theorem not_keyed_deleteId : ∃ q,
    Query.build "t" [.compare .and ⟨"a", .eq, .int64 1⟩, .compare .or ⟨"b", .eq, .int64 2⟩] =
      .ok q ∧
    ((deleteId (.int64 5)).sent (replaying "sqlite" "") q ⟨{}, []⟩).map (·.sql) =
      ["DELETE FROM \"t\" WHERE \"a\" = ? OR \"b\" = ? AND \"id\" = ?"] ∧
    ∃ row, (q.whereEq .and "id" (.int64 5)).truth row = .yes ∧ row [q.wheres.length] = .no := by
  refine ⟨_, rfl, by decide +kernel, fun place => if place = [0] then .yes else .no, ?_, ?_⟩
  · rfl
  · rfl

end Terminal

end SqlBuilder
