import SqlBuilder.Proofs.Bindings
import SqlBuilder.Proofs.Building
import SqlBuilder.Proofs.Marks
import SqlBuilder.Proofs.Rebuilding

/-!
# Parameters of a SELECT

A query lists the values it binds while it is built, and its statement gets its marks when it is
written. That the two agree is put together from three facts: steps of `Vocabulary.marked` build a
query whose statement consists of marked pieces, the values bound by the pieces are the recorded
ones, and the steps with raw values in the place of the others build the statement with these
values in the place of its pieces.
-/

namespace SqlBuilder

variable {t : Target} {table : String} {steps : List Step} {q : Query} {sql : Sql}

theorem Query.bindings_of_build (hq : Query.build table steps = .ok q)
    (hsql : q.select t = .ok sql) : sql.bindings = q.bindings := by
  rw [Query.bindings_select hsql, (Query.recorded_of_build hq).bindings]

theorem Query.isRaw_of_mem_bindings {v : Value} (h : v ∈ q.bindings) : v.isRaw = false :=
  Value.isRaw_of_mem_bound h

/-- The marks of a statement stand for the bindings of its query. There are as many of them, no
binding is raw, and the statement filled with texts for the bindings is the statement of the query
that the same steps build out of raw values. -/
theorem Query.parameters_of_build (hp : MarkFree t.tablePrefix) (ht : MarkFree table)
    (hs : Step.AllUse Vocabulary.marked steps) (hq : Query.build table steps = .ok q)
    (hsql : q.select t = .ok sql) :
    marks sql.text = q.bindings.length ∧ (∀ v ∈ q.bindings, v.isRaw = false) ∧
      ∀ lit : Value → String, ∃ q',
        Query.build table (Step.rewriteAll (.inlining lit) steps) = .ok q' ∧
          (q'.select t).map Sql.text = .ok (fill sql.text (q.bindings.map lit)) := by
  have hmarked : ∀ p ∈ sql, p.Marked :=
    Query.forall_mem_select (Vocabulary.marked_fits hp) (Query.uses_of_build ht hs hq) hsql
  have hbindings : sql.bindings = q.bindings := Query.bindings_of_build hq hsql
  refine ⟨?_, fun v hv => Query.isRaw_of_mem_bindings hv, fun lit => ?_⟩
  · rw [Sql.marks_text hmarked, hbindings]
  · obtain ⟨q', hq', hm⟩ := Query.exists_build_rewrite (.inlining lit) hq
    refine ⟨q', hq', ?_⟩
    rw [hm.select, hsql, ← hbindings, Sql.fill_text lit hmarked]
    rfl

/-- Orders of a kind, their totals looked up in another table: a group, a list without values, raw
values, a verbatim predicate, conditions on groups on two levels, and a window of rows. -/
def reportSteps : List Step :=
  [.selectRaw "count(*) AS n",
    .having .and ⟨"n", .gt, .int32 2⟩,
    .compare .and ⟨"state", .eq, .string "open?"⟩,
    .nested .or [.member .and true "kind" [], .between .and false "paid_at" .null (.raw "now()")],
    .raw .and "score > ? OR score < ?" [.int32 3, .raw "x", .int32 4],
    .memberOf false "id" "lines" [.having .or ⟨"total", .gte, .int64 5⟩, .groupBy ["order_id"],
      .compare .and ⟨"price", .lt, .int32 9⟩, .select ["order_id"]],
    .groupBy ["state"], .orderBy "orders.state" .desc, .distinct, .page 3 20]

theorem Query.parameters_of_build_report : ∃ q sql,
    Query.build "orders as o" reportSteps = .ok q ∧ q.select ⟨.sqlserver, "app_"⟩ = .ok sql ∧
      marks sql.text = q.bindings.length ∧ (∀ v ∈ q.bindings, v.isRaw = false) ∧
        ∀ lit : Value → String, ∃ q',
          Query.build "orders as o" (Step.rewriteAll (.inlining lit) reportSteps) = .ok q' ∧
            (q'.select ⟨.sqlserver, "app_"⟩).map Sql.text =
              .ok (fill sql.text (q.bindings.map lit)) := by
  have hs : Step.AllUse Vocabulary.marked reportSteps := by
    simp only [reportSteps, Step.AllUse, Step.Uses, Vocabulary.marked, Vocabulary.comparison]
    decide
  obtain ⟨q, sql, hq, hsql⟩ : ∃ q sql, Query.build "orders as o" reportSteps = .ok q ∧
      q.select ⟨.sqlserver, "app_"⟩ = .ok sql := exists_of_isOk_bind (by decide +kernel)
  exact ⟨q, sql, hq, hsql, Query.parameters_of_build (by decide) (by decide) hs hq hsql⟩

end SqlBuilder
