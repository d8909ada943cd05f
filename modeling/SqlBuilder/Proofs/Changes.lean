import SqlBuilder.Proofs.Bindings
import SqlBuilder.Proofs.Contents
import SqlBuilder.Proofs.Rebuilding

/-!
# Statements that change rows

An UPDATE and a DELETE take their table and their predicates from a query; its other clauses have no
part in them, HAVING conditions included. A `Change` is one or the other. Its statement shows the
values that it sets and then those of the predicates (`Change.bindings_statement`).
-/

namespace SqlBuilder

/-! ## The pieces of an UPDATE and of a DELETE -/

namespace Query

variable {V : Vocabulary} {t : Target} {P : Piece → Prop} {q : Query} {sql : Sql}

theorem forall_mem_behindStatement {statement clause : Sql} (h : TextClass P)
    (hs : ∀ p ∈ statement, P p) (hc : ∀ p ∈ clause, P p) :
    ∀ p ∈ behindStatement statement clause, P p := by
  unfold behindStatement
  split
  · exact hs
  · exact Sql.forall_mem_append (Sql.forall_mem_append hs
      (Sql.forall_mem_lit (h.plain (by decide)))) hc

theorem forall_mem_whereClause (h : V.Fits t P) (hq : q.Uses V) (hsql : q.whereClause t = .ok sql) :
    ∀ p ∈ sql, P p := by
  obtain ⟨conditions, hc, hsql⟩ := bind_eq_ok.1 hsql
  cases hsql
  exact Target.forall_mem_whereClause h (Predicate.forall_mem_chain h (uses_iff.1 hq).2.2 hc)

theorem forall_mem_delete (h : V.Fits t P) (hq : q.Uses V) (hsql : q.delete t = .ok sql) :
    ∀ p ∈ sql, P p := by
  obtain ⟨clause, hc, hsql⟩ := bind_eq_ok.1 hsql
  cases hsql
  refine forall_mem_behindStatement h.toTextClass (Sql.forall_mem_lit ?_)
    (forall_mem_whereClause h hq hc)
  exact h.append (h.plain (by decide)) (h.table hq.names.table)

theorem forall_mem_update (h : V.Fits t P) (hq : q.Uses V) {row : Row Value}
    (hrow : V.row row) (hsql : q.update t row = .ok sql) : ∀ p ∈ sql, P p := by
  unfold update at hsql
  split at hsql
  · cases hsql
  · obtain ⟨clause, hc, hsql⟩ := bind_eq_ok.1 hsql
    cases hsql
    have hset : ∀ x ∈ row, ∀ p ∈ t.reference x.1 ++ Sql.lit " = " ++ [.param x.2], P p := by
      intro x hx
      refine Sql.forall_mem_append (Sql.forall_mem_append
        (Target.forall_mem_reference h (hrow x hx).1)
        (Sql.forall_mem_lit (h.plain (by decide)))) fun p hp => ?_
      exact List.mem_singleton.1 hp ▸ h.value (hrow x hx).2
    refine forall_mem_behindStatement h.toTextClass (Sql.forall_mem_append (Sql.forall_mem_lit ?_)
      (Sql.forall_mem_joined (h.plain (by decide)) fun x hx => ?_))
      (forall_mem_whereClause h hq hc)
    · exact h.append (h.append (h.plain (by decide)) (h.table hq.names.table))
        (h.plain (by decide))
    · obtain ⟨y, hy, rfl⟩ := List.mem_map.1 hx
      exact hset y hy

/-! ## The values they show -/

theorem bindings_behindStatement (statement clause : Sql) :
    (behindStatement statement clause).bindings = statement.bindings ++ clause.bindings := by
  unfold behindStatement
  split
  · next he =>
    rw [List.isEmpty_iff.1 he]
    exact (List.append_nil _).symm
  · simp

theorem bindings_whereClause (hsql : q.whereClause t = .ok sql) :
    sql.bindings = Value.bound (Predicate.chainValues q.wheres) := by
  obtain ⟨conditions, hc, hsql⟩ := bind_eq_ok.1 hsql
  cases hsql
  rw [Target.bindings_behind, Linked.bindings_chain, Predicate.bindings_chain hc]

theorem bindings_delete (hsql : q.delete t = .ok sql) :
    sql.bindings = Value.bound (Predicate.chainValues q.wheres) := by
  obtain ⟨clause, hc, hsql⟩ := bind_eq_ok.1 hsql
  cases hsql
  rw [bindings_behindStatement, Sql.bindings_lit, List.nil_append, bindings_whereClause hc]

theorem bindings_update {row : Row Value} (hsql : q.update t row = .ok sql) :
    sql.bindings =
      Value.bound (row.map (·.2)) ++ Value.bound (Predicate.chainValues q.wheres) := by
  unfold update at hsql
  split at hsql
  · cases hsql
  · obtain ⟨clause, hc, hsql⟩ := bind_eq_ok.1 hsql
    cases hsql
    rw [bindings_behindStatement, bindings_whereClause hc]
    simp [List.flatMap_map, Value.flatMap_bound]

end Query

/-! ## Both kinds of statements -/

/-- A change of the rows where the predicates of a query hold. -/
structure Change where
  query : Query
  /-- The columns to set. Where there is no row of them, rows are deleted. -/
  row : Option (Row Value)

namespace Change

variable {V : Vocabulary} {t : Target} {P : Piece → Prop} {c : Change} {sql : Sql}

def statement (t : Target) (c : Change) : Except Error Sql :=
  match c.row with
  | some row => c.query.update t row
  | none => c.query.delete t

/-- The values that the change sets. -/
def sets (c : Change) : List Value :=
  Value.bound ((c.row.getD []).map (·.2))

/-- The values that the statement shows. -/
def values (c : Change) : List Value :=
  c.sets ++ Value.bound (Predicate.chainValues c.query.wheres)

structure Uses (V : Vocabulary) (c : Change) : Prop where
  query : c.query.Uses V
  row : ∀ row ∈ c.row, V.row row

theorem forall_mem_statement (h : V.Fits t P) (hc : c.Uses V) (hsql : c.statement t = .ok sql) :
    ∀ p ∈ sql, P p := by
  unfold statement at hsql
  split at hsql
  · next row hrow => exact Query.forall_mem_update h hc.query (hc.row row hrow) hsql
  · exact Query.forall_mem_delete h hc.query hsql

theorem bindings_statement (hsql : c.statement t = .ok sql) : sql.bindings = c.values := by
  unfold statement at hsql
  split at hsql
  · next row hrow => rw [Query.bindings_update hsql, values, sets, hrow, Option.getD_some]
  · next hrow =>
    rw [Query.bindings_delete hsql, values, sets, hrow]
    rfl

/-- One change is another one with its values rewritten. -/
structure Mirrors (ρ : Rewriting) (c c' : Change) : Prop where
  query : Query.Mirrors ρ c.query c'.query
  row : c'.row = c.row.map ρ.row

theorem Mirrors.statement {ρ : Rewriting} {c' : Change} (h : Mirrors ρ c c') (t : Target) :
    c'.statement t = (c.statement t).map (Sql.rewrite ρ) := by
  simp only [Change.statement, h.row]
  cases c.row with
  | some row => exact h.query.update t row
  | none => exact h.query.delete t

end Change

end SqlBuilder
