import SqlBuilder.Proofs.Vocabulary
import SqlBuilder.Query.Step

/-!
# The contents of a query

`Query.Uses` says that all names, values and verbatim SQL in a query, down to the queries inside its
predicates, are of a vocabulary; `Step.Uses` says it of the steps that build a query. Steps of a
vocabulary build a query of it (`Query.uses_of_build`), and every statement of the query consists of
pieces with a property that the vocabulary fits (`Query.forall_mem_select`).
-/

namespace SqlBuilder

variable (V : Vocabulary)

mutual

/-- Whether a query holds nothing but what is in a vocabulary. -/
def Query.Uses : Query → Prop
  | q@⟨_, _, _, _, _, wheres, _, havings, _, _, _, _, _⟩ =>
    q.Names V ∧ (∀ l ∈ havings, V.comparison l.item) ∧ Predicate.ChainUses wheres

def Predicate.ChainUses : List (Linked Predicate) → Prop
  | [] => True
  | p :: ps => Predicate.LinkedUses p ∧ Predicate.ChainUses ps

def Predicate.LinkedUses : Linked Predicate → Prop
  | ⟨_, p⟩ => p.Uses

def Predicate.Uses : Predicate → Prop
  | .comparison c => V.comparison c
  | .member _ column values => V.column column ∧ ∀ v ∈ values, V.value v
  | .between _ column low high => V.column column ∧ V.value low ∧ V.value high
  | .null _ column => V.column column
  | .raw sql bindings => V.fragment sql bindings
  | .group members => Predicate.ChainUses members
  | .memberOf _ column query => V.column column ∧ query.Uses
  | .present _ query => query.Uses

end

variable {V}

theorem Query.uses_iff {q : Query} : q.Uses V ↔
    q.Names V ∧ (∀ l ∈ q.havings, V.comparison l.item) ∧ Predicate.ChainUses V q.wheres := by
  cases q
  simp [Query.Uses]

theorem Query.Uses.names {q : Query} (h : q.Uses V) : q.Names V :=
  (Query.uses_iff.1 h).1

/-- A query with other names of the vocabulary and the same conditions. -/
theorem Query.Uses.withNames {q r : Query} (h : q.Uses V) (hn : r.Names V)
    (hw : r.wheres = q.wheres) (hh : r.havings = q.havings) : r.Uses V := by
  rw [Query.uses_iff] at h ⊢
  rw [hw, hh]
  exact ⟨hn, h.2⟩

theorem Predicate.chainUses_iff {ps : List (Linked Predicate)} :
    Predicate.ChainUses V ps ↔ ∀ l ∈ ps, l.item.Uses V := by
  induction ps with
  | nil => simp [Predicate.ChainUses]
  | cons p ps ih =>
    cases p
    simp [Predicate.ChainUses, Predicate.LinkedUses, ih]

/-! ## The pieces of a statement -/

section Pieces

variable {t : Target} {P : Piece → Prop} (h : V.Fits t P)

namespace Target

include h in
theorem forall_mem_havings {q : Query} (hq : ∀ l ∈ q.havings, V.comparison l.item) :
    ∀ p ∈ t.havings q, P p := by
  refine forall_mem_behind h.toTextClass (by decide)
    (Linked.forall_mem_chain h.toTextClass fun l hl => ?_)
  obtain ⟨c, hc, rfl⟩ := List.mem_map.1 hl
  exact forall_mem_comparison h (hq c hc)

include h in
theorem forall_mem_memberOf {negated : Bool} {column : String} {source : Sql}
    (hc : V.column column) (hs : ∀ p ∈ source, P p) :
    ∀ p ∈ t.memberOf negated column source, P p := by
  have hin : P (.text (if negated then " NOT IN (" else " IN (")) := by
    refine h.plain ?_
    cases negated <;> decide
  exact Sql.forall_mem_append (Sql.forall_mem_append (Sql.forall_mem_append
    (forall_mem_reference h hc) (Sql.forall_mem_lit hin)) hs)
    (Sql.forall_mem_lit (h.plain (by decide)))

include h in
theorem forall_mem_member {negated : Bool} {column : String} {values : List Value}
    (hc : V.column column) (hv : ∀ v ∈ values, V.value v) :
    ∀ p ∈ t.member negated column values, P p := by
  cases values with
  | nil =>
    refine Sql.forall_mem_lit (h.plain ?_)
    cases negated <;> decide
  | cons v vs =>
    exact forall_mem_memberOf h hc
      (Sql.forall_mem_params h.toTextClass fun w hw => h.value (hv w hw))

include h in
theorem forall_mem_between {negated : Bool} {column : String} {low high : Value}
    (hc : V.column column) (hl : V.value low) (hh : V.value high) :
    ∀ p ∈ t.between negated column low high, P p := by
  have hkey : P (.text (if negated then " NOT BETWEEN " else " BETWEEN ")) := by
    refine h.plain ?_
    cases negated <;> decide
  have param {v : Value} (hv : V.value v) : ∀ p ∈ [Piece.param v], P p := by
    intro p hp
    exact List.mem_singleton.1 hp ▸ h.value hv
  exact Sql.forall_mem_append (Sql.forall_mem_append (Sql.forall_mem_append
    (Sql.forall_mem_append (forall_mem_reference h hc) (Sql.forall_mem_lit hkey)) (param hl))
    (Sql.forall_mem_lit (h.plain (by decide)))) (param hh)

include h in
theorem forall_mem_nullity {negated : Bool} {column : String} (hc : V.column column) :
    ∀ p ∈ t.nullity negated column, P p := by
  have hkey : P (.text (if negated then " IS NOT NULL" else " IS NULL")) := by
    refine h.plain ?_
    cases negated <;> decide
  exact Sql.forall_mem_append (forall_mem_reference h hc) (Sql.forall_mem_lit hkey)

include h in
theorem forall_mem_presence {negated : Bool} {source : Sql} (hs : ∀ p ∈ source, P p) :
    ∀ p ∈ presence negated source, P p := by
  have hkey : P (.text (if negated then "NOT EXISTS (" else "EXISTS (")) := by
    refine h.plain ?_
    cases negated <;> decide
  exact Sql.forall_mem_append (Sql.forall_mem_append (Sql.forall_mem_lit hkey) hs)
    (Sql.forall_mem_lit (h.plain (by decide)))

include h in
theorem forall_mem_whereClause {conditions : List (Linked Sql)}
    (hc : ∀ l ∈ conditions, ∀ p ∈ l.item, P p) :
    ∀ p ∈ behind "WHERE" (Linked.chain conditions), P p :=
  forall_mem_behind h.toTextClass (by decide) (Linked.forall_mem_chain h.toTextClass hc)

/-- Only SQL Server numbers rows. -/
theorem dialect_of_numbersRows {q : Query} (h : t.numbersRows q = true) :
    t.dialect = .sqlserver := by
  simp only [numbersRows, Bool.and_eq_true, beq_iff_eq] at h
  exact h.1.1

include h in
theorem forall_mem_statement {q : Query} {conditions : List (Linked Sql)} {sql : Sql}
    (hq : q.Names V) (hh : ∀ l ∈ q.havings, V.comparison l.item)
    (hc : ∀ l ∈ conditions, ∀ p ∈ l.item, P p) (hs : t.statement q conditions = .ok sql) :
    ∀ p ∈ sql, P p := by
  have hselect := forall_mem_selectClause h hq
  have hfrom := forall_mem_fromTable h hq
  have hjoins := forall_mem_joins h hq
  have hwheres := forall_mem_whereClause h hc
  have hgroups := forall_mem_groups h hq
  have hhavings := forall_mem_havings h hh
  simp only [statement] at hs
  split at hs
  -- rows to be numbered are not ordered or counted off inside
  · next hn =>
    refine forall_mem_windowed h hq (dialect_of_numbersRows hn)
      (Sql.forall_mem_clauses h.toTextClass fun s hmem => ?_) hs
    simp only [List.mem_cons, List.not_mem_nil, or_false] at hmem
    rcases hmem with rfl | rfl | rfl | rfl | rfl | rfl | rfl | rfl | rfl
    · exact hselect
    · exact hfrom
    · exact hjoins
    · exact hwheres
    · exact hgroups
    · exact hhavings
    all_goals intro p hp; cases hp
  · cases hs
    refine Sql.forall_mem_clauses h.toTextClass fun s hmem => ?_
    simp only [List.mem_cons, List.not_mem_nil, or_false] at hmem
    rcases hmem with rfl | rfl | rfl | rfl | rfl | rfl | rfl | rfl | rfl
    · exact hselect
    · exact hfrom
    · exact hjoins
    · exact hwheres
    · exact hgroups
    · exact hhavings
    · exact forall_mem_orders h hq
    · exact forall_mem_limit h q
    · exact forall_mem_offset h q

end Target

mutual

theorem Query.forall_mem_select (h : V.Fits t P) :
    ∀ {q : Query} {sql : Sql}, q.Uses V → q.select t = .ok sql → ∀ p ∈ sql, P p
  | ⟨_, _, _, _, _, wheres, _, _, _, _, _, _, _⟩, sql, hq, hs => by
    simp only [Query.Uses] at hq
    simp only [Query.select] at hs
    obtain ⟨conditions, hc, hs⟩ := bind_eq_ok.1 hs
    exact Target.forall_mem_statement h hq.1 hq.2.1 (Predicate.forall_mem_chain h hq.2.2 hc) hs

theorem Predicate.forall_mem_chain (h : V.Fits t P) :
    ∀ {ps : List (Linked Predicate)} {conditions : List (Linked Sql)}, Predicate.ChainUses V ps →
      Predicate.chain t ps = .ok conditions → ∀ l ∈ conditions, ∀ p ∈ l.item, P p
  | [], _, _, hs => by
    cases hs
    intro l hl
    cases hl
  | p :: ps, _, hq, hs => by
    simp only [Predicate.ChainUses] at hq
    simp only [Predicate.chain] at hs
    obtain ⟨condition, hc, hs⟩ := bind_eq_ok.1 hs
    obtain ⟨conditions, hcs, hs⟩ := bind_eq_ok.1 hs
    cases hs
    intro l hl
    rcases List.mem_cons.1 hl with rfl | hl
    · exact Predicate.forall_mem_linked h hq.1 hc
    · exact Predicate.forall_mem_chain h hq.2 hcs l hl

theorem Predicate.forall_mem_linked (h : V.Fits t P) :
    ∀ {l : Linked Predicate} {condition : Linked Sql}, Predicate.LinkedUses V l →
      Predicate.linked t l = .ok condition → ∀ p ∈ condition.item, P p
  | ⟨_, p⟩, _, hq, hs => by
    simp only [Predicate.LinkedUses] at hq
    simp only [Predicate.linked] at hs
    obtain ⟨condition, hc, hs⟩ := bind_eq_ok.1 hs
    cases hs
    exact Predicate.forall_mem_condition h hq hc

theorem Predicate.forall_mem_condition (h : V.Fits t P) :
    ∀ {p : Predicate} {sql : Sql}, p.Uses V → p.condition t = .ok sql → ∀ x ∈ sql, P x
  | .comparison c, _, hq, hs => by
    cases hs
    exact Target.forall_mem_comparison h (by simpa only [Predicate.Uses] using hq)
  | .member _ _ _, _, hq, hs => by
    cases hs
    simp only [Predicate.Uses] at hq
    exact Target.forall_mem_member h hq.1 hq.2
  | .between _ _ _ _, _, hq, hs => by
    cases hs
    simp only [Predicate.Uses] at hq
    exact Target.forall_mem_between h hq.1 hq.2.1 hq.2.2
  | .null _ _, _, hq, hs => by
    cases hs
    exact Target.forall_mem_nullity h (by simpa only [Predicate.Uses] using hq)
  | .raw _ _, _, hq, hs => by
    cases hs
    intro x hx
    rw [List.mem_singleton.1 hx]
    exact h.fragment (by simpa only [Predicate.Uses] using hq)
  | .group members, _, hq, hs => by
    simp only [Predicate.Uses] at hq
    simp only [Predicate.condition] at hs
    obtain ⟨conditions, hc, hs⟩ := bind_eq_ok.1 hs
    cases hs
    have inner := Predicate.forall_mem_chain h hq hc
    exact Sql.forall_mem_append (Sql.forall_mem_append (Sql.forall_mem_lit (h.plain (by decide)))
      (Linked.forall_mem_chain h.toTextClass inner)) (Sql.forall_mem_lit (h.plain (by decide)))
  | .memberOf _ _ query, _, hq, hs => by
    simp only [Predicate.Uses] at hq
    simp only [Predicate.condition] at hs
    obtain ⟨source, hc, hs⟩ := bind_eq_ok.1 hs
    cases hs
    exact Target.forall_mem_memberOf h hq.1 (Query.forall_mem_select h hq.2 hc)
  | .present _ query, _, hq, hs => by
    simp only [Predicate.Uses] at hq
    simp only [Predicate.condition] at hs
    obtain ⟨source, hc, hs⟩ := bind_eq_ok.1 hs
    cases hs
    exact Target.forall_mem_presence h (Query.forall_mem_select h hq hc)

end

end Pieces

end SqlBuilder
