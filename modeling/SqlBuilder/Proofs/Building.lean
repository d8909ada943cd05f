import SqlBuilder.Proofs.Contents

/-!
# The contents of a query, step by step

A step puts into a query only what it was given: a query of a vocabulary stays one after a step of
the vocabulary (`Step.uses_apply`), hence after any sequence of them (`Query.uses_of_build`).
-/

namespace SqlBuilder

variable (V : Vocabulary)

/-- The columns of a method name. -/
def Vocabulary.finder (method : String) : Prop :=
  ∀ columns, Method.parse method = .ok (.finder columns) → ∀ l ∈ columns, V.column l.item

mutual

/-- Whether a step is given nothing but what is in a vocabulary. -/
def Step.Uses : Step → Prop
  | .select columns => ∀ c ∈ columns, V.column c
  | .selectRaw sql => V.expression sql
  | .distinct => True
  | .compare _ condition => V.comparison condition
  | .nested _ steps => Step.AllUse steps
  | .member _ _ column values => V.column column ∧ ∀ v ∈ values, V.value v
  | .between _ _ column low high => V.column column ∧ V.value low ∧ V.value high
  | .null _ _ column => V.column column
  | .raw _ sql bindings => V.fragment sql bindings
  | .memberOf _ column table steps => V.column column ∧ V.table table ∧ Step.AllUse steps
  | .present _ table steps => V.table table ∧ Step.AllUse steps
  | .resetWhere => True
  | .join j => V.join j
  | .groupBy columns => ∀ c ∈ columns, V.column c
  | .having _ condition => V.comparison condition
  | .orderBy column _ => V.column column
  | .skip _ => True
  | .take _ => True
  | .page _ _ => True
  | .finder method values => V.finder method ∧ ∀ v ∈ values, V.value v
  | .setAggregate a => ∀ c ∈ a.columns, V.column c

def Step.AllUse : List Step → Prop
  | [] => True
  | s :: ss => s.Uses ∧ Step.AllUse ss

end

variable {V}

namespace Query

theorem uses_ofTable {table : String} (h : V.table table) : (Query.ofTable table).Uses V := by
  rw [uses_iff]
  refine ⟨⟨h, ?_, ?_, ?_, ?_, ?_⟩, ?_, trivial⟩ <;> intro x hx <;> cases hx

theorem uses_addWhere {q : Query} {connector : Connector} {p : Predicate} {values : List Value}
    (hq : q.Uses V) (hp : p.Uses V) : (q.addWhere connector p values).Uses V := by
  rw [uses_iff] at hq ⊢
  obtain ⟨hn, hh, hw⟩ := hq
  refine ⟨{ hn with }, hh, ?_⟩
  rw [Predicate.chainUses_iff] at hw ⊢
  intro l hl
  rcases List.mem_append.1 hl with hl | hl
  · exact hw l hl
  · exact List.mem_singleton.1 hl ▸ hp

theorem uses_addGroup {q inner : Query} {connector : Connector} (hq : q.Uses V)
    (hi : inner.Uses V) : (q.addGroup connector inner).Uses V := by
  unfold addGroup
  split
  · exact hq
  · refine uses_addWhere hq ?_
    simp only [Predicate.Uses]
    exact (uses_iff.1 hi).2.2

theorem uses_whereEq {q : Query} {connector : Connector} {column : String} {v : Value}
    (hq : q.Uses V) (hc : V.column column) (hv : V.value v) :
    (q.whereEq connector column v).Uses V := by
  refine uses_addWhere hq ?_
  simp only [Predicate.Uses]
  exact ⟨hc, hv⟩

theorem uses_foldl_whereEq {columns : List (Linked String × Value)} :
    ∀ {q : Query}, q.Uses V → (∀ x ∈ columns, V.column x.1.item ∧ V.value x.2) →
      (columns.foldl (fun q (l, v) => q.whereEq l.connector l.item v) q).Uses V := by
  induction columns with
  | nil => intro q hq _; exact hq
  | cons x xs ih =>
    intro q hq hx
    have hhead := hx x List.mem_cons_self
    exact ih (uses_whereEq hq hhead.1 hhead.2) fun y hy => hx y (List.mem_cons_of_mem _ hy)

theorem uses_addFinder {q r : Query} {method : String} {values : List Value} (hq : q.Uses V)
    (hm : V.finder method) (hv : ∀ v ∈ values, V.value v)
    (hr : q.addFinder method values = .ok r) : r.Uses V := by
  unfold addFinder at hr
  obtain ⟨m, hparse, hr⟩ := bind_eq_ok.1 hr
  cases m with
  | aggregate f => cases hr
  | finder columns =>
    simp only at hr
    split at hr
    · cases hr
    · cases hr
      -- each equality has a column of the name and a value of the list
      refine uses_foldl_whereEq hq fun x hx => ?_
      obtain ⟨hl, hr⟩ := List.of_mem_zip hx
      exact ⟨hm columns hparse x.1 hl, hv x.2 hr⟩

end Query

mutual

/-- A step keeps the vocabulary of a query. -/
theorem Step.uses_apply : ∀ {s : Step} {q r : Query}, s.Uses V → q.Uses V → s.apply q = .ok r →
    r.Uses V
  | .select columns, q, _, hs, hq, hr => by
    cases hr
    simp only [Step.Uses] at hs
    refine hq.withNames { hq.names with selects := fun s hmem => ?_ } rfl rfl
    obtain ⟨c, hc, rfl⟩ := List.mem_map.1 hmem
    exact hs c hc
  | .selectRaw sql, q, _, hs, hq, hr => by
    cases hr
    simp only [Step.Uses] at hs
    refine hq.withNames { hq.names with selects := fun s hmem => ?_ } rfl rfl
    rcases List.mem_append.1 hmem with hmem | hmem
    · exact hq.names.selects s hmem
    · exact List.mem_singleton.1 hmem ▸ hs
  | .distinct, q, _, _, hq, hr => by
    cases hr
    exact hq.withNames { hq.names with } rfl rfl
  | .compare _ _, q, _, hs, hq, hr => by
    cases hr
    simp only [Step.Uses] at hs
    exact Query.uses_addWhere hq (by simpa only [Predicate.Uses] using hs)
  | .nested _ steps, q, _, hs, hq, hr => by
    simp only [Step.Uses] at hs
    simp only [Step.apply] at hr
    obtain ⟨inner, hi, hr⟩ := bind_eq_ok.1 hr
    cases hr
    have inner := Step.uses_applyAll hs (Query.uses_ofTable hq.names.table) hi
    exact Query.uses_addGroup hq inner
  | .member _ _ _ _, q, _, hs, hq, hr => by
    cases hr
    simp only [Step.Uses] at hs
    exact Query.uses_addWhere hq (by simpa only [Predicate.Uses] using hs)
  | .between _ _ _ _ _, q, _, hs, hq, hr => by
    cases hr
    simp only [Step.Uses] at hs
    exact Query.uses_addWhere hq (by simpa only [Predicate.Uses] using hs)
  | .null _ _ _, q, _, hs, hq, hr => by
    cases hr
    simp only [Step.Uses] at hs
    exact Query.uses_addWhere hq (by simpa only [Predicate.Uses] using hs)
  | .raw _ _ _, q, _, hs, hq, hr => by
    cases hr
    simp only [Step.Uses] at hs
    exact Query.uses_addWhere hq (by simpa only [Predicate.Uses] using hs)
  | .memberOf _ _ _ steps, q, _, hs, hq, hr => by
    simp only [Step.Uses] at hs
    simp only [Step.apply] at hr
    obtain ⟨source, hi, hr⟩ := bind_eq_ok.1 hr
    cases hr
    refine Query.uses_addWhere hq ?_
    simp only [Predicate.Uses]
    exact ⟨hs.1, Step.uses_applyAll hs.2.2 (Query.uses_ofTable hs.2.1) hi⟩
  | .present _ _ steps, q, _, hs, hq, hr => by
    simp only [Step.Uses] at hs
    simp only [Step.apply] at hr
    obtain ⟨source, hi, hr⟩ := bind_eq_ok.1 hr
    cases hr
    refine Query.uses_addWhere hq ?_
    simp only [Predicate.Uses]
    exact Step.uses_applyAll hs.2 (Query.uses_ofTable hs.1) hi
  | .resetWhere, q, _, _, hq, hr => by
    cases hr
    rw [Query.uses_iff] at hq ⊢
    obtain ⟨hn, hh, -⟩ := hq
    exact ⟨{ hn with }, hh, trivial⟩
  | .join j, q, _, hs, hq, hr => by
    cases hr
    simp only [Step.Uses] at hs
    refine hq.withNames { hq.names with joins := fun k hk => ?_ } rfl rfl
    rcases List.mem_append.1 hk with hk | hk
    · exact hq.names.joins k hk
    · exact List.mem_singleton.1 hk ▸ hs
  | .groupBy columns, q, _, hs, hq, hr => by
    cases hr
    simp only [Step.Uses] at hs
    refine hq.withNames { hq.names with groupings := fun c hc => ?_ } rfl rfl
    rcases List.mem_append.1 hc with hc | hc
    · exact hq.names.groupings c hc
    · exact hs c hc
  | .having _ _, q, _, hs, hq, hr => by
    cases hr
    simp only [Step.Uses] at hs
    rw [Query.uses_iff] at hq ⊢
    obtain ⟨hn, hh, hw⟩ := hq
    refine ⟨{ hn with }, fun l hl => ?_, hw⟩
    rcases List.mem_append.1 hl with hl | hl
    · exact hh l hl
    · exact List.mem_singleton.1 hl ▸ hs
  | .orderBy _ _, q, _, hs, hq, hr => by
    cases hr
    simp only [Step.Uses] at hs
    refine hq.withNames { hq.names with orderings := fun o ho => ?_ } rfl rfl
    rcases List.mem_append.1 ho with ho | ho
    · exact hq.names.orderings o ho
    · exact List.mem_singleton.1 ho ▸ hs
  | .skip _, q, _, _, hq, hr => by
    cases hr
    exact hq.withNames { hq.names with } rfl rfl
  | .take _, q, _, _, hq, hr => by
    cases hr
    exact hq.withNames { hq.names with } rfl rfl
  | .page _ _, q, _, _, hq, hr => by
    cases hr
    exact hq.withNames { hq.names with } rfl rfl
  | .finder _ _, q, _, hs, hq, hr => by
    simp only [Step.Uses] at hs
    exact Query.uses_addFinder hq hs.1 hs.2 hr
  | .setAggregate a, q, _, hs, hq, hr => by
    cases hr
    simp only [Step.Uses] at hs
    refine hq.withNames { hq.names with aggregate := fun b hb => ?_ } rfl rfl
    obtain rfl := Option.mem_some.1 hb
    exact hs

theorem Step.uses_applyAll : ∀ {ss : List Step} {q r : Query}, Step.AllUse V ss → q.Uses V →
    Step.applyAll ss q = .ok r → r.Uses V
  | [], _, _, _, hq, hr => by
    cases hr
    exact hq
  | s :: ss, _, _, hs, hq, hr => by
    simp only [Step.AllUse] at hs
    simp only [Step.applyAll] at hr
    obtain ⟨q', hq', hr⟩ := bind_eq_ok.1 hr
    exact Step.uses_applyAll hs.2 (Step.uses_apply hs.1 hq hq') hr

end

theorem Query.uses_of_build {table : String} {steps : List Step} {q : Query} (ht : V.table table)
    (hs : Step.AllUse V steps) (hq : Query.build table steps = .ok q) : q.Uses V :=
  Step.uses_applyAll hs (Query.uses_ofTable ht) hq

end SqlBuilder
