import SqlBuilder.Query.Step

/-!
# The predicates of a built query

Which predicates a query can hold is decided by the steps that build it. A property of whatever
predicate a step makes out of predicates with the property (`Predicate.Hereditary`) holds of all
predicates of a built query (`Query.forall_wheres_of_build`). For one, no group is empty, on any
level (`Query.filled_of_build`).
-/

namespace SqlBuilder

/-- A property of all predicates that steps make, out of predicates with the property. -/
structure Predicate.Hereditary (P : Predicate → Prop) : Prop where
  comparison : ∀ c, P (.comparison c)
  member : ∀ negated column values, P (.member negated column values)
  between : ∀ negated column low high, P (.between negated column low high)
  null : ∀ negated column, P (.null negated column)
  raw : ∀ sql bindings, P (.raw sql bindings)
  /-- Only a group of some predicates is made. -/
  group : ∀ members, members ≠ [] → (∀ l ∈ members, P l.item) → P (.group members)
  memberOf : ∀ negated column query, (∀ l ∈ query.wheres, P l.item) →
    P (.memberOf negated column query)
  present : ∀ negated query, (∀ l ∈ query.wheres, P l.item) → P (.present negated query)

namespace Query

variable {P : Predicate → Prop} (h : Predicate.Hereditary P)

theorem forall_wheres_ofTable (table : String) : ∀ l ∈ (ofTable table).wheres, P l.item := by
  intro l hl
  cases hl

theorem forall_wheres_addWhere {q : Query} {connector : Connector} {p : Predicate}
    {values : List Value} (hq : ∀ l ∈ q.wheres, P l.item) (hp : P p) :
    ∀ l ∈ (q.addWhere connector p values).wheres, P l.item := by
  intro l hl
  rcases List.mem_append.1 hl with hl | hl
  · exact hq l hl
  · rw [List.mem_singleton.1 hl]
    exact hp

include h in
theorem forall_wheres_addGroup {q inner : Query} {connector : Connector}
    (hq : ∀ l ∈ q.wheres, P l.item) (hi : ∀ l ∈ inner.wheres, P l.item) :
    ∀ l ∈ (q.addGroup connector inner).wheres, P l.item := by
  unfold addGroup
  split
  · exact hq
  · next he =>
    have hne : inner.wheres ≠ [] := fun hnil => he (List.isEmpty_iff.2 hnil)
    exact forall_wheres_addWhere hq (h.group _ hne hi)

include h in
theorem forall_wheres_foldl_whereEq {columns : List (Linked String × Value)} :
    ∀ {q : Query}, (∀ l ∈ q.wheres, P l.item) →
      ∀ l ∈ (columns.foldl (fun q (l, v) => q.whereEq l.connector l.item v) q).wheres,
        P l.item := by
  induction columns with
  | nil => intro q hq; exact hq
  | cons x xs ih =>
    intro q hq
    exact ih (forall_wheres_addWhere hq (h.comparison _))

include h in
theorem forall_wheres_addFinder {q r : Query} {method : String} {values : List Value}
    (hq : ∀ l ∈ q.wheres, P l.item) (hr : q.addFinder method values = .ok r) :
    ∀ l ∈ r.wheres, P l.item := by
  unfold addFinder at hr
  obtain ⟨m, -, hr⟩ := bind_eq_ok.1 hr
  cases m with
  | aggregate f => cases hr
  | finder columns =>
    simp only at hr
    split at hr
    · cases hr
    · cases hr
      exact forall_wheres_foldl_whereEq h hq

end Query

section Steps

variable {P : Predicate → Prop}

mutual

/-- A step keeps a property of all predicates. -/
theorem Step.forall_wheres_apply (h : Predicate.Hereditary P) : ∀ {s : Step} {q r : Query},
    (∀ l ∈ q.wheres, P l.item) → s.apply q = .ok r → ∀ l ∈ r.wheres, P l.item
  | .compare _ c, _, _, hq, hr => by
    cases hr
    exact Query.forall_wheres_addWhere hq (h.comparison c)
  | .member _ negated column values, _, _, hq, hr => by
    cases hr
    exact Query.forall_wheres_addWhere hq (h.member negated column values)
  | .between _ negated column low high, _, _, hq, hr => by
    cases hr
    exact Query.forall_wheres_addWhere hq (h.between negated column low high)
  | .null _ negated column, _, _, hq, hr => by
    cases hr
    exact Query.forall_wheres_addWhere hq (h.null negated column)
  | .raw _ sql bindings, _, _, hq, hr => by
    cases hr
    exact Query.forall_wheres_addWhere hq (h.raw sql bindings)
  | .nested _ steps, _, _, hq, hr => by
    simp only [Step.apply] at hr
    obtain ⟨inner, hi, hr⟩ := bind_eq_ok.1 hr
    cases hr
    have hi := Step.forall_wheres_applyAll h (Query.forall_wheres_ofTable _) hi
    exact Query.forall_wheres_addGroup h hq hi
  | .memberOf negated column _ steps, _, _, hq, hr => by
    simp only [Step.apply] at hr
    obtain ⟨source, hi, hr⟩ := bind_eq_ok.1 hr
    cases hr
    have hs := Step.forall_wheres_applyAll h (Query.forall_wheres_ofTable _) hi
    exact Query.forall_wheres_addWhere hq (h.memberOf negated column source hs)
  | .present negated _ steps, _, _, hq, hr => by
    simp only [Step.apply] at hr
    obtain ⟨source, hi, hr⟩ := bind_eq_ok.1 hr
    cases hr
    have hs := Step.forall_wheres_applyAll h (Query.forall_wheres_ofTable _) hi
    exact Query.forall_wheres_addWhere hq (h.present negated source hs)
  | .finder _ _, _, _, hq, hr => Query.forall_wheres_addFinder h hq hr
  | .resetWhere, _, _, _, hr => by
    cases hr
    intro l hl
    cases hl
  -- the other steps leave the predicates as they are
  | .select _, _, _, hq, hr => by cases hr; exact hq
  | .selectRaw _, _, _, hq, hr => by cases hr; exact hq
  | .distinct, _, _, hq, hr => by cases hr; exact hq
  | .join _, _, _, hq, hr => by cases hr; exact hq
  | .groupBy _, _, _, hq, hr => by cases hr; exact hq
  | .having _ _, _, _, hq, hr => by cases hr; exact hq
  | .orderBy _ _, _, _, hq, hr => by cases hr; exact hq
  | .skip _, _, _, hq, hr => by cases hr; exact hq
  | .take _, _, _, hq, hr => by cases hr; exact hq
  | .page _ _, _, _, hq, hr => by cases hr; exact hq
  | .setAggregate _, _, _, hq, hr => by cases hr; exact hq

theorem Step.forall_wheres_applyAll (h : Predicate.Hereditary P) :
    ∀ {ss : List Step} {q r : Query}, (∀ l ∈ q.wheres, P l.item) →
      Step.applyAll ss q = .ok r → ∀ l ∈ r.wheres, P l.item
  | [], _, _, hq, hr => by
    cases hr
    exact hq
  | s :: ss, _, _, hq, hr => by
    simp only [Step.applyAll] at hr
    obtain ⟨q', hq', hr⟩ := bind_eq_ok.1 hr
    exact Step.forall_wheres_applyAll h (Step.forall_wheres_apply h hq hq') hr

end

theorem Query.forall_wheres_of_build (h : Predicate.Hereditary P) {table : String}
    {steps : List Step} {q : Query} (hq : Query.build table steps = .ok q) :
    ∀ l ∈ q.wheres, P l.item :=
  Step.forall_wheres_applyAll h (Query.forall_wheres_ofTable _) hq

end Steps

mutual

/-- Whether no group in a query is empty, down to the queries inside its predicates. -/
def Query.Filled : Query → Prop
  | ⟨_, _, _, _, _, wheres, _, _, _, _, _, _, _⟩ => Predicate.ChainFilled wheres

def Predicate.ChainFilled : List (Linked Predicate) → Prop
  | [] => True
  | ⟨_, p⟩ :: ps => p.Filled ∧ Predicate.ChainFilled ps

def Predicate.Filled : Predicate → Prop
  | .comparison _ => True
  | .member _ _ _ => True
  | .between _ _ _ _ => True
  | .null _ _ => True
  | .raw _ _ => True
  | .group members => members ≠ [] ∧ Predicate.ChainFilled members
  | .memberOf _ _ query => query.Filled
  | .present _ query => query.Filled

end

theorem Predicate.chainFilled_iff {ps : List (Linked Predicate)} :
    Predicate.ChainFilled ps ↔ ∀ l ∈ ps, l.item.Filled := by
  induction ps with
  | nil => simp [Predicate.ChainFilled]
  | cons p ps ih =>
    cases p
    simp [Predicate.ChainFilled, ih]

theorem Query.filled_iff {q : Query} : q.Filled ↔ ∀ l ∈ q.wheres, l.item.Filled := by
  cases q
  rw [Query.Filled, Predicate.chainFilled_iff]

theorem Predicate.hereditary_filled : Predicate.Hereditary Predicate.Filled where
  comparison _ := by rw [Predicate.Filled]; trivial
  member _ _ _ := by rw [Predicate.Filled]; trivial
  between _ _ _ _ := by rw [Predicate.Filled]; trivial
  null _ _ := by rw [Predicate.Filled]; trivial
  raw _ _ := by rw [Predicate.Filled]; trivial
  group members hne h := by
    rw [Predicate.Filled]
    exact ⟨hne, Predicate.chainFilled_iff.2 h⟩
  memberOf _ _ query h := by
    rw [Predicate.Filled]
    exact Query.filled_iff.2 h
  present _ query h := by
    rw [Predicate.Filled]
    exact Query.filled_iff.2 h

theorem Query.filled_of_build {table : String} {steps : List Step} {q : Query}
    (hq : Query.build table steps = .ok q) : q.Filled :=
  Query.filled_iff.2 (Query.forall_wheres_of_build Predicate.hereditary_filled hq)

end SqlBuilder
