import SqlBuilder.Proofs.Pieces

/-!
# What statements are made of

A `Vocabulary` says which names, values and verbatim SQL may occur. It fits a property of pieces at
a target if whatever the target writes of it has the property (`Vocabulary.Fits`); then every clause
of a query with names of the vocabulary consists of pieces with the property.
-/

namespace SqlBuilder

/-- The names, values and verbatim SQL that may occur. -/
structure Vocabulary where
  table : String → Prop
  column : String → Prop
  /-- An entry of a select list that is written verbatim. -/
  expression : String → Prop
  value : Value → Prop
  /-- A predicate that is written verbatim, with the values for its marks. -/
  fragment : String → List Value → Prop

namespace Vocabulary

variable (V : Vocabulary)

/-- Every name and verbatim expression, but no value. -/
def names : Vocabulary :=
  ⟨fun _ => True, fun _ => True, fun _ => True, fun _ => False, fun _ _ => False⟩

def selection : Selection → Prop
  | .column reference => V.column reference
  | .raw sql => V.expression sql

def comparison (c : Comparison) : Prop :=
  V.column c.column ∧ V.value c.value

def join (j : Join) : Prop :=
  V.table j.table ∧ ∀ l ∈ j.on, V.column l.item.left ∧ V.column l.item.right

def row (row : Row Value) : Prop :=
  ∀ x ∈ row, V.column x.1 ∧ V.value x.2

end Vocabulary

/-- The names that statements use of themselves. -/
def Target.ownNames : List String :=
  ["aggregate", "RowNum", "TempTable", "TempDistinct"]

/-- Whatever a target writes of a vocabulary has a property. -/
structure Vocabulary.Fits (V : Vocabulary) (t : Target) (P : Piece → Prop) : Prop extends
    TextClass P where
  table : ∀ {name}, V.table name → P (.text (t.naming.table name))
  column : ∀ {name}, V.column name → P (.text (t.naming.reference name))
  /-- A derived table has its columns under their last names. Only SQL Server needs such a table. -/
  unqualified : ∀ {name}, t.dialect = .sqlserver → V.column name →
    P (.text (t.naming.reference (Target.unqualified name)))
  own : ∀ name ∈ Target.ownNames, P (.text (t.naming.reference name))
  expression : ∀ {sql}, V.expression sql → P (.text sql)
  value : ∀ {v}, V.value v → P (.param v)
  fragment : ∀ {sql values}, V.fragment sql values → P (.fragment sql values)

theorem Vocabulary.names_fits (t : Target) : Vocabulary.names.Fits t Piece.IsText where
  toTextClass := TextClass.isText
  table _ := ⟨_, rfl⟩
  column _ := ⟨_, rfl⟩
  unqualified _ _ := ⟨_, rfl⟩
  own _ _ := ⟨_, rfl⟩
  expression _ := ⟨_, rfl⟩
  value h := h.elim
  fragment h := h.elim

/-- The names in the clauses of a query other than its conditions. -/
structure Query.Names (V : Vocabulary) (q : Query) : Prop where
  table : V.table q.table
  selects : ∀ s ∈ q.selects.getD [], V.selection s
  aggregate : ∀ a ∈ q.aggregate, ∀ c ∈ a.columns, V.column c
  joins : ∀ j ∈ q.joins, V.join j
  groupings : ∀ c ∈ q.groupings, V.column c
  orderings : ∀ o ∈ q.orderings, V.column o.column

theorem Query.names_names (q : Query) : q.Names Vocabulary.names where
  table := trivial
  selects s _ := by cases s <;> trivial
  aggregate _ _ _ _ := trivial
  joins _ _ := ⟨trivial, fun _ _ => ⟨trivial, trivial⟩⟩
  groupings _ _ := trivial
  orderings _ _ := trivial

namespace Target

variable {V : Vocabulary} {t : Target} {P : Piece → Prop} (h : V.Fits t P)

include h in
theorem text_references {columns : List String} (hc : ∀ c ∈ columns, V.column c) :
    P (.text (t.naming.references columns)) := by
  refine h.intercalate (h.plain (by decide)) fun s hs => ?_
  obtain ⟨c, hmem, rfl⟩ := List.mem_map.1 hs
  exact h.column (hc c hmem)

include h in
theorem forall_mem_reference {c : String} (hc : V.column c) : ∀ p ∈ t.reference c, P p :=
  Sql.forall_mem_lit (h.column hc)

include h in
theorem forall_mem_comparison {c : Comparison} (hc : V.comparison c) :
    ∀ p ∈ t.comparison c, P p := by
  have hop : P (.text (" " ++ c.operator.sql ++ " ")) := by
    refine h.plain ?_
    cases c.operator <;> decide
  refine Sql.forall_mem_append (Sql.forall_mem_append (forall_mem_reference h hc.1)
    (Sql.forall_mem_lit hop)) fun p hp => ?_
  exact List.mem_singleton.1 hp ▸ h.value hc.2

include h in
theorem text_selection {s : Selection} (hs : V.selection s) : P (.text (t.selection s)) := by
  cases s with
  | column reference => exact h.column hs
  | raw sql => exact h.expression hs

variable {q : Query} (hq : q.Names V)

include h hq in
theorem forall_mem_projection : ∀ p ∈ t.projection q, P p := by
  unfold projection
  have hs := hq.selects
  split
  · exact Sql.forall_mem_lit (h.plain (by decide))
  · exact Sql.forall_mem_lit (h.plain (by decide))
  · next selects _ hsel =>
    rw [hsel] at hs
    refine Sql.forall_mem_lit (h.intercalate (h.plain (by decide)) fun s hmem => ?_)
    obtain ⟨c, hc, rfl⟩ := List.mem_map.1 hmem
    exact text_selection h (hs c hc)

include h in
theorem forall_mem_aggregate {a : Aggregate} (distinct : Bool)
    (ha : ∀ c ∈ a.columns, V.column c) : ∀ p ∈ t.aggregate distinct a, P p := by
  have hcols := text_references h ha
  have hfun : P (.text ("SELECT " ++ a.function.sql)) := by
    refine h.plain ?_
    cases a.function <;> decide
  have hdistinct : P (.text (if distinct && t.naming.references a.columns ≠ "*" then
      "DISTINCT " ++ t.naming.references a.columns else t.naming.references a.columns)) := by
    split
    · exact h.append (h.plain (by decide)) hcols
    · exact hcols
  refine Sql.forall_mem_lit (h.append (h.append (h.append (h.append hfun ?_) hdistinct) ?_) ?_)
  · exact h.plain (by decide)
  · exact h.plain (by decide)
  · exact h.own _ (by decide)

include h hq in
theorem forall_mem_fromTable : ∀ p ∈ t.fromTable q, P p :=
  Sql.forall_mem_lit (h.append (h.plain (by decide)) (h.table hq.table))

include h in
theorem forall_mem_joinCondition {c : JoinCondition} (hl : V.column c.left)
    (hr : V.column c.right) : ∀ p ∈ t.joinCondition c, P p := by
  have hop : P (.text c.operator.sql) := by
    refine h.plain ?_
    cases c.operator <;> decide
  have blank : P (.text " ") := h.plain (by decide)
  exact Sql.forall_mem_lit
    (h.append (h.append (h.append (h.append (h.column hl) blank) hop) blank) (h.column hr))

include h in
theorem forall_mem_join {j : Join} (hj : V.join j) : ∀ p ∈ t.join j, P p := by
  have hkind : P (.text (j.kind.sql ++ " JOIN ")) := by
    refine h.plain ?_
    cases j.kind <;> decide
  have hhead : ∀ p ∈ Sql.lit (j.kind.sql ++ " JOIN " ++ t.naming.table j.table), P p :=
    Sql.forall_mem_lit (h.append hkind (h.table hj.1))
  unfold join
  split
  · exact hhead
  · refine Sql.forall_mem_append (Sql.forall_mem_append hhead
      (Sql.forall_mem_lit (h.plain (by decide))))
      (Linked.forall_mem_chain h.toTextClass fun l hl => ?_)
    obtain ⟨c, hc, rfl⟩ := List.mem_map.1 hl
    exact forall_mem_joinCondition h (hj.2 c hc).1 (hj.2 c hc).2

include h hq in
theorem forall_mem_joins : ∀ p ∈ t.joins q, P p := by
  refine Sql.forall_mem_joined (h.plain (by decide)) fun s hs => ?_
  obtain ⟨j, hj, rfl⟩ := List.mem_map.1 hs
  exact forall_mem_join h (hq.joins j hj)

include h hq in
theorem forall_mem_groups : ∀ p ∈ t.groups q, P p := by
  unfold groups
  split
  · intro p hp; cases hp
  · exact forall_mem_behind h.toTextClass (by decide)
      (Sql.forall_mem_lit (text_references h hq.groupings))

include h in
theorem forall_mem_orderTerms {name : String → String} {orderings : List OrderBy}
    (hname : ∀ o ∈ orderings, P (.text (name o.column))) :
    ∀ p ∈ orderTerms name orderings, P p := by
  refine Sql.forall_mem_lit (h.intercalate (h.plain (by decide)) fun s hs => ?_)
  obtain ⟨o, ho, rfl⟩ := List.mem_map.1 hs
  have hdir : P (.text o.direction.sql) := by
    refine h.plain ?_
    cases o.direction <;> decide
  exact h.append (h.append (hname o ho) (h.plain (by decide))) hdir

include h hq in
theorem forall_mem_orders : ∀ p ∈ t.orders q, P p := by
  unfold orders
  split
  · intro p hp; cases hp
  · exact forall_mem_behind h.toTextClass (by decide)
      (forall_mem_orderTerms h fun o ho => h.column (hq.orderings o ho))

include h in
theorem forall_mem_limit (q : Query) : ∀ p ∈ t.limit q, P p := by
  unfold limit
  split
  · intro p hp; cases hp
  · exact Sql.forall_mem_lit (h.append (h.plain (by decide)) (h.ofNat _))
  · exact Sql.forall_mem_lit (h.append (h.plain (by decide)) (h.ofNat _))
  · exact Sql.forall_mem_lit (h.plain (by decide))
  · intro p hp; cases hp

include h in
theorem forall_mem_offset (q : Query) : ∀ p ∈ t.offset q, P p := by
  unfold offset
  split
  · intro p hp; cases hp
  · exact Sql.forall_mem_lit (h.append (h.plain (by decide)) (h.ofNat _))
  · intro p hp; cases hp

include h in
theorem text_rowNumber : P (.text t.rowNumber) :=
  h.own _ (by decide)

include h in
theorem forall_mem_numbering {derived : Bool} (hname : ∀ o ∈ q.orderings,
    P (.text (t.naming.reference (if derived then unqualified o.column else o.column)))) :
    ∀ p ∈ t.numbering q derived, P p := by
  have horder : ∀ p ∈ (if q.orderings.isEmpty then Sql.lit "(SELECT 0)" else
      orderTerms (fun c => t.naming.reference (if derived then unqualified c else c))
        q.orderings), P p := by
    split
    · exact Sql.forall_mem_lit (h.plain (by decide))
    · exact forall_mem_orderTerms h hname
  exact Sql.forall_mem_append (Sql.forall_mem_append
    (Sql.forall_mem_lit (h.plain (by decide))) horder)
    (Sql.forall_mem_lit (h.append (h.plain (by decide)) (text_rowNumber h)))

include h hq in
theorem forall_mem_selectClause : ∀ p ∈ t.selectClause q, P p := by
  unfold selectClause
  split
  · next a ha => exact forall_mem_aggregate h _ (hq.aggregate a ha)
  · have hnumbered : ∀ p ∈ (if t.numbersRows q && !q.distinct then
        Sql.lit ", " ++ t.numbering q false else []), P p := by
      split
      · exact Sql.forall_mem_append (Sql.forall_mem_lit (h.plain (by decide)))
          (forall_mem_numbering h fun o ho => h.column (hq.orderings o ho))
      · intro p hp; cases hp
    refine Sql.forall_mem_append (Sql.forall_mem_append (Sql.forall_mem_lit
      (h.append (h.append (h.plain (by decide)) ?_) ?_)) (forall_mem_projection h hq)) hnumbered
    · split <;> exact h.plain (by decide)
    · split
      · exact h.append (h.append (h.plain (by decide)) (h.ofNat _)) (h.plain (by decide))
      · exact h.plain (by decide)

include h in
theorem text_rowWindow {limit offset : Option UInt64} {window : String}
    (hw : rowWindow limit offset = .ok window) : P (.text window) := by
  simp only [rowWindow] at hw
  split at hw
  · cases hw
  · split at hw
    · cases hw
      exact h.append (h.plain (by decide)) (h.ofNat _)
    · split at hw
      · cases hw
      · cases hw
        exact h.append (h.append (h.append (h.plain (by decide)) (h.ofNat _))
          (h.plain (by decide))) (h.ofNat _)

include h hq in
/-- The rows of a window consist of such pieces if the statement inside does. -/
theorem forall_mem_windowed (hd : t.dialect = .sqlserver) {inner sql : Sql}
    (hi : ∀ p ∈ inner, P p) (hw : t.windowed q inner = .ok sql) : ∀ p ∈ sql, P p := by
  unfold windowed at hw
  cases hr : rowWindow q.limit q.offset with
  | error e => rw [hr] at hw; cases hw
  | ok window =>
    rw [hr] at hw
    cases hw
    have hnumbered : ∀ p ∈ (if q.distinct then
        Sql.lit "SELECT *, " ++ t.numbering q true ++ Sql.lit " FROM (" ++ inner
          ++ Sql.lit (") AS " ++ t.naming.reference "TempDistinct") else inner), P p := by
      split
      · refine Sql.forall_mem_append (Sql.forall_mem_append (Sql.forall_mem_append
          (Sql.forall_mem_append (Sql.forall_mem_lit (h.plain (by decide)))
            (forall_mem_numbering h fun o ho => h.unqualified hd (hq.orderings o ho)))
          (Sql.forall_mem_lit (h.plain (by decide)))) hi) ?_
        exact Sql.forall_mem_lit (h.append (h.plain (by decide)) (h.own _ (by decide)))
      · exact hi
    refine Sql.forall_mem_append (Sql.forall_mem_append
      (Sql.forall_mem_lit (h.plain (by decide))) hnumbered) (Sql.forall_mem_lit ?_)
    have has : P (.text ") AS ") := h.plain (by decide)
    have hhead := h.append has (h.own "TempTable" (by decide))
    have hrow := text_rowNumber h
    have hwin := text_rowWindow h hr
    have hwhere := h.append hhead (h.plain (by decide : " WHERE ".toList.all isPlain = true))
    have horder := h.plain (by decide : " ORDER BY ".toList.all isPlain = true)
    exact h.append (h.append (h.append (h.append (h.append hwhere hrow)
      (h.plain (by decide))) hwin) horder) hrow

end Target

end SqlBuilder
