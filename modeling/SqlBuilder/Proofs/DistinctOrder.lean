import Mathlib.Data.List.Forall2
import SqlBuilder.Proofs.Characters
import SqlBuilder.Proofs.SelectColumns

/-!
# The order of distinct rows

SQL Server finds the distinct rows of a query first and numbers them in a SELECT around that, where
a column goes by its result name alone. The numbering names the columns of its order by what follows
their last point (`Target.overTerms`). That is the result name of a reference without an alias
(`resultName_eq_unqualified`), but a column that is selected under an alias does not go by its own
name any more. So the numbering orders by columns of the distinct rows exactly if every column of
the order is selected without an alias, or under one that is written as its own name is
(`Query.ordersByResultNames_iff`).
-/

namespace SqlBuilder

/-! ## References without alias and qualifiers -/

/-- A reference without its alias. -/
def referenceName (reference : String) : String :=
  match cutAlias? reference.toList with
  | some (name, _) => String.ofList name
  | none => reference

/-- A selected reference is a column under its result name. Which columns an expression gives is
left open. -/
def Selection.resultNames : Selection → List String
  | .column reference => [resultName reference]
  | .raw _ => []

theorem cutAlias?_referenceName (reference : String) :
    cutAlias? (referenceName reference).toList = none := by
  unfold referenceName
  cases hcut : cutAlias? reference.toList with
  | some cut =>
    obtain ⟨name, label⟩ := cut
    rw [String.toList_ofList]
    exact cutAlias?_eq_none_iff.2 (not_aliased_of_cutAlias? hcut)
  | none => exact hcut

theorem referenceName_eq_self {reference : String} (h : cutAlias? reference.toList = none) :
    referenceName reference = reference := by
  rw [referenceName, h]

theorem resultName_eq_unqualified {reference : String} (h : cutAlias? reference.toList = none) :
    resultName reference = Target.unqualified reference := by
  rw [resultName, h]
  rfl

/-- A name without alias and points is written as a single identifier. -/
theorem Naming.reference_eq_value {n : Naming} {column : String}
    (halias : cutAlias? column.toList = none) (hpoint : '.' ∉ column.toList) :
    n.reference column = n.value column := by
  rw [reference, aliased, halias]
  refine congrArg String.ofList ?_
  rw [columnPath, mapPath, List.splitOn_eq_singleton hpoint]
  exact List.intercalate_singleton

/-- Without its qualifiers a column is written as a single identifier. -/
theorem Target.reference_unqualified {n : Naming} {column : String}
    (h : cutAlias? column.toList = none) :
    n.reference (unqualified column) = n.value (unqualified column) := by
  have hmem := unqualified_mem_splitOn column
  refine Naming.reference_eq_value ?_ (not_mem_of_mem_splitOn hmem)
  rw [cutAlias?_eq_none_iff] at h ⊢
  exact fun ha => h (ha.of_infix (infix_of_mem_splitOn hmem))

/-! ## The numbering of distinct rows -/

namespace Target

variable {t : Target} {q : Query}

/-- The columns that distinct rows are numbered by, as they are written, with their directions. -/
def overTerms (t : Target) (q : Query) : List (String × Direction) :=
  q.orderings.map fun o => (t.naming.reference (unqualified o.column), o.direction)

/-- What an ORDER BY has for written columns with directions, something constant for none. -/
def orderText (terms : List (String × Direction)) : String :=
  if terms.isEmpty then "(SELECT 0)"
  else ", ".intercalate (terms.map fun term => term.1 ++ " " ++ term.2.sql)

/-- The entry that numbers rows by written columns with directions. -/
def numberedBy (terms : List (String × Direction)) : Entry :=
  .named ("ROW_NUMBER() OVER (ORDER BY " ++ orderText terms ++ ")") "RowNum"

theorem numberEntry_eq (t : Target) (q : Query) :
    t.numberEntry q true = numberedBy (t.overTerms q) := by
  have horder : (t.numberOrder q true).text = orderText (t.overTerms q) := by
    unfold numberOrder orderText overTerms
    rw [List.isEmpty_map]
    cases q.orderings.isEmpty with
    | true => exact Sql.text_lit _
    | false =>
      rw [List.map_map]
      exact Sql.text_lit _
  rw [numberEntry, numberedBy, horder]

end Target

namespace Query

/-- A query of distinct rows whose numbers are needed, with a list of references as its select list
and some of these, without their aliases, as its order. -/
structure NumbersDistinct (t : Target) (q : Query) (references : List String) : Prop where
  dialect : t.dialect = .sqlserver
  distinct : q.distinct = true
  aggregate : q.aggregate = none
  offset : ∃ skipped, q.offset = some skipped ∧ 0 < skipped
  selects : q.selects = some (references.map .column)
  ordered : ∀ o ∈ q.orderings, ∃ r ∈ references, referenceName r = o.column

/-- The numbering has the orderings of the query in their order and with their directions, each by
the result name of a selected reference to its column. -/
def OrdersByResultNames (t : Target) (q : Query) (references : List String) : Prop :=
  List.Forall₂ (fun (o : OrderBy) (term : String × Direction) => term.2 = o.direction ∧
      ∃ r ∈ references, referenceName r = o.column ∧ term.1 = t.naming.value (resultName r))
    q.orderings (t.overTerms q)

variable {t : Target} {q : Query} {references : List String}

theorem NumbersDistinct.numbersRows (h : NumbersDistinct t q references) :
    t.numbersRows q = true :=
  t.numbersRows_iff.2 ⟨h.dialect, h.aggregate, h.offset⟩

/-- The statement numbers the rows of a list of the selected references. -/
theorem NumbersDistinct.text_select {sql : Sql} (h : NumbersDistinct t q references)
    (hsql : q.select t = .ok sql) : ∃ source behind,
      sql.text = (Layout.derived { entries := [.star] }
        (.derived { entries := [.star, Target.numberedBy (t.overTerms q)] }
          (.tables (t.list q) source) (t.naming.reference "TempDistinct")) behind).text t := by
  obtain ⟨l, ⟨conditions, window, -, -, rfl⟩, htext⟩ := Target.text_layout hsql
  rw [Target.layout, h.numbersRows, if_pos rfl, Target.numberedRows, h.distinct, if_pos rfl,
    Target.numberEntry_eq] at htext
  exact ⟨_, _, htext⟩

/-- The distinct rows have the result names of the selected references as their columns. -/
theorem NumbersDistinct.columns_list (h : NumbersDistinct t q references) (hne : references ≠ [])
    (source : String) (all : List String) :
    (Layout.tables (t.list q) source).columns Selection.resultNames all =
      references.map resultName := by
  rw [Layout.columns, Target.entries_list, Target.columns_entries, Query.columns, h.aggregate,
    h.selects]
  cases references with
  | nil => exact absurd rfl hne
  | cons r rs =>
    change ((r :: rs).map Selection.column).flatMap Selection.resultNames = _
    rw [List.flatMap_map]
    exact List.map_eq_flatMap.symm

/-- An ordering has the result name of a selected reference exactly if one to its column has no
alias, or an alias that is written as the column is. -/
theorem exists_resultName_iff {n : Naming} {column : String}
    (h : ∃ r ∈ references, referenceName r = column) :
    (∃ r ∈ references, referenceName r = column ∧
        n.reference (Target.unqualified column) = n.value (resultName r)) ↔
      ∃ r ∈ references, referenceName r = column ∧ (cutAlias? r.toList = none ∨
        n.value (resultName r) = n.value (Target.unqualified column)) := by
  obtain ⟨r₀, -, rfl⟩ := h
  rw [Target.reference_unqualified (cutAlias?_referenceName r₀)]
  refine exists_congr fun r => and_congr_right fun _ => and_congr_right fun hname => ?_
  constructor
  · exact fun he => Or.inr he.symm
  · rintro (halias | he)
    · rw [← hname, resultName_eq_unqualified halias, referenceName_eq_self halias]
    · exact he.symm

/-- Distinct rows are numbered in a SELECT around a list of the selected references, which are
columns there under their result names. The numbering orders by such columns, and as the query
does, exactly if every ordering has a reference to its column that has no alias, or whose alias is
written as the column is without its qualifiers. -/
theorem ordersByResultNames_iff {sql : Sql} (h : NumbersDistinct t q references)
    (hsql : q.select t = .ok sql) : ∃ source behind,
      sql.text = (Layout.derived { entries := [.star] }
        (.derived { entries := [.star, Target.numberedBy (t.overTerms q)] }
          (.tables (t.list q) source) (t.naming.reference "TempDistinct")) behind).text t ∧
      (references ≠ [] → ∀ all,
        (Layout.tables (t.list q) source).columns Selection.resultNames all =
          references.map resultName) ∧
      (q.OrdersByResultNames t references ↔ ∀ o ∈ q.orderings, ∃ r ∈ references,
        referenceName r = o.column ∧ (cutAlias? r.toList = none ∨
          t.naming.value (resultName r) = t.naming.value (Target.unqualified o.column))) := by
  obtain ⟨source, behind, htext⟩ := h.text_select hsql
  refine ⟨source, behind, htext, fun hne => h.columns_list hne source, ?_⟩
  rw [OrdersByResultNames, Target.overTerms, List.forall₂_map_right_iff, List.forall₂_same]
  refine forall₂_congr fun o ho => ?_
  rw [and_iff_right rfl]
  exact exists_resultName_iff (h.ordered o ho)

/-- A qualified column, and one whose alias is its own name. -/
def ownNameSteps : List Step :=
  [.distinct, .select ["users.city", "users.name As name"], .orderBy "users.name" .desc,
    .orderBy "users.city" .asc, .page 2 5]

theorem ordersByResultNames_iff_own : ∃ q sql, Query.build "users" ownNameSteps = .ok q ∧
    NumbersDistinct ⟨.sqlserver, "app_"⟩ q ["users.city", "users.name As name"] ∧
    q.select ⟨.sqlserver, "app_"⟩ = .ok sql ∧
    q.OrdersByResultNames ⟨.sqlserver, "app_"⟩ ["users.city", "users.name As name"] := by
  obtain ⟨q, sql, hq, hsql, hnumbers⟩ : ∃ q sql, Query.build "users" ownNameSteps = .ok q ∧
      q.select ⟨.sqlserver, "app_"⟩ = .ok sql ∧
      NumbersDistinct ⟨.sqlserver, "app_"⟩ q ["users.city", "users.name As name"] :=
    ⟨_, _, rfl, rfl, rfl, rfl, rfl, ⟨_, rfl, by decide⟩, rfl, by decide⟩
  obtain ⟨-, -, -, -, hiff⟩ := ordersByResultNames_iff hnumbers hsql
  refine ⟨q, sql, hq, hnumbers, hsql, hiff.2 ?_⟩
  obtain rfl := Except.ok.inj hq
  decide

/-- A column under an alias, which the order of the query does not know. -/
def aliasSteps : List Step :=
  [.distinct, .select ["users.city as c"], .orderBy "users.city" .asc, .skip 5, .take 5]

/-- Distinct rows of one column `c` are numbered by a column `city`. -/
theorem not_ordersByResultNames : ∃ q, Query.build "users" aliasSteps = .ok q ∧
    NumbersDistinct ⟨.sqlserver, ""⟩ q ["users.city as c"] ∧
    (q.select ⟨.sqlserver, ""⟩).map Sql.text =
      .ok ("SELECT * FROM (SELECT *, ROW_NUMBER() OVER (ORDER BY [city] ASC) AS [RowNum] FROM " ++
        "(SELECT DISTINCT [users].[city] AS [c] FROM [users]) AS [TempDistinct]) AS [TempTable] " ++
        "WHERE [RowNum] BETWEEN 6 AND 10 ORDER BY [RowNum]") ∧
    ¬ q.OrdersByResultNames ⟨.sqlserver, ""⟩ ["users.city as c"] := by
  obtain ⟨q, hq, hnumbers, horders, hterms⟩ : ∃ q, Query.build "users" aliasSteps = .ok q ∧
      NumbersDistinct ⟨.sqlserver, ""⟩ q ["users.city as c"] ∧
      q.orderings = [⟨"users.city", .asc⟩] ∧
      Target.overTerms ⟨.sqlserver, ""⟩ q = [("[city]", .asc)] :=
    ⟨_, rfl, ⟨rfl, rfl, rfl, ⟨_, rfl, by decide⟩, rfl, by decide⟩, rfl, by decide⟩
  refine ⟨q, hq, hnumbers, ?_, fun hresult => ?_⟩
  · obtain rfl := Except.ok.inj hq
    decide +kernel
  · rw [OrdersByResultNames, horders, hterms, List.forall₂_cons] at hresult
    obtain ⟨⟨-, r, hr, -, hcity⟩, -⟩ := hresult
    obtain rfl := List.mem_singleton.1 hr
    exact absurd hcity (by decide)

end Query

end SqlBuilder
