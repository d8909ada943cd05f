import SqlBuilder.Proofs.Windows

/-!
# What an aggregate depends on

An aggregate takes the place of the select list, and the clauses behind the groups are written as
for any other query. So the statement of an aggregate over the rows of a query keeps the order of
these, and in the dialects with clauses for them their limit and offset, although it has a single
row. Two queries for one aggregate of the same rows have the same statement exactly if they agree in
those clauses (`Query.text_aggregate_eq_iff`). Where an order ends and the limit begins is seen from
the last direction, since no limit and offset has a `C` in it.
-/

namespace SqlBuilder

/-! ## Clauses behind an order -/

/-- Two texts are the same part by part where both have a first part that is empty or ends in a
character that stands in neither second part. -/
theorem append_inj_of_last {α : Type} {c : α} {front front' back back' : List α}
    (hfront : ∀ d ∈ front.getLast?, d = c) (hfront' : ∀ d ∈ front'.getLast?, d = c)
    (hback : c ∉ back) (hback' : c ∉ back') :
    front ++ back = front' ++ back' ↔ front = front' ∧ back = back' := by
  constructor
  · intro h
    rcases List.append_eq_append_iff.1 h with ⟨w, rfl, rfl⟩ | ⟨w, rfl, rfl⟩
    · rcases List.eq_nil_or_concat w with rfl | ⟨w, d, rfl⟩
      · exact ⟨(List.append_nil _).symm, rfl⟩
      · obtain rfl := hfront' d (by simp)
        exact absurd (by simp) hback
    · rcases List.eq_nil_or_concat w with rfl | ⟨w, d, rfl⟩
      · exact ⟨List.append_nil _, rfl⟩
      · obtain rfl := hfront d (by simp)
        exact absurd (by simp) hback'
  · rintro ⟨rfl, rfl⟩
    rfl

theorem Window.after_inj {skipped skipped' : Nat} {count count' : Option Nat} :
    Window.after skipped count = Window.after skipped' count' ↔
      skipped = skipped' ∧ count = count' := by
  rw [Window.after, Window.after, Window.mk.injEq, Nat.succ.injEq]
  refine and_congr_right ?_
  rintro rfl
  exact (Option.map_injective (fun m n h => Nat.add_left_cancel h)).eq_iff

theorem effective_inj {n n' : Option UInt64}
    (h : ((effective n).getD 0).toNat = ((effective n').getD 0).toNat) :
    effective n = effective n' := by
  have hvalue : ∀ m : Option UInt64, effective m =
      if 0 < (effective m).getD 0 then some ((effective m).getD 0) else none := by
    intro m
    cases hm : effective m with
    | none => rfl
    | some k =>
      have hpos : 0 < k := of_decide_eq_true (Option.filter_eq_some_iff.1 hm).2
      rw [Option.getD_some, if_pos hpos]
  rw [hvalue n, hvalue n', UInt64.toNat_inj.1 h]

/-- Limit and offset in clauses, as a dialect has them. -/
def Dialect.paging (d : Dialect) (limit : Option Nat) (skipped : Option UInt64) : String :=
  (match limit, skipped, d with
    | some count, _, _ => " " ++ ("LIMIT " ++ toString count)
    | none, some _, .sqlite => " " ++ ("LIMIT " ++ "-1")
    | none, _, _ => "")
  ++ match skipped with
    | some skipped => " " ++ ("OFFSET " ++ toString skipped.toNat)
    | none => ""

/-- The paging picks the rows behind the offset up to the limit. -/
theorem Dialect.read_paging (d : Dialect) (limit : Option Nat) (skipped : Option UInt64) :
    Window.read (d.paging limit skipped) = some (.after (skipped.getD 0).toNat limit) := by
  cases limit with
  | some count =>
    cases skipped with
    | some skipped =>
      rw [paging, Window.read_limit_offset (Text.isWord_toString count), Window.limit?_toString]
      rfl
    | none =>
      rw [paging, String.append_empty, Window.read_limit (Text.isWord_toString count),
        Window.limit?_toString]
      rfl
  | none =>
    cases skipped with
    | some skipped =>
      cases d with
      | sqlite => exact Window.read_limit_offset (by decide) skipped.toNat
      | _ => exact Window.read_offset skipped.toNat
    | none => rfl

theorem not_mem_toString {c : Char} (hc : c.isDigit = false) (n : Nat) :
    c ∉ (toString n).toList := fun hmem => by
  rw [isDigit_of_mem_toString hmem] at hc
  cases hc

theorem Dialect.not_mem_paging (d : Dialect) (limit : Option Nat) (skipped : Option UInt64) :
    'C' ∉ (d.paging limit skipped).toList := by
  have hlimit (word : String) (h : 'C' ∉ word.toList) :
      'C' ∉ (" " ++ ("LIMIT " ++ word)).toList := by
    simpa using h
  have hoffset (word : String) (h : 'C' ∉ word.toList) :
      'C' ∉ (" " ++ ("OFFSET " ++ word)).toList := by
    simpa using h
  have hnumber := not_mem_toString (c := 'C') (by decide)
  unfold paging
  rw [String.toList_append, List.mem_append, not_or]
  constructor
  · split
    · exact hlimit _ (hnumber _)
    · exact hlimit _ (by decide)
    · exact List.not_mem_nil
  · split
    · exact hoffset _ (hnumber _)
    · exact List.not_mem_nil

namespace Target

variable {t : Target} {q q' : Query}

/-- The number in the limit clause of a query: its limit, or the greatest number where the dialect
has no offset without a limit. -/
def shownLimit (t : Target) (q : Query) : Option Nat :=
  match effective q.limit, effective q.offset, t.dialect with
  | some count, _, _ => some count.toNat
  | none, some _, .mysql => some maxRowNumber
  | none, _, _ => none

/-- The limit and the offset of a query behind its order. -/
def pagingText (t : Target) (q : Query) : String :=
  (Sql.spaced (t.limit q) ++ Sql.spaced (t.offset q)).text

/-- Outside SQL Server there are clauses for the limit and the offset. -/
theorem pagingText_eq (hd : t.dialect ≠ .sqlserver) :
    t.pagingText q = t.dialect.paging (t.shownLimit q) (effective q.offset) := by
  cases hl : effective q.limit with
  | some count =>
    cases ho : effective q.offset with
    | some skipped =>
      rw [pagingText, limit_eq hd hl, offset_eq hd ho, Sql.text_append, Sql.text_spaced_lit,
        Sql.text_spaced_lit, shownLimit, hl, ho]
      rfl
    | none =>
      rw [pagingText, limit_eq hd hl, offset_eq_nil ho, Sql.text_append, Sql.text_spaced_lit,
        shownLimit, hl]
      rfl
  | none =>
    cases ho : effective q.offset with
    | some skipped =>
      rw [pagingText, offset_eq hd ho, Sql.text_append, Sql.text_spaced_lit, limit, shownLimit, hl,
        ho]
      cases hdialect : t.dialect with
      | sqlserver => exact absurd hdialect hd
      | mysql =>
        dsimp only
        rw [Sql.text_spaced_lit]
        rfl
      | sqlite =>
        dsimp only
        rw [Sql.text_spaced_lit]
        rfl
      | _ => rfl
    | none =>
      rw [pagingText, limit_eq_nil hl ho, offset_eq_nil ho, shownLimit, hl, ho]
      rfl

theorem pagingText_eq_empty (hd : t.dialect = .sqlserver) : t.pagingText q = "" := by
  rw [pagingText, limit, offset, hd]
  rfl

theorem not_mem_pagingText : 'C' ∉ (t.pagingText q).toList := by
  by_cases hd : t.dialect = .sqlserver
  · rw [pagingText_eq_empty hd]
    exact List.not_mem_nil
  · rw [pagingText_eq hd]
    exact Dialect.not_mem_paging _ _ _

/-- Paging is the same in clauses exactly if it shows the same numbers. SQL Server has no such
clauses. -/
theorem pagingText_inj : t.pagingText q = t.pagingText q' ↔ t.dialect = .sqlserver ∨
    t.shownLimit q = t.shownLimit q' ∧ effective q.offset = effective q'.offset := by
  by_cases hd : t.dialect = .sqlserver
  · refine iff_of_true ?_ (Or.inl hd)
    rw [pagingText_eq_empty hd, pagingText_eq_empty hd]
  · rw [pagingText_eq hd, pagingText_eq hd, or_iff_right hd]
    constructor
    · intro h
      have hread := congrArg Window.read h
      rw [Dialect.read_paging, Dialect.read_paging, Option.some.injEq, Window.after_inj] at hread
      exact ⟨hread.2, effective_inj hread.1⟩
    · rintro ⟨hlimit, hoffset⟩
      rw [hlimit, hoffset]

/-- An order ends in a direction. -/
theorem suffix_text_orders (h : q.orderings ≠ []) :
    ∃ direction : Direction, direction.sql.toList <:+ (t.orders q).text.toList := by
  rcases List.eq_nil_or_concat q.orderings with hnil | ⟨before, o, hlast⟩
  · exact absurd hnil h
  refine ⟨o.direction, ?_⟩
  have hterms : o.direction.sql.toList <:+
      (orderTerms t.naming.reference q.orderings).text.toList := by
    rw [orderTerms, Sql.text_lit, String.toList_intercalate, hlast, List.concat_eq_append,
      List.map_append, List.map_append]
    refine List.IsSuffix.trans ?_ suffix_intercalate_concat
    rw [String.toList_append]
    exact List.suffix_append _ _
  have hempty : q.orderings.isEmpty = false := List.isEmpty_eq_false_iff.2 h
  rw [orders, hempty, if_neg Bool.false_ne_true, behind, orderTerms, Sql.lit, List.isEmpty_cons,
    if_neg Bool.false_ne_true, Sql.text_append, String.toList_append]
  exact hterms.trans (List.suffix_append _ _)

/-- The order of a query behind its other clauses. -/
def orderClause (t : Target) (q : Query) : String :=
  (Sql.spaced (t.orders q)).text

theorem orderClause_eq (h : q.orderings ≠ []) : t.orderClause q = " " ++ (t.orders q).text := by
  have hne : (t.orders q).isEmpty = false := by
    cases horders : t.orders q with
    | nil =>
      obtain ⟨direction, hsuffix⟩ := suffix_text_orders (t := t) h
      rw [horders] at hsuffix
      exact absurd (List.suffix_nil.1 hsuffix) (by cases direction <;> decide)
    | cons p ps => rfl
  rw [orderClause, Sql.spaced, hne, if_neg Bool.false_ne_true, Sql.text_append, Sql.text_lit]

theorem orderClause_eq_empty (h : q.orderings = []) : t.orderClause q = "" := by
  rw [orderClause, orders, h]
  rfl

theorem getLast?_orderClause : ∀ c ∈ (t.orderClause q).toList.getLast?, c = 'C' := by
  intro c hc
  by_cases h : q.orderings = []
  · rw [orderClause_eq_empty h] at hc
    cases hc
  · obtain ⟨direction, front, hfront⟩ := suffix_text_orders (t := t) h
    rw [orderClause_eq h, String.toList_append, ← hfront, List.getLast?_append,
      List.getLast?_append] at hc
    cases direction <;> exact (Option.some.inj hc).symm

/-- Orders and paging are told apart in the text behind the other clauses. -/
theorem orderClause_append_pagingText_inj :
    t.orderClause q ++ t.pagingText q = t.orderClause q' ++ t.pagingText q' ↔
      t.orderClause q = t.orderClause q' ∧ t.pagingText q = t.pagingText q' := by
  rw [← String.toList_inj, String.toList_append, String.toList_append,
    append_inj_of_last getLast?_orderClause getLast?_orderClause not_mem_pagingText
      not_mem_pagingText, String.toList_inj, String.toList_inj]

end Target

/-! ## Two queries for one aggregate -/

namespace Query

variable {t : Target} {q q' : Query}

/-- The query without what an aggregate has no use for. -/
def bare (q : Query) : Query :=
  { q with selects := none, orderings := [], limit := none, offset := none }

/-- The statement of an aggregate, in front of its order and its paging. -/
def aggregateFront (t : Target) (q : Query) (conditions : List (Linked Sql)) : String :=
  (t.selectClause q ++ t.body q conditions).text

theorem aggregateFront_bare {a : Aggregate} (ha : q.aggregate = some a)
    (conditions : List (Linked Sql)) :
    q.bare.aggregateFront t conditions = q.aggregateFront t conditions := by
  have hselect : t.selectClause q.bare = t.selectClause q := by
    have hbare : q.bare.aggregate = some a := ha
    rw [Target.selectClause, Target.selectClause, ha, hbare]
    rfl
  rw [aggregateFront, aggregateFront, hselect]
  rfl

/-- An aggregate is written with the order and the paging of its query. -/
theorem text_select_of_aggregate {a : Aggregate} (ha : q.aggregate = some a) :
    (q.select t).map Sql.text = (Predicate.chain t q.bare.wheres).map fun conditions =>
      q.bare.aggregateFront t conditions ++ (t.orderClause q ++ t.pagingText q) := by
  have hn : t.numbersRows q = false := by simp [Target.numbersRows, ha]
  have hwheres : q.bare.wheres = q.wheres := rfl
  rw [select_eq, hwheres]
  cases Predicate.chain t q.wheres with
  | error e => rfl
  | ok conditions =>
    have htext : (t.selectClause q ++ t.body q conditions ++ Sql.spaced (t.orders q) ++
        Sql.spaced (t.limit q) ++ Sql.spaced (t.offset q)).text =
        q.bare.aggregateFront t conditions ++ (t.orderClause q ++ t.pagingText q) := by
      rw [aggregateFront_bare ha, aggregateFront, Target.orderClause, Target.pagingText,
        ← Sql.text_append, ← Sql.text_append]
      simp only [List.append_assoc]
    exact (congrArg (Except.map Sql.text) (Target.statement_of_plain hn)).trans
      (congrArg Except.ok htext)

/-- Two queries for one aggregate of the same rows, which differ in no more than their select lists,
orders, limits and offsets, have the same statement exactly if a query inside has none, or if their
orders are written alike and so is their paging in the dialects that have clauses for it. -/
theorem text_aggregate_eq_iff {a : Aggregate} (ha : q.aggregate = some a) (h : q.bare = q'.bare) :
    (q.select t).map Sql.text = (q'.select t).map Sql.text ↔
      (∃ e, q.select t = .error e) ∨ t.orderClause q = t.orderClause q' ∧
        (t.dialect = .sqlserver ∨
          t.shownLimit q = t.shownLimit q' ∧ effective q.offset = effective q'.offset) := by
  have ha' : q'.aggregate = some a := (congrArg Query.aggregate h).symm.trans ha
  have hfails : (∃ e, q.select t = .error e) ↔ ∃ e, (q.select t).map Sql.text = .error e := by
    cases q.select t <;> simp [Except.map]
  rw [hfails, text_select_of_aggregate ha, text_select_of_aggregate ha', ← h]
  cases Predicate.chain t q.bare.wheres with
  | error e => exact iff_of_true rfl (Or.inl ⟨e, rfl⟩)
  | ok conditions =>
    rw [or_iff_right (fun ⟨e, he⟩ => nomatch he), ← Target.pagingText_inj,
      ← Target.orderClause_append_pagingText_inj, Except.map, Except.map, Except.ok.injEq,
      String.append_right_inj]

/-- The number of the users that have a name. -/
def countSteps : List Step :=
  [.null .and true "name", .select ["id"], .setAggregate ⟨.count, ["*"]⟩]

/-- To a count the first page is all rows on SQL Server, but not on Postgres. -/
theorem text_aggregate_eq_iff_count : ∃ q, Query.build "users" countSteps = .ok q ∧
    (q.select ⟨.sqlserver, "app_"⟩).map Sql.text =
      ((q.onPage 1 10).select ⟨.sqlserver, "app_"⟩).map Sql.text ∧
    (q.select ⟨.postgres, "app_"⟩).map Sql.text ≠
      ((q.onPage 1 10).select ⟨.postgres, "app_"⟩).map Sql.text := by
  obtain ⟨q, sql, hq, hsql, ha, hlimit⟩ : ∃ q sql, Query.build "users" countSteps = .ok q ∧
      q.select ⟨.postgres, "app_"⟩ = .ok sql ∧ q.aggregate = some ⟨.count, ["*"]⟩ ∧
      Target.shownLimit ⟨.postgres, "app_"⟩ q = none := ⟨_, _, rfl, rfl, rfl, rfl⟩
  have hbare : q.bare = (q.onPage 1 10).bare := rfl
  refine ⟨q, hq, ?_, fun he => ?_⟩
  · exact (text_aggregate_eq_iff ha hbare).2 (Or.inr ⟨rfl, Or.inl rfl⟩)
  · rcases (text_aggregate_eq_iff ha hbare).1 he with ⟨e, herror⟩ | ⟨-, hd | ⟨hlimits, -⟩⟩
    · cases hsql.symm.trans herror
    · cases hd
    · cases hlimit.symm.trans hlimits

/-- On MySQL the count of the users leaves out as many rows as its query, of which it has one. -/
theorem not_text_aggregate_eq : ∃ q, Query.build "users" [.setAggregate ⟨.count, ["*"]⟩] = .ok q ∧
    q.bare = { q with offset := some 20 }.bare ∧
    (q.select ⟨.mysql, ""⟩).toOption.map Sql.text =
      some "SELECT COUNT(*) AS \x60aggregate\x60 FROM \x60users\x60" ∧
    ({ q with offset := some 20 }.select ⟨.mysql, ""⟩).toOption.map Sql.text =
      some ("SELECT COUNT(*) AS \x60aggregate\x60 FROM \x60users\x60" ++
        " LIMIT 18446744073709551615 OFFSET 20") :=
  ⟨_, rfl, rfl, by decide +kernel, by decide +kernel⟩

end Query

end SqlBuilder
