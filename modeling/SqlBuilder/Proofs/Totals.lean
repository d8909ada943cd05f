import Mathlib.Data.List.Dedup
import SqlBuilder.Proofs.Pages

/-!
# Totals of pages

An `Evaluation` says what the queries on one table are about: the rows of the table, the predicates
that hold of them, how they fall into groups, and what is put out for a group. Where a connection
`Answers` a query in this sense, the total of a page is the number of all rows that the query has
only for some queries (`Query.total_eq_iff`): distinct rows are counted before they are made
distinct, and of grouped rows it is those of the first group that are counted.
-/

namespace SqlBuilder

/-- What the queries on one table are about. The types are those of the rows of the table, of the
keys that rows are grouped by, and of the rows that are put out. -/
structure Evaluation (ρ κ ω : Type) where
  rows : List ρ
  /-- A table has no more rows than a number of 64 bits can count. -/
  few : rows.length ≤ Json.maxUnsigned
  holds : List (Linked Predicate) → ρ → Bool
  key : List String → ρ → κ
  /-- What a select list puts out for rows that are put together. -/
  output : Option (List Selection) → List ρ → ω
  /-- What is put out as the connection answers it. -/
  answered : ω → ResultRow

/-- The query that counts the rows of a query. -/
def Query.counting (q : Query) : Query :=
  { q.unordered with aggregate := some ⟨.count, ["*"]⟩ }

namespace Evaluation

variable {ρ κ ω σ : Type} [DecidableEq κ] (E : Evaluation ρ κ ω) (q : Query)

/-- The rows of the table that the predicates of a query hold of. -/
def filtered : List ρ :=
  E.rows.filter (E.holds q.wheres)

/-- The rows that a query reads, those of one key together. -/
def groups : List (List ρ) :=
  ((E.filtered q).map (E.key q.groupings)).dedup.map fun key =>
    (E.filtered q).filter (E.key q.groupings · = key)

/-- What a query puts out for each group, or for each row if it has no groups. -/
def shown : List ω :=
  (if q.groupings.isEmpty then (E.filtered q).map ([·]) else E.groups q).map (E.output q.selects)

/-- What a query puts out. -/
def outputs [DecidableEq ω] : List ω :=
  if q.distinct then (E.shown q).dedup else E.shown q

/-- What a query for the number of rows puts out: a number for each group, or one number if there
are no groups. -/
def counts : List Nat :=
  if q.groupings.isEmpty then [(E.filtered q).length] else (E.groups q).map List.length

/-- The answer to a query for the number of rows. -/
def countRow (n : Nat) : ResultRow :=
  [("aggregate", .int n)]

/-- A database puts out for a query on one table, and for the count of its rows, what they are
about. It may do so in any order, and in another one each time. -/
structure Answers [DecidableEq ω] (db : Database σ) (q : Query) : Prop where
  aggregate : q.aggregate = none
  joins : q.joins = []
  havings : q.havings = []
  rows : ∀ sql state, q.allRows.select db.target = .ok sql →
    ∃ rows : List ω, rows.Perm (E.outputs q) ∧
      (db.connection.select sql.text q.bindings state).1 = .ok (rows.map E.answered)
  counts : ∀ sql state, q.counting.select db.target = .ok sql →
    ∃ counts : List Nat, counts.Perm (E.counts q) ∧
      (db.connection.select sql.text q.bindings state).1 = .ok (counts.map countRow)

/-! ## Numbers of rows -/

variable {E q}

theorem le_of_mem_counts {n : Nat} (h : n ∈ E.counts q) : n ≤ Json.maxUnsigned := by
  have hfiltered : (E.filtered q).length ≤ Json.maxUnsigned :=
    (List.length_filter_le _ _).trans E.few
  unfold counts at h
  split at h
  · exact List.mem_singleton.1 h ▸ hfiltered
  · obtain ⟨group, hgroup, rfl⟩ := List.mem_map.1 h
    obtain ⟨key, -, rfl⟩ := List.mem_map.1 hgroup
    exact (List.length_filter_le _ _).trans hfiltered

/-- The first number of rows that is answered fits into 64 bits. -/
theorem toNat_headD_counts {counts : List Nat} (h : counts.Perm (E.counts q)) :
    (UInt64.ofNat (min (counts.headD 0) Json.maxUnsigned)).toNat = counts.headD 0 := by
  have hle : counts.headD 0 ≤ Json.maxUnsigned := by
    cases counts with
    | nil => exact Nat.zero_le _
    | cons n counts => exact le_of_mem_counts (h.subset List.mem_cons_self)
  rw [min_eq_left hle]
  exact UInt64.toNat_ofNat_of_lt' (Nat.lt_succ_of_le hle)

/-- Without groups, there is something put out for every row unless distinct rows are fewer. -/
theorem length_outputs_eq_iff [DecidableEq ω] (h : q.groupings = []) :
    (E.outputs q).length = (E.filtered q).length ↔ (q.distinct = true → (E.shown q).Nodup) := by
  have hshown : (E.shown q).length = (E.filtered q).length := by
    simp [shown, h]
  unfold outputs
  cases q.distinct with
  | false => exact iff_of_true hshown (fun hd => absurd hd Bool.false_ne_true)
  | true =>
    rw [if_pos rfl, ← hshown]
    constructor
    · intro hlength _
      exact List.dedup_eq_self.1 ((List.dedup_sublist (E.shown q)).eq_of_length hlength)
    · intro hnodup
      rw [List.dedup_eq_self.2 (hnodup rfl)]

/-! ## Databases that answer -/

variable [DecidableEq ω] (E : Evaluation ρ κ ω)

/-- A database that answers the count of a query with numbers, and all else with its rows. -/
def database (config : Config) (q : Query) : Database Unit where
  connection :=
    { select := fun sql _ state =>
        let target : Target := ⟨Dialect.forName config.driver, config.tablePrefix⟩
        if (q.counting.select target).toOption.map Sql.text = some sql then
          (.ok ((E.counts q).map countRow), state)
        else (.ok ((E.outputs q).map E.answered), state)
      execute := fun _ _ state => (.error .serialization, state) }
  config

/-- The database answers a query of which the rows and their count have different statements. -/
theorem answers_database (config : Config) {q : Query} (ha : q.aggregate = none)
    (hj : q.joins = []) (hh : q.havings = [])
    (hne : (q.counting.select (E.database config q).target).toOption.map Sql.text ≠
      (q.allRows.select (E.database config q).target).toOption.map Sql.text) :
    E.Answers (E.database config q) q where
  aggregate := ha
  joins := hj
  havings := hh
  rows sql state hsql := by
    refine ⟨E.outputs q, List.Perm.refl _, ?_⟩
    rw [hsql] at hne
    exact congrArg Prod.fst (if_neg hne)
  counts sql state hsql := by
    refine ⟨E.counts q, List.Perm.refl _, ?_⟩
    have hcounting : (q.counting.select (E.database config q).target).toOption.map Sql.text =
        some sql.text := by
      rw [hsql]
      rfl
    exact congrArg Prod.fst (if_pos hcounting)

/-- Orders that have a state and nothing else. The only predicate asks for those that are not
void. -/
def orders (states : List String) (few : states.length ≤ Json.maxUnsigned) :
    Evaluation String String String where
  rows := states
  few
  holds predicates state := predicates.isEmpty || state ≠ "void"
  key _ state := state
  output _ group := group.headD ""
  answered state := [("state", .string state)]

/-- Steps to the states of the orders that are not void. -/
def orderSteps : List Step :=
  [.select ["state"], .compare .and ⟨"state", .ne, .string "void"⟩, .groupBy ["state"]]

/-- The query that the steps build. -/
def orderStates : Query where
  table := "orders"
  selects := some [.column "state"]
  wheres := [⟨.and, .comparison ⟨"state", .ne, .string "void"⟩⟩]
  groupings := ["state"]
  whereValues := [.string "void"]

def ordersDatabase (states : List String) (few : states.length ≤ Json.maxUnsigned) :
    Database Unit :=
  (orders states few).database ⟨"mysql", "", "default"⟩ orderStates

theorem answers_orders (states : List String) (few : states.length ≤ Json.maxUnsigned) :
    (orders states few).Answers (ordersDatabase states few) orderStates := by
  have hne : (orderStates.counting.select ⟨.mysql, ""⟩).toOption.map Sql.text ≠
      (orderStates.allRows.select ⟨.mysql, ""⟩).toOption.map Sql.text := by
    decide +kernel
  have hdialect : Dialect.forName "mysql" = .mysql := by decide
  refine answers_database _ _ rfl rfl rfl ?_
  rw [Database.target, database, hdialect]
  exact hne

end Evaluation

/-! ## Counting and reading -/

namespace Query

variable {σ : Type} {db : Database σ} {q : Query} {s : Session σ}

/-- Only the first number that is answered is taken for the number of rows. -/
theorem count_of_answer {sql : Sql} {counts : List Nat}
    (hsql : q.counting.select db.target = .ok sql)
    (hanswer : (db.connection.select sql.text q.bindings s.state).1 =
      .ok (counts.map Evaluation.countRow)) :
    (q.unordered.count db s).result =
      .ok (UInt64.ofNat (min (counts.headD 0) Json.maxUnsigned)) := by
  have hselect : (db.select sql.text q.unordered.bindings s).1 =
      .ok (counts.map Evaluation.countRow) := hanswer
  have hcounting : ({ q.unordered with aggregate := some ⟨.count, ["*"]⟩ } : Query).select
      db.target = .ok sql := hsql
  unfold count aggregateOf
  rw [hcounting]
  simp only [Outcome.map, hselect]
  cases counts with
  | nil => rfl
  | cons n counts => rfl

/-- Reading all rows is getting the answer to their statement. -/
theorem get_of_answer {sql : Sql} {rows : List ResultRow}
    (hsql : q.allRows.select db.target = .ok sql)
    (hanswer : (db.connection.select sql.text q.bindings s.state).1 = .ok rows) :
    (q.allRows.get db s).result = .ok rows := by
  -- rows are numbered behind an offset only
  have hrow : q.allRows.withoutRowNumber db = id := rfl
  rw [result_get hsql hanswer, hrow, List.map_id]

/-- A page has the total that was counted. -/
theorem count_of_paginate {page perPage : UInt64} {r : Page}
    (h : (q.paginate db page perPage s).result = .ok r) :
    (q.unordered.count db s).result = .ok r.total := by
  cases hcount : (q.unordered.count db s).result with
  | error e =>
    rw [result_paginate_of_error page perPage hcount] at h
    cases h
  | ok total =>
    obtain ⟨counted, s', hpage⟩ := paginate_eq page perPage hcount
    rw [hpage] at h
    obtain ⟨results, -, rfl⟩ := Outcome.map_eq_ok.1 h
    rfl

/-- What is counted can be read. -/
theorem exists_select_of_counting {t : Target} {sql : Sql} (ha : q.aggregate = none)
    (h : q.counting.select t = .ok sql) : ∃ rows, q.allRows.select t = .ok rows := by
  obtain ⟨conditions, hc, -⟩ := bind_eq_ok.1 ((select_eq t q.counting).symm.trans h)
  exact ⟨_, select_allRows ha hc⟩

/-- What was counted has a statement to count it. -/
theorem exists_counting_of_count {total : UInt64}
    (h : (q.unordered.count db s).result = .ok total) :
    ∃ sql, q.counting.select db.target = .ok sql := by
  cases hcounting : q.counting.select db.target with
  | ok sql => exact ⟨sql, rfl⟩
  | error e =>
    have herror : ({ q.unordered with aggregate := some ⟨.count, ["*"]⟩ } : Query).select
      db.target = .error e := hcounting
    unfold count aggregateOf at h
    rw [herror] at h
    cases h

variable {ρ κ ω : Type} [DecidableEq κ] [DecidableEq ω] {E : Evaluation ρ κ ω}

/-- The total of a page is the first number that is answered to the count. It is the number of all
rows of the query exactly if there are no groups, and no distinct rows that are fewer, or if the
first group happens to have as many rows as are put out. -/
theorem total_eq_iff (h : E.Answers db q) {page perPage : UInt64} {r : Page}
    (hr : (q.paginate db page perPage s).result = .ok r) :
    ∃ (sql : Sql) (counts : List Nat) (rows : List ω), q.counting.select db.target = .ok sql ∧
      (db.connection.select sql.text q.bindings s.state).1 =
        .ok (counts.map Evaluation.countRow) ∧
      counts.Perm (E.counts q) ∧ rows.Perm (E.outputs q) ∧
      (q.allRows.get db s).result = .ok (rows.map E.answered) ∧
      r.total.toNat = counts.headD 0 ∧
      (r.total.toNat = rows.length ↔
        (q.groupings = [] ∧ (q.distinct = true → (E.shown q).Nodup)) ∨
          (q.groupings ≠ [] ∧ counts.headD 0 = (E.outputs q).length)) := by
  have hcount := count_of_paginate hr
  obtain ⟨counting, hcounting⟩ := exists_counting_of_count hcount
  obtain ⟨sql, hsql⟩ := exists_select_of_counting h.aggregate hcounting
  obtain ⟨counts, hcounts, hanswer⟩ := h.counts counting s.state hcounting
  obtain ⟨rows, hrows, hread⟩ := h.rows sql s.state hsql
  have htotal : r.total.toNat = counts.headD 0 := by
    rw [count_of_answer hcounting hanswer] at hcount
    rw [← Except.ok.inj hcount]
    exact Evaluation.toNat_headD_counts hcounts
  refine ⟨counting, counts, rows, hcounting, hanswer, hcounts, hrows, get_of_answer hsql hread,
    htotal, ?_⟩
  rw [htotal, hrows.length_eq]
  by_cases hgroups : q.groupings = []
  · have hone : counts = [(E.filtered q).length] := by
      rw [Evaluation.counts, hgroups] at hcounts
      exact List.perm_singleton.1 hcounts
    rw [hone, List.headD_cons, eq_comm, Evaluation.length_outputs_eq_iff hgroups]
    simp [hgroups]
  · simp [hgroups]

theorem total_eq_iff_orders : ∃ (db : Database Unit) (r : Page) (rows : List ResultRow),
    Query.build "orders" Evaluation.orderSteps = .ok Evaluation.orderStates ∧
      (Evaluation.orders ["open", "void", "open", "paid"] (by decide)).Answers db
        Evaluation.orderStates ∧
      (Evaluation.orderStates.paginate db 1 10 ⟨(), []⟩).result = .ok r ∧
      (Evaluation.orderStates.allRows.get db ⟨(), []⟩).result = .ok rows ∧
      r.total.toNat = rows.length := by
  have hanswers := Evaluation.answers_orders ["open", "void", "open", "paid"] (by decide)
  have hpage : ((Evaluation.orderStates.paginate
      (Evaluation.ordersDatabase ["open", "void", "open", "paid"] (by decide)) 1 10
        ⟨(), []⟩).result.map Page.total).toOption = some 2 := by decide +kernel
  cases hr : (Evaluation.orderStates.paginate
      (Evaluation.ordersDatabase ["open", "void", "open", "paid"] (by decide)) 1 10
        ⟨(), []⟩).result with
  | error e =>
    rw [hr] at hpage
    cases hpage
  | ok r =>
    have htotal : r.total = 2 := by
      rw [hr] at hpage
      exact Option.some.inj hpage
    obtain ⟨-, counts, rows, -, -, -, -, hrows, hcounts, hiff⟩ := total_eq_iff hanswers hr
    have htwo : counts.headD 0 = 2 := by
      rw [← hcounts, htotal]
      rfl
    refine ⟨_, r, _, rfl, hanswers, hr, hrows, ?_⟩
    rw [List.length_map]
    exact hiff.2 (Or.inr ⟨List.cons_ne_nil _ _, htwo.trans rfl⟩)

/-- Two states, of which the first is that of one order, make a total of one. -/
theorem not_total_eq : ∃ (db : Database Unit) (r : Page) (rows : List ResultRow),
    Query.build "orders" Evaluation.orderSteps = .ok Evaluation.orderStates ∧
      (Evaluation.orders ["open", "paid", "paid", "void", "paid"] (by decide)).Answers db
        Evaluation.orderStates ∧
      (Evaluation.orderStates.paginate db 1 10 ⟨(), []⟩).result = .ok r ∧
      (Evaluation.orderStates.allRows.get db ⟨(), []⟩).result = .ok rows ∧
      r.total = 1 ∧ rows.length = 2 :=
  ⟨_, _, _, rfl, Evaluation.answers_orders _ _, rfl, rfl, rfl, rfl⟩

end Query

end SqlBuilder
