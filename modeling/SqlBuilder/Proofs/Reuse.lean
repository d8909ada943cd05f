import SqlBuilder.Proofs.Pages
import SqlBuilder.Proofs.Writes

/-!
# Using a query again

A query is used for one operation after the other, and some of them leave a `Trace` on it. A read
forgets the select list, a read of the first row leaves its limit as well, a look-up by key its
predicate, and a page that was counted its limit and its offset. All else is as before, also where a
statement cannot be written or fails.

One operation leaves its own trace (`Terminal.query_run`), and a session leaves the traces of its
operations one behind the other (`Terminal.query_runAll`).

A page that fails may leave a trace all the same. Where its rows could be counted but not be read,
its window stays on the query (`Query.samePaging_iff`).
-/

namespace SqlBuilder

/-- What an operation leaves on the query that it is run on. -/
structure Trace where
  /-- Whether the select list is forgotten. -/
  forgets : Bool := false
  /-- The key that was looked up. -/
  key : Option Value := none
  limit : Option UInt64 := none
  offset : Option UInt64 := none

/-- The predicate that is left by the look-up of a key. -/
def Predicate.ofKey (id : Value) : Linked Predicate :=
  ⟨.and, .comparison ⟨"id", .eq, id⟩⟩

/-- A query with traces on it. Of several limits, and of several offsets, the last one counts. -/
def Query.withTraces (q : Query) (ts : List Trace) : Query :=
  { q with
    aggregate := none
    selects := if ts.any (·.forgets) then none else q.selects
    wheres := q.wheres ++ (ts.filterMap (·.key)).map Predicate.ofKey
    whereValues := q.whereValues ++ ts.filterMap (·.key)
    limit := (ts.filterMap (·.limit)).getLast?.or q.limit
    offset := (ts.filterMap (·.offset)).getLast?.or q.offset }

namespace Terminal

variable {σ : Type} (db : Database σ)

/-- The key that an operation looks up. -/
def key? : Terminal → Option Value
  | .find id => some id
  | _ => none

/-- The trace of an operation. Only that of a page depends on an answer: a page whose rows cannot be
counted leaves none. -/
def trace (q : Query) (s : Session σ) : Terminal → Trace
  | .get | .records _ | .columnValues _ | .keyedValues _ _ => { forgets := true }
  | .first | .firstRecord _ | .firstValue _ => { forgets := true, limit := some 1 }
  | .find id => { forgets := true, key := some id, limit := some 1 }
  | .paginate page perPage =>
    match (q.unordered.count db s).result with
    | .error _ => {}
    | .ok total =>
      let size := max perPage 1
      { forgets := true
        limit := some size
        offset := some ((usedPage page total size - 1) * size) }
  | .aggregate _ | .count | .aggregateNamed _ _ => {}
  | .insert _ | .insertReturning _ _ | .update _ | .increment _ _ | .decrement _ _ => {}
  | .delete | .deleteId _ => {}

/-- The traces of operations, each run on what the one before left. -/
def traces (q : Query) (s : Session σ) : List Terminal → List Trace
  | [] => []
  | op :: ops =>
    op.trace db q s :: traces (op.run db q s).query (op.run db q s).session ops

end Terminal

/-! ## Traces on a query -/

namespace Query

variable {q : Query}

theorem withTraces_nil (h : q.aggregate = none) : q.withTraces [] = q := by
  cases q
  cases h
  simp [withTraces]

theorem withTraces_singleton (h : q.aggregate = none) (t : Trace) :
    q.withTraces [t] =
      { q with
        selects := if t.forgets then none else q.selects
        wheres := q.wheres ++ t.key.toList.map Predicate.ofKey
        whereValues := q.whereValues ++ t.key.toList
        limit := t.limit.or q.limit
        offset := t.offset.or q.offset } := by
  obtain ⟨forgets, key, limit, offset⟩ := t
  cases q
  cases h
  cases key <;> cases limit <;> cases offset <;> simp [withTraces]

theorem withTraces_untouched (h : q.aggregate = none) : q.withTraces [{}] = q := by
  rw [withTraces_singleton h]
  cases q
  simp

theorem withTraces_read (h : q.aggregate = none) :
    q.withTraces [{ forgets := true }] = { q with selects := none } := by
  simp [withTraces_singleton h]

theorem withTraces_first (h : q.aggregate = none) :
    q.withTraces [{ forgets := true, limit := some 1 }] =
      { q with selects := none, limit := some 1 } := by
  simp [withTraces_singleton h]

/-- Traces are left one behind the other. -/
theorem withTraces_append (q : Query) (ts us : List Trace) :
    q.withTraces (ts ++ us) = (q.withTraces ts).withTraces us := by
  have hselects : (if (ts ++ us).any (·.forgets) then none else q.selects) =
      if us.any (·.forgets) then none else if ts.any (·.forgets) then none else q.selects := by
    rw [List.any_append]
    cases ts.any (·.forgets) <;> cases us.any (·.forgets) <;> rfl
  simp only [withTraces, List.filterMap_append, List.map_append, List.append_assoc,
    List.getLast?_append, Option.or_assoc, hselects]

theorem withoutAggregate (h : q.aggregate = none) : { q with aggregate := none } = q := by
  cases q
  cases h
  rfl

end Query

/-! ## The trace of an operation -/

section

variable {σ : Type} {db : Database σ} {q : Query} {s : Session σ}

namespace Query

theorem query_first (db : Database σ) (q : Query) (s : Session σ) :
    (q.first db s).query = { q with selects := none, limit := some 1 } :=
  query_get db { q with limit := some 1 } s

theorem query_aggregateOf (db : Database σ) (q : Query) (a : Aggregate) (s : Session σ) :
    (q.aggregateOf db a s).query = { q with aggregate := none } := by
  unfold aggregateOf
  cases ({ q with aggregate := some a } : Query).select db.target with
  | error e => rfl
  | ok sql => rfl

theorem query_aggregateNamed (h : q.aggregate = none) (method column : String) :
    (q.aggregateNamed db method column s).query = q := by
  unfold aggregateNamed
  cases Method.parse method with
  | error e => rfl
  | ok m =>
    cases m with
    | finder columns => rfl
    | aggregate f => exact (query_aggregateOf db q ⟨f, [column]⟩ s).trans (withoutAggregate h)

/-- A count of all rows leaves the query without the order and the window that it had. -/
theorem query_count_unordered (db : Database σ) (q : Query) (s : Session σ) :
    (q.unordered.count db s).query = { q.unordered with aggregate := none } :=
  query_aggregateOf db q.unordered ⟨.count, ["*"]⟩ s

/-- A page whose rows cannot be counted leaves the query as it was. -/
theorem query_paginate_of_error {e : Error} (page perPage : UInt64)
    (hcount : (q.unordered.count db s).result = .error e) :
    (q.paginate db page perPage s).query = { q with aggregate := none } := by
  have hpage : (q.paginate db page perPage s).query = { (q.unordered.count db s).query with
      orderings := q.orderings, limit := q.limit, offset := q.offset } := by
    unfold paginate
    rw [unordered, allRows] at hcount
    simp only [hcount]
    rfl
  rw [hpage, query_count_unordered]
  rfl

theorem max_usedPage (page total : UInt64) {size : UInt64} (hs : 0 < size.toNat) :
    max (usedPage page total size) 1 = usedPage page total size := by
  apply UInt64.toNat_inj.1
  rw [UInt64.toNat_max]
  exact max_eq_left (usedPage_mem hs).1

/-- A page whose rows were counted leaves its window, and no select list. -/
theorem query_paginate_of_ok {total : UInt64} (page perPage : UInt64)
    (hcount : (q.unordered.count db s).result = .ok total) :
    (q.paginate db page perPage s).query =
      { q with
        aggregate := none
        selects := none
        limit := some (max perPage 1)
        offset := some ((usedPage page total (max perPage 1) - 1) * max perPage 1) } := by
  have hpage : (q.paginate db page perPage s).query =
      { ({ (q.unordered.count db s).query with orderings := q.orderings } : Query).onPage
          (usedPage page total (max perPage 1)) (max perPage 1) with selects := none } := by
    unfold paginate
    rw [unordered, allRows] at hcount
    simp only [hcount]
    exact query_get db _ _
  have hsize : (max perPage 1).toNat = max perPage.toNat 1 := UInt64.toNat_max perPage 1
  have hpos : 0 < (max perPage 1).toNat := by
    rw [hsize]
    exact le_max_right perPage.toNat 1
  have hused := max_usedPage page total hpos
  rw [hpage, query_count_unordered, onPage, hused]
  rfl

end Query

namespace Terminal

/-- An operation leaves its trace and changes nothing else. -/
theorem query_run (db : Database σ) (h : q.aggregate = none) (s : Session σ) (op : Terminal) :
    (op.run db q s).query = q.withTraces [op.trace db q s] := by
  have untouched := Query.withTraces_untouched h
  have read := Query.withTraces_read h
  have first := Query.withTraces_first h
  have counted (a : Aggregate) : (q.aggregateOf db a s).query = q :=
    (Query.query_aggregateOf db q a s).trans (Query.withoutAggregate h)
  cases op with
  | get => exact (Query.query_get db q s).trans read.symm
  | records shape => exact (Query.query_get db q s).trans read.symm
  | columnValues column => exact (Query.query_get db _ s).trans read.symm
  | keyedValues column key => exact (Query.query_get db _ s).trans read.symm
  | first => exact (Query.query_first db q s).trans first.symm
  | firstRecord shape => exact (Query.query_first db q s).trans first.symm
  | firstValue column => exact (Query.query_first db _ s).trans first.symm
  | find id =>
    rw [Query.withTraces_singleton h]
    exact Query.query_first db (q.whereEq .and "id" id) s
  | aggregate a => exact (counted a).trans untouched.symm
  | count => exact (counted ⟨.count, ["*"]⟩).trans untouched.symm
  | aggregateNamed method column =>
    exact (Query.query_aggregateNamed h method column).trans untouched.symm
  | paginate page perPage =>
    cases hcount : (q.unordered.count db s).result with
    | error e =>
      have htrace : (paginate page perPage).trace db q s = {} := by simp only [trace, hcount]
      rw [htrace, untouched]
      exact (Query.query_paginate_of_error page perPage hcount).trans (Query.withoutAggregate h)
    | ok total =>
      have hpage : (run db q s (paginate page perPage)).query = _ :=
        Query.query_paginate_of_ok page perPage hcount
      rw [hpage, Query.withTraces_singleton h]
      simp [trace, hcount, h]
  | _ => exact untouched.symm

/-- A session leaves the traces of its operations on the query, in their order, and changes nothing
else. -/
theorem query_runAll (h : q.aggregate = none) (s : Session σ) (ops : List Terminal) :
    (runAll db q s ops).1 = q.withTraces (traces db q s ops) := by
  induction ops generalizing q s with
  | nil => exact (Query.withTraces_nil h).symm
  | cons op ops ih =>
    have hrun := query_run db h s op
    have hnone : (op.run db q s).query.aggregate = none := by
      rw [hrun]
      rfl
    have htail := ih hnone (op.run db q s).session
    calc (runAll db q s (op :: ops)).1
        = (op.run db q s).query.withTraces (traces db (op.run db q s).query
            (op.run db q s).session ops) := htail
      _ = (q.withTraces [op.trace db q s]).withTraces (traces db (op.run db q s).query
            (op.run db q s).session ops) := by rw [hrun]
      _ = q.withTraces (traces db q s (op :: ops)) :=
          (Query.withTraces_append q [op.trace db q s] _).symm

/-- The keys that are looked up are those that the operations name, also where a look-up fails. -/
theorem filterMap_key_traces (q : Query) (s : Session σ) (ops : List Terminal) :
    (traces db q s ops).filterMap (·.key) = ops.filterMap key? := by
  induction ops generalizing q s with
  | nil => rfl
  | cons op ops ih =>
    have hkey : (op.trace db q s).key = op.key? := by
      cases op with
      | paginate page perPage =>
        simp only [trace]
        cases (q.unordered.count db s).result <;> rfl
      | _ => rfl
    simp only [traces, List.filterMap_cons, hkey, ih]

/-- Whatever is answered and whatever fails, operations leave a query as it was but for the select
list, the predicates of the keys that were looked up, and the window. -/
theorem runAll_eq (h : q.aggregate = none) (ops : List Terminal) :
    (runAll db q s ops).1 =
        { q with
          selects := if (traces db q s ops).any (·.forgets) then none else q.selects
          wheres := q.wheres ++ (ops.filterMap key?).map Predicate.ofKey
          whereValues := q.whereValues ++ ops.filterMap key?
          limit := ((traces db q s ops).filterMap (·.limit)).getLast?.or q.limit
          offset := ((traces db q s ops).filterMap (·.offset)).getLast?.or q.offset } ∧
      (runAll db q s ops).1.aggregate = none := by
  rw [query_runAll h s, Query.withTraces, filterMap_key_traces]
  exact ⟨by rw [h], rfl⟩

/-- Operations on a window that begins behind the last row number, and on one page of many. -/
def browsing : List Terminal :=
  [.firstValue "name", .find (.int64 5), .paginate 2 10, .find (.string "x"), .count,
    .paginate 3 7]

theorem runAll_eq_browsing : ∃ q s, Query.build "users" [.select ["name"], .distinct,
      .compare .or ⟨"age", .gt, .int32 30⟩, .orderBy "name" .desc, .skip 18446744073709551615] =
        .ok q ∧ q.aggregate = none ∧
      (runAll (replaying "sqlsrv" "app_") q s browsing).1 =
        { q with
          selects := none
          wheres := q.wheres ++ [Predicate.ofKey (.int64 5), Predicate.ofKey (.string "x")]
          whereValues := q.whereValues ++ [.int64 5, .string "x"]
          limit := some 1
          offset := some 10 } := by
  -- the first two operations have no statement, the page, the count and the second page fail
  obtain ⟨q, s, hq, ha, hforgets, hlimit, hoffset⟩ : ∃ q s, Query.build "users" [.select ["name"],
      .distinct, .compare .or ⟨"age", .gt, .int32 30⟩, .orderBy "name" .desc,
      .skip 18446744073709551615] = .ok q ∧ q.aggregate = none ∧
      (traces (replaying "sqlsrv" "app_") q s browsing).any (·.forgets) = true ∧
      ((traces (replaying "sqlsrv" "app_") q s browsing).filterMap (·.limit)).getLast? = some 1 ∧
      ((traces (replaying "sqlsrv" "app_") q s browsing).filterMap (·.offset)).getLast? =
        some 10 :=
    ⟨_, ⟨{ results := [[[("aggregate", .int 45)]]], failAt := [1, 3, 4] }, []⟩, rfl, rfl,
      by decide +kernel, by decide +kernel, by decide +kernel⟩
  refine ⟨q, s, hq, ha, ?_⟩
  rw [(runAll_eq ha _).1, hforgets, hlimit, hoffset]
  rfl

end Terminal

/-! ## Pages that fail -/

namespace Query

/-- Two queries have one order and one window. -/
structure SamePaging (q r : Query) : Prop where
  orderings : q.orderings = r.orderings
  limit : q.limit = r.limit
  offset : q.offset = r.offset

/-- The window of a query is that of a page, pages being counted from one. -/
structure OnPage (q : Query) (page size : UInt64) : Prop where
  limit : q.limit = some size
  offset : q.offset = some ((page - 1) * size)

/-- A page that fails leaves the order of the query. It leaves the window as well exactly if the
rows could not be counted, or if the window was that of the page already. -/
theorem samePaging_iff {page perPage : UInt64} {e : Error}
    (h : (q.paginate db page perPage s).result = .error e) :
    (q.paginate db page perPage s).query.orderings = q.orderings ∧
      ((q.paginate db page perPage s).query.SamePaging q ↔
        (q.unordered.count db s).result = .error e ∨
          ∃ total, (q.unordered.count db s).result = .ok total ∧
            q.OnPage (usedPage page total (max perPage 1)) (max perPage 1)) := by
  cases hcount : (q.unordered.count db s).result with
  | error e' =>
    have hquery := query_paginate_of_error page perPage hcount
    have he : e' = e :=
      Except.error.inj ((result_paginate_of_error page perPage hcount).symm.trans h)
    rw [hquery, he]
    exact ⟨rfl, iff_of_true ⟨rfl, rfl, rfl⟩ (Or.inl rfl)⟩
  | ok total =>
    rw [query_paginate_of_ok page perPage hcount]
    refine ⟨rfl, ?_, ?_⟩
    · intro hsame
      exact Or.inr ⟨total, rfl, hsame.limit.symm, hsame.offset.symm⟩
    · rintro (he | ⟨total', htotal, hpage⟩)
      · cases he
      · cases htotal
        exact ⟨rfl, hpage.limit.symm, hpage.offset.symm⟩

/-- The rows of the second page are asked for once more, and cannot be read. -/
theorem samePaging_iff_again : ∃ q s,
    Query.build "users" [.select ["name"], .orderBy "name" .desc, .skip 10, .take 10] = .ok q ∧
      (q.paginate (Terminal.replaying "mysql" "app_") 2 10 s).result = .error Replay.failure ∧
      (q.paginate (Terminal.replaying "mysql" "app_") 2 10 s).query.SamePaging q := by
  obtain ⟨q, s, hq, hfails, hcount, hpage⟩ : ∃ q s,
      Query.build "users" [.select ["name"], .orderBy "name" .desc, .skip 10, .take 10] = .ok q ∧
        (q.paginate (Terminal.replaying "mysql" "app_") 2 10 s).result = .error Replay.failure ∧
        (q.unordered.count (Terminal.replaying "mysql" "app_") s).result = .ok 45 ∧
        q.OnPage 2 10 :=
    ⟨_, ⟨{ results := [[[("aggregate", .int 45)]]], failAt := [1] }, []⟩, rfl, rfl, rfl, rfl, rfl⟩
  exact ⟨q, s, hq, hfails, (samePaging_iff hfails).2.2 (Or.inr ⟨45, hcount, hpage⟩)⟩

/-- A query without a window has that of the page whose rows could not be read. -/
theorem not_samePaging : ∃ s o,
    (Query.ofTable "users").paginate (Terminal.replaying "mysql" "") 2 10 s = o ∧
      o.result = .error Replay.failure ∧ o.query.limit = some 10 ∧ o.query.offset = some 10 ∧
      ¬ o.query.SamePaging (.ofTable "users") := by
  refine ⟨⟨{ results := [[[("aggregate", .int 45)]]], failAt := [1] }, []⟩, _, rfl, rfl, rfl, rfl,
    ?_⟩
  rintro ⟨-, hlimit, -⟩
  cases hlimit

end Query

end

end SqlBuilder
