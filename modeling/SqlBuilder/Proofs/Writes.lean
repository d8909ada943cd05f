import SqlBuilder.Database.Replay
import SqlBuilder.Proofs.Building
import SqlBuilder.Proofs.Changes
import SqlBuilder.Proofs.Marks
import SqlBuilder.Query.Terminal

/-!
# What terminal operations send

`Terminal.sent` lists the statements that an operation sends to the connection, with the values
bound to them. An operation that changes rows sends one statement, or none if it cannot be written
(`Terminal.sent_of_change?`), and binds all values of the query, whether the statement shows them or
not. So the marks of the statement stand for the bound values unless the query has HAVING conditions
with values to bind (`Terminal.faithful_iff`).
-/

namespace SqlBuilder

variable {σ : Type}

namespace Terminal

/-- The statements that an operation sends, as a session that logs keeps them. -/
def sent (db : Database σ) (q : Query) (s : Session σ) (op : Terminal) : List LogEntry :=
  (op.run { db with keepsLog := true } q s.clearLog).session.log

/-- An operation with its values rewritten. -/
def rewrite (ρ : Rewriting) : Terminal → Terminal
  | .find id => .find (ρ.value id)
  | .insert rows => .insert (rows.map ρ.row)
  | .insertReturning row idColumn => .insertReturning (ρ.row row) idColumn
  | .update row => .update (ρ.row row)
  | .deleteId id => .deleteId (ρ.value id)
  | op => op

/-- Whether an operation is given nothing but what is in a vocabulary. -/
def Uses (V : Vocabulary) : Terminal → Prop
  | .find id => V.value id
  | .firstValue column => V.column column
  | .columnValues column => V.column column
  | .keyedValues column key => V.column column ∧ V.column key
  | .aggregate a => ∀ c ∈ a.columns, V.column c
  | .aggregateNamed _ column => V.column column
  | .insert rows => ∀ row ∈ rows, V.row row
  | .insertReturning row idColumn => V.row row ∧ V.column idColumn
  | .update row => V.row row
  | .increment column _ => V.column column
  | .decrement column _ => V.column column
  | .deleteId id => V.value id
  | _ => True

/-- A column set to an amount more, or less, than it has. -/
def adjusted (t : Target) (sign column : String) (amount : Int64) : Row Value :=
  [(column, .raw (t.naming.reference column ++ " " ++ sign ++ " " ++ toString amount.toInt))]

/-- The change that an operation makes, if it is one that makes a change. -/
def change? (t : Target) (q : Query) : Terminal → Option Change
  | .update row => some ⟨q, some row⟩
  | .increment column amount => some ⟨q, some (adjusted t "+" column amount)⟩
  | .decrement column amount => some ⟨q, some (adjusted t "-" column amount)⟩
  | .delete => some ⟨q, none⟩
  | .deleteId id => some ⟨q.whereEq .and "id" id, none⟩
  | _ => none

/-- The marks of a statement, sent by an operation on what steps build, stand for the values bound
to it. -/
structure Faithful (db : Database σ) (s : Session σ) (table : String) (steps : List Step)
    (op : Terminal) (c : Change) (e : LogEntry) : Prop where
  count : marks e.sql = e.bindings.length
  /-- The bound values are those that are set and then those of the predicates. -/
  values : e.bindings = c.values
  /-- With the values written as texts, steps and operation send the filled statement. -/
  inlined : ∀ lit : Value → String, ∃ q',
    Query.build table (Step.rewriteAll (.inlining lit) steps) = .ok q' ∧
      ∃ e' ∈ (op.rewrite (.inlining lit)).sent db q' s, e'.sql = fill e.sql (e.bindings.map lit)

/-! ## The statement of a change -/

variable {db : Database σ} {q : Query} {s : Session σ} {op : Terminal} {c : Change}

theorem log_affected (statement : Except Error Sql) (bindings : List Value) :
    (Query.affected { db with keepsLog := true } statement bindings s).2.log =
      s.log ++ (statement.toOption.map fun sql => ⟨sql.text, bindings⟩).toList := by
  cases statement with
  | error e => exact (List.append_nil _).symm
  | ok sql => rfl

/-- A change sends its statement with the values that it sets and all values of the query. -/
theorem sent_of_change? (h : op.change? db.target q = some c) :
    op.sent db q s = ((c.statement db.target).toOption.map fun sql =>
      (⟨sql.text, c.sets ++ c.query.bindings⟩ : LogEntry)).toList := by
  have key (statement : Except Error Sql) (bindings : List Value) :
      (Query.affected { db with keepsLog := true } statement bindings s.clearLog).2.log =
        (statement.toOption.map fun sql => (⟨sql.text, bindings⟩ : LogEntry)).toList :=
    log_affected statement bindings
  cases op <;> cases h <;> exact key _ _

theorem mem_sent_iff {e : LogEntry} (h : op.change? db.target q = some c) :
    e ∈ op.sent db q s ↔
      ∃ sql, c.statement db.target = .ok sql ∧ e = ⟨sql.text, c.sets ++ c.query.bindings⟩ := by
  rw [sent_of_change? h]
  cases c.statement db.target with
  | error e' => simp [Except.toOption]
  | ok sql => simp [Except.toOption]

theorem havings_of_change? (h : op.change? db.target q = some c) :
    c.query.havings = q.havings := by
  cases op <;> cases h <;> rfl

theorem recorded_of_change? (h : op.change? db.target q = some c) (hq : q.Recorded) :
    c.query.Recorded := by
  cases op <;> cases h
  case deleteId => exact hq.addWhere .and rfl
  all_goals exact hq

theorem row_adjusted {t : Target} (hp : MarkFree t.tablePrefix) {sign column : String}
    (hsign : sign.toList.all isPlain = true) (hcolumn : MarkFree column) (amount : Int64) :
    Vocabulary.marked.row (adjusted t sign column amount) := by
  have fits := Vocabulary.marked_fits hp
  intro x hx
  rw [List.mem_singleton.1 hx]
  refine ⟨hcolumn, fun sql hsql => ?_⟩
  cases hsql
  have hblank : Piece.Marked (.text " ") := fits.plain (by decide)
  exact Piece.marked_text.1 (fits.append (fits.append (fits.append (fits.append
    (fits.column hcolumn) hblank) (fits.plain hsign)) hblank) (fits.ofInt _))

theorem uses_change? (hp : MarkFree db.target.tablePrefix) (hq : q.Uses Vocabulary.marked)
    (hop : op.Uses Vocabulary.marked) (h : op.change? db.target q = some c) :
    c.Uses Vocabulary.marked := by
  have single {row : Row Value} (hrow : Vocabulary.marked.row row) :
      ∀ r ∈ some row, Vocabulary.marked.row r := by
    intro r hr
    exact Option.mem_some.1 hr ▸ hrow
  have none : ∀ r ∈ (Option.none : Option (Row Value)), Vocabulary.marked.row r := by
    intro r hr
    cases hr
  cases op <;> cases h
  case update row => exact ⟨hq, single hop⟩
  case increment column amount => exact ⟨hq, single (row_adjusted hp (by decide) hop amount)⟩
  case decrement column amount => exact ⟨hq, single (row_adjusted hp (by decide) hop amount)⟩
  case delete => exact ⟨hq, none⟩
  case deleteId id => exact ⟨Query.uses_whereEq hq (by decide : MarkFree "id") hop, none⟩

/-- The same operation with its values rewritten makes the rewritten change, as long as raw values
stay what they are. -/
theorem exists_change?_rewrite {ρ : Rewriting} (hρ : ∀ sql, ρ.value (.raw sql) = .raw sql)
    {t : Target} {q' : Query} (hq : Query.Mirrors ρ q q') (h : op.change? t q = some c) :
    ∃ c', (op.rewrite ρ).change? t q' = some c' ∧ Change.Mirrors ρ c c' := by
  have hadjusted (sign column : String) (amount : Int64) :
      adjusted t sign column amount = ρ.row (adjusted t sign column amount) := by
    simp only [adjusted, Rewriting.row, List.map_cons, List.map_nil, hρ]
  cases op <;> cases h
  case update row => exact ⟨_, rfl, hq, rfl⟩
  case increment column amount => exact ⟨_, rfl, hq, congrArg some (hadjusted _ _ _)⟩
  case decrement column amount => exact ⟨_, rfl, hq, congrArg some (hadjusted _ _ _)⟩
  case delete => exact ⟨_, rfl, hq, rfl⟩
  case deleteId id => exact ⟨_, rfl, hq.addWhere .and rfl, rfl⟩

section Build

variable {table : String} {steps : List Step} {e : LogEntry} (hp : MarkFree db.target.tablePrefix)
  (ht : MarkFree table) (hs : Step.AllUse Vocabulary.marked steps)
  (hq : Query.build table steps = .ok q) (hop : op.Uses Vocabulary.marked)
  (hc : op.change? db.target q = some c)

include hp ht hs hq hop hc

/-- The values of the HAVING conditions are bound behind those that the statement shows. -/
theorem exists_of_mem_sent (he : e ∈ op.sent db q s) : ∃ sql, c.statement db.target = .ok sql ∧
    (∀ p ∈ sql, p.Marked) ∧ sql.bindings = c.values ∧
      e = ⟨sql.text, sql.bindings ++ Value.bound (Comparison.values q.havings)⟩ := by
  obtain ⟨sql, hsql, rfl⟩ := (mem_sent_iff hc).1 he
  have hrecorded := recorded_of_change? hc (Query.recorded_of_build hq)
  have huses := uses_change? hp (Query.uses_of_build ht hs hq) hop hc
  have hvalues := Change.bindings_statement hsql
  have hmarked := Change.forall_mem_statement (Vocabulary.marked_fits hp) huses hsql
  refine ⟨sql, hsql, hmarked, hvalues, ?_⟩
  rw [hrecorded.bindings, Query.values_eq, havings_of_change? hc, Value.bound_append, hvalues,
    Change.values, List.append_assoc]

/-- A statement lacks a mark for each value of a HAVING condition. -/
theorem length_bindings_of_mem_sent (he : e ∈ op.sent db q s) :
    e.bindings.length = marks e.sql + (Value.bound (Comparison.values q.havings)).length := by
  obtain ⟨sql, -, hmarked, -, rfl⟩ := exists_of_mem_sent hp ht hs hq hop hc he
  rw [List.length_append, Sql.marks_text hmarked]

/-- The marks of a statement that changes rows stand for the values bound to it exactly if no HAVING
condition of the query has a value to bind. -/
theorem faithful_iff (he : e ∈ op.sent db q s) :
    Faithful db s table steps op c e ↔ Value.bound (Comparison.values q.havings) = [] := by
  have hlength := length_bindings_of_mem_sent hp ht hs hq hop hc he
  obtain ⟨sql, hsql, hmarked, hvalues, rfl⟩ := exists_of_mem_sent hp ht hs hq hop hc he
  constructor
  · intro h
    rw [h.count] at hlength
    exact List.length_eq_zero_iff.1 (by omega)
  · intro hnone
    -- the same steps and operation, with raw values, send the rewritten statement
    rw [hnone, List.append_nil]
    refine ⟨Sql.marks_text hmarked, hvalues, fun lit => ?_⟩
    obtain ⟨q', hq', hm⟩ := Query.exists_build_rewrite (.inlining lit) hq
    obtain ⟨c', hc', hm⟩ := exists_change?_rewrite (fun _ => rfl) hm hc
    have hsql' : c'.statement db.target = .ok (sql.rewrite (.inlining lit)) := by
      rw [hm.statement, hsql]
      rfl
    exact ⟨q', hq', _, (mem_sent_iff hc').2 ⟨_, hsql', rfl⟩, (Sql.fill_text lit hmarked).symm⟩

end Build

/-- A database that replays results, for one driver. -/
def replaying (driver tablePrefix : String) : Database Replay :=
  ⟨Replay.connection, { driver, tablePrefix }, false⟩

/-- An update of open orders, with a HAVING condition that has no value to bind. -/
def closingSteps : List Step :=
  [.having .and ⟨"n", .gt, .raw "1"⟩, .compare .and ⟨"state", .eq, .string "open?"⟩,
    .nested .or [.member .and false "id" [.int64 7, .raw "8", .int64 9]],
    .present true "lines" [.having .and ⟨"total", .gte, .int32 5⟩,
      .raw .and "lines.order_id = orders.id AND price < ?" [.int32 3]]]

theorem faithful_iff_update : ∃ q c e, Query.build "orders" closingSteps = .ok q ∧
    (update [("state", .string "?"), ("n", .raw "n + 1")]).change?
      (replaying "mysql" "app_").target q = some c ∧
    e ∈ (update [("state", .string "?"), ("n", .raw "n + 1")]).sent (replaying "mysql" "app_") q
      ⟨{}, []⟩ ∧
    Faithful (replaying "mysql" "app_") ⟨{}, []⟩ "orders" closingSteps
      (update [("state", .string "?"), ("n", .raw "n + 1")]) c e := by
  have hs : Step.AllUse Vocabulary.marked closingSteps := by
    simp only [closingSteps, Step.AllUse, Step.Uses, Vocabulary.marked, Vocabulary.comparison]
    decide
  have hop : (update [("state", .string "?"), ("n", .raw "n + 1")]).Uses Vocabulary.marked := by
    simp only [Uses, Vocabulary.row, Vocabulary.marked]
    decide
  obtain ⟨q, sql, hq, hsql⟩ : ∃ q sql, Query.build "orders" closingSteps = .ok q ∧
      q.update (replaying "mysql" "app_").target
        [("state", .string "?"), ("n", .raw "n + 1")] = .ok sql :=
    exists_of_isOk_bind (by decide +kernel)
  have hc : (update [("state", .string "?"), ("n", .raw "n + 1")]).change?
      (replaying "mysql" "app_").target q =
        some ⟨q, some [("state", .string "?"), ("n", .raw "n + 1")]⟩ := rfl
  have he := (mem_sent_iff (s := ⟨{}, []⟩) hc).2 ⟨sql, hsql, rfl⟩
  have hnone : Value.bound (Comparison.values q.havings) = [] := by
    cases hq
    rfl
  exact ⟨q, _, _, hq, hc, he, (faithful_iff (by decide) (by decide) hs hq hop hc he).2 hnone⟩

/-- A DELETE binds the value of a HAVING condition that it does not show. -/
theorem not_faithful_delete : ∃ q, Query.build "t" [.having .and ⟨"a", .eq, .int32 1⟩] = .ok q ∧
    (delete.sent (replaying "sqlite" "") q ⟨{}, []⟩).map (fun e => (e.sql, e.bindings.length)) =
      [("DELETE FROM \"t\"", 1)] ∧
    ∀ e ∈ delete.sent (replaying "sqlite" "") q ⟨{}, []⟩, marks e.sql ≠ e.bindings.length := by
  refine ⟨_, rfl, by decide +kernel, by decide +kernel⟩

end Terminal

end SqlBuilder
