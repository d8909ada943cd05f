import Mathlib.Data.List.Forall2
import SqlBuilder.Proofs.Fields
import SqlBuilder.Proofs.Pages
import SqlBuilder.Proofs.Writes

/-!
# Columns of the rows that are read

A column is read from every row for itself, or under the text that another column has in the row.
The two readings agree on the same rows where every row has both columns and the columns have two
names (`Query.agree_iff`). A row is asked for the key first and has it no more when it is asked for
the column, so two columns of one name are not read.
-/

namespace SqlBuilder

/-- Values are read under keys: they are those that are read without, one for each row in their
order, each under the text of the key column in its row. -/
def Agree (key : String) (rows : List ResultRow) (values : Except Error (List Json))
    (keyed : Except Error (List (String × Json))) : Prop :=
  ∃ pairs, keyed = .ok pairs ∧ values = .ok (pairs.map (·.2)) ∧
    List.Forall₂ (fun row pair => ∃ k, row.get? (resultName key) = some k ∧ pair.1 = keyText k)
      rows pairs

namespace Query

variable {σ : Type} {db : Database σ} {q : Query} {s s' : Session σ} {column key : String}
  {row : ResultRow} {rows : List ResultRow}

/-- The query for some columns. -/
def selecting (q : Query) (columns : List String) : Query :=
  { q with selects := some (columns.map .column) }

/-- A database answers the SELECT of a query with rows. -/
def Answered (db : Database σ) (q : Query) (s : Session σ) (rows : List ResultRow) : Prop :=
  ∃ sql, q.select db.target = .ok sql ∧
    (db.connection.select sql.text q.bindings s.state).1 = .ok rows

/-! ## One row -/

/-- Only the number of a row is taken from it. -/
theorem get?_of_withoutRowNumber {name : String} {value : Json}
    (h : (q.withoutRowNumber db row).get? name = some value) : row.get? name = some value := by
  unfold withoutRowNumber at h
  split at h
  · rw [Fields.get?_erase] at h
    split at h
    · cases h
    · exact h
  · exact h

theorem columnOf_eq_ok_iff {value : Json} :
    q.columnOf column row = .ok value ↔ row.get? (resultName column) = some value := by
  unfold columnOf
  cases row.get? (resultName column) with
  | none => exact iff_of_false (fun h => nomatch h) (fun h => nomatch h)
  | some v => rw [Except.ok.injEq, Option.some.injEq]

/-- A row has a value under a key if it has both columns, and they are two. -/
theorem pairOf_eq_ok_iff {pair : String × Json} : q.pairOf column key row = .ok pair ↔
    resultName column ≠ resultName key ∧ row.get? (resultName column) = some pair.2 ∧
      ∃ k, row.get? (resultName key) = some k ∧ pair.1 = keyText k := by
  unfold pairOf
  simp only [bind_eq_ok, columnOf_eq_ok_iff, Fields.get?_erase]
  constructor
  · rintro ⟨k, hk, v, hv, h⟩
    cases h
    split at hv
    · cases hv
    · next hne => exact ⟨hne, hv, k, hk, rfl⟩
  · rintro ⟨hne, hv, k, hk, hkey⟩
    exact ⟨k, hk, pair.2, (if_neg hne).trans hv, by rw [← hkey]⟩

theorem exists_pairOf_iff : (∃ pair, q.pairOf column key row = .ok pair) ↔
    resultName column ≠ resultName key ∧ (row.get? (resultName column)).isSome ∧
      (row.get? (resultName key)).isSome := by
  simp only [pairOf_eq_ok_iff, Option.isSome_iff_exists]
  constructor
  · rintro ⟨pair, hne, hv, k, hk, -⟩
    exact ⟨hne, ⟨_, hv⟩, k, hk⟩
  · rintro ⟨hne, ⟨v, hv⟩, k, hk⟩
    exact ⟨(keyText k, v), hne, hv, k, hk, rfl⟩

/-! ## All rows -/

theorem result_columnValues (h : Answered db (q.selecting [column]) s rows) :
    (q.columnValues db column s).result =
      (rows.map (q.withoutRowNumber db)).mapM (q.columnOf column) := by
  obtain ⟨sql, hsql, hanswer⟩ := h
  have hget := result_get hsql hanswer
  unfold columnValues Outcome.andThen
  rw [selecting, List.map_singleton] at hget
  rw [hget]
  rfl

theorem result_keyedValues (h : Answered db (q.selecting [column, key]) s rows) :
    (q.keyedValues db column key s).result =
      (rows.map (q.withoutRowNumber db)).mapM (q.pairOf column key) := by
  obtain ⟨sql, hsql, hanswer⟩ := h
  have hget := result_get hsql hanswer
  unfold keyedValues Outcome.andThen
  rw [selecting, List.map_cons, List.map_singleton] at hget
  rw [hget]
  rfl

/-- What each row gives is given by all of them. -/
theorem mapM_map_eq_ok_iff {α β γ : Type} {f : β → Except Error γ} {g : α → β} {xs : List α}
    {ys : List γ} :
    (xs.map g).mapM f = .ok ys ↔ List.Forall₂ (fun x y => f (g x) = .ok y) xs ys := by
  rw [mapM_eq_ok_iff, List.map_map, ← List.forall₂_eq_eq_eq, List.forall₂_map_left_iff,
    List.forall₂_map_right_iff]
  rfl

/-- Reading a column under the texts of another one agrees with reading it for itself exactly if
every row has both columns, and they are two. -/
theorem agree_iff (hkeyed : Answered db (q.selecting [column, key]) s rows)
    (hvalues : Answered db (q.selecting [column]) s' rows) :
    Agree key rows (q.columnValues db column s').result (q.keyedValues db column key s).result ↔
      ∀ row ∈ rows, resultName column ≠ resultName key ∧
        ((q.withoutRowNumber db row).get? (resultName column)).isSome ∧
        ((q.withoutRowNumber db row).get? (resultName key)).isSome := by
  rw [Agree, result_columnValues hvalues, result_keyedValues hkeyed]
  have hrows : (∀ row ∈ rows, resultName column ≠ resultName key ∧
      ((q.withoutRowNumber db row).get? (resultName column)).isSome ∧
      ((q.withoutRowNumber db row).get? (resultName key)).isSome) ↔
      ∃ pairs, (rows.map (q.withoutRowNumber db)).mapM (q.pairOf column key) = .ok pairs := by
    simp only [exists_mapM_iff, List.forall_mem_map, exists_pairOf_iff]
  rw [hrows]
  refine exists_congr fun pairs => and_iff_left_of_imp fun hpairs => ?_
  simp only [mapM_map_eq_ok_iff, pairOf_eq_ok_iff] at hpairs
  constructor
  · rw [mapM_map_eq_ok_iff, List.forall₂_map_right_iff]
    exact hpairs.imp fun _ _ h => columnOf_eq_ok_iff.2 h.2.1
  · exact hpairs.imp fun _ _ ⟨_, _, k, hk, htext⟩ => ⟨k, get?_of_withoutRowNumber hk, htext⟩

/-- Columns of two names, one with a qualifier and one with an alias, and rows with numbers. -/
theorem agree_iff_label : ∃ q s rows,
    Query.build "users as u" [.skip 10, .take 2] = .ok q ∧
      Agree "u.id" rows
        (q.columnValues (Terminal.replaying "sqlsrv" "app_") "u.name as label" s).result
        (q.keyedValues (Terminal.replaying "sqlsrv" "app_") "u.name as label" "u.id" s).result ∧
      (q.keyedValues (Terminal.replaying "sqlsrv" "app_") "u.name as label" "u.id" s).result =
        .ok [("7", .string "ann"), ("b", .null)] := by
  obtain ⟨q, s, rows, hq, hkeyed, hvalues, hrows, hpairs⟩ : ∃ q s rows,
      Query.build "users as u" [.skip 10, .take 2] = .ok q ∧
        Answered (Terminal.replaying "sqlsrv" "app_")
          (q.selecting ["u.name as label", "u.id"]) s rows ∧
        Answered (Terminal.replaying "sqlsrv" "app_") (q.selecting ["u.name as label"]) s rows ∧
        (∀ row ∈ rows, resultName "u.name as label" ≠ resultName "u.id" ∧
          ((q.withoutRowNumber (Terminal.replaying "sqlsrv" "app_") row).get?
            (resultName "u.name as label")).isSome ∧
          ((q.withoutRowNumber (Terminal.replaying "sqlsrv" "app_") row).get?
            (resultName "u.id")).isSome) ∧
        (q.keyedValues (Terminal.replaying "sqlsrv" "app_") "u.name as label" "u.id" s).result =
          .ok [("7", .string "ann"), ("b", .null)] :=
    ⟨_, ⟨{ results := [[
        [("RowNum", .int 11), ("id", .int 7), ("label", .string "ann")],
        [("RowNum", .int 12), ("id", .string "b"), ("label", .null)]]] }, []⟩, _, rfl,
      ⟨_, rfl, rfl⟩, ⟨_, rfl, rfl⟩, by decide +kernel, rfl⟩
  exact ⟨q, s, rows, hq, (agree_iff hkeyed hvalues).2 hrows, hpairs⟩

/-- Rows that have a column are not read for it under its own text. -/
theorem not_agree : ∃ s rows,
    Answered (Terminal.replaying "sqlite" "") ((ofTable "users").selecting ["id", "id"]) s rows ∧
      Answered (Terminal.replaying "sqlite" "") ((ofTable "users").selecting ["id"]) s rows ∧
      (∀ row ∈ rows, (row.get? (resultName "id")).isSome) ∧
      ((ofTable "users").columnValues (Terminal.replaying "sqlite" "") "id" s).result =
        .ok [.int 5] ∧
      ((ofTable "users").keyedValues (Terminal.replaying "sqlite" "") "id" "id" s).result =
        .error (.columnNotFound "users" "id") ∧
      ¬ Agree "id" rows
        ((ofTable "users").columnValues (Terminal.replaying "sqlite" "") "id" s).result
        ((ofTable "users").keyedValues (Terminal.replaying "sqlite" "") "id" "id" s).result := by
  obtain ⟨s, rows, hkeyed, hvalues, hrows, hids, hnone⟩ : ∃ s rows,
      Answered (Terminal.replaying "sqlite" "") ((ofTable "users").selecting ["id", "id"]) s
          rows ∧
        Answered (Terminal.replaying "sqlite" "") ((ofTable "users").selecting ["id"]) s rows ∧
        (∀ row ∈ rows, (row.get? (resultName "id")).isSome) ∧
        ((ofTable "users").columnValues (Terminal.replaying "sqlite" "") "id" s).result =
          .ok [.int 5] ∧
        ((ofTable "users").keyedValues (Terminal.replaying "sqlite" "") "id" "id" s).result =
          .error (.columnNotFound "users" "id") :=
    ⟨⟨{ results := [[[("id", .int 5)]]] }, []⟩, _, ⟨_, rfl, rfl⟩, ⟨_, rfl, rfl⟩,
      by decide +kernel, rfl, rfl⟩
  refine ⟨s, rows, hkeyed, hvalues, hrows, hids, hnone, ?_⟩
  rintro ⟨pairs, hpairs, -⟩
  rw [hnone] at hpairs
  cases hpairs

end Query

end SqlBuilder
