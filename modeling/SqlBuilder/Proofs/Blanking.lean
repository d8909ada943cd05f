import SqlBuilder.Proofs.Rewriting

/-!
# Contents of values and statement text

`Rewriting.blank` takes the contents out of all values but the raw ones, which are SQL. Blanking
does not change the text of a statement (`Sql.text_blank`), so queries that are `Alike`, that is
equal once they are blanked, have the same statements as far as the text goes: a value that is bound
cannot get into it.
-/

namespace SqlBuilder

/-- The rewriting that leaves nothing of a value but that it is there. Of a verbatim predicate the
SQL is left. -/
def Rewriting.blank : Rewriting where
  value v := if v.isRaw then v else .null
  fragment sql _ := (sql, [])

/-- Two queries differ in what their bound values are only, at any depth. -/
def Query.Alike (q q' : Query) : Prop :=
  q.rewrite .blank = q'.rewrite .blank

/-- Two lists of rows to insert differ in what their bound values are only. -/
def InsertRows.Alike (v v' : InsertRows) : Prop :=
  Rewriting.blank.insertRows v = Rewriting.blank.insertRows v'

/-- Two rows differ in what their bound values are only. -/
def Row.Alike (row row' : Row Value) : Prop :=
  Rewriting.blank.row row = Rewriting.blank.row row'

theorem Value.placeholder_blank (v : Value) :
    (Rewriting.blank.value v).placeholder = v.placeholder := by
  cases v <;> rfl

namespace Sql

theorem text_blank (s : Sql) : (s.rewrite .blank).text = s.text := by
  have hpiece (p : Piece) : (p.rewrite .blank).sql = p.sql := by
    cases p with
    | text sql => rfl
    | fragment sql values => rfl
    | param v => exact v.placeholder_blank
  simp only [text, rewrite, List.map_map, Function.comp_def, hpiece]

/-- Blanking keeps the text of a statement, and the error where there is none. -/
theorem map_text_blank (x : Except Error Sql) :
    (x.map (rewrite .blank)).map text = x.map text := by
  cases x with
  | error e => rfl
  | ok s => exact congrArg Except.ok s.text_blank

end Sql

variable {t : Target} {q q' : Query} {v v' : InsertRows} {row row' : Row Value}

theorem Query.Alike.table (h : q.Alike q') : q.table = q'.table := by
  have htable := congrArg Query.table h
  rwa [Query.rewrite_eq, Query.rewrite_eq] at htable

theorem Query.Alike.text_select (h : q.Alike q') (t : Target) :
    (q.select t).map Sql.text = (q'.select t).map Sql.text := by
  rw [← Sql.map_text_blank, ← Query.select_rewrite, h, Query.select_rewrite, Sql.map_text_blank]

theorem Query.Alike.text_delete (h : q.Alike q') (t : Target) :
    (q.delete t).map Sql.text = (q'.delete t).map Sql.text := by
  rw [← Sql.map_text_blank, ← Query.delete_rewrite, h, Query.delete_rewrite, Sql.map_text_blank]

theorem Query.Alike.text_update (h : q.Alike q') (hrow : Row.Alike row row') (t : Target) :
    (q.update t row).map Sql.text = (q'.update t row').map Sql.text := by
  rw [← Sql.map_text_blank, ← Query.update_rewrite, h, hrow, Query.update_rewrite,
    Sql.map_text_blank]

theorem InsertRows.Alike.text_insert (h : v.Alike v') (t : Target) (table : String) :
    (t.insert table v).map Sql.text = (t.insert table v').map Sql.text := by
  rw [← Sql.map_text_blank, ← Target.insert_rewrite, h, Target.insert_rewrite, Sql.map_text_blank]

theorem InsertRows.Alike.text_insertReturning (h : v.Alike v') (t : Target)
    (table idColumn : String) :
    (t.insertReturning table v idColumn).map Sql.text =
      (t.insertReturning table v' idColumn).map Sql.text := by
  rw [← Sql.map_text_blank, ← Target.insertReturning_rewrite, h, Target.insertReturning_rewrite,
    Sql.map_text_blank]

/-- The contents of bound values do not reach the text of a statement of any kind, in any dialect,
and neither do they decide whether there is a statement. -/
theorem Query.Alike.text_statements (hq : q.Alike q') (hv : v.Alike v')
    (hrow : Row.Alike row row') (t : Target) (idColumn : String) :
    (q.select t).map Sql.text = (q'.select t).map Sql.text ∧
      (t.insert q.table v).map Sql.text = (t.insert q'.table v').map Sql.text ∧
      (t.insertReturning q.table v idColumn).map Sql.text =
        (t.insertReturning q'.table v' idColumn).map Sql.text ∧
      (q.update t row).map Sql.text = (q'.update t row').map Sql.text ∧
      (q.delete t).map Sql.text = (q'.delete t).map Sql.text := by
  refine ⟨hq.text_select t, ?_, ?_, hq.text_update hrow t, hq.text_delete t⟩
  · rw [hq.table]
    exact hv.text_insert t q'.table
  · rw [hq.table]
    exact hv.text_insertReturning t q'.table idColumn

/-- Users of a name, or with orders above a total, by page. -/
def usersNamed (name total : Value) : Query where
  table := "users as u"
  wheres := [⟨.and, .comparison ⟨"u.name", .like, name⟩⟩,
    ⟨.or, .group [⟨.and, .memberOf false "u.id"
        { table := "orders"
          selects := some [.column "user_id"]
          wheres := [⟨.and, .between false "placed" total (.raw "now()")⟩]
          havings := [⟨.and, ⟨"total", .gt, total⟩⟩] }⟩,
      ⟨.or, .raw "age > ?" [total]⟩]⟩]
  havings := [⟨.and, ⟨"n", .gt, total⟩⟩]
  limit := some 10
  offset := some 20

theorem Query.text_statements_usersNamed :
    (usersNamed (.string "ann") (.int64 3)).Alike (usersNamed (.string "'; --") .null) ∧
      ((usersNamed (.string "ann") (.int64 3)).select ⟨.sqlserver, "app_"⟩).map Sql.text =
        ((usersNamed (.string "'; --") .null).select ⟨.sqlserver, "app_"⟩).map Sql.text := by
  have hq : (usersNamed (.string "ann") (.int64 3)).Alike (usersNamed (.string "'; --") .null) :=
    rfl
  have hv : InsertRows.Alike ⟨["name", "at"], [[.string "ann", .raw "now()"], [.null, .int32 1]]⟩
      ⟨["name", "at"], [[.bytes [39], .raw "now()"], [.string "?", .null]]⟩ := rfl
  have hrow : Row.Alike [("name", .string "ann"), ("n", .raw "n + 1")]
      [("name", .bool true), ("n", .raw "n + 1")] := rfl
  exact ⟨hq, (hq.text_statements hv hrow ⟨.sqlserver, "app_"⟩ "id").1⟩

end SqlBuilder
