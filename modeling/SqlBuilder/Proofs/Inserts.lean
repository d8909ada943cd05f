import Mathlib.Data.List.Forall2
import Mathlib.Data.List.Perm.Subperm
import Mathlib.Data.List.Zip
import SqlBuilder.Proofs.Fields
import SqlBuilder.Proofs.Marks

/-!
# Rows of an INSERT

Rows that are accepted hold the same columns, in any order, and are lined up on those of the first
row: each of them becomes one entry per column, with nothing lost and nothing repeated
(`InsertRows.forall_linesUp`). An INSERT is written of these entries, as a list of VALUES or as a
union of SELECTs, and the marks behind its table stand for the values of the entries, row by row
(`InsertRows.fills_of_ofRows`).
-/

namespace SqlBuilder

/-! ## Lining up -/

/-- The entries of a row under columns are what the row holds, in the order of the columns. -/
structure Row.LinesUp (columns : List String) (row entries : Row Value) : Prop where
  names : entries.map (·.1) = columns
  perm : entries.Perm row

namespace InsertRows

/-- The entries of the rows, each value under its column. -/
def entries (v : InsertRows) : List (Row Value) :=
  v.rows.map v.columns.zip

variable {columns : List String}

/-- Each column takes a pair of its own. -/
theorem subperm_of_align {fields : Fields Value} {values : List Value}
    (h : align columns fields = .ok values) :
    values.length = columns.length ∧ (columns.zip values).Subperm fields := by
  induction columns generalizing fields values with
  | nil =>
    cases h
    exact ⟨rfl, List.nil_subperm⟩
  | cons column columns ih =>
    rw [align] at h
    cases hget : fields.get? column with
    | none =>
      rw [hget] at h
      cases h
    | some v =>
      simp only [hget] at h
      obtain ⟨others, halign, hvalues⟩ := bind_eq_ok.1 h
      cases hvalues
      obtain ⟨hlength, hsub⟩ := ih halign
      refine ⟨congrArg Nat.succ hlength, ?_⟩
      -- the pairs left for the other columns have other keys
      have hfresh : (column, v) ∉ columns.zip others := by
        intro hmem
        have hkey := (List.mem_filter.1 (hsub.subset hmem)).2
        simp at hkey
      have hrest : (columns.zip others).Subperm fields :=
        hsub.trans List.filter_sublist.subperm
      exact List.cons_subperm_of_not_mem_of_mem hfresh (Fields.mem_of_get? hget) hrest

theorem linesUp_of_alignRow {row : Row Value} {values : List Value}
    (h : alignRow columns row = .ok values) :
    values.length = columns.length ∧ Row.LinesUp columns row (columns.zip values) := by
  unfold alignRow at h
  by_cases huneven : row.length ≠ columns.length
  · rw [if_pos huneven] at h
    cases h
  · rw [if_neg huneven] at h
    obtain ⟨hlength, hsub⟩ := subperm_of_align h
    have hentries : (columns.zip values).length = row.length := by
      rw [List.length_zip, hlength]
      omega
    have hle := hsub.length_le
    -- the entries are as many as the pairs of the row, so no pair was lost
    have hperm : (Fields.ofList row).Perm row := by
      rcases Fields.ofList_cases row with hperm | hless
      · exact hperm
      · omega
    have hfields := hperm.length_eq
    have hall : (columns.zip values).Perm (Fields.ofList row) :=
      hsub.perm_of_length_le (by omega)
    exact ⟨hlength, List.map_fst_zip (Nat.le_of_eq hlength.symm), hall.trans hperm⟩

theorem forall_linesUp_of_alignRows {rows : List (Row Value)} {aligned : List (List Value)}
    (h : alignRows columns rows = .ok aligned) :
    (∀ values ∈ aligned, values.length = columns.length) ∧
      List.Forall₂ (Row.LinesUp columns) rows (aligned.map columns.zip) := by
  induction rows generalizing aligned with
  | nil =>
    cases h
    exact ⟨fun _ hmem => absurd hmem List.not_mem_nil, .nil⟩
  | cons row rows ih =>
    obtain ⟨values, hrow, h⟩ := bind_eq_ok.1 h
    obtain ⟨rest, hrows, h⟩ := bind_eq_ok.1 h
    cases h
    obtain ⟨hlength, hlined⟩ := linesUp_of_alignRow hrow
    obtain ⟨hlengths, hall⟩ := ih hrows
    exact ⟨List.forall_mem_cons.2 ⟨hlength, hlengths⟩, .cons hlined hall⟩

theorem ofRows_cons {first : Row Value} (h : first ≠ []) (rest : List (Row Value)) :
    ofRows (first :: rest) = (alignRows (first.map (·.1)) rest).map fun aligned =>
      ⟨first.map (·.1), first.map (·.2) :: aligned⟩ := by
  cases first with
  | nil => exact absurd rfl h
  | cons pair pairs =>
    simp only [ofRows]
    cases alignRows ((pair :: pairs).map (·.1)) rest <;> rfl

variable {rows : List (Row Value)} {v : InsertRows}

/-- The first of the rows that are accepted has columns. -/
theorem exists_first_of_ofRows (h : ofRows rows = .ok v) :
    ∃ first rest, rows = first :: rest ∧ first ≠ [] := by
  cases rows with
  | nil => cases h
  | cons first rest =>
    cases first with
    | nil => cases h
    | cons pair pairs => exact ⟨_, _, rfl, List.cons_ne_nil pair pairs⟩

/-- Rows that are accepted have an entry for every column and nothing else. -/
theorem forall_linesUp (h : ofRows rows = .ok v) :
    v.columns ≠ [] ∧ v.rows ≠ [] ∧ (∀ values ∈ v.rows, values.length = v.columns.length) ∧
      List.Forall₂ (Row.LinesUp v.columns) rows v.entries := by
  obtain ⟨first, rest, rfl, hfirst⟩ := exists_first_of_ofRows h
  rw [ofRows_cons hfirst] at h
  cases hrest : alignRows (first.map (·.1)) rest with
  | error e =>
    rw [hrest] at h
    cases h
  | ok aligned =>
    rw [hrest] at h
    cases h
    obtain ⟨hlengths, hlined⟩ := forall_linesUp_of_alignRows hrest
    have hzip : (first.map (·.1)).zip (first.map (·.2)) = first := by
      rw [List.zip_map', List.map_id']
    have hentries : Row.LinesUp (first.map (·.1)) first
        ((first.map (·.1)).zip (first.map (·.2))) := by
      rw [hzip]
      exact ⟨rfl, List.Perm.refl first⟩
    refine ⟨?_, List.cons_ne_nil _ _, ?_, .cons hentries hlined⟩
    · exact fun hnil => hfirst (List.map_eq_nil_iff.1 hnil)
    · exact List.forall_mem_cons.2 ⟨by simp, hlengths⟩

section

variable (ρ : Rewriting)

theorem align_rewrite (columns : List String) (fields : Fields Value) :
    align columns (fields.map fun (k, v) => (k, ρ.value v)) =
      (align columns fields).map (List.map ρ.value) := by
  induction columns generalizing fields with
  | nil => rfl
  | cons column columns ih =>
    simp only [align, Fields.get?_map, Fields.erase_map, ih]
    cases fields.get? column with
    | none => rfl
    | some v => cases align columns (fields.erase column) <;> rfl

theorem alignRow_rewrite (columns : List String) (row : Row Value) :
    alignRow columns (ρ.row row) = (alignRow columns row).map (List.map ρ.value) := by
  have hlength : (ρ.row row).length = row.length := List.length_map _
  unfold alignRow
  rw [hlength]
  by_cases huneven : row.length ≠ columns.length
  · rw [if_pos huneven, if_pos huneven]
    rfl
  · rw [if_neg huneven, if_neg huneven, Rewriting.row, Fields.ofList_map, align_rewrite]

theorem alignRows_rewrite (columns : List String) (rows : List (Row Value)) :
    alignRows columns (rows.map ρ.row) =
      (alignRows columns rows).map (List.map (List.map ρ.value)) := by
  induction rows with
  | nil => rfl
  | cons row rows ih =>
    simp only [List.map_cons, alignRows, alignRow_rewrite, ih]
    cases alignRow columns row with
    | error e => rfl
    | ok values => cases alignRows columns rows <;> rfl

/-- Rows with other values are lined up in the same way. -/
theorem ofRows_rewrite (rows : List (Row Value)) :
    ofRows (rows.map ρ.row) = (ofRows rows).map ρ.insertRows := by
  cases rows with
  | nil => rfl
  | cons first rest =>
    cases first with
    | nil => rfl
    | cons pair pairs =>
      have hcolumns : (ρ.row (pair :: pairs)).map (·.1) = (pair :: pairs).map (·.1) := by
        simp [Rewriting.row]
      have hvalues : (ρ.row (pair :: pairs)).map (·.2) =
          ((pair :: pairs).map (·.2)).map ρ.value := by
        simp [Rewriting.row]
      have hrow : ρ.row (pair :: pairs) ≠ [] := List.cons_ne_nil _ _
      rw [List.map_cons, ofRows_cons hrow, ofRows_cons (List.cons_ne_nil pair pairs), hcolumns,
        hvalues, alignRows_rewrite]
      cases alignRows ((pair :: pairs).map (·.1)) rest <;> rfl

end

/-- The values of the entries are those of the rows. -/
theorem values_entries (h : ∀ values ∈ v.rows, values.length = v.columns.length) :
    v.entries.map (List.map (·.2)) = v.rows := by
  rw [entries, List.map_map]
  refine (List.map_congr_left fun values hmem => ?_).trans (List.map_id v.rows)
  exact List.map_snd_zip (Nat.le_of_eq (h values hmem))

/-- Whatever rows are made of, their entries are. -/
theorem row_of_mem_entries {V : Vocabulary} (h : ofRows rows = .ok v)
    (hrows : ∀ row ∈ rows, V.row row) : ∀ entries ∈ v.entries, V.row entries := by
  obtain ⟨-, -, -, hlined⟩ := forall_linesUp h
  clear h
  generalize v.entries = lined at hlined ⊢
  induction hlined with
  | nil => exact List.forall_mem_nil _
  | cons hrow _ ih =>
    rw [List.forall_mem_cons] at hrows ⊢
    exact ⟨fun x hx => hrows.1 x (hrow.perm.subset hx), ih hrows.2⟩

end InsertRows

/-! ## Statements -/

theorem Value.bound_flatten (values : List (List Value)) :
    bound values.flatten = values.flatMap bound := by
  induction values with
  | nil => rfl
  | cons vs values ih => rw [List.flatten_cons, bound_append, ih, List.flatMap_cons]

namespace Target

variable (t : Target)

/-- The entries of a row in a list of VALUES. -/
def valuesRow (entries : Row Value) : Sql :=
  Sql.lit "(" ++ Sql.joined ", " (entries.map fun (_, v) => [.param v]) ++ Sql.lit ")"

/-- The entries of a row as a SELECT without a table. -/
def selectRow (entries : Row Value) : Sql :=
  Sql.lit "SELECT " ++ Sql.joined ", " (entries.map fun (column, v) =>
    [.param v] ++ Sql.lit (" AS " ++ t.naming.reference column))

/-- What stands behind the table and the columns of an INSERT. -/
def insertBody (rows : List (Row Value)) : Sql :=
  if t.dialect = .sqlite && 2 ≤ rows.length then
    Sql.joined " UNION ALL " (rows.map t.selectRow)
  else Sql.lit "VALUES " ++ Sql.joined ", " (rows.map valuesRow)

/-- What stands behind an INSERT that answers the generated key. -/
def returning (idColumn : String) : Sql :=
  if t.dialect.returnsKey then Sql.lit (" RETURNING " ++ t.naming.reference idColumn) else []

theorem rowSelect_eq (columns : List String) (values : List Value) :
    t.rowSelect columns values = t.selectRow (columns.zip values) := by
  rw [rowSelect, selectRow, ← List.zip_swap columns values, List.map_map]
  rfl

theorem valuesRow_zip {columns : List String} {values : List Value}
    (h : values.length = columns.length) :
    valuesRow (columns.zip values) = Sql.lit "(" ++ Sql.params values ++ Sql.lit ")" := by
  have hvalues : (columns.zip values).map (·.2) = values :=
    List.map_snd_zip (Nat.le_of_eq h)
  have hmap : (columns.zip values).map (fun (_, v) => ([.param v] : Sql)) =
      values.map fun v => [.param v] := by
    conv_rhs => rw [← hvalues, List.map_map]
    rfl
  rw [valuesRow, hmap, Sql.params]

variable {rows : List (Row Value)} {v : InsertRows}

/-- An INSERT of rows that are accepted is written of their entries. -/
theorem insert_eq (h : InsertRows.ofRows rows = .ok v) (table : String) :
    t.insert table v = .ok (t.insertHead table v.columns ++ t.insertBody v.entries) := by
  obtain ⟨hcolumns, hrows, hlengths, -⟩ := InsertRows.forall_linesUp h
  have hlength : v.entries.length = v.rows.length := List.length_map _
  have hselects : v.entries.map t.selectRow = v.rows.map (t.rowSelect v.columns) := by
    rw [InsertRows.entries, List.map_map]
    exact List.map_congr_left fun values _ => (t.rowSelect_eq v.columns values).symm
  have hvalues : v.entries.map valuesRow =
      v.rows.map fun row => Sql.lit "(" ++ Sql.params row ++ Sql.lit ")" := by
    rw [InsertRows.entries, List.map_map]
    exact List.map_congr_left fun values hmem => valuesRow_zip (hlengths values hmem)
  unfold insert insertBody
  rw [hlength, hselects, hvalues]
  split
  · rfl
  · have hempty : (v.columns.isEmpty || v.rows.isEmpty) = false := by
      simp [hcolumns, hrows]
    rw [hempty, List.append_assoc]
    rfl

theorem insertReturning_eq (h : InsertRows.ofRows rows = .ok v) (table idColumn : String) :
    t.insertReturning table v idColumn =
      .ok (t.insertHead table v.columns ++ t.insertBody v.entries ++ t.returning idColumn) := by
  rw [insertReturning, t.insert_eq h, returning]
  simp only [bind, Except.bind]
  split
  · rfl
  · rw [List.append_nil]

theorem bindings_valuesRow (entries : Row Value) :
    (valuesRow entries).bindings = Value.bound (entries.map (·.2)) := by
  simp only [valuesRow, Sql.bindings_append, Sql.bindings_lit, Sql.bindings_joined,
    List.flatMap_map, Sql.bindings_param, Value.flatMap_bound, List.nil_append, List.append_nil]

theorem bindings_selectRow (entries : Row Value) :
    (t.selectRow entries).bindings = Value.bound (entries.map (·.2)) := by
  simp only [selectRow, Sql.bindings_append, Sql.bindings_lit, Sql.bindings_joined,
    List.flatMap_map, Sql.bindings_param, Value.flatMap_bound, List.nil_append, List.append_nil]

/-- Both forms bind the values of the entries row by row. -/
theorem bindings_insertBody (rows : List (Row Value)) :
    (t.insertBody rows).bindings = Value.bound (rows.map (List.map (·.2))).flatten := by
  have hflatten : Value.bound (rows.map (List.map (·.2))).flatten =
      rows.flatMap fun entries => Value.bound (entries.map (·.2)) := by
    rw [Value.bound_flatten, List.flatMap_map]
  unfold insertBody
  split
  · simp only [Sql.bindings_joined, List.flatMap_map, bindings_selectRow, hflatten]
  · simp only [Sql.bindings_append, Sql.bindings_lit, Sql.bindings_joined, List.flatMap_map,
      bindings_valuesRow, hflatten, List.nil_append]

section

variable {V : Vocabulary} {t : Target} {P : Piece → Prop} (h : V.Fits t P)

include h in
theorem forall_mem_param {v : Value} (hv : V.value v) : ∀ p ∈ ([.param v] : Sql), P p := by
  intro p hp
  exact List.mem_singleton.1 hp ▸ h.value hv

include h in
theorem forall_mem_valuesRow {entries : Row Value} (hrow : V.row entries) :
    ∀ p ∈ valuesRow entries, P p := by
  refine Sql.forall_mem_append (Sql.forall_mem_append (Sql.forall_mem_lit (h.plain (by decide)))
    (Sql.forall_mem_joined (h.plain (by decide)) ?_)) (Sql.forall_mem_lit (h.plain (by decide)))
  intro s hs
  obtain ⟨⟨column, v⟩, hmem, rfl⟩ := List.mem_map.1 hs
  exact forall_mem_param h (hrow _ hmem).2

include h in
theorem forall_mem_selectRow {entries : Row Value} (hrow : V.row entries) :
    ∀ p ∈ t.selectRow entries, P p := by
  refine Sql.forall_mem_append (Sql.forall_mem_lit (h.plain (by decide)))
    (Sql.forall_mem_joined (h.plain (by decide)) ?_)
  intro s hs
  obtain ⟨⟨column, v⟩, hmem, rfl⟩ := List.mem_map.1 hs
  obtain ⟨hcolumn, hvalue⟩ := hrow _ hmem
  exact Sql.forall_mem_append (forall_mem_param h hvalue)
    (Sql.forall_mem_lit (h.append (h.plain (by decide)) (h.column hcolumn)))

include h in
theorem forall_mem_insertBody (hrows : ∀ row ∈ rows, V.row row) :
    ∀ p ∈ t.insertBody rows, P p := by
  unfold insertBody
  split
  · refine Sql.forall_mem_joined (h.plain (by decide)) fun s hs => ?_
    obtain ⟨row, hrow, rfl⟩ := List.mem_map.1 hs
    exact forall_mem_selectRow h (hrows row hrow)
  · refine Sql.forall_mem_append (Sql.forall_mem_lit (h.plain (by decide)))
      (Sql.forall_mem_joined (h.plain (by decide)) fun s hs => ?_)
    obtain ⟨row, hrow, rfl⟩ := List.mem_map.1 hs
    exact forall_mem_valuesRow h (hrows row hrow)

include h in
theorem forall_mem_returning {idColumn : String} (hid : V.column idColumn) :
    ∀ p ∈ t.returning idColumn, P p := by
  unfold returning
  split
  · exact Sql.forall_mem_lit (h.append (h.plain (by decide)) (h.column hid))
  · exact fun p hp => absurd hp List.not_mem_nil

end

theorem bindings_returning (t : Target) (idColumn : String) :
    (t.returning idColumn).bindings = [] := by
  unfold returning
  split
  · exact Sql.bindings_lit _
  · rfl

theorem isText_insertHead (t : Target) (table : String) (columns : List String) :
    ∀ p ∈ t.insertHead table columns, p.IsText :=
  Sql.forall_mem_lit ⟨_, rfl⟩

/-- Only the table gives the head of an INSERT marks. -/
theorem marks_insertHead {t : Target} (hfree : MarkFree t.tablePrefix) (table : String)
    {columns : List String} (hcolumns : ∀ c ∈ columns, MarkFree c) :
    marks (t.insertHead table columns).text = marks (t.naming.table table) := by
  have fits := Vocabulary.marked_fits hfree
  have hreferences : marks (t.naming.references columns) = 0 :=
    marks_eq_zero.2 (Piece.marked_text.1 (text_references fits hcolumns))
  have plain (s : String) (hs : s.toList.all isPlain = true) : marks s = 0 :=
    marks_eq_zero.2 (markFree_of_isPlain hs)
  simp only [insertHead, Sql.text_lit, marks_append, hreferences, plain "INSERT INTO " (by decide),
    plain " (" (by decide), plain ") " (by decide), Nat.zero_add, Nat.add_zero]

end Target

namespace InsertRows

variable {rows : List (Row Value)} {v : InsertRows}

theorem bindings_insertBody (h : ofRows rows = .ok v) (t : Target) :
    (t.insertBody v.entries).bindings = v.bindings := by
  obtain ⟨-, -, hlengths, -⟩ := forall_linesUp h
  rw [t.bindings_insertBody, values_entries hlengths, bindings]

theorem columns_of_ofRows {V : Vocabulary} (h : ofRows rows = .ok v)
    (hrows : ∀ row ∈ rows, V.row row) : ∀ c ∈ v.columns, V.column c := by
  obtain ⟨-, -, -, hlined⟩ := forall_linesUp h
  obtain ⟨first, rest, rfl, -⟩ := exists_first_of_ofRows h
  intro c hc
  generalize v.entries = lined at hlined
  cases hlined with
  | cons hfirst _ =>
    rw [← hfirst.names] at hc
    obtain ⟨x, hx, rfl⟩ := List.mem_map.1 hc
    exact (hrows first List.mem_cons_self x (hfirst.perm.subset hx)).1

/-- Rows that are accepted have an INSERT of one entry per column and row, in the order of the
columns, and the marks behind its table stand for the values bound, in their order. -/
theorem fills_of_ofRows (h : ofRows rows = .ok v) (hrows : ∀ row ∈ rows, Vocabulary.marked.row row)
    {t : Target} (hfree : MarkFree t.tablePrefix) {idColumn : String} (hid : MarkFree idColumn)
    (table : String) :
    List.Forall₂ (Row.LinesUp v.columns) rows v.entries ∧
      ∃ sql, sql = t.insertHead table v.columns ++ t.insertBody v.entries ∧
        t.insert table v = .ok sql ∧
        t.insertReturning table v idColumn = .ok (sql ++ t.returning idColumn) ∧
        ∀ lit, ∃ w inlined inlinedReturning,
          ofRows (rows.map (Rewriting.inlining lit).row) = .ok w ∧
          t.insert table w = .ok inlined ∧
          t.insertReturning table w idColumn = .ok inlinedReturning ∧
          Sql.Fills lit (marks (t.naming.table table)) v.bindings sql inlined ∧
          Sql.Fills lit (marks (t.naming.table table)) v.bindings (sql ++ t.returning idColumn)
            inlinedReturning := by
  obtain ⟨-, -, -, hlined⟩ := forall_linesUp h
  have fits := Vocabulary.marked_fits hfree
  have hhead := t.isText_insertHead table v.columns
  have hbody : ∀ p ∈ t.insertBody v.entries, p.Marked :=
    Target.forall_mem_insertBody fits (row_of_mem_entries h hrows)
  have hreturning : ∀ p ∈ t.returning idColumn, p.Marked :=
    Target.forall_mem_returning fits hid
  have hmarks := Target.marks_insertHead hfree table (columns_of_ofRows h hrows)
  have hbindings := bindings_insertBody h t
  have hinsert := t.insert_eq h table
  have hinsertReturning := t.insertReturning_eq h table idColumn
  refine ⟨hlined, _, rfl, hinsert, hinsertReturning, fun lit => ?_⟩
  let ρ := Rewriting.inlining lit
  let sql := t.insertHead table v.columns ++ t.insertBody v.entries
  refine ⟨ρ.insertRows v, sql.rewrite ρ, (sql ++ t.returning idColumn).rewrite ρ,
    ?_, ?_, ?_, ?_, ?_⟩
  · rw [ofRows_rewrite, h]
    rfl
  · rw [Target.insert_rewrite, hinsert]
    rfl
  · rw [Target.insertReturning_rewrite, hinsertReturning]
    rfl
  · have hfills := Sql.fills_append hhead hbody lit
    rwa [hmarks, hbindings] at hfills
  · have hfills := Sql.fills_append hhead (Sql.forall_mem_append hbody hreturning) lit
    rwa [hmarks, Sql.bindings_append, hbindings, t.bindings_returning, List.append_nil,
      ← List.append_assoc] at hfills

/-- Rows of which the second has its columns in another order. -/
def logged : List (Row Value) :=
  [[("note", .string "why?"), ("at", .raw "now()"), ("n", .null)],
    [("n", .int32 7), ("note", .raw "upper('x')"), ("at", .string "today")]]

theorem fills_of_ofRows_logged : ∃ v sql, ofRows logged = .ok v ∧
    v.bindings = [.string "why?", .null, .string "today", .int32 7] ∧
    Target.insert ⟨.sqlite, "app_"⟩ "logs?" v = .ok sql ∧
    sql.text = "INSERT INTO \"app_logs?\" (\"note\", \"at\", \"n\") "
      ++ "SELECT ? AS \"note\", now() AS \"at\", ? AS \"n\" UNION ALL "
      ++ "SELECT upper('x') AS \"note\", ? AS \"at\", ? AS \"n\"" ∧
    ∀ lit, ∃ w inlined, ofRows (logged.map (Rewriting.inlining lit).row) = .ok w ∧
      Target.insert ⟨.sqlite, "app_"⟩ "logs?" w = .ok inlined ∧
      Sql.Fills lit 1 v.bindings sql inlined := by
  have hmarked : ∀ row ∈ logged, Vocabulary.marked.row row := by
    simp only [logged, Vocabulary.row, Vocabulary.marked]
    decide
  refine ⟨_, _, rfl, rfl, rfl, by decide +kernel, fun lit => ?_⟩
  obtain ⟨-, sql, -, hinsert, -, hfills⟩ := fills_of_ofRows (t := ⟨.sqlite, "app_"⟩)
    (show ofRows logged = .ok _ from rfl) hmarked (by decide) (show MarkFree "id" by decide) "logs?"
  cases hinsert
  obtain ⟨w, inlined, -, hw, hinlined, -, hlit, -⟩ := hfills lit
  exact ⟨w, inlined, hw, hinlined, hlit⟩

/-- A mark in the name of the table does not stand for a value. -/
theorem not_marks_insert_eq : ¬ ∀ (t : Target) (table : String) (rows : List (Row Value))
    (v : InsertRows) (sql : Sql), ofRows rows = .ok v →
    (∀ row ∈ rows, Vocabulary.marked.row row) → MarkFree t.tablePrefix →
    t.insert table v = .ok sql → marks sql.text = v.bindings.length := by
  intro h
  have hmarked : ∀ row ∈ ([[("a", .int64 1)]] : List (Row Value)), Vocabulary.marked.row row := by
    simp [Vocabulary.row, Vocabulary.marked, MarkFree, Value.raw?]
  have hmarks := h ⟨.mysql, ""⟩ "logs?" [[("a", .int64 1)]] _ _ rfl hmarked (by decide) rfl
  exact absurd hmarks (by decide)

end InsertRows

end SqlBuilder
