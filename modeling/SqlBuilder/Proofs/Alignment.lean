import Mathlib.Data.List.Perm.Basic
import SqlBuilder.Proofs.Inserts

/-!
# Which rows line up

Rows are accepted for an INSERT if the first one is not empty and, where there are others, its names
differ and each other row holds just these names, in any order (`InsertRows.Agree`). They then stand
under the names of the first row as each row pairs them, and what is refused is refused as having no
meaning (`InsertRows.ofRows_iff`). Neither depends on the order of the pairs in a further row: a row
is lined up with the values of its names (`InsertRows.alignRow_eq_ok_iff`), and the names alone show
why it cannot be (`InsertRows.align_eq_error_of_isSome`).
-/

namespace SqlBuilder

/-- The values that a row pairs with columns, in the order of the columns. -/
structure Row.Gives (columns : List String) (row : Row Value) (values : List Value) : Prop where
  length : values.length = columns.length
  entry : ∀ (j : Nat) (column : String) (value : Value), columns[j]? = some column →
    (values[j]? = some value ↔ (column, value) ∈ row)

namespace InsertRows

variable {columns : List String} {row row' : Row Value} {values : List Value}

/-! ## One row -/

/-- A column that stands twice finds no second value. -/
theorem nodup_of_align {fields : Fields Value} (h : align columns fields = .ok values) :
    columns.Nodup := by
  induction columns generalizing fields values with
  | nil => exact List.nodup_nil
  | cons column columns ih =>
    rw [align] at h
    cases hget : fields.get? column with
    | none =>
      rw [hget] at h
      cases h
    | some v =>
      simp only [hget] at h
      obtain ⟨others, halign, -⟩ := bind_eq_ok.1 h
      obtain ⟨hlength, hsub⟩ := subperm_of_align halign
      refine List.nodup_cons.2 ⟨fun hmem => ?_, ih halign⟩
      -- the pairs left for the other columns have other keys
      have hnames : (columns.zip others).map (·.1) = columns :=
        List.map_fst_zip (Nat.le_of_eq hlength.symm)
      rw [← hnames] at hmem
      obtain ⟨pair, hpair, rfl⟩ := List.mem_map.1 hmem
      simpa using (List.mem_filter.1 (hsub.subset hpair)).2

theorem align_of_get? {fields : Fields Value} (hcolumns : columns.Nodup)
    (hlength : values.length = columns.length)
    (hget : ∀ pair ∈ columns.zip values, fields.get? pair.1 = some pair.2) :
    align columns fields = .ok values := by
  induction columns generalizing fields values with
  | nil =>
    rw [List.eq_nil_of_length_eq_zero hlength]
    rfl
  | cons column columns ih =>
    cases values with
    | nil => cases hlength
    | cons v values =>
      obtain ⟨hfresh, hrest⟩ := List.nodup_cons.1 hcolumns
      obtain ⟨hv, hothers⟩ := List.forall_mem_cons.1 hget
      have halign : align columns (fields.erase column) = .ok values := by
        refine ih hrest (Nat.succ.inj hlength) fun pair hpair => ?_
        have hother : pair.1 ≠ column := by
          rintro rfl
          exact hfresh (List.of_mem_zip hpair).1
        rw [Fields.get?_erase, if_neg hother, hothers pair hpair]
      rw [align]
      simp only [hv, halign]
      rfl

/-- A row is lined up with columns that differ if it holds just these columns, and then its values
come in their order. -/
theorem alignRow_eq_ok_iff : alignRow columns row = .ok values ↔
    columns.Nodup ∧ values.length = columns.length ∧ (columns.zip values).Perm row := by
  constructor
  · intro h
    obtain ⟨hlength, -, hperm⟩ := linesUp_of_alignRow h
    unfold alignRow at h
    split at h
    · cases h
    · exact ⟨nodup_of_align h, hlength, hperm⟩
  · rintro ⟨hcolumns, hlength, hperm⟩
    have hnames : (row.map (·.1)).Nodup := by
      rw [← (hperm.map _).nodup_iff, List.map_fst_zip (Nat.le_of_eq hlength.symm)]
      exact hcolumns
    have heven : ¬ row.length ≠ columns.length := by
      have hrow := hperm.length_eq
      rw [List.length_zip] at hrow
      omega
    rw [alignRow, if_neg heven]
    refine align_of_get? hcolumns hlength fun pair hpair => ?_
    exact (Fields.get?_ofList_eq_some_iff hnames).2 (hperm.subset hpair)

/-- Whether and why a row is refused shows in its names alone. -/
theorem align_eq_error_of_isSome {fields fields' : Fields Value} {e : Error}
    (hkeys : ∀ key, (fields.get? key).isSome = (fields'.get? key).isSome)
    (h : align columns fields = .error e) : align columns fields' = .error e := by
  induction columns generalizing fields fields' with
  | nil => cases h
  | cons column columns ih =>
    have hcolumn := hkeys column
    rw [align] at h ⊢
    cases hget : fields.get? column with
    | none =>
      rw [hget, Option.isSome_none] at hcolumn
      rw [hget] at h
      have hnone : fields'.get? column = none :=
        Option.not_isSome_iff_eq_none.1 (by simp [← hcolumn])
      rw [hnone]
      exact h
    | some v =>
      rw [hget, Option.isSome_some] at hcolumn
      obtain ⟨w, hw⟩ := Option.isSome_iff_exists.1 hcolumn.symm
      simp only [hget] at h
      have hrest : align columns (fields.erase column) = .error e := by
        rcases bind_eq_error.1 h with hrest | ⟨values, -, hvalues⟩
        · exact hrest
        · cases hvalues
      have herase : ∀ key, ((fields.erase column).get? key).isSome =
          ((fields'.erase column).get? key).isSome := by
        intro key
        rw [Fields.get?_erase, Fields.get?_erase]
        split
        · rfl
        · exact hkeys key
      simp only [hw]
      exact bind_eq_error.2 (Or.inl (ih herase hrest))

theorem alignRow_of_perm (h : row.Perm row') : alignRow columns row = alignRow columns row' := by
  have hok : ∀ values, alignRow columns row = .ok values ↔ alignRow columns row' = .ok values := by
    intro values
    rw [alignRow_eq_ok_iff, alignRow_eq_ok_iff]
    exact and_congr_right fun _ => and_congr_right fun _ =>
      ⟨fun hperm => hperm.trans h, fun hperm => hperm.trans h.symm⟩
  cases halign : alignRow columns row with
  | ok values => exact ((hok values).1 halign).symm
  | error e =>
    unfold alignRow at halign ⊢
    rw [← h.length_eq]
    by_cases huneven : row.length ≠ columns.length
    · rw [if_pos huneven] at halign ⊢
      exact halign.symm
    · rw [if_neg huneven] at halign ⊢
      exact (align_eq_error_of_isSome (Fields.isSome_get?_ofList_of_perm h) halign).symm

theorem exists_alignRow_iff : (∃ values, alignRow columns row = .ok values) ↔
    columns.Nodup ∧ (row.map (·.1)).Perm columns := by
  constructor
  · rintro ⟨values, h⟩
    obtain ⟨hcolumns, hlength, hperm⟩ := alignRow_eq_ok_iff.1 h
    refine ⟨hcolumns, ?_⟩
    have hnames := hperm.map (·.1)
    rw [List.map_fst_zip (Nat.le_of_eq hlength.symm)] at hnames
    exact hnames.symm
  · rintro ⟨hcolumns, hperm⟩
    -- the names are brought into the order of the columns, and the values with them
    have hrow : List.Forall₂ (fun column (pair : String × Value) => column = pair.1)
        (row.map (·.1)) row := List.forall₂_map_left_iff.2 (List.forall₂_same.2 fun _ _ => rfl)
    obtain ⟨entries, hentries, hentriesPerm⟩ := List.perm_comp_forall₂ hperm.symm hrow
    have hnames : columns = entries.map (·.1) := by
      rw [← List.forall₂_eq_eq_eq, List.forall₂_map_right_iff]
      exact hentries
    refine ⟨entries.map (·.2), alignRow_eq_ok_iff.2 ⟨hcolumns, ?_, ?_⟩⟩
    · rw [hnames, List.length_map, List.length_map]
    · rw [hnames, List.zip_map', List.map_id']
      exact hentriesPerm

theorem gives_of_alignRow (h : alignRow columns row = .ok values) :
    Row.Gives columns row values := by
  obtain ⟨hcolumns, hlength, hperm⟩ := alignRow_eq_ok_iff.1 h
  refine ⟨hlength, fun j column value hj => ?_⟩
  rw [← hperm.mem_iff]
  constructor
  · intro hvalue
    exact List.mem_iff_getElem?.2 ⟨j, List.getElem?_zip_eq_some.2 ⟨hj, hvalue⟩⟩
  · intro hmem
    obtain ⟨i, hi⟩ := List.mem_iff_getElem?.1 hmem
    obtain ⟨hcolumn, hvalue⟩ := List.getElem?_zip_eq_some.1 hi
    -- the columns differ, so the place is the same
    obtain ⟨hbound, -⟩ := List.getElem?_eq_some_iff.1 hj
    rwa [(List.getElem?_inj hbound hcolumns).1 (hj.trans hcolumn.symm)]

theorem invalid_of_align {fields : Fields Value} {e : Error} (h : align columns fields = .error e) :
    ∃ fault, e = .invalidQuery fault := by
  induction columns generalizing fields with
  | nil => cases h
  | cons column columns ih =>
    rw [align] at h
    cases hget : fields.get? column with
    | none =>
      rw [hget] at h
      exact ⟨_, (Except.error.inj h).symm⟩
    | some v =>
      simp only [hget] at h
      rcases bind_eq_error.1 h with hrest | ⟨values, -, hvalues⟩
      · exact ih hrest
      · cases hvalues

theorem invalid_of_alignRow {e : Error} (h : alignRow columns row = .error e) :
    ∃ fault, e = .invalidQuery fault := by
  unfold alignRow at h
  split at h
  · exact ⟨_, (Except.error.inj h).symm⟩
  · exact invalid_of_align h

/-! ## Several rows -/

variable {rows rows' : List (Row Value)}

theorem alignRows_eq_mapM : alignRows columns rows = rows.mapM (alignRow columns) := by
  induction rows with
  | nil => rfl
  | cons row rows ih =>
    rw [alignRows, List.mapM_cons, ih]
    rfl

theorem alignRows_eq_ok_iff {aligned : List (List Value)} :
    alignRows columns rows = .ok aligned ↔
      List.Forall₂ (fun row values => alignRow columns row = .ok values) rows aligned := by
  rw [alignRows_eq_mapM, mapM_eq_ok_iff, ← List.forall₂_eq_eq_eq, List.forall₂_map_left_iff,
    List.forall₂_map_right_iff]

theorem exists_alignRows_iff : (∃ aligned, alignRows columns rows = .ok aligned) ↔
    ∀ row ∈ rows, ∃ values, alignRow columns row = .ok values := by
  rw [alignRows_eq_mapM]
  exact exists_mapM_iff

theorem alignRows_of_perm (h : List.Forall₂ List.Perm rows rows') :
    alignRows columns rows = alignRows columns rows' := by
  induction h with
  | nil => rfl
  | cons hrow _ ih => rw [alignRows, alignRows, alignRow_of_perm hrow, ih]

theorem invalid_of_alignRows {e : Error} (h : alignRows columns rows = .error e) :
    ∃ fault, e = .invalidQuery fault := by
  induction rows with
  | nil => cases h
  | cons row rows ih =>
    rw [alignRows] at h
    rcases bind_eq_error.1 h with hrow | ⟨values, -, h⟩
    · exact invalid_of_alignRow hrow
    · rcases bind_eq_error.1 h with hrest | ⟨aligned, -, haligned⟩
      · exact ih hrest
      · cases haligned

/-! ## Rows behind a first one -/

/-- The first row is not empty, and other rows hold the same names, which then differ. -/
def Agree : List (Row Value) → Prop
  | [] => False
  | first :: rest => first ≠ [] ∧
    (rest ≠ [] → (first.map (·.1)).Nodup ∧ ∀ row ∈ rest, (row.map (·.1)).Perm (first.map (·.1)))

/-- What rows behind a first one become. -/
theorem ofRows_cons_eq_ok_iff {first : Row Value} {rest : List (Row Value)} {v : InsertRows} :
    ofRows (first :: rest) = .ok v ↔ first ≠ [] ∧ ∃ aligned,
      alignRows (first.map (·.1)) rest = .ok aligned ∧
        v = ⟨first.map (·.1), first.map (·.2) :: aligned⟩ := by
  by_cases hfirst : first = []
  · rw [hfirst]
    exact iff_of_false (fun h => (nomatch h)) fun h => h.1 rfl
  · rw [ofRows_cons hfirst, and_iff_right hfirst]
    cases alignRows (first.map (·.1)) rest with
    | error e => exact iff_of_false (fun h => (nomatch h)) fun ⟨_, h, _⟩ => (nomatch h)
    | ok aligned =>
      constructor
      · exact fun h => ⟨aligned, rfl, (Except.ok.inj h).symm⟩
      · rintro ⟨_, h, rfl⟩
        rw [Except.ok.inj h]
        rfl

theorem exists_ofRows_iff : (∃ v, ofRows rows = .ok v) ↔ Agree rows := by
  cases rows with
  | nil => exact iff_of_false (fun ⟨_, h⟩ => (nomatch h)) id
  | cons first rest =>
    have haligned : (∃ aligned, alignRows (first.map (·.1)) rest = .ok aligned) ↔
        (rest ≠ [] → (first.map (·.1)).Nodup ∧
          ∀ row ∈ rest, (row.map (·.1)).Perm (first.map (·.1))) := by
      simp only [exists_alignRows_iff, exists_alignRow_iff]
      constructor
      · intro h hrest
        obtain ⟨row, hrow⟩ := List.exists_mem_of_ne_nil rest hrest
        exact ⟨(h row hrow).1, fun row hrow => (h row hrow).2⟩
      · intro h row hrow
        obtain ⟨hnames, hperm⟩ := h (List.ne_nil_of_mem hrow)
        exact ⟨hnames, hperm row hrow⟩
    simp only [ofRows_cons_eq_ok_iff]
    rw [Agree, ← haligned]
    constructor
    · rintro ⟨_, hfirst, aligned, h, -⟩
      exact ⟨hfirst, aligned, h⟩
    · rintro ⟨hfirst, aligned, h⟩
      exact ⟨_, hfirst, aligned, h, rfl⟩

theorem invalid_of_ofRows {e : Error} (h : ofRows rows = .error e) :
    ∃ fault, e = .invalidQuery fault := by
  cases rows with
  | nil => exact ⟨_, (Except.error.inj h).symm⟩
  | cons first rest =>
    cases first with
    | nil => exact ⟨_, (Except.error.inj h).symm⟩
    | cons pair pairs =>
      rcases bind_eq_error.1 h with hrest | ⟨aligned, -, haligned⟩
      · exact invalid_of_alignRows hrest
      · cases haligned

theorem ofRows_of_perm {first : Row Value} {rest rest' : List (Row Value)}
    (h : List.Forall₂ List.Perm rest rest') : ofRows (first :: rest') = ofRows (first :: rest) := by
  by_cases hfirst : first = []
  · rw [hfirst]
    rfl
  · rw [ofRows_cons hfirst, ofRows_cons hfirst, alignRows_of_perm h]

/-- Rows are accepted exactly if they agree. The names of the first one are the columns then, its
values the first row, and each further row gives what it pairs with the columns, whatever the order
of its pairs. Rows that do not agree have no meaning. -/
theorem ofRows_iff (rows : List (Row Value)) :
    ((∃ v, ofRows rows = .ok v) ↔ Agree rows) ∧
      (∀ v, ofRows rows = .ok v → v.rows.length = rows.length ∧ ∃ first rest further,
        rows = first :: rest ∧ v.columns = first.map (·.1) ∧ v.rows = first.map (·.2) :: further ∧
          List.Forall₂ (Row.Gives v.columns) rest further) ∧
      (∀ e, ofRows rows = .error e → ∃ fault, e = .invalidQuery fault) ∧
      ∀ first rest rest', rows = first :: rest → List.Forall₂ List.Perm rest rest' →
        ofRows (first :: rest') = ofRows rows := by
  refine ⟨exists_ofRows_iff, fun v h => ?_, fun e => invalid_of_ofRows, ?_⟩
  · obtain ⟨first, rest, rfl, -⟩ := exists_first_of_ofRows h
    obtain ⟨-, further, haligned, rfl⟩ := ofRows_cons_eq_ok_iff.1 h
    have hrows := alignRows_eq_ok_iff.1 haligned
    refine ⟨congrArg Nat.succ hrows.length_eq.symm, first, rest, further, rfl, rfl, rfl, ?_⟩
    exact hrows.imp fun _ _ => gives_of_alignRow
  · rintro first rest rest' rfl hperm
    exact ofRows_of_perm hperm

end InsertRows

end SqlBuilder
