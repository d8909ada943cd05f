import Mathlib.Algebra.Order.Floor.Div
import Mathlib.Data.Finset.Union
import Mathlib.Order.Interval.Finset.Nat
import SqlBuilder.Database.Replay
import SqlBuilder.Proofs.Windows
import SqlBuilder.Query.Fetch

/-!
# Pages

A page is a window of rows of a fixed size. As many pages as it takes for all rows, at least one,
cover the rows with no row on two of them (`Tiles.of_ceilDiv`). A query read page by page asks for
one of these pages, and its offset is at most the number of rows, so it is a number of 64 bits like
that (`Query.tiles_of_paginate`).
-/

namespace SqlBuilder

/-- The rows of a page, counted from zero; pages are counted from one. -/
def pageRows (size page : Nat) : Finset Nat :=
  Finset.Ico ((page - 1) * size) ((page - 1) * size + size)

/-- The pages of a size, from the first to the last, are the rows that there are. -/
structure Tiles (total size last : Nat) : Prop where
  /-- No row is on two pages. -/
  disjoint : ∀ j ∈ Finset.Icc 1 last, ∀ k ∈ Finset.Icc 1 last, j ≠ k →
    Disjoint (pageRows size j) (pageRows size k)
  /-- Every row is on a page. -/
  cover : (Finset.Icc 1 last).biUnion (fun k => pageRows size k ∩ Finset.range total) =
    Finset.range total
  /-- If there are rows, there are some on every page. -/
  nonempty : 0 < total → ∀ k ∈ Finset.Icc 1 last, (pageRows size k ∩ Finset.range total).Nonempty

/-! ## Pages of rows -/

section

variable {total size page row : Nat}

theorem mem_pageRows (hs : 0 < size) (hp : 1 ≤ page) :
    row ∈ pageRows size page ↔ row / size + 1 = page := by
  have hdiv : row / size = page - 1 ↔
      (page - 1) * size ≤ row ∧ row < (page - 1) * size + size := by
    rw [Nat.div_eq_iff hs, Nat.lt_iff_le_pred (by omega)]
  rw [pageRows, Finset.mem_Ico, ← hdiv]
  omega

/-- A page with its number up to the last one begins within the rows, or is the first. -/
theorem pred_mul_lt (hs : 0 < size) (ht : 0 < total) (hp : 1 ≤ page)
    (hlast : page ≤ max 1 (total ⌈/⌉ size)) : (page - 1) * size < total := by
  have hone : 1 ≤ total ⌈/⌉ size := by
    rw [Nat.succ_le_iff, ← not_le, ceilDiv_le_iff_le_mul hs]
    omega
  have hpred : ¬ total ⌈/⌉ size ≤ page - 1 := by
    rw [max_eq_right hone] at hlast
    omega
  rw [ceilDiv_le_iff_le_mul hs, not_le, Nat.mul_comm] at hpred
  exact hpred

theorem Tiles.of_ceilDiv (hs : 0 < size) : Tiles total size (max 1 (total ⌈/⌉ size)) where
  disjoint j hj k hk hne := by
    rw [Finset.disjoint_left]
    intro row hrow hrow'
    rw [mem_pageRows hs (Finset.mem_Icc.1 hj).1] at hrow
    rw [mem_pageRows hs (Finset.mem_Icc.1 hk).1] at hrow'
    exact hne (hrow.symm.trans hrow')
  cover := by
    ext row
    simp only [Finset.mem_biUnion, Finset.mem_inter, Finset.mem_range]
    constructor
    · rintro ⟨-, -, -, hrow⟩
      exact hrow
    · intro hrow
      have hpage : row / size + 1 ≤ total ⌈/⌉ size := by
        rw [Nat.succ_le_iff, ← not_le, ceilDiv_le_iff_le_mul hs, not_le]
        exact (Nat.mul_div_le row size).trans_lt hrow
      have hmem : row / size + 1 ∈ Finset.Icc 1 (max 1 (total ⌈/⌉ size)) :=
        Finset.mem_Icc.2 ⟨Nat.le_add_left _ _, hpage.trans (le_max_right _ _)⟩
      exact ⟨_, hmem, (mem_pageRows hs (Nat.le_add_left _ _)).2 rfl, hrow⟩
  nonempty ht k hk := by
    obtain ⟨hk, hlast⟩ := Finset.mem_Icc.1 hk
    have hfirst : (k - 1) * size ∈ pageRows size k :=
      Finset.mem_Ico.2 ⟨le_rfl, Nat.lt_add_of_pos_right hs⟩
    exact ⟨_, Finset.mem_inter.2 ⟨hfirst, Finset.mem_range.2 (pred_mul_lt hs ht hk hlast)⟩⟩

end

/-! ## The last page -/

theorem ceilDiv_eq_div_add (total : Nat) {size : Nat} (hs : 0 < size) :
    total ⌈/⌉ size = total / size + if total % size = 0 then 0 else 1 := by
  have hparts := Nat.div_add_mod total size
  have hrest := Nat.mod_lt total hs
  rw [Nat.ceilDiv_eq_add_pred_div]
  split
  · next hzero =>
    have hsum : total + size - 1 = size * (total / size) + (size - 1) := by omega
    have hnone : (size - 1) / size = 0 := Nat.div_eq_of_lt (by omega)
    rw [hsum, Nat.mul_add_div hs, hnone]
  · next hpos =>
    have hsum : total + size - 1 = size * (total / size) + ((total % size - 1) + size) := by omega
    have hnone : (total % size - 1) / size = 0 := Nat.div_eq_of_lt (by omega)
    rw [hsum, Nat.mul_add_div hs, Nat.add_div_right _ hs, hnone]

section

variable {total size page : UInt64}

/-- The number of the last page is that of the pages that it takes for all rows, at least one. -/
theorem toNat_lastPage (hs : 0 < size.toNat) :
    (lastPage total size).toNat = max 1 (total.toNat ⌈/⌉ size.toNat) := by
  have hceil := ceilDiv_eq_div_add total.toNat hs
  have hle : total.toNat ⌈/⌉ size.toNat ≤ total.toNat :=
    (ceilDiv_le_iff_le_mul hs).2 (Nat.le_mul_of_pos_left _ hs)
  have hlt := total.toNat_lt
  have hmod : total % size = 0 ↔ total.toNat % size.toNat = 0 := by
    rw [← UInt64.toNat_inj, UInt64.toNat_mod]
    rfl
  have hextra : (if total % size = 0 then (0 : UInt64) else 1).toNat =
      if total.toNat % size.toNat = 0 then 0 else 1 := by
    simp only [hmod]
    split <;> rfl
  rw [lastPage, UInt64.toNat_max, UInt64.toNat_add, UInt64.toNat_div, hextra, ← hceil,
    Nat.mod_eq_of_lt (by omega), max_comm]
  rfl

/-- The page that is read for the one asked for. -/
def usedPage (page total size : UInt64) : UInt64 :=
  min (max page 1) (lastPage total size)

theorem toNat_usedPage : (usedPage page total size).toNat =
    min (max page.toNat 1) (lastPage total size).toNat := by
  rw [usedPage, UInt64.toNat_min, UInt64.toNat_max]
  rfl

/-- The page that is read is one of those that there are. -/
theorem usedPage_mem (hs : 0 < size.toNat) : 1 ≤ (usedPage page total size).toNat ∧
    (usedPage page total size).toNat ≤ (lastPage total size).toNat := by
  have hlast : (lastPage total size).toNat = _ := toNat_lastPage hs
  rw [toNat_usedPage]
  omega

/-- The offset of a page is at most the number of rows. -/
theorem pred_mul_le (hs : 0 < size.toNat) (hp : 1 ≤ page.toNat)
    (hlast : page.toNat ≤ (lastPage total size).toNat) :
    (page.toNat - 1) * size.toNat ≤ total.toNat := by
  rw [toNat_lastPage hs] at hlast
  cases Nat.eq_zero_or_pos total.toNat with
  | inl hzero =>
    have hone : page.toNat ≤ 1 := by simpa [hzero] using hlast
    rw [Nat.sub_eq_zero_of_le hone, Nat.zero_mul]
    exact Nat.zero_le _
  | inr hpos => exact (pred_mul_lt hs hpos hp hlast).le

/-- The offset of a page has no overflow where the product of the numbers has none. -/
theorem toNat_pred_mul (hp : 1 ≤ page.toNat) (h : (page.toNat - 1) * size.toNat < 2 ^ 64) :
    ((max page 1 - 1) * size).toNat = (page.toNat - 1) * size.toNat := by
  have hmax : (max page 1).toNat = page.toNat := by
    rw [UInt64.toNat_max]
    exact max_eq_left hp
  have hone : 1 ≤ max page 1 := UInt64.le_iff_toNat_le.2 (hmax.symm ▸ hp)
  have hpred : (max page 1 - 1).toNat = page.toNat - 1 := by
    rw [UInt64.toNat_sub_of_le _ _ hone, hmax]
    rfl
  rw [UInt64.toNat_mul, hpred, Nat.mod_eq_of_lt h]

end

/-! ## Reading a page -/

/-- A mapped result is a result. -/
theorem Outcome.map_eq_ok {σ α β : Type} {f : α → β} {o : Outcome σ α} {b : β} :
    (o.map f).result = .ok b ↔ ∃ a, o.result = .ok a ∧ f a = b := by
  unfold Outcome.map
  cases o.result with
  | error e => simp [Except.map]
  | ok a => simp [Except.map]

namespace Query

variable {σ : Type} {db : Database σ} {q : Query} {s : Session σ}

/-- A read forgets the select list of its query and nothing else. -/
theorem query_get (db : Database σ) (q : Query) (s : Session σ) :
    (q.get db s).query = { q with selects := none } := by
  unfold get
  split <;> rfl

/-- What is answered is read, without the column that numbers the rows. -/
theorem result_get {sql : Sql} {rows : List ResultRow} (hsql : q.select db.target = .ok sql)
    (hanswer : (db.connection.select sql.text q.bindings s.state).1 = .ok rows) :
    (q.get db s).result = .ok (rows.map (q.withoutRowNumber db)) := by
  have hselect : (db.select sql.text q.bindings s).1 = .ok rows := hanswer
  unfold get
  rw [hsql]
  simp only [hselect]
  rfl

/-- Where the rows can be counted, reading a page is reading the rows of a query for that page. -/
theorem paginate_eq {total : UInt64} (page perPage : UInt64)
    (h : (q.unordered.count db s).result = .ok total) :
    ∃ (counted : Query) (s' : Session σ), q.paginate db page perPage s =
      ((counted.onPage (usedPage page total (max perPage 1)) (max perPage 1)).get db s').map
        fun results => ⟨results, total, usedPage page total (max perPage 1), max perPage 1,
          lastPage total (max perPage 1)⟩ := by
  refine ⟨{ (q.unordered.count db s).query with orderings := q.orderings },
    (q.unordered.count db s).session, ?_⟩
  have hcount : (({ q with orderings := [], limit := none, offset := none } : Query).count db
      s).result = .ok total := h
  rw [paginate]
  simp only [hcount]
  rfl

/-- Where the rows cannot be counted no page is read. -/
theorem result_paginate_of_error {e : Error} (page perPage : UInt64)
    (h : (q.unordered.count db s).result = .error e) :
    (q.paginate db page perPage s).result = .error e := by
  have hcount : (({ q with orderings := [], limit := none, offset := none } : Query).count db
      s).result = .error e := h
  simp only [paginate, hcount]

/-- The page that is read is one of the pages that tile the rows, in the place of the one asked for,
and the query for it has the offset of that page. -/
theorem tiles_of_paginate (total page perPage : UInt64) : ∃ used size last : UInt64,
    size.toNat = max perPage.toNat 1 ∧ last.toNat = max 1 (total.toNat ⌈/⌉ size.toNat) ∧
    used.toNat = min (max page.toNat 1) last.toNat ∧ 1 ≤ used ∧ used ≤ last ∧
    (used.toNat - 1) * size.toNat < 2 ^ 64 ∧ Tiles total.toNat size.toNat last.toNat ∧
    ∀ (σ : Type) (db : Database σ) (q : Query) (s : Session σ),
      (q.unordered.count db s).result = .ok total →
        (q.paginate db page perPage s).query.limit = some size ∧
        (∃ offset, (q.paginate db page perPage s).query.offset = some offset ∧
          offset.toNat = (used.toNat - 1) * size.toNat) ∧
        ∀ r, (q.paginate db page perPage s).result = .ok r →
          r.total = total ∧ r.page = used ∧ r.perPage = size ∧ r.lastPage = last := by
  have hsize : (max perPage 1).toNat = max perPage.toNat 1 := UInt64.toNat_max perPage 1
  have hs : 0 < (max perPage 1).toNat := by omega
  have hlast : (lastPage total (max perPage 1)).toNat = _ := toNat_lastPage hs
  obtain ⟨hfirst, hle⟩ : 1 ≤ (usedPage page total (max perPage 1)).toNat ∧ _ := usedPage_mem hs
  have hoffset := (pred_mul_le hs hfirst hle).trans_lt total.toNat_lt
  refine ⟨usedPage page total (max perPage 1), max perPage 1, lastPage total (max perPage 1), hsize,
    hlast, toNat_usedPage, UInt64.le_iff_toNat_le.2 hfirst, UInt64.le_iff_toNat_le.2 hle, hoffset,
    hlast ▸ Tiles.of_ceilDiv hs, fun σ db q s h => ?_⟩
  obtain ⟨counted, s', hpage⟩ := paginate_eq page perPage h
  have hquery := query_get db
    (counted.onPage (usedPage page total (max perPage 1)) (max perPage 1)) s'
  rw [hpage]
  refine ⟨congrArg Query.limit hquery, ?_, ?_⟩
  · exact ⟨_, congrArg Query.offset hquery, toNat_pred_mul hfirst hoffset⟩
  · intro r hr
    obtain ⟨results, -, rfl⟩ := Outcome.map_eq_ok.1 hr
    exact ⟨rfl, rfl, rfl, rfl⟩

theorem tiles_of_paginate_beyond : ∃ (db : Database Replay) (s : Session Replay) (r : Page),
    ((Query.unordered (.ofTable "users")).count db s).result = .ok 45 ∧
      ((Query.ofTable "users").paginate db 9 10 s).result = .ok r ∧ r.page = 5 ∧ r.lastPage = 5 ∧
      ∃ offset, ((Query.ofTable "users").paginate db 9 10 s).query.offset = some offset ∧
        offset.toNat = 40 := by
  obtain ⟨db, s, r, hcount, hr⟩ : ∃ (db : Database Replay) (s : Session Replay) (r : Page),
      ((Query.unordered (.ofTable "users")).count db s).result = .ok 45 ∧
        ((Query.ofTable "users").paginate db 9 10 s).result = .ok r :=
    ⟨⟨Replay.connection, ⟨"mysql", "", "default"⟩, false⟩,
      ⟨{ results := [[[("aggregate", .int 45)]], [[("id", .int 41)]]] }, []⟩, _, rfl, rfl⟩
  obtain ⟨used, size, last, hsize, hlast, hused, -, -, -, -, hpages⟩ := tiles_of_paginate 45 9 10
  obtain ⟨-, ⟨offset, hoffset, hskipped⟩, hpage⟩ := hpages Replay db (.ofTable "users") s hcount
  have hten : size.toNat = 10 := hsize
  have hfive : last.toNat = 5 := by
    rw [hlast, hten]
    rfl
  have husedFive : used.toNat = 5 := by
    rw [hused, hfive]
    rfl
  obtain ⟨-, hpage, -, hlastPage⟩ := hpage r hr
  refine ⟨db, s, r, hcount, hr, ?_, ?_, offset, hoffset, ?_⟩
  · exact hpage.trans (UInt64.toNat_inj.1 husedFive)
  · exact hlastPage.trans (UInt64.toNat_inj.1 hfive)
  · rw [hskipped, husedFive, hten]

end Query

end SqlBuilder
