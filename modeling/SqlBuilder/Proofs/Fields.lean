import Mathlib.Data.List.Basic
import SqlBuilder.Json.Basic

/-!
# Pairs by their keys

A list of pairs that is brought into the order of its keys keeps every pair unless a key occurs
twice, and is then shorter (`Fields.ofList_cases`). Of the pairs with a key the last one counts
(`Fields.get?_ofList`). The keys alone decide on the order, so other values may be put under them
before or after.
-/

namespace SqlBuilder

namespace Fields

variable {α β : Type}

/-- A pair is put in front of those with greater keys, or in the place of that with its key. -/
theorem insert_cases (key : String) (value : α) (fields : Fields α) :
    (insert key value fields).Perm ((key, value) :: fields) ∨
      (insert key value fields).length = fields.length := by
  induction fields with
  | nil => exact Or.inl (List.Perm.refl _)
  | cons pair rest ih =>
    obtain ⟨k, v⟩ := pair
    rw [insert]
    by_cases hlt : key < k
    · rw [if_pos hlt]
      exact Or.inl (List.Perm.refl _)
    · rw [if_neg hlt]
      by_cases hkey : key = k
      · rw [if_pos hkey]
        exact Or.inr rfl
      · rw [if_neg hkey]
        rcases ih with hperm | hlength
        · exact Or.inl ((hperm.cons (k, v)).trans (List.Perm.swap _ _ rest))
        · exact Or.inr (congrArg Nat.succ hlength)

/-- Pairs put one after the other. -/
def insertAll : Fields α → List (String × α) → Fields α
  | fields, [] => fields
  | fields, (key, value) :: pairs => insertAll (fields.insert key value) pairs

theorem ofList_eq_insertAll (pairs : List (String × α)) : ofList pairs = insertAll [] pairs := by
  have key (fields : Fields α) :
      pairs.foldl (fun fields pair => fields.insert pair.1 pair.2) fields =
        insertAll fields pairs := by
    induction pairs generalizing fields with
    | nil => rfl
    | cons pair pairs ih => exact ih (fields.insert pair.1 pair.2)
  exact key []

theorem insertAll_cases (fields : Fields α) (pairs : List (String × α)) :
    (fields.insertAll pairs).Perm (fields ++ pairs) ∨
      (fields.insertAll pairs).length < fields.length + pairs.length := by
  induction pairs generalizing fields with
  | nil => exact Or.inl (by simp [insertAll])
  | cons pair pairs ih =>
    obtain ⟨key, value⟩ := pair
    rw [insertAll, List.length_cons]
    rcases insert_cases key value fields with hperm | hlength <;>
      rcases ih (fields.insert key value) with hrest | hrest
    · refine Or.inl (hrest.trans ?_)
      exact (hperm.append_right pairs).trans List.perm_middle.symm
    · have hinsert := hperm.length_eq
      rw [List.length_cons] at hinsert
      exact Or.inr (by omega)
    · have hinsertAll := hrest.length_eq
      rw [List.length_append] at hinsertAll
      exact Or.inr (by omega)
    · exact Or.inr (by omega)

/-- Either no pair is lost, or there are fewer of them. -/
theorem ofList_cases (pairs : List (String × α)) :
    (ofList pairs).Perm pairs ∨ (ofList pairs).length < pairs.length := by
  rw [ofList_eq_insertAll]
  simpa using insertAll_cases [] pairs

theorem mem_of_get? {key : String} {value : α} {fields : Fields α}
    (h : fields.get? key = some value) : (key, value) ∈ fields := by
  obtain ⟨before, behind, rfl, -⟩ := List.lookup_eq_some_iff.1 h
  exact List.mem_append_right before List.mem_cons_self

/-! ## The value of a key -/

theorem get?_cons (key k : String) (v : α) (fields : Fields α) :
    get? key ((k, v) :: fields) = if key = k then some v else fields.get? key := by
  rw [get?, get?, List.lookup_cons]
  by_cases h : key = k
  · rw [if_pos h, beq_iff_eq.2 h]
  · rw [if_neg h, beq_eq_false_iff_ne.2 h]

theorem get?_erase (key key' : String) (fields : Fields α) :
    (erase key fields).get? key' = if key' = key then none else fields.get? key' := by
  induction fields with
  | nil => simp [erase, get?]
  | cons pair rest ih =>
    obtain ⟨k, v⟩ := pair
    unfold erase at ih ⊢
    by_cases hk : k = key
    · rw [List.filter_cons_of_neg (by simp [hk]), ih, get?_cons, hk]
      by_cases hkey : key' = key
      · rw [if_pos hkey, if_pos hkey]
      · rw [if_neg hkey, if_neg hkey, if_neg hkey]
    · rw [List.filter_cons_of_pos (by simp [hk]), get?_cons, get?_cons, ih]
      by_cases hkey : key' = key
      · rw [if_pos hkey, if_pos hkey, if_neg fun h => hk (h.symm.trans hkey)]
      · rw [if_neg hkey, if_neg hkey]

theorem get?_insert (key key' : String) (value : α) (fields : Fields α) :
    (insert key value fields).get? key' = if key' = key then some value else fields.get? key' := by
  induction fields with
  | nil => rw [insert, get?_cons]
  | cons pair rest ih =>
    obtain ⟨k, v⟩ := pair
    rw [insert]
    by_cases hlt : key < k
    · rw [if_pos hlt, get?_cons]
    · rw [if_neg hlt]
      by_cases hkey : key = k
      · rw [if_pos hkey, get?_cons, get?_cons, hkey]
        by_cases hk : key' = k
        · rw [if_pos hk, if_pos hk]
        · rw [if_neg hk, if_neg hk, if_neg hk]
      · rw [if_neg hkey, get?_cons, get?_cons, ih]
        by_cases hk : key' = k
        · rw [if_pos hk, if_neg fun h => hkey (h.symm.trans hk), if_pos hk]
        · rw [if_neg hk, if_neg hk]

theorem get?_insertAll (key : String) (fields : Fields α) (pairs : List (String × α)) :
    (fields.insertAll pairs).get? key = (get? key pairs.reverse).or (fields.get? key) := by
  induction pairs generalizing fields with
  | nil => rfl
  | cons pair pairs ih =>
    obtain ⟨k, v⟩ := pair
    have hlast : get? key (pairs.reverse ++ [(k, v)]) =
        (get? key pairs.reverse).or (if key = k then some v else none) := by
      rw [get?, List.lookup_append]
      exact congrArg _ (get?_cons key k v [])
    rw [insertAll, ih, get?_insert, List.reverse_cons, hlast, Option.or_assoc]
    by_cases hk : key = k
    · rw [if_pos hk, if_pos hk, Option.some_or]
    · rw [if_neg hk, if_neg hk, Option.none_or]

/-- Of the pairs with a key the last one counts. -/
theorem get?_ofList (key : String) (pairs : List (String × α)) :
    (ofList pairs).get? key = get? key pairs.reverse := by
  rw [ofList_eq_insertAll, get?_insertAll]
  exact Option.or_none

theorem isSome_get? (key : String) (fields : Fields α) :
    (fields.get? key).isSome = true ↔ key ∈ fields.map (·.1) := by
  induction fields with
  | nil => simp [get?]
  | cons pair rest ih =>
    obtain ⟨k, v⟩ := pair
    rw [get?_cons, List.map_cons, List.mem_cons]
    by_cases hk : key = k
    · rw [if_pos hk]
      exact iff_of_true rfl (Or.inl hk)
    · rw [if_neg hk, ih, or_iff_right hk]

/-- Under keys that differ there is the value of the one pair with the key. -/
theorem get?_eq_some_iff {fields : Fields α} (h : (fields.map (·.1)).Nodup) {key : String}
    {value : α} : fields.get? key = some value ↔ (key, value) ∈ fields := by
  refine ⟨mem_of_get?, fun hmem => ?_⟩
  induction fields with
  | nil => cases hmem
  | cons pair rest ih =>
    obtain ⟨k, v⟩ := pair
    obtain ⟨hfresh, hrest⟩ := List.nodup_cons.1 h
    rw [get?_cons]
    rcases List.mem_cons.1 hmem with he | hbehind
    · obtain ⟨rfl, rfl⟩ := Prod.mk.inj he
      exact if_pos rfl
    · have hk : key ≠ k := by
        rintro rfl
        exact hfresh (List.mem_map.2 ⟨_, hbehind, rfl⟩)
      rw [if_neg hk, ih hrest hbehind]

theorem get?_ofList_eq_some_iff {pairs : List (String × α)} (h : (pairs.map (·.1)).Nodup)
    {key : String} {value : α} : (ofList pairs).get? key = some value ↔ (key, value) ∈ pairs := by
  have hreverse : (pairs.reverse.map (·.1)).Nodup := by
    rw [List.map_reverse]
    exact List.pairwise_reverse.2 (h.imp Ne.symm)
  rw [get?_ofList, get?_eq_some_iff hreverse, List.mem_reverse]

/-- Pairs in another order have the same keys. -/
theorem isSome_get?_ofList_of_perm {pairs pairs' : List (String × α)} (h : pairs.Perm pairs')
    (key : String) : ((ofList pairs).get? key).isSome = ((ofList pairs').get? key).isSome := by
  rw [Bool.eq_iff_iff, get?_ofList, get?_ofList, isSome_get?, isSome_get?, List.map_reverse,
    List.map_reverse, List.mem_reverse, List.mem_reverse]
  exact (h.map _).mem_iff

/-! ## Other values under the same keys -/

variable (f : α → β)

theorem insert_map (key : String) (value : α) (fields : Fields α) :
    insert key (f value) (fields.map fun (k, v) => (k, f v)) =
      (insert key value fields).map fun (k, v) => (k, f v) := by
  induction fields with
  | nil => rfl
  | cons pair rest ih =>
    simp only [List.map_cons, insert, ih]
    split
    · rfl
    · split <;> rfl

theorem insertAll_map (fields : Fields α) (pairs : List (String × α)) :
    insertAll (fields.map fun (k, v) => (k, f v)) (pairs.map fun (k, v) => (k, f v)) =
      (insertAll fields pairs).map fun (k, v) => (k, f v) := by
  induction pairs generalizing fields with
  | nil => rfl
  | cons pair pairs ih => rw [List.map_cons, insertAll, insertAll, insert_map, ih]

theorem ofList_map (pairs : List (String × α)) :
    ofList (pairs.map fun (k, v) => (k, f v)) = (ofList pairs).map fun (k, v) => (k, f v) := by
  rw [ofList_eq_insertAll, ofList_eq_insertAll]
  exact insertAll_map f [] pairs

theorem get?_map (key : String) (fields : Fields α) :
    get? key (fields.map fun (k, v) => (k, f v)) = (fields.get? key).map f := by
  induction fields with
  | nil => rfl
  | cons pair rest ih =>
    obtain ⟨k, v⟩ := pair
    unfold get? at ih ⊢
    rw [List.map_cons, List.lookup_cons, List.lookup_cons]
    cases key == k with
    | true => rfl
    | false => exact ih

theorem erase_map (key : String) (fields : Fields α) :
    erase key (fields.map fun (k, v) => (k, f v)) =
      (fields.erase key).map fun (k, v) => (k, f v) := by
  simp [erase, List.filter_map, Function.comp_def]

end Fields

end SqlBuilder
