import SqlBuilder.Proofs.Words
import SqlBuilder.Query.Paging

/-!
# Where the characters of a written name come from

A character of a reference as SQL that is no punctuation of the naming stands in the reference
already, or in the table prefix (`Naming.mem_of_mem_reference`, `Naming.mem_of_mem_table`).
-/

namespace SqlBuilder

theorem mem_of_mem_intercalate {α : Type} {sep : List α} {parts : List (List α)} {x : α}
    (h : x ∈ sep.intercalate parts) : x ∈ sep ∨ ∃ p ∈ parts, x ∈ p := by
  induction parts with
  | nil => cases h
  | cons a as ih =>
    cases as with
    | nil =>
      rw [List.intercalate_singleton] at h
      exact Or.inr ⟨a, List.mem_cons_self, h⟩
    | cons b bs =>
      rw [List.intercalate_cons_cons] at h
      rcases List.mem_append.1 h with h | h
      · rcases List.mem_append.1 h with h | h
        · exact Or.inr ⟨a, List.mem_cons_self, h⟩
        · exact Or.inl h
      · rcases ih h with h | ⟨p, hp, hx⟩
        · exact Or.inl h
        · exact Or.inr ⟨p, List.mem_cons_of_mem _ hp, hx⟩

/-- A segment of a path holds characters of the path only. -/
theorem mem_of_mem_splitOn {cs segment : List Char} {sep c : Char}
    (hs : segment ∈ cs.splitOn sep) (hc : c ∈ segment) : c ∈ cs :=
  (infix_of_mem_splitOn hs).subset hc

theorem unqualified_mem_splitOn (column : String) :
    (Target.unqualified column).toList ∈ column.toList.splitOn '.' := by
  rw [Target.unqualified, String.toList_ofList]
  exact getLastD_splitOn_mem _ _

theorem mem_of_mem_unqualified {column : String} {c : Char}
    (h : c ∈ (Target.unqualified column).toList) : c ∈ column.toList :=
  mem_of_mem_splitOn (unqualified_mem_splitOn column) h

namespace Quotes

variable {q : Quotes} {cs : List Char} {c : Char}

theorem mem_of_mem_escape (h : c ∈ q.escape cs) : c ∈ cs := by
  obtain ⟨d, hd, hc⟩ := List.mem_flatMap.1 h
  split at hc
  · rcases List.mem_cons.1 hc with rfl | hc
    · exact hd
    · exact List.mem_singleton.1 hc ▸ hd
  · exact List.mem_singleton.1 hc ▸ hd

theorem mem_of_mem_quote (ho : c ≠ q.opening) (hc : c ≠ q.closing) (h : c ∈ q.quote cs) :
    c ∈ cs := by
  unfold quote at h
  split at h
  · exact h
  · rcases List.mem_append.1 h with h | h
    · rcases List.mem_cons.1 h with h | h
      · exact absurd h ho
      · exact mem_of_mem_escape h
    · exact absurd (List.mem_singleton.1 h) hc

end Quotes

namespace Naming

variable {n : Naming} {c : Char}

/-- The characters that a naming puts into names. -/
def punctuation (n : Naming) : List Char :=
  [n.quotes.opening, n.quotes.closing, '.', ' ', 'A', 'S']

/-- Every segment of a column path is written as a name or as a table. -/
theorem exists_of_mem_columnSegments {segments : List (List Char)} {s : List Char}
    (h : s ∈ n.columnSegments segments) :
    ∃ t ∈ segments, s = n.quotes.quote t ∨ s = n.tableSegment t := by
  have quoted {ss : List (List Char)} (hs : s ∈ ss.map n.quotes.quote) :
      ∃ t ∈ ss, s = n.quotes.quote t := by
    obtain ⟨t, ht, hs⟩ := List.mem_map.1 hs
    exact ⟨t, ht, hs.symm⟩
  unfold columnSegments at h
  split at h
  · rcases List.mem_cons.1 h with h | h
    · exact ⟨_, List.mem_cons_self, Or.inr h⟩
    · obtain ⟨t, ht, hs⟩ := quoted h
      exact ⟨t, List.mem_cons_of_mem _ ht, Or.inl hs⟩
  · obtain ⟨t, ht, hs⟩ := quoted h
    exact ⟨t, ht, Or.inl hs⟩

theorem exists_of_mem_tableSegments {segments : List (List Char)} {s : List Char}
    (h : s ∈ n.tableSegments segments) :
    ∃ t ∈ segments, s = n.quotes.quote t ∨ s = n.tableSegment t := by
  rcases List.mem_append.1 h with h | h
  · obtain ⟨t, ht, hs⟩ := exists_of_mem_columnSegments h
    exact ⟨t, List.dropLast_subset _ ht, hs⟩
  · obtain ⟨t, ht, hs⟩ := Option.map_eq_some_iff.1 (Option.mem_toList.1 h)
    exact ⟨t, List.mem_of_getLast? ht, Or.inr hs.symm⟩

section

variable (hc : c ∉ n.punctuation)

include hc in
theorem mem_of_mem_quote {cs : List Char} (h : c ∈ n.quotes.quote cs) : c ∈ cs := by
  simp only [punctuation, List.mem_cons, not_or] at hc
  exact Quotes.mem_of_mem_quote hc.1 hc.2.1 h

include hc in
theorem mem_of_mem_tableSegment {cs : List Char} (h : c ∈ n.tableSegment cs) :
    c ∈ cs ∨ c ∈ n.tablePrefix.toList := by
  unfold tableSegment at h
  split at h
  · exact Or.inl h
  · exact (List.mem_append.1 (mem_of_mem_quote hc h)).symm

include hc in
theorem mem_of_mem_columnSegments {segments : List (List Char)} {segment : List Char}
    (hs : segment ∈ n.columnSegments segments) (h : c ∈ segment) :
    (∃ s ∈ segments, c ∈ s) ∨ c ∈ n.tablePrefix.toList := by
  obtain ⟨s, hmem, rfl | rfl⟩ := exists_of_mem_columnSegments hs
  · exact Or.inl ⟨s, hmem, mem_of_mem_quote hc h⟩
  · exact (mem_of_mem_tableSegment hc h).imp_left fun h => ⟨s, hmem, h⟩

include hc in
theorem mem_of_mem_tableSegments {segments : List (List Char)} {segment : List Char}
    (hs : segment ∈ n.tableSegments segments) (h : c ∈ segment) :
    (∃ s ∈ segments, c ∈ s) ∨ c ∈ n.tablePrefix.toList := by
  obtain ⟨s, hmem, rfl | rfl⟩ := exists_of_mem_tableSegments hs
  · exact Or.inl ⟨s, hmem, mem_of_mem_quote hc h⟩
  · exact (mem_of_mem_tableSegment hc h).imp_left fun h => ⟨s, hmem, h⟩

include hc in
theorem mem_of_mem_mapPath {f : List (List Char) → List (List Char)} {cs : List Char}
    (hf : ∀ segment ∈ f (cs.splitOn '.'), c ∈ segment →
      (∃ s ∈ cs.splitOn '.', c ∈ s) ∨ c ∈ n.tablePrefix.toList)
    (h : c ∈ mapPath f cs) : c ∈ cs ∨ c ∈ n.tablePrefix.toList := by
  rcases mem_of_mem_intercalate h with h | ⟨segment, hs, h⟩
  · simp only [punctuation, List.mem_cons, not_or] at hc
    exact absurd (List.mem_singleton.1 h) hc.2.2.1
  · rcases hf segment hs h with ⟨s, hmem, hcs⟩ | h
    · exact Or.inl (mem_of_mem_splitOn hmem hcs)
    · exact Or.inr h

include hc in
theorem mem_of_mem_aliased {path : List Char → List Char} {cs : List Char}
    (hpath : ∀ cs, c ∈ path cs → c ∈ cs ∨ c ∈ n.tablePrefix.toList)
    (h : c ∈ n.aliased path cs) : c ∈ cs ∨ c ∈ n.tablePrefix.toList := by
  unfold aliased at h
  split at h
  · next name label hcut =>
    obtain ⟨hname, hlabel⟩ := infix_of_cutAlias? hcut
    rcases List.mem_append.1 h with h | h
    · rcases List.mem_append.1 h with h | h
      · rcases hpath name h with h | h
        · exact Or.inl (hname.subset h)
        · exact Or.inr h
      · refine absurd h fun hmem => hc ?_
        have : c = ' ' ∨ c = 'A' ∨ c = 'S' := by simpa [or_comm, or_assoc, or_left_comm] using hmem
        rcases this with rfl | rfl | rfl <;> simp [punctuation]
    · exact Or.inl (hlabel.subset (mem_of_mem_quote hc h))
  · exact hpath cs h

include hc in
theorem mem_of_mem_reference {column : String} (h : c ∈ (n.reference column).toList) :
    c ∈ column.toList ∨ c ∈ n.tablePrefix.toList := by
  rw [reference, String.toList_ofList] at h
  exact mem_of_mem_aliased hc (fun _ hcs =>
    mem_of_mem_mapPath hc (fun _ hs hmem => mem_of_mem_columnSegments hc hs hmem) hcs) h

include hc in
theorem mem_of_mem_table {name : String} (h : c ∈ (n.table name).toList) :
    c ∈ name.toList ∨ c ∈ n.tablePrefix.toList := by
  rw [table, String.toList_ofList] at h
  refine mem_of_mem_aliased hc (fun cs hcs => ?_) h
  unfold tablePath at hcs
  split at hcs
  · exact Or.inl hcs
  · exact mem_of_mem_mapPath hc (fun _ hs hmem => mem_of_mem_tableSegments hc hs hmem) hcs

end

end Naming

end SqlBuilder
