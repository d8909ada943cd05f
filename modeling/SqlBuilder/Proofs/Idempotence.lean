import SqlBuilder.Proofs.Qualifiers
import SqlBuilder.Proofs.Words

/-!
# Names written again

What is written for a name, a table or a reference stays as it is when it is written again
(`Target.naming_idempotent`). Writing makes no keyword ` as ` and no point inside a segment, so what
is written is cut where the text was cut; and each of its segments is a star or quoted, so each is
left alone.
-/

namespace SqlBuilder

namespace Quotes

variable {q : Quotes} {cs w : List Char}

/-! ## Quoted names -/

/-- A star, or quoted already. -/
def Written (q : Quotes) (cs : List Char) : Prop :=
  cs = ['*'] ∨ q.isQuoted cs = true

theorem Written.quote_eq (h : q.Written cs) : q.quote cs = cs := by
  rcases h with rfl | hquoted
  · exact quote_star q
  · exact quote_of_isQuoted hquoted

theorem written_quote (q : Quotes) (cs : List Char) : q.Written (q.quote cs) :=
  star_or_isQuoted_quote q cs

theorem quote_quote (q : Quotes) (cs : List Char) : q.quote (q.quote cs) = q.quote cs :=
  (written_quote q cs).quote_eq

theorem quote_eq_star_iff : q.quote cs = ['*'] ↔ cs = ['*'] := by
  constructor
  · intro h
    by_contra hstar
    cases hquoted : q.isQuoted cs with
    | true => exact hstar ((quote_of_isQuoted hquoted).symm.trans h)
    | false =>
      rw [quote_eq_enclose hstar hquoted] at h
      have hlength := congrArg List.length h
      simp [enclose] at hlength
  · rintro rfl
    exact quote_star q

/-! ## Words in quoted names -/

theorem prefix_of_prefix_escape (hc : q.closing ∉ w) (h : w <+: q.escape cs) : w <+: cs := by
  induction cs generalizing w with
  | nil => exact h
  | cons c cs ih =>
    cases w with
    | nil => exact List.nil_prefix
    | cons d w =>
      obtain ⟨hd, hw⟩ := not_or.1 (mt List.mem_cons.2 hc)
      by_cases hclosing : c = q.closing
      · rw [hclosing, escape_cons_closing] at h
        exact absurd (List.cons_prefix_cons.1 h).1.symm hd
      · rw [escape_cons_of_ne hclosing] at h
        obtain ⟨rfl, htail⟩ := List.cons_prefix_cons.1 h
        exact List.cons_prefix_cons.2 ⟨rfl, ih hw htail⟩

/-- Doubling the closing quotes makes no word without one. -/
theorem infix_of_infix_escape (hc : q.closing ∉ w) (h : w <:+: q.escape cs) : w <:+: cs := by
  induction cs with
  | nil => exact h
  | cons c cs ih =>
    by_cases hclosing : c = q.closing
    · rw [hclosing, escape_cons_closing] at h
      rcases infix_or_infix_of_not_mem (u := []) hc h with h | h
      · exact h.trans List.nil_infix
      · rcases infix_or_infix_of_not_mem (u := []) hc h with h | h
        · exact h.trans List.nil_infix
        · exact (ih h).trans (List.suffix_cons c cs).isInfix
    · rw [escape_cons_of_ne hclosing] at h
      rcases List.infix_cons_iff.1 h with hp | hinfix
      · rw [← escape_cons_of_ne hclosing] at hp
        exact (prefix_of_prefix_escape hc hp).isInfix
      · exact (ih hinfix).trans (List.suffix_cons c cs).isInfix

theorem infix_of_infix_quote (hw : w ≠ []) (ho : q.opening ∉ w) (hc : q.closing ∉ w)
    (h : w <:+: q.quote cs) : w <:+: cs := by
  unfold quote at h
  split at h
  · exact h
  · rcases infix_or_infix_of_not_mem (u := []) ho h with h | h
    · exact absurd (List.infix_nil.1 h) hw
    · rcases infix_or_infix_of_not_mem hc h with h | h
      · exact infix_of_infix_escape hc h
      · exact absurd (List.infix_nil.1 h) hw

/-! ## Ends of written names -/

/-- A text that begins and ends with a star or a quote. -/
structure Framed (q : Quotes) (cs : List Char) : Prop where
  first : ∃ c, cs.head? = some c ∧ (c = '*' ∨ c = q.opening)
  last : ∃ c, cs.getLast? = some c ∧ (c = '*' ∨ c = q.closing)

theorem Written.framed (h : q.Written cs) : q.Framed cs := by
  rcases h with rfl | hquoted
  · exact ⟨⟨'*', rfl, Or.inl rfl⟩, '*', rfl, Or.inl rfl⟩
  · exact ⟨⟨q.opening, head?_of_isQuoted hquoted, Or.inr rfl⟩,
      q.closing, getLast?_of_isQuoted hquoted, Or.inr rfl⟩

theorem framed_intercalate {sep : List Char} {parts : List (List Char)} (hne : parts ≠ [])
    (h : ∀ p ∈ parts, q.Framed p) : q.Framed (sep.intercalate parts) := by
  induction parts with
  | nil => exact absurd rfl hne
  | cons a as ih =>
    obtain ⟨ha, has⟩ := List.forall_mem_cons.1 h
    cases as with
    | nil =>
      rw [List.intercalate_singleton]
      exact ha
    | cons b bs =>
      obtain ⟨c, hc, hfirst⟩ := ha.first
      obtain ⟨d, hd, hlast⟩ := (ih (List.cons_ne_nil b bs) has).last
      rw [List.intercalate_cons_cons]
      refine ⟨⟨c, ?_, hfirst⟩, d, ?_, hlast⟩
      · rw [List.append_assoc, List.head?_append, hc, Option.some_or]
      · rw [List.getLast?_append, hd, Option.some_or]

end Quotes

namespace Naming

variable {n : Naming} {cs w : List Char} {segments : List (List Char)}

/-! ## Words in written paths -/

/-- A word that writing does not make: it has no quotes and does not begin in the prefix. -/
structure Unmade (n : Naming) (w : List Char) : Prop where
  opening : n.quotes.opening ∉ w
  closing : n.quotes.closing ∉ w
  first : ∃ c, w.head? = some c ∧ c ∉ n.tablePrefix.toList

section Unmade

variable (hw : n.Unmade w)

include hw in
theorem Unmade.ne_nil : w ≠ [] := by
  obtain ⟨c, hc, -⟩ := hw.first
  rintro rfl
  cases hc

include hw in
theorem infix_of_infix_quote (h : w <:+: n.quotes.quote cs) : w <:+: cs :=
  Quotes.infix_of_infix_quote hw.ne_nil hw.opening hw.closing h

include hw in
theorem infix_of_infix_tableSegment (h : w <:+: n.tableSegment cs) : w <:+: cs := by
  unfold tableSegment at h
  split at h
  · exact h
  · obtain ⟨c, hc, hprefix⟩ := hw.first
    exact infix_of_infix_append hc hprefix (infix_of_infix_quote hw h)

include hw in
theorem exists_infix_of_columnSegments {s : List Char} (hs : s ∈ n.columnSegments segments)
    (h : w <:+: s) : ∃ t ∈ segments, w <:+: t := by
  obtain ⟨t, ht, rfl | rfl⟩ := exists_of_mem_columnSegments hs
  · exact ⟨t, ht, infix_of_infix_quote hw h⟩
  · exact ⟨t, ht, infix_of_infix_tableSegment hw h⟩

include hw in
theorem exists_infix_of_tableSegments {s : List Char} (hs : s ∈ n.tableSegments segments)
    (h : w <:+: s) : ∃ t ∈ segments, w <:+: t := by
  obtain ⟨t, ht, rfl | rfl⟩ := exists_of_mem_tableSegments hs
  · exact ⟨t, ht, infix_of_infix_quote hw h⟩
  · exact ⟨t, ht, infix_of_infix_tableSegment hw h⟩

include hw in
theorem infix_of_infix_mapPath {f : List (List Char) → List (List Char)} (hpoint : '.' ∉ w)
    (hf : ∀ s ∈ f (cs.splitOn '.'), w <:+: s → ∃ t ∈ cs.splitOn '.', w <:+: t)
    (h : w <:+: mapPath f cs) : w <:+: cs := by
  obtain ⟨s, hs, h⟩ := infix_of_infix_intercalate hpoint hw.ne_nil h
  obtain ⟨t, ht, h⟩ := hf s hs h
  exact h.trans (infix_of_mem_splitOn ht)

include hw in
theorem infix_of_infix_columnPath (hpoint : '.' ∉ w) (h : w <:+: n.columnPath cs) : w <:+: cs :=
  infix_of_infix_mapPath hw hpoint (fun _ => exists_infix_of_columnSegments hw) h

include hw in
theorem infix_of_infix_tablePath (hpoint : '.' ∉ w) (h : w <:+: n.tablePath cs) : w <:+: cs := by
  unfold tablePath at h
  split at h
  · exact h
  · exact infix_of_infix_mapPath hw hpoint (fun _ => exists_infix_of_tableSegments hw) h

end Unmade

/-! ## Written segments -/

theorem written_tableSegment (n : Naming) (cs : List Char) :
    n.quotes.Written (n.tableSegment cs) := by
  unfold tableSegment
  split
  · next hquoted => exact Or.inr hquoted
  · exact Quotes.written_quote _ _

theorem written_of_mem_columnSegments {s : List Char} (h : s ∈ n.columnSegments segments) :
    n.quotes.Written s := by
  obtain ⟨t, -, rfl | rfl⟩ := exists_of_mem_columnSegments h
  · exact Quotes.written_quote _ t
  · exact written_tableSegment n t

theorem written_of_mem_tableSegments {s : List Char} (h : s ∈ n.tableSegments segments) :
    n.quotes.Written s := by
  obtain ⟨t, -, rfl | rfl⟩ := exists_of_mem_tableSegments h
  · exact Quotes.written_quote _ t
  · exact written_tableSegment n t

theorem columnSegments_ne_nil (h : segments ≠ []) : n.columnSegments segments ≠ [] := by
  match segments with
  | [] => exact absurd rfl h
  | [_] => exact List.cons_ne_nil _ _
  | _ :: _ :: _ => exact List.cons_ne_nil _ _

theorem tableSegments_concat (schema : List (List Char)) (last : List Char) :
    n.tableSegments (schema ++ [last]) = n.columnSegments schema ++ [n.tableSegment last] := by
  rw [tableSegments, List.dropLast_concat, List.getLast?_concat]
  rfl

theorem tableSegments_ne_nil (h : segments ≠ []) : n.tableSegments segments ≠ [] := by
  rw [← List.dropLast_concat_getLast h, tableSegments_concat]
  exact List.append_ne_nil_of_right_ne_nil _ (List.cons_ne_nil _ _)

/-! ## Segments written again -/

section

variable (hstar : '*' ∉ n.tablePrefix.toList)

include hstar in
theorem tableSegment_tableSegment (cs : List Char) :
    n.tableSegment (n.tableSegment cs) = n.tableSegment cs := by
  rcases written_tableSegment n cs with hwritten | hquoted
  · -- only a star is written as a star, and with it there is no prefix
    have hcs : n.tablePrefix.toList ++ cs = ['*'] := by
      unfold tableSegment at hwritten
      split at hwritten
      · next hquoted => rw [hwritten] at hquoted; cases hquoted
      · exact Quotes.quote_eq_star_iff.1 hwritten
    have hnone : n.tablePrefix.toList = [] := by
      cases hp : n.tablePrefix.toList with
      | nil => rfl
      | cons c rest =>
        rw [hp] at hcs hstar
        exact absurd ((List.cons.inj hcs).1 ▸ List.mem_cons_self) hstar
    rw [hnone, List.nil_append] at hcs
    rw [hwritten, ← hcs]
    exact hcs ▸ hwritten
  · exact if_pos hquoted

include hstar in
theorem columnSegments_columnSegments (segments : List (List Char)) :
    n.columnSegments (n.columnSegments segments) = n.columnSegments segments := by
  have hquote : ∀ ss : List (List Char),
      (ss.map n.quotes.quote).map n.quotes.quote = ss.map n.quotes.quote := by
    intro ss
    rw [List.map_map]
    exact List.map_congr_left fun s _ => Quotes.quote_quote _ s
  match segments with
  | [] => rfl
  | [s] => exact hquote [s]
  | first :: second :: rest =>
    exact congrArg₂ List.cons (tableSegment_tableSegment hstar first) (hquote (second :: rest))

include hstar in
theorem tableSegments_tableSegments (segments : List (List Char)) :
    n.tableSegments (n.tableSegments segments) = n.tableSegments segments := by
  cases segments using List.reverseRecOn with
  | nil => rfl
  | append_singleton schema last =>
    rw [tableSegments_concat, tableSegments_concat, columnSegments_columnSegments hstar,
      tableSegment_tableSegment hstar]

end

/-! ## Paths written again -/

/-- A path is written again segment by segment if writing makes no points in segments. -/
theorem mapPath_mapPath {f : List (List Char) → List (List Char)}
    (hne : f (cs.splitOn '.') ≠ [])
    (hpoint : ∀ s ∈ f (cs.splitOn '.'), ['.'] <:+: s → ∃ t ∈ cs.splitOn '.', ['.'] <:+: t)
    (hf : ∀ segments, f (f segments) = f segments) :
    mapPath f (mapPath f cs) = mapPath f cs := by
  have hfree : ∀ s ∈ f (cs.splitOn '.'), '.' ∉ s := by
    intro s hs hmem
    obtain ⟨t, ht, hinfix⟩ := hpoint s hs ((List.singleton_infix_iff _ _).2 hmem)
    exact not_mem_of_mem_splitOn ht ((List.singleton_infix_iff _ _).1 hinfix)
  have hsplit : (mapPath f cs).splitOn '.' = f (cs.splitOn '.') :=
    List.splitOn_intercalate '.' hfree hne
  rw [mapPath, hsplit, hf]
  rfl

/-- Quotes and a prefix that have nothing of what a reference is cut at, and a prefix without
stars. -/
structure Apart (n : Naming) : Prop where
  quotes : ∀ c, c = n.quotes.opening ∨ c = n.quotes.closing →
    c ≠ '.' ∧ Text.isBlank c = false ∧ c.toLower ∉ [' ', 'a', 's', ' ']
  tablePrefix : ∀ c ∈ n.tablePrefix.toList, c ≠ '.' ∧ c ≠ ' ' ∧ c ≠ '*'

section Apart

variable (hn : n.Apart)

include hn in
theorem Apart.unmade_point : n.Unmade ['.'] := by
  refine ⟨?_, ?_, '.', rfl, fun hmem => (hn.tablePrefix '.' hmem).1 rfl⟩
  · exact fun hmem => (hn.quotes _ (Or.inl rfl)).1 (List.mem_singleton.1 hmem)
  · exact fun hmem => (hn.quotes _ (Or.inr rfl)).1 (List.mem_singleton.1 hmem)

include hn in
theorem Apart.unmade_keyword {spelled : List Char}
    (h : Text.lowerAscii spelled = [' ', 'a', 's', ' ']) : n.Unmade spelled := by
  refine ⟨?_, ?_, ' ', head?_of_spelled h, fun hmem => (hn.tablePrefix ' ' hmem).2.1 rfl⟩
  · exact not_mem_of_spelled h (hn.quotes _ (Or.inl rfl)).2.2
  · exact not_mem_of_spelled h (hn.quotes _ (Or.inr rfl)).2.2

include hn in
theorem Apart.star_not_mem : '*' ∉ n.tablePrefix.toList :=
  fun hmem => (hn.tablePrefix '*' hmem).2.2 rfl

include hn in
theorem columnPath_columnPath (cs : List Char) :
    n.columnPath (n.columnPath cs) = n.columnPath cs :=
  mapPath_mapPath (columnSegments_ne_nil (List.splitOn_ne_nil _ _))
    (fun _ => exists_infix_of_columnSegments hn.unmade_point)
    (columnSegments_columnSegments hn.star_not_mem)

include hn in
/-- A table path may be quoted as a whole once it is written; else it is written segment by segment
both times. -/
theorem tablePath_tablePath (cs : List Char) : n.tablePath (n.tablePath cs) = n.tablePath cs := by
  cases hquoted : n.quotes.isQuoted (n.tablePath cs) with
  -- such as a path of two quoted names: it begins and ends with a quote
  | true => exact if_pos hquoted
  | false =>
    have hcs : ¬ n.quotes.isQuoted cs = true := by
      intro hcs
      rw [tablePath, if_pos hcs, hcs] at hquoted
      cases hquoted
    have hpath : n.tablePath cs = mapPath n.tableSegments cs := if_neg hcs
    rw [tablePath, hquoted, if_neg Bool.false_ne_true, hpath]
    exact mapPath_mapPath (tableSegments_ne_nil (List.splitOn_ne_nil _ _))
      (fun _ => exists_infix_of_tableSegments hn.unmade_point)
      (tableSegments_tableSegments hn.star_not_mem)

theorem framed_columnPath (n : Naming) (cs : List Char) : n.quotes.Framed (n.columnPath cs) :=
  Quotes.framed_intercalate (columnSegments_ne_nil (List.splitOn_ne_nil _ _))
    fun _ hs => (written_of_mem_columnSegments hs).framed

theorem framed_tablePath (n : Naming) (cs : List Char) : n.quotes.Framed (n.tablePath cs) := by
  unfold tablePath
  split
  · next hquoted => exact Quotes.Written.framed (Or.inr hquoted)
  · exact Quotes.framed_intercalate (tableSegments_ne_nil (List.splitOn_ne_nil _ _))
      fun _ hs => (written_of_mem_tableSegments hs).framed

/-! ## References written again -/

include hn in
theorem trim_of_framed (h : n.quotes.Framed cs) : Text.trim cs = cs := by
  have visible {c : Char} (hc : c = '*' ∨ c = n.quotes.opening ∨ c = n.quotes.closing) :
      Text.isBlank c = false := by
    rcases hc with rfl | hc
    · decide
    · exact (hn.quotes c hc).2.1
  obtain ⟨⟨c, hfirst, hc⟩, d, hlast, hd⟩ := h
  refine Text.trim_eq_self (fun c' hc' => ?_) fun d' hd' => ?_
  · obtain rfl : c = c' := Option.some.inj (hfirst.symm.trans hc')
    exact visible (hc.imp_right Or.inl)
  · obtain rfl : d = d' := Option.some.inj (hlast.symm.trans hd')
    exact visible (hd.imp_right Or.inr)

include hn in
/-- What is written for a name and its alias is cut there again. -/
theorem cutAlias?_of_framed {name label : List Char} (hname : n.quotes.Framed name)
    (hlabel : n.quotes.Framed label) (h : ¬ Aliased name) :
    cutAlias? (name ++ " AS ".toList ++ label) = some (name, label) := by
  obtain ⟨c, hlast, hc⟩ := hname.last
  have hletter : c.toLower ∉ [' ', 'a', 's', ' '] := by
    rcases hc with rfl | hc
    · decide
    · exact (hn.quotes c (Or.inr hc)).2.2
  have hcut : cutAlias? (name ++ (" AS ".toList ++ label)) =
      some (Text.trim name, Text.trim label) :=
    cutAlias?_append (by decide) (not_aliased_append h hlast hletter (by decide))
  rw [List.append_assoc, hcut, trim_of_framed hn hname, trim_of_framed hn hlabel]

include hn in
/-- A reference is written again as it is if that holds of its path, and if writing the path makes
no alias. -/
theorem aliased_aliased {path : List Char → List Char}
    (hframed : ∀ cs, n.quotes.Framed (path cs)) (halias : ∀ cs, Aliased (path cs) → Aliased cs)
    (hpath : ∀ cs, path (path cs) = path cs) (cs : List Char) :
    n.aliased path (n.aliased path cs) = n.aliased path cs := by
  cases hcut : cutAlias? cs with
  | none =>
    have hwritten : n.aliased path cs = path cs := by rw [aliased, hcut]
    have hagain : cutAlias? (path cs) = none :=
      cutAlias?_eq_none_iff.2 (mt (halias cs) (cutAlias?_eq_none_iff.1 hcut))
    rw [hwritten, aliased, hagain]
    exact hpath cs
  | some cut =>
    obtain ⟨name, label⟩ := cut
    have hwritten : n.aliased path cs =
        path name ++ " AS ".toList ++ n.quotes.quote label := by rw [aliased, hcut]
    -- no keyword stands in the written name, so the first one is the one between the two
    have hagain : cutAlias? (path name ++ " AS ".toList ++ n.quotes.quote label) =
        some (path name, n.quotes.quote label) :=
      cutAlias?_of_framed hn (hframed name) (Quotes.written_quote _ label).framed
        (mt (halias name) (not_aliased_of_cutAlias? hcut))
    rw [hwritten, aliased, hagain]
    simp only [hpath, Quotes.quote_quote]

include hn in
theorem aliased_of_columnPath (h : Aliased (n.columnPath cs)) : Aliased cs := by
  obtain ⟨spelled, hspelled, hinfix⟩ := h
  have hpoint : '.' ∉ spelled := not_mem_of_spelled hspelled (by decide)
  exact ⟨spelled, hspelled, infix_of_infix_columnPath (hn.unmade_keyword hspelled) hpoint hinfix⟩

include hn in
theorem aliased_of_tablePath (h : Aliased (n.tablePath cs)) : Aliased cs := by
  obtain ⟨spelled, hspelled, hinfix⟩ := h
  have hpoint : '.' ∉ spelled := not_mem_of_spelled hspelled (by decide)
  exact ⟨spelled, hspelled, infix_of_infix_tablePath (hn.unmade_keyword hspelled) hpoint hinfix⟩

include hn in
theorem reference_reference (s : String) : n.reference (n.reference s) = n.reference s := by
  rw [reference, reference, String.toList_ofList]
  exact congrArg String.ofList (aliased_aliased hn (framed_columnPath n)
    (fun _ => aliased_of_columnPath hn) (columnPath_columnPath hn) s.toList)

include hn in
theorem table_table (s : String) : n.table (n.table s) = n.table s := by
  rw [table, table, String.toList_ofList]
  exact congrArg String.ofList (aliased_aliased hn (framed_tablePath n)
    (fun _ => aliased_of_tablePath hn) (tablePath_tablePath hn) s.toList)

end Apart

theorem value_value (n : Naming) (s : String) : n.value (n.value s) = n.value s := by
  rw [value, value, String.toList_ofList, Quotes.quote_quote]

end Naming

theorem Dialect.quotes_apart (d : Dialect) :
    ∀ c, c = d.quotes.opening ∨ c = d.quotes.closing →
      c ≠ '.' ∧ Text.isBlank c = false ∧ c.toLower ∉ [' ', 'a', 's', ' '] := by
  rintro c (rfl | rfl)
  · cases d <;> decide
  · cases d <;> decide

namespace Target

variable {t : Target}

/-- Letters, digits and underscores are none of what a reference is cut at. -/
theorem apart_naming (hp : ∀ c ∈ t.tablePrefix.toList, c.isAlphanum = true ∨ c = '_') :
    t.naming.Apart := by
  refine ⟨t.dialect.quotes_apart, fun c hc => ?_⟩
  have hcode := toNat_of_isAlphanum (hp c hc)
  refine ⟨?_, ?_, ?_⟩
  · rintro rfl
    exact absurd hcode (by decide)
  · rintro rfl
    exact absurd hcode (by decide)
  · rintro rfl
    exact absurd hcode (by decide)

/-- What is written for a reference, a table or a name stays as it is when it is written again. -/
theorem naming_idempotent (hp : ∀ c ∈ t.tablePrefix.toList, c.isAlphanum = true ∨ c = '_')
    (s : String) :
    t.naming.reference (t.naming.reference s) = t.naming.reference s ∧
      t.naming.table (t.naming.table s) = t.naming.table s ∧
      t.naming.value (t.naming.value s) = t.naming.value s :=
  ⟨Naming.reference_reference (apart_naming hp) s, Naming.table_table (apart_naming hp) s,
    Naming.value_value t.naming s⟩

/-- Half a quote, a quoted point, an empty segment, a star, and the keyword again in the alias. -/
theorem naming_idempotent_odd :
    (∀ c ∈ "app_".toList, c.isAlphanum = true ∨ c = '_') ∧
      (Target.mk .sqlserver "app_").naming.table "a b].[x.y]..* aS  q] as * " =
        "[app_a b]]].[[x].[y]]].[].[app_*] AS [q]] as *]" ∧
      (Target.mk .sqlserver "app_").naming.table
          "[app_a b]]].[[x].[y]]].[].[app_*] AS [q]] as *]" =
        "[app_a b]]].[[x].[y]]].[].[app_*] AS [q]] as *]" := by
  have hp : ∀ c ∈ "app_".toList, c.isAlphanum = true ∨ c = '_' := by simp
  have hwritten : (Target.mk .sqlserver "app_").naming.table "a b].[x.y]..* aS  q] as * " =
      "[app_a b]]].[[x].[y]]].[].[app_*] AS [q]] as *]" := by decide +kernel
  obtain ⟨-, hagain, -⟩ :=
    naming_idempotent (t := Target.mk .sqlserver "app_") hp "a b].[x.y]..* aS  q] as * "
  rw [hwritten] at hagain
  exact ⟨hp, hwritten, hagain⟩

end Target

end SqlBuilder
