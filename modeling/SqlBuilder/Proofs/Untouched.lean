import Mathlib.Data.List.Forall2
import Mathlib.Data.List.TakeWhile
import SqlBuilder.Proofs.Idempotence

/-!
# Quoted names left alone

A quoted name is written as it is exactly where no cut falls inside its quotes
(`Target.value_untouched_iff`). A keyword ` as ` is the first thing a text is cut at, before anyone
asks for quotes, so it must stand as ` AS ` between a name that passes and a quoted alias
(`Target.aliased_eq_self_iff`). A column path is then cut at every point, and each of its segments
must be written; a table path passes if it is quoted as a whole.

That nothing else is left alone comes from lengths: a segment that writing changes gets longer, and
so does every path with it. An alias that writing changes ends in more closing quotes than before.
-/

namespace SqlBuilder

/-! ## Texts that get longer -/

section Grown

variable {α : Type} {as bs : List α}

/-- Unchanged, or longer. -/
def Grown (as bs : List α) : Prop :=
  as = bs ∨ as.length < bs.length

theorem Grown.length_le (h : Grown as bs) : as.length ≤ bs.length := by
  rcases h with rfl | hlt
  · exact le_rfl
  · exact hlt.le

theorem grown_intercalate (sep : List α) {parts parts' : List (List α)}
    (h : List.Forall₂ Grown parts parts') :
    parts = parts' ∨ (sep.intercalate parts).length < (sep.intercalate parts').length := by
  induction h with
  | nil => exact Or.inl rfl
  | @cons a b parts parts' hab hparts ih =>
    cases hparts with
    | nil =>
      rw [List.intercalate_singleton, List.intercalate_singleton]
      exact hab.imp_left fun he => by rw [he]
    | cons =>
      simp only [List.intercalate_cons_cons, List.length_append]
      rcases ih with he | hlt
      · rw [he]
        rcases hab with rfl | hab
        · exact Or.inl rfl
        · exact Or.inr (by omega)
      · have hle := hab.length_le
        exact Or.inr (by omega)

end Grown

namespace Quotes

variable {q : Quotes} {cs : List Char}

/-- A path that consists of stars and quoted names. -/
def WrittenPath (q : Quotes) (cs : List Char) : Prop :=
  ∀ s ∈ cs.splitOn '.', q.Written s

theorem length_le_escape (q : Quotes) (cs : List Char) : cs.length ≤ (q.escape cs).length := by
  induction cs with
  | nil => exact le_rfl
  | cons c cs ih =>
    rw [escape_cons, List.length_append, List.length_cons]
    split <;> simp <;> omega

theorem grown_quote (q : Quotes) (cs : List Char) : Grown cs (q.quote cs) := by
  by_cases hwritten : q.Written cs
  · exact Or.inl hwritten.quote_eq.symm
  · obtain ⟨hstar, hquoted⟩ := not_or.1 hwritten
    have hle := length_le_escape q cs
    rw [quote_eq_enclose hstar (Bool.eq_false_iff.2 hquoted)]
    refine Or.inr ?_
    rw [enclose, List.length_append, List.length_cons]
    omega

/-- Doubling the closing quotes leaves no text at the end behind a character that is none. -/
theorem not_suffix_escape {c : Char} (hc : c ≠ q.closing) (k : Nat) :
    ¬ c :: cs <:+ q.escape cs ++ List.replicate (k + 1) q.closing := by
  induction cs using List.reverseRecOn generalizing k with
  | nil =>
    intro h
    exact hc (List.eq_of_mem_replicate (h.subset List.mem_cons_self))
  | append_singleton cs d ih =>
    rintro ⟨front, h⟩
    have hescape : q.escape (cs ++ [q.closing]) = q.escape cs ++ List.replicate 2 q.closing := by
      rw [escape, List.flatMap_append, List.flatMap_singleton, if_pos rfl]
      rfl
    rw [List.replicate_succ', ← List.cons_append, ← List.append_assoc, ← List.append_assoc] at h
    obtain ⟨hfront, hd⟩ := List.append_inj' h rfl
    obtain rfl : d = q.closing := List.singleton_inj.1 hd
    rw [hescape, List.append_assoc, List.replicate_append_replicate, Nat.add_comm] at hfront
    exact ih (k + 1) ⟨front, hfront⟩

/-- A text that ends in a quoted name does not end in the name as it was, behind a character that is
no quote. -/
theorem append_enclose_ne {c : Char} (hc : c ≠ q.closing) (written front : List Char) :
    written ++ q.enclose cs ≠ front ++ c :: cs := by
  intro h
  have hplain : c :: cs <:+ written ++ q.enclose cs := ⟨front, h.symm⟩
  have hescape : q.escape cs ++ List.replicate 1 q.closing <:+ written ++ q.enclose cs :=
    ⟨written ++ [q.opening], by simp [enclose]⟩
  refine not_suffix_escape hc 0 (List.suffix_of_suffix_length_le hplain hescape ?_)
  simpa using length_le_escape q cs

theorem isQuoted_of_suffix {last : List Char} (hfirst : cs.head? = some q.opening)
    (hsuffix : last <:+ cs) (hlast : q.isQuoted last = true) : q.isQuoted cs = true := by
  have hle := hsuffix.length_le
  obtain ⟨front, rfl⟩ := hsuffix
  have hend := getLast?_of_isQuoted hlast
  simp only [isQuoted, Bool.and_eq_true, decide_eq_true_eq, beq_iff_eq] at hlast ⊢
  refine ⟨⟨hlast.1.1.trans hle, hfirst⟩, ?_⟩
  rw [List.getLast?_append, hend, Option.some_or]

end Quotes

/-! ## The keyword -/

namespace Text

theorem exists_eq_trim (cs : List Char) : ∃ front back, cs = front ++ (trim cs ++ back) ∧
    (∀ c ∈ front, isBlank c = true) ∧ ∀ c ∈ back, isBlank c = true := by
  have hback : cs.dropWhile isBlank =
      trim cs ++ ((cs.dropWhile isBlank).reverse.takeWhile isBlank).reverse := by
    rw [trim, ← List.reverse_append, List.takeWhile_append_dropWhile, List.reverse_reverse]
  refine ⟨cs.takeWhile isBlank, ((cs.dropWhile isBlank).reverse.takeWhile isBlank).reverse, ?_,
    fun c hc => List.mem_takeWhile_imp hc, fun c hc => ?_⟩
  · rw [← hback, List.takeWhile_append_dropWhile]
  · exact List.mem_takeWhile_imp (List.mem_reverse.1 hc)

/-- A text that ends visibly loses blanks at its beginning only. -/
theorem exists_eq_append_trim {cs : List Char} {c : Char} (hlast : cs.getLast? = some c)
    (hc : isBlank c = false) :
    ∃ front, cs = front ++ trim cs ∧ ∀ d ∈ front, isBlank d = true := by
  obtain ⟨front, back, hcs, hfront, hback⟩ := exists_eq_trim cs
  cases back using List.reverseRecOn with
  | nil => exact ⟨front, by rwa [List.append_nil] at hcs, hfront⟩
  | append_singleton back d =>
    rw [hcs, ← List.append_assoc, ← List.append_assoc, List.getLast?_concat] at hlast
    obtain rfl := Option.some.inj hlast
    rw [hback d (by simp)] at hc
    cases hc

end Text

section Keyword

variable {name before spelled front : List Char}

theorem getLast?_of_spelled (h : Text.lowerAscii spelled = [' ', 'a', 's', ' ']) :
    spelled.getLast? = some ' ' := by
  have hlast := congrArg List.getLast? h
  rw [Text.lowerAscii, List.getLast?_map] at hlast
  obtain ⟨c, hc, hlower⟩ := Option.map_eq_some_iff.1 hlast
  rw [hc, Text.eq_blank_of_toLower hlower]

/-- The end of a spelling and the blanks behind it. -/
theorem exists_getLast?_blank (h : Text.lowerAscii spelled = [' ', 'a', 's', ' '])
    (hfront : ∀ c ∈ front, Text.isBlank c = true) :
    ∃ c, (spelled ++ front).getLast? = some c ∧ Text.isBlank c = true := by
  rw [List.getLast?_append, getLast?_of_spelled h]
  cases hlast : front.getLast? with
  | none => exact ⟨' ', rfl, by decide⟩
  | some c => exact ⟨c, rfl, hfront c (List.mem_of_getLast? hlast)⟩

/-- What ends visibly does not end in the keyword. -/
theorem getLast?_of_append_spelled {c : Char} {rest : List Char}
    (h : Text.lowerAscii spelled = [' ', 'a', 's', ' ']) (hc : Text.isBlank c = false)
    (hlast : (before ++ (spelled ++ rest)).getLast? = some c) : rest.getLast? = some c := by
  rw [List.getLast?_append, List.getLast?_append, getLast?_of_spelled h] at hlast
  cases hend : rest.getLast? with
  | none =>
    rw [hend] at hlast
    obtain rfl : ' ' = c := Option.some.inj hlast
    exact absurd hc (by decide)
  | some d => rwa [hend] at hlast

/-- A text that ends in the keyword as it is written ends in it in no other way. -/
theorem eq_of_append_keyword (h : Text.lowerAscii spelled = [' ', 'a', 's', ' '])
    (hfront : ∀ c ∈ front, Text.isBlank c = true)
    (he : name ++ " AS ".toList = before ++ (spelled ++ front)) :
    name = before ∧ spelled = " AS ".toList ∧ front = [] := by
  cases front using List.reverseRecOn with
  | nil =>
    rw [List.append_nil] at he
    obtain ⟨hname, hspelled⟩ := List.append_inj' he (Text.length_of_lowerAscii h).symm
    exact ⟨hname, hspelled.symm, rfl⟩
  | append_singleton front d =>
    -- what stands before the last blank is a blank, not a letter of the keyword
    have hfront' : ∀ c ∈ front, Text.isBlank c = true :=
      fun c hc => hfront c (List.mem_append_left _ hc)
    obtain ⟨c, hc, hblank⟩ := exists_getLast?_blank h hfront'
    have he' : (name ++ [' ', 'A', 'S']) ++ [' '] = (before ++ (spelled ++ front)) ++ [d] := by
      simpa using he
    have hlast := congrArg List.getLast? (List.append_inj' he' rfl).1
    rw [List.getLast?_append, List.getLast?_append, hc] at hlast
    obtain rfl : 'S' = c := Option.some.inj hlast
    exact absurd hblank (by decide)

end Keyword

/-- A text that no alias cuts and that passes, or a name that passes with the keyword as it is
written and a quoted alias behind it. -/
inductive Kept (q : Quotes) (Passes : List Char → Prop) : List Char → Prop
  | whole {cs : List Char} (hcut : ¬ Aliased cs) (hpasses : Passes cs) : Kept q Passes cs
  | aliased {name label : List Char} (hcut : ¬ Aliased (name ++ " AS".toList))
    (hname : Passes name) (hlabel : q.isQuoted label = true) :
    Kept q Passes (name ++ " AS ".toList ++ label)

theorem Kept.imp {q : Quotes} {Passes Passes' : List Char → Prop} {cs : List Char}
    (hcs : cs.head? = some q.opening) (hblank : q.opening ≠ ' ')
    (h : ∀ name, name.head? = some q.opening → Passes name → Passes' name)
    (hkept : Kept q Passes cs) : Kept q Passes' cs := by
  cases hkept with
  | whole hcut hpasses => exact .whole hcut (h _ hcs hpasses)
  | @aliased name label hcut hname hlabel =>
    refine .aliased hcut (h name ?_ hname) hlabel
    cases name with
    | nil => exact absurd (Option.some.inj hcs).symm hblank
    | cons c name => exact hcs

theorem Kept.congr {q : Quotes} {Passes Passes' : List Char → Prop} {cs : List Char}
    (hcs : cs.head? = some q.opening) (hblank : q.opening ≠ ' ')
    (h : ∀ name, name.head? = some q.opening → (Passes name ↔ Passes' name)) :
    Kept q Passes cs ↔ Kept q Passes' cs :=
  ⟨Kept.imp hcs hblank fun name hname => (h name hname).1,
    Kept.imp hcs hblank fun name hname => (h name hname).2⟩

theorem Dialect.quotes_ne_star (d : Dialect) :
    d.quotes.opening ≠ '*' ∧ d.quotes.closing ≠ '*' := by
  cases d <;> decide

namespace Target

variable {t : Target} {cs name label : List Char}

theorem apart_quotes (t : Target) : (Naming.mk t.dialect.quotes "").Apart :=
  ⟨t.dialect.quotes_apart, fun _ h => absurd h List.not_mem_nil⟩

/-! ## Aliases -/

/-- An alias that is written as it was cut off is quoted. -/
theorem isQuoted_of_append_quote {before spelled rest written : List Char}
    (hspelled : Text.lowerAscii spelled = [' ', 'a', 's', ' '])
    (hlast : (before ++ (spelled ++ rest)).getLast? = some t.dialect.quotes.closing)
    (h : written ++ t.dialect.quotes.quote (Text.trim rest) = before ++ (spelled ++ rest)) :
    t.dialect.quotes.isQuoted (Text.trim rest) = true ∧
      ∃ front, rest = front ++ Text.trim rest ∧ ∀ c ∈ front, Text.isBlank c = true := by
  have hvisible : Text.isBlank t.dialect.quotes.closing = false :=
    (t.dialect.quotes_apart _ (Or.inr rfl)).2.1
  have hrest := getLast?_of_append_spelled hspelled hvisible hlast
  obtain ⟨front, hcut, hfront⟩ := Text.exists_eq_append_trim hrest hvisible
  refine ⟨?_, front, hcut, hfront⟩
  have hstar : Text.trim rest ≠ ['*'] := by
    intro hstar
    rw [hcut, hstar, List.getLast?_concat] at hrest
    exact t.dialect.quotes_ne_star.2 (Option.some.inj hrest).symm
  by_contra hnot
  rw [Quotes.quote_eq_enclose hstar (Bool.eq_false_iff.2 hnot)] at h
  -- before the alias stands a blank, of the keyword or behind it
  obtain ⟨c, hc, hblank⟩ := exists_getLast?_blank hspelled hfront
  obtain ⟨behind, hbehind⟩ := List.getLast?_eq_some_iff.1 hc
  have hclosing : c ≠ t.dialect.quotes.closing := by
    rintro rfl
    rw [hvisible] at hblank
    cases hblank
  refine Quotes.append_enclose_ne hclosing written (before ++ behind) (h.trans ?_)
  conv_lhs => rw [hcut, ← List.append_assoc spelled, hbehind]
  simp

theorem trim_of_isQuoted (h : t.dialect.quotes.isQuoted cs = true) : Text.trim cs = cs :=
  Naming.trim_of_framed t.apart_quotes (Quotes.Written.framed (Or.inr h))

/-- A quoted text passes unchanged exactly where no alias cuts it, or where the cut is the one that
is written and both sides pass. -/
theorem aliased_eq_self_iff {path : List Char → List Char}
    (hframed : ∀ cs, t.dialect.quotes.Framed (path cs))
    (hquoted : t.dialect.quotes.isQuoted cs = true) :
    t.naming.aliased path cs = cs ↔ Kept t.dialect.quotes (fun cs => path cs = cs) cs := by
  have htrim {cs : List Char} (h : path cs = cs) : Text.trim cs = cs :=
    Naming.trim_of_framed t.apart_quotes (h ▸ hframed cs)
  constructor
  · intro h
    cases hcut : cutAlias? cs with
    | none =>
      rw [Naming.aliased, hcut] at h
      exact .whole (cutAlias?_eq_none_iff.1 hcut) h
    | some cut =>
      rw [Naming.aliased, hcut] at h
      obtain ⟨⟨before, rest⟩, hsplit, rfl⟩ := Option.map_eq_some_iff.1 hcut
      obtain ⟨spelled, hspelled, rfl, hnot⟩ :=
        Text.exists_of_splitFirst? (List.cons_ne_nil _ _) hsplit
      obtain ⟨hlabel, front, hrest, hfront⟩ :=
        isQuoted_of_append_quote hspelled (Quotes.getLast?_of_isQuoted hquoted) h
      have hkeyword : path (Text.trim before) ++ " AS ".toList = before ++ (spelled ++ front) := by
        refine (List.append_left_inj (Text.trim rest)).1 ?_
        rw [List.append_assoc before, List.append_assoc spelled, ← hrest]
        exact (congrArg _ (Quotes.quote_of_isQuoted hlabel).symm).trans h
      obtain ⟨hname, rfl, rfl⟩ := eq_of_append_keyword hspelled hfront hkeyword
      have hbefore : Text.trim before = before :=
        Naming.trim_of_framed t.apart_quotes (hname ▸ hframed _)
      rw [hbefore] at hname
      rw [← List.append_assoc, hrest]
      exact .aliased hnot hname hlabel
  · rintro (⟨hcut, hpasses⟩ | @⟨name, label, hcut, hname, hlabel⟩)
    · rw [Naming.aliased, cutAlias?_eq_none_iff.2 hcut]
      exact hpasses
    · have hagain : cutAlias? (name ++ " AS ".toList ++ label) = some (name, label) := by
        rw [List.append_assoc, cutAlias?_append (by decide) hcut, htrim hname,
          trim_of_isQuoted hlabel]
      rw [Naming.aliased, hagain]
      simp only [hname, Target.naming, Quotes.quote_of_isQuoted hlabel]

end Target

/-! ## Paths -/

namespace Naming

variable {n : Naming} {cs segment : List Char} {segments : List (List Char)}

theorem grown_tableSegment (n : Naming) (segment : List Char) :
    Grown segment (n.tableSegment segment) := by
  unfold tableSegment
  split
  · exact Or.inl rfl
  · have hquote := Quotes.grown_quote n.quotes (n.tablePrefix.toList ++ segment)
    cases hp : n.tablePrefix.toList with
    | nil =>
      rw [hp] at hquote
      exact hquote
    | cons c rest =>
      have hle := hquote.length_le
      rw [hp] at hle
      refine Or.inr (Nat.lt_of_lt_of_le ?_ hle)
      rw [List.length_append, List.length_cons]
      omega

theorem forall₂_grown_map {f : List Char → List Char} (hf : ∀ segment, Grown segment (f segment))
    (segments : List (List Char)) : List.Forall₂ Grown segments (segments.map f) :=
  List.forall₂_map_right_iff.2 (List.forall₂_same.2 fun s _ => hf s)

theorem forall₂_grown_columnSegments (n : Naming) (segments : List (List Char)) :
    List.Forall₂ Grown segments (n.columnSegments segments) := by
  match segments with
  | [] => exact .nil
  | [_] => exact forall₂_grown_map (Quotes.grown_quote _) _
  | first :: second :: rest =>
    exact .cons (grown_tableSegment n first) (forall₂_grown_map (Quotes.grown_quote _) _)

theorem forall₂_grown_tableSegments (n : Naming) (segments : List (List Char)) :
    List.Forall₂ Grown segments (n.tableSegments segments) := by
  cases segments using List.reverseRecOn with
  | nil => exact .nil
  | append_singleton schema last =>
    rw [tableSegments_concat]
    exact List.rel_append (forall₂_grown_columnSegments n schema)
      (.cons (grown_tableSegment n last) .nil)

/-- A path passes unchanged exactly if its segments do. -/
theorem mapPath_eq_self_iff {f : List (List Char) → List (List Char)}
    (h : List.Forall₂ Grown (cs.splitOn '.') (f (cs.splitOn '.'))) :
    mapPath f cs = cs ↔ f (cs.splitOn '.') = cs.splitOn '.' := by
  have hcs : ['.'].intercalate (cs.splitOn '.') = cs := List.intercalate_splitOn '.'
  constructor
  · intro hpath
    rcases grown_intercalate ['.'] h with he | hlt
    · exact he.symm
    · have hpath' : ['.'].intercalate (f (cs.splitOn '.')) = cs := hpath
      rw [hcs, hpath'] at hlt
      exact absurd hlt (Nat.lt_irrefl _)
  · intro he
    rw [mapPath, he, hcs]

theorem tableSegment_star (h : n.tablePrefix = "") : n.tableSegment ['*'] = ['*'] := by
  rw [tableSegment, h]
  exact (ite_eq_left_iff.2 fun _ => Quotes.quote_star _)

theorem tableSegment_of_written (h : n.tablePrefix = "") (hsegment : n.quotes.Written segment) :
    n.tableSegment segment = segment := by
  rcases hsegment with rfl | hquoted
  · exact tableSegment_star h
  · exact if_pos hquoted

theorem map_quote_of_written (h : ∀ s ∈ segments, n.quotes.Written s) :
    segments.map n.quotes.quote = segments :=
  (List.map_congr_left fun s hs => (h s hs).quote_eq).trans (List.map_id segments)

theorem columnSegments_of_written (h : ∀ s ∈ segments, n.quotes.Written s)
    (hfirst : ∀ s ∈ segments.head?, n.tableSegment s = s) :
    n.columnSegments segments = segments := by
  match segments with
  | [] => rfl
  | [_] => exact map_quote_of_written h
  | first :: second :: rest =>
    rw [columnSegments, hfirst first rfl, map_quote_of_written (List.forall_mem_cons.1 h).2]

/-- Without a prefix the segment that names a table is written as the others are. -/
theorem tableSegments_of_written (hbare : n.tablePrefix = "")
    (h : ∀ s ∈ segments, n.quotes.Written s) : n.tableSegments segments = segments := by
  cases segments using List.reverseRecOn with
  | nil => rfl
  | append_singleton schema last =>
    obtain ⟨hschema, hlast⟩ := List.forall_mem_append.1 h
    rw [tableSegments_concat, tableSegment_of_written hbare (List.forall_mem_singleton.1 hlast),
      columnSegments_of_written hschema fun s hs =>
        tableSegment_of_written hbare (hschema s (List.mem_of_mem_head? hs))]

/-- The first segment begins as the path does, so it is no star if the path begins otherwise. -/
theorem head?_splitOn_ne_star {c : Char} (hc : cs.head? = some c) (hpoint : c ≠ '.')
    (hstar : c ≠ '*') : (cs.splitOn '.').head? ≠ some ['*'] := by
  obtain ⟨rest, rfl⟩ := List.head?_eq_some_iff.1 hc
  obtain ⟨first, segments, hsplit⟩ := List.exists_cons_of_ne_nil (List.splitOn_ne_nil '.' rest)
  rw [List.splitOn_cons_eq_if_modifyHead, if_neg (by simpa using hpoint), hsplit]
  exact fun h => hstar (List.cons.inj (Option.some.inj h)).1

theorem columnPath_eq_self_iff {c : Char} (hc : cs.head? = some c) (hpoint : c ≠ '.')
    (hstar : c ≠ '*') :
    n.columnPath cs = cs ↔ n.quotes.WrittenPath cs := by
  rw [columnPath, mapPath_eq_self_iff (forall₂_grown_columnSegments n _)]
  constructor
  · intro h s hs
    rw [← h] at hs
    exact written_of_mem_columnSegments hs
  · intro h
    refine columnSegments_of_written h fun s hs => if_pos ?_
    refine (h s (List.mem_of_mem_head? hs)).resolve_left ?_
    rintro rfl
    exact head?_splitOn_ne_star hc hpoint hstar hs

/-- A prefix goes to every segment that is not quoted. -/
theorem tablePrefix_eq_of_tableSegment (h : n.tableSegment segment = segment)
    (hnot : ¬ n.quotes.isQuoted segment = true) : n.tablePrefix = "" := by
  have hle := (Quotes.grown_quote n.quotes (n.tablePrefix.toList ++ segment)).length_le
  rw [tableSegment, if_neg hnot] at h
  rw [h, List.length_append] at hle
  have hbare : n.tablePrefix.toList = [] := List.eq_nil_of_length_eq_zero (by omega)
  exact String.toList_inj.1 hbare

theorem tablePath_eq_self_iff (hc : cs.head? = some n.quotes.opening) :
    n.tablePath cs = cs ↔
      n.quotes.isQuoted cs = true ∨
        n.tablePrefix = "" ∧ n.quotes.WrittenPath cs := by
  by_cases hquoted : n.quotes.isQuoted cs = true
  · exact iff_of_true (if_pos hquoted) (Or.inl hquoted)
  rw [tablePath, if_neg hquoted, mapPath_eq_self_iff (forall₂_grown_tableSegments n _)]
  constructor
  · intro h
    refine Or.inr ⟨?_, fun s hs => written_of_mem_tableSegments (h.symm ▸ hs)⟩
    -- a quoted last segment would make the path a quoted one
    have hcs : ['.'].intercalate (cs.splitOn '.') = cs := List.intercalate_splitOn '.'
    obtain ⟨schema, last, hsplit⟩ : ∃ schema last, cs.splitOn '.' = schema ++ [last] :=
      ⟨_, _, (List.dropLast_concat_getLast (List.splitOn_ne_nil '.' cs)).symm⟩
    rw [hsplit] at h hcs
    rw [tableSegments_concat] at h
    refine tablePrefix_eq_of_tableSegment (List.singleton_inj.1 (List.append_inj' h rfl).2) ?_
    have hsuffix : last <:+ cs := hcs ▸ suffix_intercalate_concat
    exact fun hlast => hquoted (Quotes.isQuoted_of_suffix hc hsuffix hlast)
  · rintro (hpath | ⟨hbare, hwritten⟩)
    · exact absurd hpath hquoted
    · exact tableSegments_of_written hbare hwritten

end Naming

namespace Target

variable {t : Target}

theorem opening_ne_blank (t : Target) : t.dialect.quotes.opening ≠ ' ' := by
  intro h
  have hletter := (t.dialect.quotes_apart _ (Or.inl rfl)).2.2
  rw [h] at hletter
  exact hletter (by decide)

theorem isQuoted_value {u : String} (hu : u ≠ "*") :
    t.dialect.quotes.isQuoted (t.naming.value u).toList = true := by
  rw [Naming.value, String.toList_ofList]
  have hstar : u.toList ≠ ['*'] := fun h => hu (String.toList_inj.1 h)
  exact (Quotes.written_quote t.dialect.quotes u.toList).resolve_left
    (mt Quotes.quote_eq_star_iff.1 hstar)

theorem table_eq_self_iff {name : String}
    (hquoted : t.dialect.quotes.isQuoted name.toList = true) :
    t.naming.table name = name ↔
      Kept t.dialect.quotes (fun cs => t.dialect.quotes.isQuoted cs = true ∨
        t.tablePrefix = "" ∧ t.dialect.quotes.WrittenPath cs) name.toList := by
  rw [Naming.table, ← String.toList_inj, String.toList_ofList,
    aliased_eq_self_iff (Naming.framed_tablePath t.naming) hquoted]
  exact Kept.congr (Quotes.head?_of_isQuoted hquoted) t.opening_ne_blank
    fun _ h => Naming.tablePath_eq_self_iff (n := t.naming) h

theorem reference_eq_self_iff {name : String}
    (hquoted : t.dialect.quotes.isQuoted name.toList = true) :
    t.naming.reference name = name ↔
      Kept t.dialect.quotes t.dialect.quotes.WrittenPath name.toList := by
  have hpoint : t.dialect.quotes.opening ≠ '.' := (t.dialect.quotes_apart _ (Or.inl rfl)).1
  rw [Naming.reference, ← String.toList_inj, String.toList_ofList,
    aliased_eq_self_iff (Naming.framed_columnPath t.naming) hquoted]
  exact Kept.congr (Quotes.head?_of_isQuoted hquoted) t.opening_ne_blank
    fun _ h => Naming.columnPath_eq_self_iff h hpoint t.dialect.quotes_ne_star.1

/-- A name between quotes is left alone exactly where every cut falls between quotes: a table name
only at an alias, a column reference at its points as well. -/
theorem value_untouched_iff {u : String} (hu : u ≠ "*") :
    (t.naming.table (t.naming.value u) = t.naming.value u ↔
      Kept t.dialect.quotes (fun cs => t.dialect.quotes.isQuoted cs = true ∨
        t.tablePrefix = "" ∧ t.dialect.quotes.WrittenPath cs)
        (t.naming.value u).toList) ∧
    (t.naming.reference (t.naming.value u) = t.naming.value u ↔
      Kept t.dialect.quotes t.dialect.quotes.WrittenPath (t.naming.value u).toList) :=
  ⟨table_eq_self_iff (isQuoted_value hu), reference_eq_self_iff (isQuoted_value hu)⟩

/-- The keyword falls between two quoted names, though all of it is one name. -/
theorem value_untouched_iff_between :
    "a] AS [b.c" ≠ "*" ∧
      (Target.mk .sqlserver "app_").naming.value "a] AS [b.c" = "[a]] AS [b.c]" ∧
      (Target.mk .sqlserver "app_").naming.table "[a]] AS [b.c]" = "[a]] AS [b.c]" ∧
      (Target.mk .sqlserver "app_").naming.reference "[a]] AS [b.c]" = "[a]] AS [b.c]" := by
  have hstar : "a] AS [b.c" ≠ "*" := by decide
  have hvalue : (Target.mk .sqlserver "app_").naming.value "a] AS [b.c" = "[a]] AS [b.c]" := by
    decide
  have hcut : ¬ Aliased ("[a]]".toList ++ " AS".toList) := cutAlias?_eq_none_iff.1 (by decide)
  have hlabel : (Dialect.quotes .sqlserver).isQuoted "[b.c]".toList = true := by decide
  obtain ⟨htable, hreference⟩ := value_untouched_iff (t := Target.mk .sqlserver "app_") hstar
  rw [hvalue] at htable hreference
  have hkept {Passes : List Char → Prop} (h : Passes "[a]]".toList) :
      Kept (Dialect.quotes .sqlserver) Passes "[a]] AS [b.c]".toList :=
    @Kept.aliased _ Passes "[a]]".toList "[b.c]".toList hcut h hlabel
  refine ⟨hstar, hvalue, htable.2 (hkept (Or.inl (by decide))), hreference.2 (hkept ?_)⟩
  have hsplit : "[a]]".toList.splitOn '.' = ["[a]]".toList] := by decide
  rw [Quotes.WrittenPath, hsplit]
  exact List.forall_mem_singleton.2 (Or.inr (by decide))

/-- A keyword or a point between two quotes is cut at all the same. -/
theorem not_value_untouched :
    ("first as last" ≠ "*" ∧ (Dialect.quotes .postgres).isQuoted "first as last".toList = false ∧
      (Target.mk .postgres "").naming.value "first as last" = "\"first as last\"" ∧
      (Target.mk .postgres "").naming.table "\"first as last\"" =
        "\"\"\"first\" AS \"last\"\"\"" ∧
      (Target.mk .postgres "").naming.reference "\"first as last\"" =
        "\"\"\"first\" AS \"last\"\"\"") ∧
    ("a.b" ≠ "*" ∧ (Dialect.quotes .postgres).isQuoted "a.b".toList = false ∧
      (Target.mk .postgres "").naming.value "a.b" = "\"a.b\"" ∧
      (Target.mk .postgres "").naming.reference "\"a.b\"" = "\"\"\"a\".\"b\"\"\"") := by
  decide +kernel

/-- A name without the keyword passes as a table, and as a column if it has no points either. -/
theorem value_untouched_of_not_aliased {u : String} (hu : u ≠ "*") (halias : ¬ Aliased u.toList) :
    t.naming.table (t.naming.value u) = t.naming.value u ∧
      ('.' ∉ u.toList → t.naming.reference (t.naming.value u) = t.naming.value u) := by
  have hquoted := isQuoted_value (t := t) hu
  have hcut : ¬ Aliased (t.naming.value u).toList := by
    rw [Naming.value, String.toList_ofList]
    rintro ⟨spelled, hspelled, hinfix⟩
    have hunmade := t.apart_quotes.unmade_keyword hspelled
    exact halias ⟨spelled, hspelled, Naming.infix_of_infix_quote hunmade hinfix⟩
  refine ⟨(table_eq_self_iff hquoted).2 (.whole hcut (Or.inl hquoted)), fun hpoint => ?_⟩
  refine (reference_eq_self_iff hquoted).2 (.whole hcut ?_)
  have hfree : '.' ∉ (t.naming.value u).toList := by
    rw [Naming.value, String.toList_ofList, ← List.singleton_infix_iff]
    exact fun hinfix => hpoint ((List.singleton_infix_iff _ _).1
      (Naming.infix_of_infix_quote t.apart_quotes.unmade_point hinfix))
  have hsplit := List.splitOn_intercalate '.' (List.forall_mem_singleton.2 hfree)
    (List.cons_ne_nil _ [])
  rw [List.intercalate_singleton] at hsplit
  rw [Quotes.WrittenPath, hsplit]
  exact List.forall_mem_singleton.2 (Or.inr hquoted)

end Target

end SqlBuilder
