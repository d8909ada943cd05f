import Mathlib.Data.List.Infix
import SqlBuilder.Identifier

/-!
# Words in a text

Where a word stands in a text in some spelling, and what a cut at its leftmost place says. Nothing
is cut exactly where the word does not stand (`Text.splitFirst?_eq_none_iff`), and else the text
before the place and the word without its last character hold no spelling of the word
(`Text.splitFirst?_eq_some_iff`). So a reference is cut at its alias (`cutAlias?_eq_none_iff`,
`cutAlias?_append`). The lemmas on infixes before that follow a word through joined and split texts.
-/

namespace SqlBuilder

/-! ## Infixes -/

section Infixes

variable {α : Type} {w u v : List α} {c : α}

/-- An infix without a character stands on one side of it. -/
theorem infix_or_infix_of_not_mem (hc : c ∉ w) (h : w <:+: u ++ c :: v) : w <:+: u ∨ w <:+: v := by
  obtain ⟨s, t, h⟩ := h
  rcases List.append_eq_append_iff.1 h with ⟨a, hu, -⟩ | ⟨a, ha, hv⟩
  · exact Or.inl ⟨s, a, hu.symm⟩
  · cases a with
    | nil => exact Or.inl ⟨s, [], by simpa using ha⟩
    | cons d a =>
      obtain ⟨rfl, rfl⟩ := List.cons.inj hv
      rcases List.append_eq_append_iff.1 ha with ⟨b, -, rfl⟩ | ⟨b, -, hb⟩
      · exact absurd (List.mem_append_right _ List.mem_cons_self) hc
      · cases b with
        | nil =>
          obtain rfl : c :: a = w := hb
          exact absurd List.mem_cons_self hc
        | cons e b =>
          obtain ⟨-, rfl⟩ := List.cons.inj hb
          exact Or.inr ⟨b, t, rfl⟩

/-- An infix does not begin in a text without its first character. -/
theorem infix_of_infix_append (hw : w.head? = some c) (hc : c ∉ u) (h : w <:+: u ++ v) :
    w <:+: v := by
  induction u with
  | nil => exact h
  | cons d u ih =>
    obtain ⟨hd, hu⟩ := not_or.1 (mt List.mem_cons.2 hc)
    rcases List.infix_cons_iff.1 h with hprefix | hinfix
    · obtain ⟨w', rfl⟩ := List.head?_eq_some_iff.1 hw
      exact absurd (List.cons_prefix_cons.1 hprefix).1 hd
    · exact ih hu hinfix

theorem infix_of_infix_intercalate {parts : List (List α)} (hc : c ∉ w) (hw : w ≠ [])
    (h : w <:+: [c].intercalate parts) : ∃ p ∈ parts, w <:+: p := by
  induction parts with
  | nil => exact absurd (List.infix_nil.1 h) hw
  | cons a as ih =>
    cases as with
    | nil =>
      rw [List.intercalate_singleton] at h
      exact ⟨a, List.mem_cons_self, h⟩
    | cons b bs =>
      rw [List.intercalate_cons_cons, List.append_assoc] at h
      rcases infix_or_infix_of_not_mem hc h with h | h
      · exact ⟨a, List.mem_cons_self, h⟩
      · obtain ⟨p, hp, h⟩ := ih h
        exact ⟨p, List.mem_cons_of_mem _ hp, h⟩

theorem infix_intercalate_of_mem {sep p : List α} {parts : List (List α)} (hp : p ∈ parts) :
    p <:+: sep.intercalate parts := by
  induction parts with
  | nil => cases hp
  | cons a as ih =>
    cases as with
    | nil =>
      rw [List.intercalate_singleton]
      exact List.mem_singleton.1 hp ▸ List.infix_rfl
    | cons b bs =>
      rw [List.intercalate_cons_cons]
      rcases List.mem_cons.1 hp with rfl | hp
      · exact (List.prefix_append _ _).isInfix.trans (List.prefix_append _ _).isInfix
      · exact (ih hp).trans (List.suffix_append _ _).isInfix

end Infixes

section Segments

variable {cs segment : List Char} {sep : Char}

theorem infix_of_mem_splitOn (h : segment ∈ cs.splitOn sep) : segment <:+: cs := by
  have hcs : [sep].intercalate (cs.splitOn sep) = cs := List.intercalate_splitOn sep
  rw [← hcs]
  exact infix_intercalate_of_mem h

theorem getLast?_splitOn (cs : List Char) (sep : Char) :
    (cs.splitOn sep).getLast? = some ((cs.splitOn sep).getLastD []) := by
  rw [List.getLastD_eq_getLast?, List.getLast?_eq_some_getLast (List.splitOn_ne_nil _ _)]
  rfl

theorem getLastD_splitOn_mem (cs : List Char) (sep : Char) :
    (cs.splitOn sep).getLastD [] ∈ cs.splitOn sep :=
  List.mem_of_getLast? (getLast?_splitOn cs sep)

theorem not_mem_of_mem_splitOn (h : segment ∈ cs.splitOn sep) : sep ∉ segment := by
  induction cs generalizing segment with
  | nil =>
    rw [List.splitOn_nil] at h
    rw [List.mem_singleton.1 h]
    exact List.not_mem_nil
  | cons c cs ih =>
    rw [List.splitOn_cons_eq_if_modifyHead] at h
    obtain ⟨first, rest, hsplit⟩ := List.exists_cons_of_ne_nil (List.splitOn_ne_nil sep cs)
    rw [hsplit] at h ih
    split at h
    · rcases List.mem_cons.1 h with rfl | h
      · exact List.not_mem_nil
      · exact ih h
    · next hc =>
      rcases List.mem_cons.1 h with rfl | h
      · refine mt List.mem_cons.1 (not_or.2 ⟨?_, ih List.mem_cons_self⟩)
        rintro rfl
        exact hc (beq_self_eq_true _)
      · exact ih (List.mem_cons_of_mem _ h)

end Segments

namespace Text

/-! ## Spellings -/

/-- Whether a word, given in small letters, stands in a text in some spelling. -/
def Holds (word cs : List Char) : Prop :=
  ∃ spelled, lowerAscii spelled = word ∧ spelled <:+: cs

variable {word cs ds before rest : List Char}

theorem Holds.of_infix (h : Holds word cs) (hcs : cs <:+: ds) : Holds word ds := by
  obtain ⟨spelled, hword, hinfix⟩ := h
  exact ⟨spelled, hword, hinfix.trans hcs⟩

theorem length_of_lowerAscii {spelled : List Char} (h : lowerAscii spelled = word) :
    spelled.length = word.length := by
  rw [← h, lowerAscii, List.length_map]

theorem Holds.length_le (h : Holds word cs) : word.length ≤ cs.length := by
  obtain ⟨spelled, hword, hinfix⟩ := h
  exact length_of_lowerAscii hword ▸ hinfix.length_le

theorem stripWord?_eq_some_iff :
    stripWord? word cs = some rest ↔
      ∃ spelled, lowerAscii spelled = word ∧ cs = spelled ++ rest := by
  constructor
  · intro h
    obtain ⟨spelled, hcs, hword⟩ := exists_of_stripWord? h
    exact ⟨spelled, hword, hcs⟩
  · rintro ⟨spelled, rfl, rfl⟩
    induction spelled with
    | nil => rfl
    | cons c spelled ih => exact (if_pos rfl).trans ih

theorem stripWord?_eq_none_iff :
    stripWord? word cs = none ↔ ∀ spelled, lowerAscii spelled = word → ¬ spelled <+: cs := by
  rw [Option.eq_none_iff_forall_ne_some]
  constructor
  · rintro h spelled hword ⟨rest, rfl⟩
    exact h rest (stripWord?_eq_some_iff.2 ⟨spelled, hword, rfl⟩)
  · intro h rest hrest
    obtain ⟨spelled, hword, rfl⟩ := stripWord?_eq_some_iff.1 hrest
    exact h spelled hword (List.prefix_append _ _)

theorem not_holds_cons_iff {c : Char} :
    ¬ Holds word (c :: cs) ↔ stripWord? word (c :: cs) = none ∧ ¬ Holds word cs := by
  rw [stripWord?_eq_none_iff]
  constructor
  · intro h
    exact ⟨fun spelled hword hp => h ⟨spelled, hword, hp.isInfix⟩,
      fun hcs => h (hcs.of_infix (List.suffix_cons c cs).isInfix)⟩
  · rintro ⟨hstrip, hcs⟩ ⟨spelled, hword, hinfix⟩
    rcases List.infix_cons_iff.1 hinfix with hp | hinfix
    · exact hstrip spelled hword hp
    · exact hcs ⟨spelled, hword, hinfix⟩

/-! ## The leftmost place -/

theorem splitFirst?_eq_none_iff (hword : word ≠ []) :
    splitFirst? (stripWord? word) cs = none ↔ ¬ Holds word cs := by
  induction cs with
  | nil =>
    refine iff_of_true rfl fun h => hword ?_
    exact List.eq_nil_of_length_eq_zero (Nat.le_zero.1 h.length_le)
  | cons c cs ih =>
    rw [not_holds_cons_iff, ← ih, splitFirst?]
    cases stripWord? word (c :: cs) with
    | none => simp
    | some rest => simp

theorem not_holds_dropLast {spelled : List Char} (hword : word ≠ [])
    (h : lowerAscii spelled = word) : ¬ Holds word spelled.dropLast := by
  intro hholds
  have hle := hholds.length_le
  have hlength := length_of_lowerAscii h
  have hpos := List.length_pos_iff.2 hword
  rw [List.length_dropLast] at hle
  omega

/-- Where no spelling stands before the end of a word, none begins before the word. -/
theorem stripWord?_eq_none_of_not_holds {spelled : List Char} (h : lowerAscii spelled = word)
    (hbefore : before ≠ []) (hnot : ¬ Holds word (before ++ spelled.dropLast)) :
    stripWord? word (before ++ (spelled ++ rest)) = none := by
  refine stripWord?_eq_none_iff.2 fun spelled' hspelled' hp => hnot ⟨spelled', hspelled', ?_⟩
  have hfront : before ++ spelled.dropLast <+: before ++ (spelled ++ rest) :=
    (List.prefix_append_right_inj before).2
      ((List.dropLast_prefix spelled).trans (List.prefix_append spelled rest))
  have hlength := length_of_lowerAscii h
  have hlength' := length_of_lowerAscii hspelled'
  have hpos := List.length_pos_iff.2 hbefore
  refine (List.prefix_of_prefix_length_le hp hfront ?_).isInfix
  rw [List.length_append, List.length_dropLast]
  omega

theorem splitFirst?_append {spelled : List Char} (hword : word ≠ [])
    (h : lowerAscii spelled = word) (hnot : ¬ Holds word (before ++ spelled.dropLast)) :
    splitFirst? (stripWord? word) (before ++ (spelled ++ rest)) = some (before, rest) := by
  induction before with
  | nil =>
    have hstrip : stripWord? word (spelled ++ rest) = some rest :=
      stripWord?_eq_some_iff.2 ⟨spelled, h, rfl⟩
    cases spelled with
    | nil => exact absurd h.symm hword
    | cons c spelled =>
      rw [List.cons_append] at hstrip
      rw [List.nil_append, List.cons_append, splitFirst?, hstrip]
  | cons b before ih =>
    have hstrip : stripWord? word (b :: before ++ (spelled ++ rest)) = none :=
      stripWord?_eq_none_of_not_holds h (List.cons_ne_nil b before) hnot
    rw [List.cons_append] at hstrip
    rw [List.cons_append, splitFirst?, hstrip, ih (not_holds_cons_iff.1 hnot).2]
    rfl

theorem exists_of_splitFirst? (hword : word ≠ [])
    (h : splitFirst? (stripWord? word) cs = some (before, rest)) :
    ∃ spelled, lowerAscii spelled = word ∧ cs = before ++ (spelled ++ rest) ∧
      ¬ Holds word (before ++ spelled.dropLast) := by
  induction cs generalizing before with
  | nil => cases h
  | cons c cs ih =>
    rw [splitFirst?] at h
    cases hstrip : stripWord? word (c :: cs) with
    | some rest' =>
      rw [hstrip] at h
      cases h
      obtain ⟨spelled, hspelled, hcs⟩ := stripWord?_eq_some_iff.1 hstrip
      exact ⟨spelled, hspelled, hcs, not_holds_dropLast hword hspelled⟩
    | none =>
      rw [hstrip] at h
      obtain ⟨⟨before', rest'⟩, hcut, he⟩ := Option.map_eq_some_iff.1 h
      cases he
      obtain ⟨spelled, hspelled, rfl, hnot⟩ := ih hcut
      refine ⟨spelled, hspelled, rfl, not_holds_cons_iff.2 ⟨?_, hnot⟩⟩
      -- a match at the front of less is a match at the front of all
      refine stripWord?_eq_none_iff.2 fun spelled' hspelled' hp => ?_
      refine stripWord?_eq_none_iff.1 hstrip spelled' hspelled' (hp.trans ?_)
      refine (List.prefix_append_right_inj (c :: before')).2 ?_
      exact (List.dropLast_prefix spelled).trans (List.prefix_append spelled _)

/-- A text is cut at the leftmost place of a word. -/
theorem splitFirst?_eq_some_iff (hword : word ≠ []) :
    splitFirst? (stripWord? word) cs = some (before, rest) ↔
      ∃ spelled, lowerAscii spelled = word ∧ cs = before ++ (spelled ++ rest) ∧
        ¬ Holds word (before ++ spelled.dropLast) := by
  refine ⟨exists_of_splitFirst? hword, ?_⟩
  rintro ⟨spelled, hspelled, rfl, hnot⟩
  exact splitFirst?_append hword hspelled hnot

/-! ## Ends -/

theorem trim_infix (cs : List Char) : trim cs <:+: cs := by
  have hback : trim cs <+: cs.dropWhile isBlank := by
    have hsuffix := List.dropWhile_suffix isBlank (l := (cs.dropWhile isBlank).reverse)
    rw [← List.reverse_prefix, List.reverse_reverse] at hsuffix
    exact hsuffix
  exact hback.isInfix.trans (List.dropWhile_suffix isBlank).isInfix

/-- Nothing is cut off a text whose ends are visible. -/
theorem trim_eq_self (hfirst : ∀ c ∈ cs.head?, isBlank c = false)
    (hlast : ∀ c ∈ cs.getLast?, isBlank c = false) : trim cs = cs := by
  have hkept : ∀ {l : List Char}, (∀ c ∈ l.head?, isBlank c = false) →
      l.dropWhile isBlank = l := by
    intro l hl
    cases l with
    | nil => rfl
    | cons c l => exact List.dropWhile_cons_of_neg (by simp [hl c rfl])
  rw [trim, hkept hfirst, hkept (by rwa [List.head?_reverse]), List.reverse_reverse]

end Text

/-! ## Aliases -/

/-- Whether a reference has an alias. -/
def Aliased (cs : List Char) : Prop :=
  Text.Holds [' ', 'a', 's', ' '] cs

variable {cs name label : List Char}

theorem Text.eq_blank_of_toLower {c : Char} (h : c.toLower = ' ') : c = ' ' := by
  unfold Char.toLower at h
  split at h
  · next hc =>
    have hval : c.val + 32 = 32 := congrArg Char.val h
    have hlow : 65 ≤ c.val := hc.1
    grind
  · exact h

/-- The keyword begins with a blank in every spelling. -/
theorem head?_of_spelled {spelled : List Char}
    (h : Text.lowerAscii spelled = [' ', 'a', 's', ' ']) : spelled.head? = some ' ' := by
  cases spelled with
  | nil => cases h
  | cons c spelled =>
    rw [Text.eq_blank_of_toLower (List.cons.inj h).1]
    rfl

/-- A character that is no letter of the keyword stands in no spelling of it. -/
theorem not_mem_of_spelled {spelled : List Char} {c : Char}
    (h : Text.lowerAscii spelled = [' ', 'a', 's', ' ']) (hc : c.toLower ∉ [' ', 'a', 's', ' ']) :
    c ∉ spelled :=
  fun hmem => hc (h ▸ List.mem_map_of_mem hmem)

theorem Aliased.blank_mem (h : Aliased cs) : ' ' ∈ cs := by
  obtain ⟨spelled, hspelled, hinfix⟩ := h
  exact hinfix.subset (List.mem_of_mem_head? (head?_of_spelled hspelled))

theorem cutAlias?_eq_none_iff : cutAlias? cs = none ↔ ¬ Aliased cs := by
  rw [cutAlias?, Option.map_eq_none_iff]
  exact Text.splitFirst?_eq_none_iff (List.cons_ne_nil _ _)

/-- The name and the alias of a reference stand in it. -/
theorem infix_of_cutAlias? (h : cutAlias? cs = some (name, label)) :
    name <:+: cs ∧ label <:+: cs := by
  obtain ⟨⟨before, rest⟩, hcut, he⟩ := Option.map_eq_some_iff.1 h
  cases he
  obtain ⟨spelled, -, rfl, -⟩ := Text.exists_of_splitFirst? (List.cons_ne_nil _ _) hcut
  constructor
  · exact (Text.trim_infix before).trans (List.prefix_append _ _).isInfix
  · exact (Text.trim_infix rest).trans
      ((List.suffix_append _ _).trans (List.suffix_append _ _)).isInfix

/-- The name before an alias has none. -/
theorem not_aliased_of_cutAlias? (h : cutAlias? cs = some (name, label)) : ¬ Aliased name := by
  obtain ⟨⟨before, rest⟩, hcut, he⟩ := Option.map_eq_some_iff.1 h
  cases he
  obtain ⟨spelled, -, -, hnot⟩ := Text.exists_of_splitFirst? (List.cons_ne_nil _ _) hcut
  exact fun hname => hnot (hname.of_infix
    ((Text.trim_infix before).trans (List.prefix_append _ _).isInfix))

theorem cutAlias?_append {spelled : List Char} (h : Text.lowerAscii spelled = [' ', 'a', 's', ' '])
    (hnot : ¬ Aliased (name ++ spelled.dropLast)) :
    cutAlias? (name ++ (spelled ++ label)) = some (Text.trim name, Text.trim label) := by
  rw [cutAlias?, Text.splitFirst?_append (List.cons_ne_nil _ _) h hnot]
  rfl

/-- A text that ends in no letter of the keyword gets no alias from fewer characters than the
keyword has. -/
theorem not_aliased_append {c : Char} {more : List Char} (h : ¬ Aliased cs)
    (hlast : cs.getLast? = some c) (hc : c.toLower ∉ [' ', 'a', 's', ' '])
    (hmore : more.length < 4) : ¬ Aliased (cs ++ more) := by
  rintro ⟨spelled, hspelled, hinfix⟩
  obtain ⟨front, rfl⟩ := List.getLast?_eq_some_iff.1 hlast
  rw [List.append_assoc, List.singleton_append] at hinfix
  rcases infix_or_infix_of_not_mem (not_mem_of_spelled hspelled hc) hinfix with hfront | hbehind
  · exact h ⟨spelled, hspelled, hfront.trans (List.prefix_append _ _).isInfix⟩
  · have hle := hbehind.length_le
    rw [Text.length_of_lowerAscii hspelled] at hle
    exact absurd hle (Nat.not_le.2 hmore)

end SqlBuilder
