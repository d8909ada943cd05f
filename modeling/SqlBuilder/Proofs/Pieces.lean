import SqlBuilder.Placeholder
import SqlBuilder.Query.Write

/-!
# The pieces of a statement

What the operators that put statements together do to the pieces, and to the values bound by them.
Most statements about a whole statement say the same of each of its pieces, so the lemmas here have
the form `∀ p ∈ s, P p`, for a property `P` of pieces that has every text of keywords and is kept
when texts are put together (`TextClass`).
-/

namespace SqlBuilder

/-- Whether a character neither marks a parameter nor opens a quotation. -/
def isPlain (c : Char) : Bool :=
  c ≠ '?' && !Placeholder.isQuote c

theorem isPlain_of_isDigit {c : Char} (h : c.isDigit = true) : isPlain c = true := by
  simp only [isPlain, Placeholder.isQuote, Bool.and_eq_true, Bool.not_eq_true',
    Bool.or_eq_false_iff, decide_eq_false_iff_not, ne_eq, decide_not]
  refine ⟨?_, ?_, ?_⟩ <;> rintro rfl <;> exact absurd h (by decide)

theorem toList_toString (n : Nat) : (toString n).toList = Nat.toDigits 10 n := by
  simp [Nat.repr]

theorem isDigit_of_mem_toString {n : Nat} {c : Char} (h : c ∈ (toString n).toList) :
    c.isDigit = true := by
  rw [toList_toString] at h
  exact Nat.isDigit_of_mem_toDigits (by decide) (by decide) h

theorem intercalate_append {α : Type} {sep : List α} {parts more : List (List α)}
    (hp : parts ≠ []) (hm : more ≠ []) :
    sep.intercalate (parts ++ more) = sep.intercalate parts ++ sep ++ sep.intercalate more := by
  induction parts with
  | nil => exact absurd rfl hp
  | cons a as ih =>
    cases as with
    | nil =>
      cases more with
      | nil => exact absurd rfl hm
      | cons b bs => simp [List.intercalate_cons_cons]
    | cons b bs =>
      have htail := ih (List.cons_ne_nil b bs)
      simp only [List.cons_append, List.intercalate_cons_cons, List.append_assoc] at htail ⊢
      rw [htail]

theorem suffix_intercalate_concat {α : Type} {sep last : List α} {parts : List (List α)} :
    last <:+ sep.intercalate (parts ++ [last]) := by
  cases parts with
  | nil => simp
  | cons a parts =>
    rw [intercalate_append (List.cons_ne_nil a parts) (List.cons_ne_nil last []),
      List.intercalate_singleton]
    exact List.suffix_append _ _

/-- A property of pieces that holds of plain texts and is kept when texts are put together. -/
structure TextClass (P : Piece → Prop) : Prop where
  append : ∀ {a b : String}, P (.text a) → P (.text b) → P (.text (a ++ b))
  plain : ∀ {s : String}, s.toList.all isPlain = true → P (.text s)

/-- Being a text. -/
def Piece.IsText (p : Piece) : Prop :=
  ∃ s, p = .text s

namespace TextClass

variable {P : Piece → Prop} (h : TextClass P)

theorem isText : TextClass Piece.IsText where
  append _ _ := ⟨_, rfl⟩
  plain _ := ⟨_, rfl⟩

include h in
/-- A part of a text behind plain words. -/
theorem behind {part : String} (words : String) (hwords : words.toList.all isPlain = true)
    (hpart : P (.text part)) : P (.text (words ++ part)) :=
  h.append (h.plain hwords) hpart

include h in
/-- Two parts of a text with plain words between them. -/
theorem between {left right : String} (words : String) (hwords : words.toList.all isPlain = true)
    (hleft : P (.text left)) (hright : P (.text right)) : P (.text (left ++ words ++ right)) :=
  h.append (h.append hleft (h.plain hwords)) hright

include h in
/-- A part of a text before plain words. -/
theorem before {part : String} (words : String) (hwords : words.toList.all isPlain = true)
    (hpart : P (.text part)) : P (.text (part ++ words)) :=
  h.append hpart (h.plain hwords)

include h in
theorem intercalate {sep : String} {parts : List String} (hsep : P (.text sep))
    (hparts : ∀ s ∈ parts, P (.text s)) : P (.text (sep.intercalate parts)) := by
  induction parts with
  | nil =>
    rw [String.intercalate_nil]
    exact h.plain (by decide)
  | cons a as ih =>
    cases as with
    | nil => simpa using hparts a List.mem_cons_self
    | cons b bs =>
      rw [String.intercalate_cons_cons]
      refine h.append (h.append (hparts a List.mem_cons_self) hsep) (ih fun s hs => ?_)
      exact hparts s (List.mem_cons_of_mem _ hs)

include h in
theorem ofNat (n : Nat) : P (.text (toString n)) := by
  exact h.plain (List.all_eq_true.2 fun c hc => isPlain_of_isDigit (isDigit_of_mem_toString hc))

include h in
theorem ofInt (n : Int) : P (.text (toString n)) := by
  cases n with
  | ofNat n => exact h.ofNat n
  | negSucc n => exact h.append (h.plain (by decide)) (h.ofNat (n + 1))

end TextClass

theorem Value.flatMap_bound {α : Type} (f : α → Value) (xs : List α) :
    xs.flatMap (fun x => bound [f x]) = bound (xs.map f) := by
  induction xs with
  | nil => rfl
  | cons x xs ih =>
    rw [List.flatMap_cons, ih, ← bound_append]
    rfl

theorem Value.placeholder_eq {v : Value} (h : v.isRaw = false) : v.placeholder = "?" := by
  cases v with
  | raw sql => cases h
  | _ => rfl

namespace Sql

variable {P : Piece → Prop}

theorem forall_mem_lit {s : String} (h : P (.text s)) : ∀ p ∈ lit s, P p := by
  intro p hp
  rw [lit, List.mem_singleton] at hp
  exact hp ▸ h

theorem forall_mem_append {s t : Sql} (hs : ∀ p ∈ s, P p) (ht : ∀ p ∈ t, P p) :
    ∀ p ∈ s ++ t, P p := by
  intro p hp
  rcases List.mem_append.1 hp with hp | hp
  · exact hs p hp
  · exact ht p hp

theorem joined_cons_cons (sep : String) (a b : Sql) (parts : List Sql) :
    joined sep (a :: b :: parts) = a ++ lit sep ++ joined sep (b :: parts) := by
  simp [joined, List.intercalate_cons_cons]

@[simp]
theorem joined_singleton (sep : String) (a : Sql) : joined sep [a] = a := by
  simp [joined]

theorem infix_joined (sep : String) {parts : List Sql} {s : Sql} (h : s ∈ parts) :
    s <:+: joined sep parts := by
  induction parts with
  | nil => cases h
  | cons a as ih =>
    cases as with
    | nil =>
      obtain rfl := List.mem_singleton.1 h
      exact (joined_singleton sep s).symm ▸ List.infix_refl s
    | cons b bs =>
      rw [joined_cons_cons]
      rcases List.mem_cons.1 h with rfl | h
      · rw [List.append_assoc]
        exact (List.prefix_append s _).isInfix
      · exact (ih h).trans (List.suffix_append _ _).isInfix

/-- Each clause stands in the statement. -/
theorem infix_clauses {parts : List Sql} {s : Sql} (h : s ∈ parts) : s <:+: clauses parts := by
  cases s with
  | nil => exact List.nil_infix
  | cons p s => exact infix_joined " " (List.mem_filter.2 ⟨h, rfl⟩)

theorem forall_mem_joined {sep : String} {parts : List Sql} (hsep : P (.text sep))
    (hparts : ∀ s ∈ parts, ∀ p ∈ s, P p) : ∀ p ∈ joined sep parts, P p := by
  induction parts with
  | nil => intro p hp; cases hp
  | cons a as ih =>
    have ha := hparts a List.mem_cons_self
    cases as with
    | nil => simpa using ha
    | cons b bs =>
      rw [joined_cons_cons]
      refine forall_mem_append (forall_mem_append ha (forall_mem_lit hsep)) (ih fun s hs => ?_)
      exact hparts s (List.mem_cons_of_mem _ hs)

theorem forall_mem_clauses {parts : List Sql} (h : TextClass P)
    (hparts : ∀ s ∈ parts, ∀ p ∈ s, P p) : ∀ p ∈ clauses parts, P p :=
  forall_mem_joined (h.plain (by decide)) fun s hs => hparts s (List.mem_filter.1 hs).1

theorem forall_mem_params {values : List Value} (h : TextClass P)
    (hvalues : ∀ v ∈ values, P (.param v)) : ∀ p ∈ params values, P p := by
  refine forall_mem_joined (h.plain (by decide)) fun s hs p hp => ?_
  obtain ⟨v, hv, rfl⟩ := List.mem_map.1 hs
  exact List.mem_singleton.1 hp ▸ hvalues v hv

/-- Texts bind nothing. -/
theorem bindings_of_isText {s : Sql} (h : ∀ p ∈ s, p.IsText) : bindings s = [] := by
  rw [bindings, List.flatMap_eq_nil_iff]
  intro p hp
  obtain ⟨x, rfl⟩ := h p hp
  rfl

@[simp]
theorem bindings_param (v : Value) : bindings [.param v] = Value.bound [v] := by
  simp [bindings, Piece.bindings]

@[simp]
theorem bindings_joined (sep : String) (parts : List Sql) :
    bindings (joined sep parts) = parts.flatMap bindings := by
  induction parts with
  | nil => rfl
  | cons a as ih =>
    cases as with
    | nil => simp
    | cons b bs => simp [joined_cons_cons, ih]

@[simp]
theorem bindings_params (values : List Value) : bindings (params values) = Value.bound values := by
  simp only [params, bindings_joined, List.flatMap_map, bindings_param]
  rw [Value.flatMap_bound, List.map_id']

@[simp]
theorem bindings_clauses (parts : List Sql) :
    bindings (clauses parts) = parts.flatMap bindings := by
  rw [clauses, bindings_joined]
  induction parts with
  | nil => rfl
  | cons a as ih =>
    cases a with
    | nil => simpa [bindings] using ih
    | cons p ps => simp [ih]

end Sql

namespace Linked

theorem forall_mem_chain {P : Piece → Prop} (h : TextClass P) {items : List (Linked Sql)}
    (hitems : ∀ l ∈ items, ∀ p ∈ l.item, P p) : ∀ p ∈ chain items, P p := by
  cases items with
  | nil => intro p hp; cases hp
  | cons first rest =>
    refine Sql.forall_mem_joined (h.plain (by decide)) fun s hs => ?_
    rcases List.mem_cons.1 hs with rfl | hs
    · exact hitems first List.mem_cons_self
    · obtain ⟨l, hl, rfl⟩ := List.mem_map.1 hs
      have hc : P (.text (l.connector.sql ++ " ")) := by
        refine h.plain ?_
        cases l.connector <;> decide
      exact Sql.forall_mem_append (Sql.forall_mem_lit hc) (hitems l (List.mem_cons_of_mem _ hl))

@[simp]
theorem bindings_chain (items : List (Linked Sql)) :
    (chain items).bindings = items.flatMap (·.item.bindings) := by
  cases items with
  | nil => rfl
  | cons first rest => simp [chain, List.flatMap_map]

end Linked

namespace Target

theorem forall_mem_behind {P : Piece → Prop} (h : TextClass P) {keyword : String} {clause : Sql}
    (hkeyword : keyword.toList.all isPlain = true) (hclause : ∀ p ∈ clause, P p) :
    ∀ p ∈ behind keyword clause, P p := by
  unfold behind
  split
  · intro p hp; cases hp
  · refine Sql.forall_mem_append (Sql.forall_mem_lit ?_) hclause
    exact h.append (h.plain hkeyword) (h.plain (by decide))

@[simp]
theorem bindings_behind (keyword : String) (clause : Sql) :
    (behind keyword clause).bindings = clause.bindings := by
  unfold behind
  split
  · next he => rw [List.isEmpty_iff.1 he]
  · simp

end Target

end SqlBuilder
