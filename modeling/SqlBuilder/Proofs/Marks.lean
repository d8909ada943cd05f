import SqlBuilder.Proofs.Characters
import SqlBuilder.Proofs.Rewriting

/-!
# Question marks

A statement shows its bound values as question marks. `fill` writes texts in the place of the marks
of a statement, the first text for the first mark and so on. A piece is `Marked` if it has as many
marks as it binds values. Of a statement of such pieces the marks stand for the values bound by it,
one by one and in order: filled with texts for these values, the statement is the one that has the
texts as raw values from the start (`Sql.fill_text`).

`Vocabulary.marked` are the names, values and verbatim predicates out of which only such pieces are
made, for every dialect (`Vocabulary.marked_fits`).
-/

namespace SqlBuilder

/-- The number of question marks in a text. -/
def marks (s : String) : Nat :=
  s.toList.count '?'

/-- A text without a question mark. -/
def MarkFree (s : String) : Prop :=
  '?' ∉ s.toList

instance (s : String) : Decidable (MarkFree s) :=
  inferInstanceAs (Decidable ('?' ∉ s.toList))

/-- Characters with the question marks among them replaced by texts, one after the other. A mark for
which there is no text is left. -/
def fillMarks : List Char → List String → List Char
  | [], _ => []
  | c :: cs, [] => c :: fillMarks cs []
  | c :: cs, x :: xs =>
    if c = '?' then x.toList ++ fillMarks cs xs else c :: fillMarks cs (x :: xs)

/-- A text with its question marks replaced by texts, one after the other. -/
def fill (s : String) (xs : List String) : String :=
  String.ofList (fillMarks s.toList xs)

theorem fillMarks_nil (cs : List Char) : fillMarks cs [] = cs := by
  induction cs with
  | nil => rfl
  | cons c cs ih => rw [fillMarks, ih]

/-- Two parts are filled apart if the first one takes the texts that are meant for it. -/
theorem fillMarks_append (ds : List Char) (ys : List String) :
    ∀ {cs : List Char} {xs : List String}, cs.count '?' = xs.length →
      fillMarks (cs ++ ds) (xs ++ ys) = fillMarks cs xs ++ fillMarks ds ys := by
  intro cs
  induction cs with
  | nil =>
    -- no text is left when the first part ends
    intro xs h
    rw [List.length_eq_zero_iff.1 h.symm]
    rfl
  | cons c cs ih =>
    intro xs h
    by_cases hc : c = '?'
    · subst hc
      rw [List.count_cons_self] at h
      cases xs with
      | nil => cases h
      | cons x xs =>
        have htail := ih (Nat.succ.inj h)
        simp only [List.cons_append, fillMarks, ↓reduceIte, htail, List.append_assoc]
    · rw [List.count_cons_of_ne hc] at h
      have htail := ih h
      cases xs with
      | cons x xs =>
        rw [List.cons_append] at htail
        simp only [List.cons_append, fillMarks, hc, ↓reduceIte, htail]
      | nil =>
        cases ys with
        | nil => simp only [List.append_nil, fillMarks_nil]
        | cons y ys =>
          rw [List.nil_append] at htail
          simp only [List.cons_append, List.nil_append, fillMarks, hc, ↓reduceIte, htail]

@[simp]
theorem fill_nil (s : String) : fill s [] = s := by
  rw [fill, fillMarks_nil, String.ofList_toList]

/-- Marks that are put in the place of marks change nothing. -/
theorem fill_replicate (s : String) : fill s (List.replicate (marks s) "?") = s := by
  have key (cs : List Char) : fillMarks cs (List.replicate (cs.count '?') "?") = cs := by
    induction cs with
    | nil => rfl
    | cons c cs ih =>
      by_cases hc : c = '?'
      · subst hc
        rw [List.count_cons_self, List.replicate_succ, fillMarks, if_pos rfl, ih]
        rfl
      · rw [List.count_cons_of_ne hc]
        cases hcount : cs.count '?' with
        | zero => exact fillMarks_nil (c :: cs)
        | succ n =>
          rw [hcount, List.replicate_succ] at ih
          rw [List.replicate_succ, fillMarks, if_neg hc, ih]
  rw [fill, marks, key, String.ofList_toList]

theorem fill_append {s t : String} {xs ys : List String} (h : marks s = xs.length) :
    fill (s ++ t) (xs ++ ys) = fill s xs ++ fill t ys := by
  rw [fill, String.toList_append, fillMarks_append _ _ h, String.ofList_append]
  rfl

@[simp]
theorem marks_append (s t : String) : marks (s ++ t) = marks s + marks t := by
  rw [marks, String.toList_append, List.count_append]
  rfl

theorem marks_eq_zero {s : String} : marks s = 0 ↔ MarkFree s :=
  List.count_eq_zero

theorem markFree_of_isPlain {s : String} (h : s.toList.all isPlain = true) : MarkFree s := by
  intro hmem
  have := List.all_eq_true.1 h _ hmem
  exact absurd this (by decide)

/-! ## Statements -/

/-- A piece with as many marks as it binds values. -/
def Piece.Marked (p : Piece) : Prop :=
  marks p.sql = p.bindings.length

/-- The rewriting that writes values into the statement: a value becomes the raw value of its text,
and a verbatim predicate is filled with the texts of its values. -/
def Rewriting.inlining (lit : Value → String) : Rewriting where
  value v := if v.isRaw then v else .raw (lit v)
  fragment sql values :=
    (fill sql ((Value.bound values).map lit),
      values.map fun v => if v.isRaw then v else .raw (lit v))

theorem Piece.marked_text {s : String} : (Piece.text s).Marked ↔ MarkFree s :=
  marks_eq_zero

theorem Piece.marked_param {v : Value} (h : ∀ sql ∈ v.raw?, MarkFree sql) :
    (Piece.param v).Marked := by
  have hmark : marks "?" = 1 := by decide
  unfold Marked
  cases v with
  | raw sql => exact marks_eq_zero.2 (h sql rfl)
  | _ => exact hmark

/-- A piece filled with the texts of its values. -/
theorem Piece.fill_sql (lit : Value → String) (p : Piece) :
    fill p.sql (p.bindings.map lit) = (p.rewrite (.inlining lit)).sql := by
  cases p with
  | text sql => exact fill_nil sql
  | fragment sql values => rfl
  | param v =>
    have hmark : fill "?" [lit v] = lit v := by
      simp [fill, fillMarks]
    cases v with
    | raw sql => exact fill_nil sql
    | _ => exact hmark

namespace Sql

theorem text_cons (p : Piece) (s : Sql) : text (p :: s) = p.sql ++ text s := by
  apply String.toList_inj.1
  simp [text, String.toList_join]

theorem bindings_cons (p : Piece) (s : Sql) : bindings (p :: s) = p.bindings ++ bindings s :=
  List.flatMap_cons

/-- A statement of marked pieces has as many marks as it binds values. -/
theorem marks_text {s : Sql} (h : ∀ p ∈ s, p.Marked) : marks s.text = s.bindings.length := by
  induction s with
  | nil => rfl
  | cons p s ih =>
    have hp : marks p.sql = p.bindings.length := h p List.mem_cons_self
    have hs := ih fun x hx => h x (List.mem_cons_of_mem _ hx)
    rw [text_cons, bindings_cons, marks_append, List.length_append, hp, hs]

/-- The marks of a statement of marked pieces stand for the values that it binds. -/
theorem fill_text (lit : Value → String) {s : Sql} (h : ∀ p ∈ s, p.Marked) :
    fill s.text (s.bindings.map lit) = (s.rewrite (.inlining lit)).text := by
  induction s with
  | nil => rfl
  | cons p s ih =>
    have hp : marks p.sql = (p.bindings.map lit).length := by
      rw [List.length_map]
      exact h p List.mem_cons_self
    have hs := ih fun x hx => h x (List.mem_cons_of_mem _ hx)
    rw [text_cons, bindings_cons, List.map_append, fill_append hp, hs, Piece.fill_sql]
    exact (text_cons _ _).symm

/-- The marks of a statement but the first ones stand for values: with texts for these values in
their place it reads as another statement. -/
structure Fills (lit : Value → String) (kept : Nat) (values : List Value) (s inlined : Sql) :
    Prop where
  marks : marks s.text = kept + values.length
  fill : fill s.text (List.replicate kept "?" ++ values.map lit) = inlined.text

/-- The marks in texts at the front are kept. -/
theorem fills_append {head body : Sql} (hhead : ∀ p ∈ head, p.IsText)
    (hbody : ∀ p ∈ body, p.Marked) (lit : Value → String) :
    Fills lit (SqlBuilder.marks head.text) body.bindings (head ++ body)
      ((head ++ body).rewrite (.inlining lit)) where
  marks := by rw [text_append, marks_append, marks_text hbody]
  fill := by
    rw [text_append, fill_append (by rw [List.length_replicate]), fill_replicate,
      fill_text lit hbody, rewrite_append, rewrite_of_isText hhead, text_append]

end Sql

/-! ## What makes marked pieces -/

/-- Names and raw values without marks, and verbatim predicates with a mark for each value that is
bound. -/
def Vocabulary.marked : Vocabulary where
  table := MarkFree
  column := MarkFree
  expression := MarkFree
  value v := ∀ sql ∈ v.raw?, MarkFree sql
  fragment sql values := marks sql = (Value.bound values).length

theorem Target.mark_not_mem_punctuation (t : Target) : '?' ∉ t.naming.punctuation := by
  obtain ⟨dialect, tablePrefix⟩ := t
  cases dialect <;> simp [naming, Naming.punctuation, Dialect.quotes]

theorem Piece.marked_textClass : TextClass Piece.Marked where
  append ha hb := by
    simp only [marked_text, ← marks_eq_zero] at ha hb ⊢
    rw [marks_append, ha, hb]
  plain hs := marked_text.2 (markFree_of_isPlain hs)

section

variable {t : Target} (h : MarkFree t.tablePrefix)

include h in
theorem Target.markFree_reference {name : String} (hn : MarkFree name) :
    MarkFree (t.naming.reference name) := fun hmem =>
  (Naming.mem_of_mem_reference t.mark_not_mem_punctuation hmem).elim hn h

include h in
theorem Target.markFree_table {name : String} (hn : MarkFree name) :
    MarkFree (t.naming.table name) := fun hmem =>
  (Naming.mem_of_mem_table t.mark_not_mem_punctuation hmem).elim hn h

include h in
theorem Vocabulary.marked_fits : Vocabulary.marked.Fits t Piece.Marked where
  toTextClass := Piece.marked_textClass
  table hn := Piece.marked_text.2 (Target.markFree_table h hn)
  column hn := Piece.marked_text.2 (Target.markFree_reference h hn)
  unqualified _ hn := Piece.marked_text.2 (Target.markFree_reference h fun hmem =>
    hn (mem_of_mem_unqualified hmem))
  own name hn := by
    have free : ∀ name ∈ Target.ownNames, MarkFree name := by decide
    exact Piece.marked_text.2 (Target.markFree_reference h (free name hn))
  expression hs := Piece.marked_text.2 hs
  value hv := Piece.marked_param hv
  fragment hf := hf

end

end SqlBuilder
