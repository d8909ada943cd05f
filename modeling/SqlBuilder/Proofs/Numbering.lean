import SqlBuilder.Proofs.Parameters
import SqlBuilder.Proofs.QuestionMarks

/-!
# Numbered statements

Postgres numbers the parameters of a statement by reading its text. Where all names are written
between quotes and nothing is verbatim, the pieces of a statement are inert texts and bound values,
so that the reader finds a parameter where a value is bound and nowhere else: the parts of the text
stand between its values (`Sql.showing_eq`). Numbering shows the statement with `$1`, `$2` and so on
in the place of its values, whatever the names hold, exactly if there are no more of them than can
be counted (`Query.number_select`).
-/

namespace SqlBuilder

/-! ## Statements shown with other texts for their values -/

/-- Whether a piece is a bound value. -/
def Piece.isParameter : Piece → Bool
  | .text _ => false
  | .fragment _ _ => false
  | .param v => !v.isRaw

/-- The text of a statement with texts in the place of its bound values, one after the other. Marks
inside verbatim SQL are left alone. -/
def Sql.showing : Sql → List String → String
  | [], _ => ""
  | p :: s, [] => p.sql ++ Sql.showing s []
  | p :: s, x :: xs =>
    if p.isParameter then x ++ Sql.showing s xs else p.sql ++ Sql.showing s (x :: xs)

namespace Sql

open Placeholder (Parts)

theorem showing_cons_of_text (sql : String) (s : Sql) (xs : List String) :
    showing (.text sql :: s) xs = sql ++ showing s xs := by
  cases xs <;> rfl

theorem countP_cons_of_text (sql : String) (s : Sql) :
    List.countP Piece.isParameter (.text sql :: s) = s.countP Piece.isParameter :=
  List.countP_cons_of_neg (by simp [Piece.isParameter])

variable {v : Value} (hv : v.isRaw = false)

include hv in
theorem showing_cons_of_param (s : Sql) (x : String) (xs : List String) :
    showing (.param v :: s) (x :: xs) = x ++ showing s xs := by
  simp [showing, Piece.isParameter, hv]

include hv in
theorem countP_cons_of_param (s : Sql) :
    List.countP Piece.isParameter (.param v :: s) = s.countP Piece.isParameter + 1 :=
  List.countP_cons_of_pos (by simp [Piece.isParameter, hv])

/-- The parts of a statement of inert pieces stand between its values, and other texts in the place
of the values are shown between them. -/
theorem showing_eq {s : Sql} (h : ∀ p ∈ s, p.Inert) {xs : List String}
    (hxs : xs.length = s.countP Piece.isParameter) :
    (Parts.cut none s.text.toList).rest.length = s.countP Piece.isParameter ∧
      (s.showing xs).toList = (Parts.cut none s.text.toList).showing xs := by
  induction s generalizing xs with
  | nil =>
    obtain rfl := List.length_eq_zero_iff.1 hxs
    exact ⟨rfl, rfl⟩
  | cons p s ih =>
    obtain ⟨hp, hs⟩ := List.forall_mem_cons.1 h
    cases p with
    | text sql =>
      obtain ⟨hclosed, hunmarked⟩ := hp
      rw [countP_cons_of_text] at hxs ⊢
      obtain ⟨hlength, hshowing⟩ := ih hs hxs
      rw [text_cons, String.toList_append, Piece.sql, Parts.cut_append hunmarked, hclosed,
        showing_cons_of_text, String.toList_append, hshowing, Parts.showing, Parts.showing,
        List.append_assoc]
      exact ⟨hlength, rfl⟩
    | fragment sql values => exact hp.elim
    | param v =>
      have htext : (text (.param v :: s)).toList = '?' :: (text s).toList := by
        rw [text_cons, Piece.sql, Value.placeholder_eq hp, String.toList_append]
        rfl
      have hcut : Parts.cut none (text (.param v :: s)).toList =
          (Parts.cut none (text s).toList).behindMark := by
        rw [htext]
        rfl
      rw [countP_cons_of_param hp] at hxs ⊢
      cases xs with
      | nil => cases hxs
      | cons x xs =>
        obtain ⟨hlength, hshowing⟩ := ih hs (Nat.succ.inj hxs)
        rw [hcut, showing_cons_of_param hp, Parts.showing_behindMark, String.toList_append,
          hshowing]
        exact ⟨congrArg (· + 1) hlength, rfl⟩

/-- A statement of inert pieces is numbered value by value, exactly if its values can be counted. -/
theorem number_text_iff {s : Sql} (h : ∀ p ∈ s, p.Inert) :
    Placeholder.number s.text =
        s.showing (Placeholder.numbers 0 (s.countP Piece.isParameter)) ↔
      s.countP Piece.isParameter < 2 ^ 31 := by
  obtain ⟨hlength, hshowing⟩ := showing_eq h (Placeholder.length_numbers 0 _)
  rw [← String.toList_inj, hshowing, Placeholder.number_eq_showing, String.toList_ofList, ← hlength]
  exact Parts.showing_written_iff _

theorem showing_replicate {s : Sql} (h : ∀ p ∈ s, p.Inert) :
    s.showing (List.replicate (s.countP Piece.isParameter) "?") = s.text := by
  induction s with
  | nil => rfl
  | cons p s ih =>
    obtain ⟨hp, hs⟩ := List.forall_mem_cons.1 h
    cases p with
    | text sql =>
      rw [countP_cons_of_text, showing_cons_of_text, ih hs, text_cons]
      rfl
    | fragment sql values => exact hp.elim
    | param v =>
      rw [countP_cons_of_param hp, List.replicate_succ, showing_cons_of_param hp, ih hs, text_cons,
        Piece.sql, Value.placeholder_eq hp]

theorem length_bindings {s : Sql} (h : ∀ p ∈ s, p.Inert) :
    s.bindings.length = s.countP Piece.isParameter := by
  induction s with
  | nil => rfl
  | cons p s ih =>
    obtain ⟨hp, hs⟩ := List.forall_mem_cons.1 h
    have hpiece : p.bindings.length = if p.isParameter then 1 else 0 := by
      cases p with
      | text sql => rfl
      | fragment sql values => exact hp.elim
      | param v =>
        have hv : v.isRaw = false := hp
        simp [Piece.bindings, Piece.isParameter, Value.bound, hv]
    rw [bindings_cons, List.length_append, hpiece, ih hs, List.countP_cons, Nat.add_comm]

end Sql

/-! ## Statements of quoted names -/

/-- Names that are not between quotes already, in whole or in part, and values that are bound. -/
def Vocabulary.unquoted (q : Quotes) : Vocabulary where
  table name := (Reference.ofText name.toList).Unquoted q ∧
    q.isQuoted (['.'].intercalate (Reference.ofText name.toList).path) = false
  column column := (Reference.ofText column.toList).Unquoted q
  expression _ := False
  value v := v.isRaw = false
  fragment _ _ := False

theorem Vocabulary.unquoted_fits {t : Target} (hd : t.dialect = .postgres)
    (hp : '\x22' ∉ t.tablePrefix.toList) :
    (Vocabulary.unquoted t.dialect.quotes).Fits t Piece.Inert where
  toTextClass := Piece.inert_textClass
  table h := Naming.inert_table (congrArg Dialect.quotes hd) hp h.1 h.2
  column h := Naming.inert_reference (congrArg Dialect.quotes hd) hp h
  unqualified hserver := absurd (hd.symm.trans hserver) (by decide)
  own name h := by
    have hown : ∀ name ∈ Target.ownNames, ∀ x ∈ (Reference.ofText name.toList).names,
        (Dialect.quotes .postgres).isQuoted x = false := by
      decide
    refine Naming.inert_reference (congrArg Dialect.quotes hd) hp fun x hx => ?_
    rw [Target.naming, hd]
    exact hown name h x hx
  expression h := h.elim
  value h := h
  fragment h := h.elim

/-! ## Dialects without row numbers have a statement for every query -/

theorem Target.statement_eq_ok {t : Target} (h : t.dialect ≠ .sqlserver) (q : Query)
    (conditions : List (Linked Sql)) :
    t.statement q conditions = .ok (t.clauses q conditions).statement := by
  have hn : ¬ t.numbersRows q = true := fun hn => h (dialect_of_numbersRows hn)
  rw [statement, if_neg hn]

section

variable {t : Target}

mutual

theorem Query.exists_select (h : t.dialect ≠ .sqlserver) : ∀ q : Query, ∃ sql, q.select t = .ok sql
  | ⟨_, _, _, _, _, wheres, _, _, _, _, _, _, _⟩ => by
    obtain ⟨conditions, hc⟩ := Predicate.exists_chain_of_ne h wheres
    rw [Query.select_eq, hc]
    exact ⟨_, Target.statement_eq_ok h _ conditions⟩

theorem Predicate.exists_chain_of_ne (h : t.dialect ≠ .sqlserver) :
    ∀ ps : List (Linked Predicate), ∃ conditions, Predicate.chain t ps = .ok conditions
  | [] => ⟨[], rfl⟩
  | ⟨connector, p⟩ :: ps => by
    obtain ⟨condition, hc⟩ := Predicate.exists_condition_of_ne h p
    obtain ⟨conditions, hcs⟩ := Predicate.exists_chain_of_ne h ps
    rw [Predicate.chain, Predicate.linked, hc, hcs]
    exact ⟨_, rfl⟩

theorem Predicate.exists_condition_of_ne (h : t.dialect ≠ .sqlserver) :
    ∀ p : Predicate, ∃ sql, p.condition t = .ok sql
  | .comparison _ => ⟨_, rfl⟩
  | .member _ _ _ => ⟨_, rfl⟩
  | .between _ _ _ _ => ⟨_, rfl⟩
  | .null _ _ => ⟨_, rfl⟩
  | .raw _ _ => ⟨_, rfl⟩
  | .group members => by
    obtain ⟨conditions, hc⟩ := Predicate.exists_chain_of_ne h members
    rw [Predicate.condition, hc]
    exact ⟨_, rfl⟩
  | .memberOf _ _ query => by
    obtain ⟨source, hs⟩ := Query.exists_select h query
    rw [Predicate.condition, hs]
    exact ⟨_, rfl⟩
  | .present _ query => by
    obtain ⟨source, hs⟩ := Query.exists_select h query
    rw [Predicate.condition, hs]
    exact ⟨_, rfl⟩

end

end

/-- A built query has a statement for Postgres, of inert pieces and with a parameter for each of its
bindings. -/
theorem Query.exists_inert_select {tablePrefix table : String} {steps : List Step} {q : Query}
    (hp : '\x22' ∉ tablePrefix.toList)
    (ht : (Vocabulary.unquoted (Dialect.quotes .postgres)).table table)
    (hs : Step.AllUse (.unquoted (Dialect.quotes .postgres)) steps)
    (hq : Query.build table steps = .ok q) :
    ∃ sql, q.select ⟨.postgres, tablePrefix⟩ = .ok sql ∧ (∀ p ∈ sql, p.Inert) ∧
      sql.bindings = q.bindings ∧ sql.countP Piece.isParameter = q.bindings.length := by
  obtain ⟨sql, hsql⟩ := Query.exists_select (t := ⟨.postgres, tablePrefix⟩) nofun q
  have hinert : ∀ p ∈ sql, p.Inert :=
    Query.forall_mem_select (Vocabulary.unquoted_fits rfl hp) (Query.uses_of_build ht hs hq) hsql
  have hbindings : sql.bindings = q.bindings := Query.bindings_of_build hq hsql
  refine ⟨sql, hsql, hinert, hbindings, ?_⟩
  rw [← Sql.length_bindings hinert, hbindings]

/-- A built query has a statement for Postgres, with a parameter for each of its bindings. It is
numbered parameter by parameter and everything between them is left as it is, exactly if they can be
counted in 32 bits with a sign. Names may hold quotes and question marks in any place; only a name
that is between quotes already is not quoted again. -/
theorem Query.number_select {tablePrefix table : String} {steps : List Step} {q : Query}
    (hp : '\x22' ∉ tablePrefix.toList)
    (ht : (Vocabulary.unquoted (Dialect.quotes .postgres)).table table)
    (hs : Step.AllUse (.unquoted (Dialect.quotes .postgres)) steps)
    (hq : Query.build table steps = .ok q) :
    ∃ sql, q.select ⟨.postgres, tablePrefix⟩ = .ok sql ∧ sql.bindings = q.bindings ∧
      sql.countP Piece.isParameter = q.bindings.length ∧
      sql.text = sql.showing (List.replicate q.bindings.length "?") ∧
      (Placeholder.number sql.text = sql.showing (Placeholder.numbers 0 q.bindings.length) ↔
        q.bindings.length < 2 ^ 31) := by
  obtain ⟨sql, hsql, hinert, hbindings, hcount⟩ := Query.exists_inert_select hp ht hs hq
  refine ⟨sql, hsql, hbindings, hcount, ?_, ?_⟩
  · rw [← hcount, Sql.showing_replicate hinert]
  · rw [← hcount]
    exact Sql.number_text_iff hinert

/-- Names with quotes and question marks in them: a join, a group, another query with a condition on
its groups, and a select list. -/
def oddSteps : List Step :=
  [.select ["o'.sta?te\x22 as what?", "\x22"],
    .join ⟨.left, "it's", [⟨.and, ⟨"o'.id\x22", .eq, "it's.?"⟩⟩]⟩,
    .compare .and ⟨"?\x22", .like, .string "a?"⟩,
    .nested .or [.member .and true "k'" [.int32 1, .null], .between .or false "?" .null .null],
    .memberOf false "id?" "li\x22nes" [.having .or ⟨"total?", .gte, .int64 5⟩, .groupBy ["o?"]],
    .orderBy "what?" .desc, .page 2 10]

theorem Query.number_select_odd : ∃ q sql,
    Query.build "or?\x22ders as o'" oddSteps = .ok q ∧
      q.select ⟨.postgres, "app_?'"⟩ = .ok sql ∧ q.bindings.length = 6 ∧
      Placeholder.number sql.text = sql.showing ["$1", "$2", "$3", "$4", "$5", "$6"] := by
  obtain ⟨q, hq, hlength⟩ : ∃ q, Query.build "or?\x22ders as o'" oddSteps = .ok q ∧
      q.bindings.length = 6 := ⟨_, rfl, rfl⟩
  have hs : Step.AllUse (.unquoted (Dialect.quotes .postgres)) oddSteps := by
    simp only [oddSteps, Step.AllUse, Step.Uses, Vocabulary.unquoted, Vocabulary.comparison,
      Vocabulary.join]
    decide
  have hp : '\x22' ∉ "app_?'".toList := by decide
  obtain ⟨sql, hsql, -, -, -, hnumber⟩ := Query.number_select hp ⟨by decide, by decide⟩ hs hq
  rw [hlength] at hnumber
  exact ⟨q, sql, hq, hsql, hlength, hnumber.2 (by decide)⟩

/-- A condition that names so many values. -/
def valuesSteps (count : Nat) : List Step :=
  [.member .and false "id" (List.replicate count (.int32 0))]

theorem allUse_valuesSteps (count : Nat) :
    Step.AllUse (.unquoted (Dialect.quotes .postgres)) (valuesSteps count) := by
  have hcolumn : (Reference.ofText "id".toList).Unquoted (Dialect.quotes .postgres) := by decide
  refine ⟨⟨hcolumn, fun v hv => ?_⟩, trivial⟩
  rw [List.eq_of_mem_replicate hv]
  rfl

theorem exists_build_valuesSteps (count : Nat) :
    ∃ q, Query.build "users" (valuesSteps count) = .ok q ∧ q.bindings.length = count := by
  refine ⟨_, rfl, ?_⟩
  simp [Query.bindings, Query.addWhere, Query.ofTable, Value.bound, Value.isRaw]

/-- More values than can be counted are not numbered. -/
theorem Query.not_number_select : ∃ q sql,
    (Vocabulary.unquoted (Dialect.quotes .postgres)).table "users" ∧
      Step.AllUse (.unquoted (Dialect.quotes .postgres)) (valuesSteps (2 ^ 31)) ∧
      Query.build "users" (valuesSteps (2 ^ 31)) = .ok q ∧
      q.select ⟨.postgres, ""⟩ = .ok sql ∧ q.bindings.length = 2 ^ 31 ∧
      Placeholder.number sql.text ≠ sql.showing (Placeholder.numbers 0 q.bindings.length) := by
  have hp : '\x22' ∉ "".toList := by decide
  have ht : (Vocabulary.unquoted (Dialect.quotes .postgres)).table "users" :=
    ⟨by decide, by decide⟩
  have hs := allUse_valuesSteps (2 ^ 31)
  obtain ⟨q, hq, hlength⟩ := exists_build_valuesSteps (2 ^ 31)
  obtain ⟨sql, hsql, hinert, -, hcount⟩ := Query.exists_inert_select hp ht hs hq
  refine ⟨q, sql, ht, hs, hq, hsql, hlength, ?_⟩
  rw [← hcount, Ne, Sql.number_text_iff hinert, hcount, hlength]
  exact Nat.lt_irrefl _

end SqlBuilder
