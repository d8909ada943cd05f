import SqlBuilder.Proofs.Characters
import SqlBuilder.Proofs.Contents
import SqlBuilder.Proofs.References
import SqlBuilder.Proofs.Words

/-!
# The text of a condition

A condition on a column is the column, words that say what is asked of it and, where it takes
values, a list of marks. Each part tells where it ends: a column before the first blank behind it
(`Naming.reference_append_inj`), the words because none begin with others
(`Keyword.sql_append_inj`), and a list at its parenthesis (`markList_append_inj`).
-/

namespace SqlBuilder

/-! ## Columns -/

/-- A text without blanks has no alias. -/
theorem cutAlias?_eq_none {cs : List Char} (h : ' ' ∉ cs) : cutAlias? cs = none :=
  cutAlias?_eq_none_iff.2 fun halias => h halias.blank_mem

theorem Reference.prefixPath_injective {tablePrefix : List Char} {path path' : List (List Char)}
    (h : prefixPath tablePrefix path = prefixPath tablePrefix path') : path = path' := by
  match path, path' with
  | [], [] => rfl
  | [_], [_] => exact h
  | _ :: _ :: _, _ :: _ :: _ =>
    obtain ⟨hfirst, hrest⟩ := List.cons.inj h
    rw [List.append_cancel_left hfirst, hrest]
  | [], [_] => cases h
  | [], _ :: _ :: _ => cases h
  | [_], [] => cases h
  | [_], _ :: _ :: _ => cases h
  | _ :: _ :: _, [] => cases h
  | _ :: _ :: _, [_] => cases h

/-- A column name without blanks, stars and opening quotes, such as one of letters, digits,
underscores and points. -/
def Quotes.WordColumn (q : Quotes) (column : String) : Prop :=
  ∀ c ∈ column.toList, c ≠ ' ' ∧ c ≠ '*' ∧ c ≠ q.opening

instance (q : Quotes) (column : String) : Decidable (q.WordColumn column) :=
  List.decidableBAll (fun c => c ≠ ' ' ∧ c ≠ '*' ∧ c ≠ q.opening) column.toList

namespace Quotes.WordColumn

variable {q : Quotes} {column : String} (h : q.WordColumn column)

include h in
theorem ofText_eq : Reference.ofText column.toList = ⟨column.toList.splitOn '.', none⟩ := by
  have hblank : ' ' ∉ column.toList := fun hmem => (h ' ' hmem).1 rfl
  rw [Reference.ofText, cutAlias?_eq_none hblank]

include h in
theorem plain : ∀ name ∈ (Reference.ofText column.toList).names, q.Plain name := by
  rw [h.ofText_eq]
  intro name hname
  have hsegment : name ∈ column.toList.splitOn '.' := by simpa [Reference.names] using hname
  have hchars : ∀ c ∈ name, c ≠ '*' ∧ c ≠ q.opening := fun c hc =>
    (h c (mem_of_mem_splitOn hsegment hc)).2
  constructor
  · rintro rfl
    exact (hchars '*' List.mem_cons_self).1 rfl
  · cases name with
    | nil => rfl
    | cons c cs =>
      have hopening := (hchars c List.mem_cons_self).2
      simp [isQuoted, hopening]

end Quotes.WordColumn

namespace Naming

variable {t : Target} (hn : t.naming.PlainPrefix) {column column' : String}
  (hc : t.dialect.quotes.WordColumn column) (hc' : t.dialect.quotes.WordColumn column')

include hn hc in
theorem toList_reference_word : (t.naming.reference column).toList =
    t.dialect.quotes.writePath
      (Reference.prefixPath t.tablePrefix.toList (column.toList.splitOn '.')) := by
  have hwritten := toList_reference hn hc.plain
  rw [hc.ofText_eq] at hwritten
  exact hwritten

include hn hc in
theorem readPath_reference (rest : List Char) :
    t.dialect.quotes.readPath ((t.naming.reference column).toList ++ ' ' :: rest) =
      some (Reference.prefixPath t.tablePrefix.toList (column.toList.splitOn '.'),
        ' ' :: rest) := by
  obtain ⟨hpoint, hblank⟩ := t.dialect.closing_quotes
  rw [toList_reference_word hn hc]
  refine Quotes.readPath_writePath hpoint ?_ (fun he => hblank (Option.some.inj he).symm) (by simp)
  exact Reference.prefixPath_ne_nil (List.splitOn_ne_nil _ _) _

include hn hc hc' in
/-- A written column ends before the first blank behind it. -/
theorem reference_append_inj {rest rest' : List Char}
    (h : (t.naming.reference column).toList ++ ' ' :: rest =
      (t.naming.reference column').toList ++ ' ' :: rest') : column = column' ∧ rest = rest' := by
  have hread := readPath_reference hn hc rest
  rw [h, readPath_reference hn hc' rest'] at hread
  obtain ⟨hpath, hrest⟩ := Prod.mk.inj (Option.some.inj hread)
  refine ⟨?_, (List.cons.inj hrest).2.symm⟩
  have hcs := congrArg (['.'].intercalate ·) (Reference.prefixPath_injective hpath)
  simp only [List.intercalate_splitOn] at hcs
  exact (String.toList_inj.1 hcs).symm

end Naming

/-! ## The words behind a column -/

/-- What is asked of a column, as far as it takes words. -/
inductive Keyword where
  | compare (operator : Operator)
  | member (negated : Bool)
  | between (negated : Bool)
  | null (negated : Bool)
  deriving DecidableEq

namespace Keyword

/-- The words and marks up to the end of the condition or up to its list. -/
def sql : Keyword → String
  | .compare operator => operator.sql ++ " ?"
  | .member negated => if negated then "NOT IN (" else "IN ("
  | .between negated => if negated then "NOT BETWEEN ? AND ?" else "BETWEEN ? AND ?"
  | .null negated => if negated then "IS NOT NULL" else "IS NULL"

def all : List Keyword :=
  Operator.all.map .compare ++
    [.member false, .member true, .between false, .between true, .null false, .null true]

theorem mem_all (k : Keyword) : k ∈ all := by
  cases k with
  | compare operator => cases operator <;> decide
  | member negated => cases negated <;> decide
  | between negated => cases negated <;> decide
  | null negated => cases negated <;> decide

theorem eq_of_begins {k k' : Keyword} (h : k.sql.toList <+: k'.sql.toList) : k = k' := by
  have hall : ∀ k ∈ all, ∀ k' ∈ all, k.sql.toList <+: k'.sql.toList → k = k' := by
    decide +kernel
  exact hall k (mem_all k) k' (mem_all k') h

/-- No words are the beginning of others. -/
theorem sql_append_inj {k k' : Keyword} {rest rest' : List Char}
    (h : k.sql.toList ++ rest = k'.sql.toList ++ rest') : k = k' ∧ rest = rest' := by
  have hk : k = k' := by
    have hbegin : k.sql.toList <+: k'.sql.toList ++ rest' := ⟨rest, h⟩
    rcases List.prefix_or_prefix_of_prefix hbegin (List.prefix_append _ rest') with hle | hle
    · exact eq_of_begins hle
    · exact (eq_of_begins hle).symm
  subst hk
  exact ⟨rfl, List.append_cancel_left h⟩

end Keyword

/-- A list of marks up to its closing parenthesis. -/
def markList : Nat → List Char
  | 0 => [')']
  | 1 => ['?', ')']
  | n + 2 => '?' :: ',' :: ' ' :: markList (n + 1)

theorem markList_append_inj {n n' : Nat} {rest rest' : List Char}
    (h : markList n ++ rest = markList n' ++ rest') : n = n' ∧ rest = rest' := by
  induction n using markList.induct generalizing n' with
  | case1 =>
    match n' with
    | 0 => simpa [markList] using h
    | 1 => simp [markList] at h
    | n' + 2 => simp [markList] at h
  | case2 =>
    match n' with
    | 0 => simp [markList] at h
    | 1 => simpa [markList] using h
    | n' + 2 => simp [markList] at h
  | case3 n ih =>
    match n' with
    | 0 => simp [markList] at h
    | 1 => simp [markList] at h
    | n' + 2 =>
      have htail : markList (n + 1) ++ rest = markList (n' + 1) ++ rest' := by
        simpa [markList] using h
      obtain ⟨hn, hrest⟩ := ih htail
      exact ⟨congrArg (· + 1) hn, hrest⟩

/-- A list of values that are bound is written as a list of marks. -/
theorem Sql.toList_text_params {values : List Value} (h : ∀ v ∈ values, v.isRaw = false) :
    (Sql.params values).text.toList ++ [')'] = markList values.length := by
  induction values with
  | nil => rfl
  | cons v vs ih =>
    obtain ⟨hv, hvs⟩ := List.forall_mem_cons.1 h
    have hmark : (Sql.text [.param v]).toList = ['?'] := by
      simp [Sql.text, Piece.sql, Value.placeholder_eq hv]
    cases vs with
    | nil =>
      rw [params, List.map_singleton, Sql.joined_singleton, hmark]
      rfl
    | cons w ws =>
      have hparams : params (v :: w :: ws) = [.param v] ++ lit ", " ++ params (w :: ws) :=
        Sql.joined_cons_cons ", " _ _ _
      rw [hparams, text_append, text_append, String.toList_append, String.toList_append, hmark,
        List.append_assoc, ih hvs, text_lit]
      rfl

end SqlBuilder
