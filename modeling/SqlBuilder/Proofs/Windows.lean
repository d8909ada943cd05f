import SqlBuilder.Number.Decimal
import SqlBuilder.Proofs.Pieces
import SqlBuilder.Query.Step

/-!
# Windows of rows

The limit and the offset of a query pick rows by their places in its order. The dialects write them
differently: behind the statement, behind SELECT, or as a condition on the numbers of the rows in a
derived table (`Query.Paged`). `Window.read` says which places such a text picks, and in every
dialect that has a statement for a query they are the same (`Query.leaves_iff_of_select`).
-/

namespace SqlBuilder

/-- The places of rows from a first one on, up to a last one if there is one. The first of all rows
has the place one. -/
structure Window where
  first : Nat
  last : Option Nat
  deriving DecidableEq

/-! ## Reading a window -/

theorem natOfDigits?_toString (n : Nat) : natOfDigits? (toString n).toList = some n := by
  have hall : (Nat.toDigits 10 n).all Char.isDigit = true :=
    List.all_eq_true.2 fun c hc => Nat.isDigit_of_mem_toDigits (by decide) (by decide) hc
  have hvalue : natOfDigits (Nat.toDigits 10 n) = n := by
    have hof : natOfDigits (Nat.toDigits 10 n) = Nat.ofDigitChars 10 (Nat.toDigits 10 n) 0 := by
      unfold natOfDigits Nat.ofDigitChars
      congr 1
      funext a c
      rw [Nat.mul_comm]
      rfl
    rw [hof, Nat.ofDigitChars_ten_toDigits]
  rw [toList_toString, natOfDigits?, hall, hvalue, List.isEmpty_eq_false_iff.2 Nat.toDigits_ne_nil]
  rfl

namespace Text

/-- A text of one or more visible characters. -/
def IsWord (w : String) : Prop :=
  w.toList ≠ [] ∧ ∀ c ∈ w.toList, isBlank c = false

instance (w : String) : Decidable (IsWord w) :=
  @instDecidableAnd _ _ _ (List.decidableBAll (fun c => isBlank c = false) w.toList)

theorem isBlank_of_isDigit {c : Char} (h : c.isDigit = true) : isBlank c = false := by
  simp only [Char.isDigit, Bool.and_eq_true, decide_eq_true_eq, ge_iff_le,
    UInt32.le_iff_toNat_le] at h
  have hdigit : '0'.val.toNat = 48 ∧ '9'.val.toNat = 57 := ⟨rfl, rfl⟩
  have hval : c.toNat = c.val.toNat := rfl
  exact isBlank_eq_false (by omega) (by omega)

theorem isWord_toString (n : Nat) : IsWord (toString n) := by
  constructor
  · rw [toList_toString]
    exact Nat.toDigits_ne_nil
  · intro c hc
    exact isBlank_of_isDigit (isDigit_of_mem_toString hc)

theorem words_append_blank (cs ds : List Char) :
    words (cs ++ ' ' :: ds) = words cs ++ words ds := by
  rw [words, List.splitOnP_append_cons _ _ (by decide), List.filter_append]
  rfl

theorem words_of_isWord {w : String} (h : IsWord w) : words w.toList = [w.toList] := by
  rw [words, List.splitOnP_eq_singleton h.2, List.filter_cons_of_pos (by simp [h.1])]
  rfl

/-- Words with blanks between them are read back. -/
theorem words_intercalate {ws : List String} (h : ∀ w ∈ ws, IsWord w) :
    words (" ".intercalate ws).toList = ws.map String.toList := by
  induction ws with
  | nil => rfl
  | cons w ws ih =>
    obtain ⟨hw, hws⟩ := List.forall_mem_cons.1 h
    cases ws with
    | nil =>
      rw [String.intercalate_singleton, words_of_isWord hw]
      rfl
    | cons v vs =>
      have htext : (" ".intercalate (w :: v :: vs)).toList =
          w.toList ++ ' ' :: (" ".intercalate (v :: vs)).toList := by
        rw [String.intercalate_cons_cons, String.toList_append, String.toList_append,
          List.append_assoc]
        rfl
      rw [htext, words_append_blank, words_of_isWord hw, ih hws]
      rfl

end Text

namespace Window

instance : Membership Nat Window where
  mem w place := w.first ≤ place ∧ ∀ last ∈ w.last, place ≤ last

/-- The rows after so many others, and of those only a number where it is given. -/
def after (skipped : Nat) (count : Option Nat) : Window :=
  ⟨skipped + 1, count.map (skipped + ·)⟩

/-- The number of rows that a limit leaves; `-1` leaves all. -/
def limit? (word : String) : Option (Option Nat) :=
  if word = "-1" then some none else (natOfDigits? word.toList).map some

/-- The window that the words of a paging text pick. No words pick every row. -/
def ofWords : List String → Option Window
  | [] => some (after 0 none)
  | ["TOP", count] => (natOfDigits? count.toList).map fun n => after 0 (some n)
  | ["LIMIT", count] => (limit? count).map (after 0)
  | ["OFFSET", skipped] => (natOfDigits? skipped.toList).map (after · none)
  | ["LIMIT", count, "OFFSET", skipped] => do
    let count ← limit? count
    let skipped ← natOfDigits? skipped.toList
    some (after skipped count)
  | [">=", first] => (natOfDigits? first.toList).map (⟨·, none⟩)
  | ["BETWEEN", first, "AND", last] => do
    let first ← natOfDigits? first.toList
    let last ← natOfDigits? last.toList
    some ⟨first, some last⟩
  | _ => none

/-- The window that a paging text picks. -/
def read (paging : String) : Option Window :=
  ofWords ((Text.words paging.toList).map String.ofList)

example : read " LIMIT -1 OFFSET 20" = some ⟨21, none⟩ := by decide

theorem mem_iff {w : Window} {place : Nat} :
    place ∈ w ↔ w.first ≤ place ∧ ∀ last ∈ w.last, place ≤ last :=
  Iff.rfl

theorem mem_after {skipped place : Nat} {count : Option Nat} :
    place ∈ after skipped count ↔ skipped < place ∧ ∀ n ∈ count, place ≤ skipped + n := by
  have hlast : (∀ last ∈ count.map (skipped + ·), place ≤ last) ↔
      ∀ n ∈ count, place ≤ skipped + n := by
    cases count <;> simp
  rw [mem_iff, after, hlast, Nat.succ_le_iff]

theorem limit?_toString (n : Nat) : limit? (toString n) = some (some n) := by
  have hne : toString n ≠ "-1" := by
    intro he
    have hread := natOfDigits?_toString n
    rw [he] at hread
    exact absurd hread (by simp [natOfDigits?])
  rw [limit?, if_neg hne, natOfDigits?_toString]
  rfl

theorem read_intercalate {ws : List String} (h : ∀ w ∈ ws, Text.IsWord w) :
    read (" ".intercalate ws) = ofWords ws := by
  have hback : (ws.map String.toList).map String.ofList = ws := by
    rw [List.map_map]
    exact List.map_id'' (fun w => String.ofList_toList) ws
  rw [read, Text.words_intercalate h, hback]

theorem read_blank_append (s : String) : read (" " ++ s) = read s := by
  have hwords : Text.words (" " ++ s).toList = Text.words s.toList := by
    rw [String.toList_append]
    exact Text.words_append_blank [] s.toList
  rw [read, hwords, read]

theorem read_append_blank (s : String) : read (s ++ " ") = read s := by
  have hwords : Text.words (s ++ " ").toList = Text.words s.toList := by
    rw [String.toList_append]
    exact (Text.words_append_blank s.toList []).trans (List.append_nil _)
  rw [read, hwords, read]

/-- A keyword before a word. -/
theorem read_keyword {keyword word : String} (hk : Text.IsWord keyword) (hw : Text.IsWord word) :
    read (keyword ++ " " ++ word) = ofWords [keyword, word] := by
  have hread := read_intercalate (List.forall_mem_cons.2 ⟨hk, List.forall_mem_singleton.2 hw⟩)
  rwa [String.intercalate_cons_cons, String.intercalate_singleton] at hread

/-- Two keywords, each before a word. -/
theorem read_keywords {keyword keyword' word word' : String} (hk : Text.IsWord keyword)
    (hw : Text.IsWord word) (hk' : Text.IsWord keyword') (hw' : Text.IsWord word') :
    read (keyword ++ " " ++ word ++ " " ++ keyword' ++ " " ++ word') =
      ofWords [keyword, word, keyword', word'] := by
  have hread := read_intercalate (List.forall_mem_cons.2 ⟨hk, List.forall_mem_cons.2 ⟨hw,
    List.forall_mem_cons.2 ⟨hk', List.forall_mem_singleton.2 hw'⟩⟩⟩)
  simpa only [String.intercalate_cons_cons, String.intercalate_singleton, String.append_assoc]
    using hread

theorem read_top (n : Nat) : read ("TOP " ++ toString n ++ " ") = some (after 0 (some n)) := by
  have htext : "TOP " = "TOP" ++ " " := by decide
  rw [read_append_blank, htext, read_keyword (by decide) (Text.isWord_toString n), ofWords,
    natOfDigits?_toString]
  rfl

theorem read_limit {word : String} (hw : Text.IsWord word) :
    read (" " ++ ("LIMIT " ++ word)) = (limit? word).map (after 0) := by
  have htext : "LIMIT " = "LIMIT" ++ " " := by decide
  rw [read_blank_append, htext, read_keyword (by decide) hw, ofWords]

theorem read_offset (n : Nat) : read (" " ++ ("OFFSET " ++ toString n)) = some (after n none) := by
  have htext : "OFFSET " = "OFFSET" ++ " " := by decide
  rw [read_blank_append, htext, read_keyword (by decide) (Text.isWord_toString n), ofWords,
    natOfDigits?_toString]
  rfl

theorem read_limit_offset {word : String} (hw : Text.IsWord word) (n : Nat) :
    read (" " ++ ("LIMIT " ++ word) ++ (" " ++ ("OFFSET " ++ toString n))) =
      (limit? word).map (after n) := by
  have htext : " " ++ ("LIMIT " ++ word) ++ (" " ++ ("OFFSET " ++ toString n)) =
      " " ++ ("LIMIT" ++ " " ++ word ++ " " ++ "OFFSET" ++ " " ++ toString n) := by
    apply String.toList_inj.1
    simp
  rw [htext, read_blank_append, read_keywords (by decide) hw (by decide) (Text.isWord_toString n),
    ofWords, natOfDigits?_toString]
  cases limit? word <;> rfl

theorem read_from (n : Nat) : read (">= " ++ toString n) = some ⟨n, none⟩ := by
  have htext : ">= " = ">=" ++ " " := by decide
  rw [htext, read_keyword (by decide) (Text.isWord_toString n), ofWords, natOfDigits?_toString]
  rfl

theorem read_between (m n : Nat) :
    read ("BETWEEN " ++ toString m ++ " AND " ++ toString n) = some ⟨m, some n⟩ := by
  have htext : "BETWEEN " ++ toString m ++ " AND " ++ toString n =
      "BETWEEN" ++ " " ++ toString m ++ " " ++ "AND" ++ " " ++ toString n := by
    apply String.toList_inj.1
    simp
  rw [htext, read_keywords (by decide) (Text.isWord_toString m) (by decide)
    (Text.isWord_toString n), ofWords, natOfDigits?_toString, natOfDigits?_toString]
  rfl

end Window

/-! ## The window of a query -/

theorem effective_eq_some {n : Option UInt64} {k : UInt64} (h : effective n = some k) :
    n = some k :=
  (Option.filter_eq_some_iff.1 h).1

theorem effective_eq_none {n : Option UInt64} (h : effective n = none) : (n.getD 0).toNat = 0 := by
  cases n with
  | none => rfl
  | some k =>
    have hk : ¬ 0 < k := by simpa [effective] using h
    have hle : k.toNat ≤ 0 := UInt64.le_iff_toNat_le.1 (UInt64.not_lt.1 hk)
    exact Nat.le_zero.1 hle

namespace Query

/-- The row at a place is behind the offset of the query and within its limit. A limit of zero
leaves every row. -/
def Leaves (q : Query) (place : Nat) : Prop :=
  (q.offset.getD 0).toNat < place ∧
    ∀ count, q.limit = some count → 0 < count → place ≤ (q.offset.getD 0).toNat + count.toNat

/-- The places that the offset and the limit of a query leave. -/
def window (q : Query) : Window :=
  .after (q.offset.getD 0).toNat ((effective q.limit).map UInt64.toNat)

theorem window_eq {q : Query} {count skipped : Option UInt64} (hl : effective q.limit = count)
    (ho : effective q.offset = skipped) :
    q.window = .after (skipped.getD 0).toNat (count.map UInt64.toNat) := by
  have hskipped : (q.offset.getD 0).toNat = (skipped.getD 0).toNat := by
    cases skipped with
    | none => exact effective_eq_none ho
    | some k => rw [effective_eq_some ho]
  rw [window, hl, hskipped]

theorem mem_window_iff {q : Query} {place : Nat} : place ∈ q.window ↔ q.Leaves place := by
  have hcount : (∀ n ∈ (effective q.limit).map UInt64.toNat,
      place ≤ (q.offset.getD 0).toNat + n) ↔ ∀ count, q.limit = some count → 0 < count →
        place ≤ (q.offset.getD 0).toNat + count.toNat := by
    constructor
    · intro h count hl hpos
      have hmem : effective q.limit = some count :=
        Option.filter_eq_some_iff.2 ⟨hl, decide_eq_true hpos⟩
      exact h count.toNat (Option.map_eq_some_iff.2 ⟨count, hmem, rfl⟩)
    · intro h n hn
      obtain ⟨count, hcount, rfl⟩ := Option.map_eq_some_iff.1 hn
      obtain ⟨hl, hpos⟩ := Option.filter_eq_some_iff.1 hcount
      exact h count hl (of_decide_eq_true hpos)
  rw [window, Window.mem_after, hcount, Leaves]

end Query

/-! ## Where the text of a window stands -/

/-- A clause behind other clauses. -/
def Sql.spaced (clause : Sql) : Sql :=
  if clause.isEmpty then [] else lit " " ++ clause

@[simp]
theorem Sql.spaced_nil : spaced [] = [] :=
  rfl

@[simp]
theorem Sql.text_spaced_lit (s : String) : text (spaced (lit s)) = " " ++ s :=
  (text_append (lit " ") (lit s)).trans (by rw [text_lit, text_lit])

theorem Sql.clauses_cons {first : Sql} (h : first ≠ []) (parts : List Sql) :
    clauses (first :: parts) = first ++ parts.flatMap spaced := by
  induction parts generalizing first with
  | nil => simp [clauses, h]
  | cons part parts ih =>
    cases part with
    | nil => exact ih h
    | cons p ps =>
      have hjoined : clauses (first :: (p :: ps) :: parts) =
          first ++ lit " " ++ clauses ((p :: ps) :: parts) := by
        simp [clauses, h, joined_cons_cons]
      rw [hjoined, ih (List.cons_ne_nil p ps), List.flatMap_cons, List.append_assoc]
      rfl

namespace Query

/-- The query for all rows. -/
def allRows (q : Query) : Query :=
  { q with limit := none, offset := none }

/-- The query for all rows in no order. -/
def unordered (q : Query) : Query :=
  { q.allRows with orderings := [] }

/-- How the SELECT of a query begins that has no aggregate. -/
def opening (q : Query) : String :=
  "SELECT " ++ if q.distinct then "DISTINCT " else ""

/-- A statement of the rows of a query with their numbers in its order. -/
inductive Numbered (t : Target) (q : Query) : String → Prop
  /-- The numbers are one more column. -/
  | column {rows : Sql} {rest : String} (hrows : q.unordered.select t = .ok rows)
      (htext : rows.text = q.opening ++ (t.projection q).text ++ rest) (hd : q.distinct = false) :
      Numbered t q (q.opening ++ (t.projection q).text ++ ", " ++ (t.numbering q false).text ++
        rest)
  /-- Distinct rows are found before they are numbered. -/
  | derived {rows : Sql} (hrows : q.unordered.select t = .ok rows) (hd : q.distinct = true) :
      Numbered t q ("SELECT *, " ++ (t.numbering q true).text ++ " FROM (" ++ rows.text ++
        ") AS " ++ t.naming.reference "TempDistinct")

/-- A statement of those rows of a query that a text picks. -/
inductive Paged (t : Target) (q : Query) (paging : String) : String → Prop
  /-- The text stands behind the statement of all rows. -/
  | last {rows : Sql} (hd : t.dialect ≠ .sqlserver) (hrows : q.allRows.select t = .ok rows) :
      Paged t q paging (rows.text ++ paging)
  /-- The text stands in front of the select list. -/
  | first {rows : Sql} {rest : String} (hd : t.dialect = .sqlserver)
      (hrows : q.allRows.select t = .ok rows) (htext : rows.text = q.opening ++ rest) :
      Paged t q paging (q.opening ++ paging ++ rest)
  /-- The text is a condition on the numbers of the rows. -/
  | numbered {inner : String} (hd : t.dialect = .sqlserver) (hinner : q.Numbered t inner) :
      Paged t q paging ("SELECT * FROM (" ++ inner ++ ") AS " ++ t.naming.reference "TempTable" ++
        " WHERE " ++ t.rowNumber ++ " " ++ paging ++ " ORDER BY " ++ t.rowNumber)

end Query

namespace Target

variable {t : Target} {q : Query} {conditions : List (Linked Sql)}

/-- The clauses of a query between its SELECT and its order. -/
def body (t : Target) (q : Query) (conditions : List (Linked Sql)) : Sql :=
  [t.fromTable q, t.joins q, behind "WHERE" (Linked.chain conditions), t.groups q,
    t.havings q].flatMap Sql.spaced

theorem selectClause_ne_nil (t : Target) (q : Query) : t.selectClause q ≠ [] := by
  rw [selectClause]
  cases q.aggregate with
  | none => exact List.cons_ne_nil _ _
  | some a => exact List.cons_ne_nil _ _

/-- The statement of the clauses of a query, with others in the place of its last three. -/
theorem statement_clauses (orders limit offset : Sql) :
    ({ t.clauses q conditions with orders, limit, offset } : Clauses).statement =
      t.selectClause q ++ t.body q conditions ++ Sql.spaced orders ++ Sql.spaced limit ++
        Sql.spaced offset := by
  have hcons := Sql.clauses_cons (t.selectClause_ne_nil q) [t.fromTable q, t.joins q,
    behind "WHERE" (Linked.chain conditions), t.groups q, t.havings q, orders, limit, offset]
  refine hcons.trans ?_
  simp [body]

/-- The statement of a query whose rows need no numbers. -/
theorem statement_of_plain (hn : t.numbersRows q = false) :
    t.statement q conditions = .ok (t.selectClause q ++ t.body q conditions ++
      Sql.spaced (t.orders q) ++ Sql.spaced (t.limit q) ++ Sql.spaced (t.offset q)) := by
  rw [statement, hn, if_neg Bool.false_ne_true]
  exact congrArg Except.ok (statement_clauses (t.orders q) (t.limit q) (t.offset q))

/-- The statement of a query whose rows are numbered. -/
theorem statement_of_numbersRows (hn : t.numbersRows q = true) :
    t.statement q conditions = t.windowed q (t.selectClause q ++ t.body q conditions) := by
  rw [statement, hn, if_pos rfl]
  refine congrArg (t.windowed q) ((statement_clauses [] [] []).trans ?_)
  simp

theorem limit_eq_nil (hl : effective q.limit = none) (ho : effective q.offset = none) :
    t.limit q = [] := by
  rw [limit, hl, ho]
  cases t.dialect <;> rfl

theorem offset_eq_nil (ho : effective q.offset = none) : t.offset q = [] := by
  rw [offset, ho]
  cases t.dialect <;> rfl

theorem limit_eq {count : UInt64} (hd : t.dialect ≠ .sqlserver)
    (hl : effective q.limit = some count) :
    t.limit q = Sql.lit ("LIMIT " ++ toString count.toNat) := by
  rw [limit, hl]
  split <;> simp_all

theorem offset_eq {skipped : UInt64} (hd : t.dialect ≠ .sqlserver)
    (ho : effective q.offset = some skipped) :
    t.offset q = Sql.lit ("OFFSET " ++ toString skipped.toNat) := by
  rw [offset, ho]
  split <;> simp_all

theorem numbersRows_eq (ha : q.aggregate = none) :
    t.numbersRows q = (t.dialect == .sqlserver && (effective q.offset).isSome) := by
  rw [numbersRows, ha]
  simp

/-- Where no row is numbered and none left out in front, a SELECT begins with its list. -/
theorem selectClause_eq (ha : q.aggregate = none)
    (ht : t.dialect = .sqlserver → effective q.limit = none ∧ effective q.offset = none) :
    t.selectClause q = Sql.lit q.opening ++ t.projection q := by
  cases hd : t.dialect with
  | sqlserver =>
    obtain ⟨hl, ho⟩ := ht hd
    simp [selectClause, ha, numbersRows_eq ha, hd, hl, ho, Query.opening]
  | _ => simp [selectClause, ha, numbersRows_eq ha, hd, Query.opening]

theorem selectClause_top {count : UInt64} (ha : q.aggregate = none) (hd : t.dialect = .sqlserver)
    (hl : effective q.limit = some count) (ho : effective q.offset = none) :
    t.selectClause q =
      Sql.lit (q.opening ++ ("TOP " ++ toString count.toNat ++ " ")) ++ t.projection q := by
  simp [selectClause, ha, numbersRows_eq ha, hd, hl, ho, Query.opening]

theorem selectClause_numbered {skipped : UInt64} (ha : q.aggregate = none)
    (hd : t.dialect = .sqlserver) (ho : effective q.offset = some skipped) :
    t.selectClause q = Sql.lit q.opening ++ t.projection q ++
      if q.distinct = false then Sql.lit ", " ++ t.numbering q false else [] := by
  simp [selectClause, ha, numbersRows_eq ha, hd, ho, Query.opening]

end Target

namespace Query

variable {t : Target} {q : Query} {conditions : List (Linked Sql)}

theorem select_eq_statement (hc : Predicate.chain t q.wheres = .ok conditions) :
    q.select t = t.statement q conditions := by
  rw [select_eq, hc]
  rfl

/-- The statement of a query without an effective limit and offset. -/
theorem select_of_noWindow (ha : q.aggregate = none)
    (hc : Predicate.chain t q.wheres = .ok conditions) (hl : effective q.limit = none)
    (ho : effective q.offset = none) : q.select t = .ok (Sql.lit q.opening ++ t.projection q ++
      t.body q conditions ++ Sql.spaced (t.orders q)) := by
  have hn : t.numbersRows q = false := by simp [Target.numbersRows_eq ha, ho]
  rw [select_eq_statement hc, Target.statement_of_plain hn,
    Target.selectClause_eq ha fun _ => ⟨hl, ho⟩, Target.limit_eq_nil hl ho,
    Target.offset_eq_nil ho]
  simp

theorem select_allRows (ha : q.aggregate = none)
    (hc : Predicate.chain t q.wheres = .ok conditions) : q.allRows.select t =
      .ok (Sql.lit q.opening ++ t.projection q ++ t.body q conditions ++ Sql.spaced (t.orders q)) :=
  select_of_noWindow (q := q.allRows) ha hc rfl rfl

theorem select_unordered (ha : q.aggregate = none)
    (hc : Predicate.chain t q.wheres = .ok conditions) : q.unordered.select t =
      .ok (Sql.lit q.opening ++ t.projection q ++ t.body q conditions) := by
  rw [select_of_noWindow (q := q.unordered) ha hc rfl rfl]
  exact congrArg Except.ok (List.append_nil _)

/-- Behind a statement stand its limit and its offset. -/
theorem paged_last {sql : Sql} (ha : q.aggregate = none)
    (hc : Predicate.chain t q.wheres = .ok conditions) (hd : t.dialect ≠ .sqlserver)
    (h : q.select t = .ok sql) :
    q.Paged t (Sql.spaced (t.limit q) ++ Sql.spaced (t.offset q)).text sql.text := by
  have hn : t.numbersRows q = false := by simp [Target.numbersRows_eq ha, hd]
  rw [select_eq_statement hc, Target.statement_of_plain hn,
    Target.selectClause_eq ha fun he => absurd he hd, List.append_assoc _ (Sql.spaced (t.limit q))]
    at h
  obtain rfl := Except.ok.inj h
  rw [Sql.text_append _ (Sql.spaced (t.limit q) ++ Sql.spaced (t.offset q))]
  exact .last hd (select_allRows ha hc)

/-- Before the select list stands a number of rows, where there is one. -/
theorem paged_first {sql : Sql} (paging : String) (ha : q.aggregate = none)
    (hc : Predicate.chain t q.wheres = .ok conditions) (hd : t.dialect = .sqlserver)
    (ho : effective q.offset = none)
    (hselect : t.selectClause q = Sql.lit (q.opening ++ paging) ++ t.projection q)
    (h : q.select t = .ok sql) : q.Paged t paging sql.text := by
  have hn : t.numbersRows q = false := by simp [Target.numbersRows_eq ha, ho]
  have hlimit : t.limit q = [] := by simp [Target.limit, hd]
  rw [select_eq_statement hc, Target.statement_of_plain hn, hselect, hlimit,
    Target.offset_eq_nil ho, Sql.spaced_nil, List.append_nil, List.append_nil] at h
  obtain rfl := Except.ok.inj h
  have hrows := select_allRows ha hc
  have htext : (Sql.lit (q.opening ++ paging) ++ t.projection q ++ t.body q conditions ++
      Sql.spaced (t.orders q)).text = q.opening ++ paging ++
        (t.projection q ++ t.body q conditions ++ Sql.spaced (t.orders q)).text := by
    simp [String.append_assoc]
  rw [htext]
  refine .first hd hrows ?_
  simp

/-- Numbered rows. -/
theorem numbered_of_select {inner : Sql} (ha : q.aggregate = none)
    (hc : Predicate.chain t q.wheres = .ok conditions) (hd : q.distinct = false)
    (hinner : inner = Sql.lit q.opening ++ t.projection q ++
      (Sql.lit ", " ++ t.numbering q false) ++ t.body q conditions) : q.Numbered t inner.text := by
  have hrows := select_unordered ha hc
  have htext : inner.text = q.opening ++ (t.projection q).text ++ ", " ++
      (t.numbering q false).text ++ (t.body q conditions).text := by
    simp [hinner, String.append_assoc]
  rw [htext]
  refine .column hrows ?_ hd
  simp [String.append_assoc]

/-- Behind the numbered rows stand the wanted numbers. -/
theorem paged_numbered {sql : Sql} {skipped : UInt64} (ha : q.aggregate = none)
    (hc : Predicate.chain t q.wheres = .ok conditions) (hd : t.dialect = .sqlserver)
    (ho : effective q.offset = some skipped) (h : q.select t = .ok sql) :
    ∃ paging, rowWindow q.limit q.offset = .ok paging ∧ q.Paged t paging sql.text := by
  have hn : t.numbersRows q = true := by simp [Target.numbersRows_eq ha, hd, ho]
  rw [select_eq_statement hc, Target.statement_of_numbersRows hn,
    Target.selectClause_numbered ha hd ho, Target.windowed] at h
  obtain ⟨paging, hpaging, hsql⟩ := bind_eq_ok.1 h
  refine ⟨paging, hpaging, ?_⟩
  obtain rfl := Except.ok.inj hsql
  cases hdistinct : q.distinct with
  | false =>
    have hnumbered := numbered_of_select ha hc hdistinct rfl
    have hpaged : q.Paged t paging _ := .numbered hd hnumbered
    simpa [String.append_assoc, hdistinct] using hpaged
  | true =>
    have hnumbered := Numbered.derived (select_unordered ha hc) hdistinct
    have hpaged : q.Paged t paging _ := .numbered hd hnumbered
    simpa [String.append_assoc, hdistinct] using hpaged

/-- The condition on the row numbers picks the window of the query. -/
theorem read_rowWindow {paging : String} (h : rowWindow q.limit q.offset = .ok paging) :
    Window.read paging = some q.window := by
  cases hl : effective q.limit with
  | none =>
    simp only [rowWindow, hl] at h
    split at h
    · cases h
    · obtain rfl := Except.ok.inj h
      rw [Window.read_from, window, hl]
      rfl
  | some count =>
    simp only [rowWindow, hl] at h
    split at h
    · cases h
    · split at h
      · cases h
      · obtain rfl := Except.ok.inj h
        rw [Window.read_between, window, hl]
        rfl

/-- A limit clause picks the rows up to its number. -/
theorem read_limit_clause {count : UInt64} (hd : t.dialect ≠ .sqlserver)
    (hl : effective q.limit = some count) :
    Window.read (Sql.spaced (t.limit q) ++ Sql.spaced (t.offset q)).text = some q.window := by
  have hword := Text.isWord_toString count.toNat
  have hcount := Window.limit?_toString count.toNat
  cases ho : effective q.offset with
  | none =>
    rw [Target.limit_eq hd hl, Target.offset_eq_nil ho, Sql.spaced_nil, List.append_nil,
      Sql.text_spaced_lit, Window.read_limit hword, hcount, window_eq hl ho]
    rfl
  | some skipped =>
    rw [Target.limit_eq hd hl, Target.offset_eq hd ho, Sql.text_append, Sql.text_spaced_lit,
      Sql.text_spaced_lit, Window.read_limit_offset hword, hcount, window_eq hl ho]
    rfl

/-- An offset alone picks the rows behind it. Where it needs a limit, that is as great as the
greatest row number. -/
theorem read_offset_clause {skipped : UInt64} (hd : t.dialect ≠ .sqlserver)
    (hl : effective q.limit = none) (ho : effective q.offset = some skipped) :
    ∃ count : Option Nat, (∀ n ∈ count, maxRowNumber ≤ n) ∧
      Window.read (Sql.spaced (t.limit q) ++ Sql.spaced (t.offset q)).text =
        some (.after skipped.toNat count) := by
  rw [Target.offset_eq hd ho, Sql.text_append, Sql.text_spaced_lit]
  cases hdialect : t.dialect with
  | mysql =>
    have hlimit : t.limit q = Sql.lit ("LIMIT " ++ toString maxRowNumber) := by
      rw [Target.limit, hl, ho, hdialect]
    refine ⟨some maxRowNumber, by simp, ?_⟩
    rw [hlimit, Sql.text_spaced_lit, Window.read_limit_offset (Text.isWord_toString _),
      Window.limit?_toString]
    rfl
  | sqlite =>
    have hlimit : t.limit q = Sql.lit ("LIMIT " ++ "-1") := by
      rw [Target.limit, hl, ho, hdialect]
      rfl
    refine ⟨none, by simp, ?_⟩
    rw [hlimit, Sql.text_spaced_lit, Window.read_limit_offset (by decide)]
    rfl
  | sqlserver => exact absurd hdialect hd
  | _ =>
    have hlimit : t.limit q = [] := by rw [Target.limit, hl, ho, hdialect]
    refine ⟨none, by simp, ?_⟩
    have hempty : Sql.text (Sql.spaced []) = "" := rfl
    rw [hlimit, hempty, String.empty_append, Window.read_offset]

/-- Up to the greatest row number, the clauses of a query pick its window. -/
theorem read_clauses (hd : t.dialect ≠ .sqlserver) : ∃ w,
    Window.read (Sql.spaced (t.limit q) ++ Sql.spaced (t.offset q)).text = some w ∧
      ∀ place ≤ maxRowNumber, place ∈ w ↔ q.Leaves place := by
  cases hl : effective q.limit with
  | some count => exact ⟨q.window, read_limit_clause hd hl, fun _ _ => mem_window_iff⟩
  | none =>
    cases ho : effective q.offset with
    | none =>
      refine ⟨q.window, ?_, fun _ _ => mem_window_iff⟩
      rw [Target.limit_eq_nil hl ho, Target.offset_eq_nil ho, window_eq hl ho]
      rfl
    | some skipped =>
      obtain ⟨count, hcount, hread⟩ := read_offset_clause hd hl ho
      refine ⟨_, hread, fun place hplace => ?_⟩
      rw [← mem_window_iff, window_eq hl ho, Window.mem_after, Window.mem_after]
      refine and_congr_right fun _ => iff_of_true (fun n hn => ?_) (by simp)
      have hn := hcount n hn
      omega

/-- In every dialect, the paging of a statement picks those rows that the limit and the offset of
the query leave. -/
theorem leaves_iff_of_select {sql : Sql} (ha : q.aggregate = none) (h : q.select t = .ok sql) :
    ∃ paging w, q.Paged t paging sql.text ∧ Window.read paging = some w ∧
      ∀ place ≤ maxRowNumber, place ∈ w ↔ q.Leaves place := by
  obtain ⟨conditions, hc, -⟩ := bind_eq_ok.1 ((select_eq t q).symm.trans h)
  by_cases hd : t.dialect = .sqlserver
  · cases ho : effective q.offset with
    | some skipped =>
      obtain ⟨paging, hpaging, hpaged⟩ := paged_numbered ha hc hd ho h
      exact ⟨paging, q.window, hpaged, read_rowWindow hpaging, fun _ _ => mem_window_iff⟩
    | none =>
      cases hl : effective q.limit with
      | some count =>
        have hpaged := paged_first _ ha hc hd ho (Target.selectClause_top ha hd hl ho) h
        refine ⟨_, q.window, hpaged, ?_, fun _ _ => mem_window_iff⟩
        rw [Window.read_top, window_eq hl ho]
        rfl
      | none =>
        have hselect : t.selectClause q = Sql.lit (q.opening ++ "") ++ t.projection q := by
          rw [String.append_empty]
          exact Target.selectClause_eq ha fun _ => ⟨hl, ho⟩
        refine ⟨"", q.window, paged_first "" ha hc hd ho hselect h, ?_, fun _ _ => mem_window_iff⟩
        rw [window_eq hl ho]
        rfl
  · obtain ⟨w, hread, hmem⟩ := read_clauses (q := q) hd
    exact ⟨_, w, paged_last ha hc hd h, hread, hmem⟩

theorem leaves_iff_of_select_distinct : ∃ q sql paging w,
    Query.build "users" [.select ["name"], .distinct, .orderBy "name" .desc, .page 3 10] = .ok q ∧
      q.select ⟨.sqlserver, "app_"⟩ = .ok sql ∧ q.Paged ⟨.sqlserver, "app_"⟩ paging sql.text ∧
      Window.read paging = some w ∧ 20 ∉ w ∧ 21 ∈ w ∧ 30 ∈ w ∧ 31 ∉ w := by
  obtain ⟨q, sql, hq, hsql, ha, hlimit, hoffset⟩ : ∃ q sql,
      Query.build "users" [.select ["name"], .distinct, .orderBy "name" .desc, .page 3 10] = .ok q ∧
        q.select ⟨.sqlserver, "app_"⟩ = .ok sql ∧ q.aggregate = none ∧ q.limit = some 10 ∧
        q.offset = some 20 := ⟨_, _, rfl, rfl, rfl, rfl, rfl⟩
  obtain ⟨paging, w, hpaged, hread, hmem⟩ := leaves_iff_of_select ha hsql
  have hleaves : ∀ place ≤ maxRowNumber, place ∈ w ↔ 20 < place ∧ place ≤ 30 := by
    intro place hplace
    rw [hmem place hplace, Leaves, hlimit, hoffset]
    simp
  refine ⟨q, sql, paging, w, hq, hsql, hpaged, hread, ?_, ?_, ?_, ?_⟩
  all_goals rw [hleaves _ (by decide)]; decide

end Query

end SqlBuilder
