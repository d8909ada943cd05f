import SqlBuilder.Proofs.Failures
import SqlBuilder.Proofs.Lookup
import SqlBuilder.Proofs.Windows

/-!
# The columns that a SELECT returns

A statement is laid out as a list of entries over tables, or over a derived table that is a
statement itself; `Layout.columns` counts its columns, a star over a derived table standing for the
columns of that. Which columns the tables have, and which ones an entry of a query stands for, is
left open. Laid out like this the statement of a query returns the columns of its select list and,
where its rows are numbered, the column of the numbers (`Target.columns_layout`).

The statement of a query inside a predicate stands in the statement around it as it is
(`Query.infix_of_mem_predicates`), so the number column is one of its columns there as well: nothing
removes it but the method that reads the rows of the outermost statement. A column compared to the
rows of a query is compared to the select list alone exactly if those rows are not numbered, which
they are on SQL Server only (`Query.returns_columns_iff`).
-/

namespace SqlBuilder

/-! ## Layouts -/

/-- An entry of a select list. -/
inductive Entry where
  | star
  | selection (s : Selection)
  /-- An expression under a name. -/
  | named (expression name : String)

/-- The SELECT of a statement with its list of entries. -/
structure SelectList where
  distinct : Bool := false
  top : Option UInt64 := none
  entries : List Entry

/-- A statement over tables, or over the rows of another statement. -/
inductive Layout where
  | tables (list : SelectList) (behind : String)
  | derived (list : SelectList) (inner : Layout) (behind : String)

def Entry.text (t : Target) : Entry → String
  | .star => "*"
  | .selection s => t.selection s
  | .named expression name => expression ++ " AS " ++ t.naming.reference name

def SelectList.text (t : Target) (l : SelectList) : String :=
  "SELECT " ++ (if l.distinct then "DISTINCT " else "")
    ++ (match l.top with
      | some count => "TOP " ++ toString count.toNat ++ " "
      | none => "")
    ++ String.intercalate ", " (l.entries.map (Entry.text t))

/-- The statement that is laid out. -/
def Layout.text (t : Target) : Layout → String
  | .tables list behind => list.text t ++ " FROM " ++ behind
  | .derived list inner behind => list.text t ++ " FROM (" ++ inner.text t ++ ") AS " ++ behind

section Columns

variable (meaning : Selection → List String)

/-- The columns of an entry over tables or rows with certain columns. -/
def Entry.columns (all : List String) : Entry → List String
  | .star => all
  | .selection s => meaning s
  | .named _ name => [name]

/-- The columns that a statement returns, where its tables have the columns `all`. -/
def Layout.columns (all : List String) : Layout → List String
  | .tables list _ => list.entries.flatMap (Entry.columns meaning all)
  | .derived list inner _ => list.entries.flatMap (Entry.columns meaning (inner.columns all))

/-- The columns that a query asks for. -/
def Query.columns (all : List String) (q : Query) : List String :=
  match q.aggregate, q.selects with
  | some _, _ => ["aggregate"]
  | none, none => all
  | none, some [] => all
  | none, some selects => selects.flatMap meaning

end Columns

namespace Target

variable (t : Target) (q : Query)

/-- The entries for what a query asks for. -/
def entries : List Entry :=
  match q.aggregate, q.selects with
  | some a, _ =>
    let columns := t.naming.references a.columns
    let columns := if q.distinct && columns ≠ "*" then "DISTINCT " ++ columns else columns
    [.named (a.function.sql ++ "(" ++ columns ++ ")") "aggregate"]
  | none, none => [.star]
  | none, some [] => [.star]
  | none, some selects => selects.map .selection

/-- The limit that stands before the list of a query. -/
def top : Option UInt64 :=
  match t.dialect, effective q.limit, effective q.offset with
  | .sqlserver, some count, none => some count
  | _, _, _ => none

/-- The list of a query. An aggregate is made distinct inside, and needs no limit. -/
def list : SelectList :=
  match q.aggregate with
  | some _ => { entries := t.entries q }
  | none =>
    { distinct := q.distinct, top := t.top q, entries := t.entries q }

/-- The order that rows are numbered in. -/
def numberOrder (derived : Bool) : Sql :=
  let name (column : String) : String :=
    t.naming.reference (if derived then unqualified column else column)
  if q.orderings.isEmpty then Sql.lit "(SELECT 0)" else orderTerms name q.orderings

/-- The entry that numbers rows. -/
def numberEntry (derived : Bool) : Entry :=
  .named ("ROW_NUMBER() OVER (ORDER BY " ++ (t.numberOrder q derived).text ++ ")") "RowNum"

/-- What stands behind the FROM of a query, up to its order. -/
def source (conditions : List (Linked Sql)) : String :=
  t.naming.table q.table ++ Sql.text ([t.joins q, behind "WHERE" (Linked.chain conditions),
    t.groups q, t.havings q].flatMap Sql.spaced)

/-- The statement of the numbered rows of a query. -/
def numberedRows (conditions : List (Linked Sql)) : Layout :=
  let list := t.list q
  if q.distinct then
    .derived { entries := [.star, t.numberEntry q true] } (.tables list (t.source q conditions))
      (t.naming.reference "TempDistinct")
  else
    .tables { list with entries := list.entries ++ [t.numberEntry q false] } (t.source q conditions)

/-- The statement of a query, its conditions and the window of its row numbers given. -/
def layout (conditions : List (Linked Sql)) (window : String) : Layout :=
  if t.numbersRows q then
    .derived { entries := [.star] } (t.numberedRows q conditions)
      (t.naming.reference "TempTable" ++ " WHERE " ++ t.rowNumber ++ " " ++ window ++ " ORDER BY "
        ++ t.rowNumber)
  else
    .tables (t.list q) (t.source q conditions ++ Sql.text (Sql.spaced (t.orders q)
      ++ Sql.spaced (t.limit q) ++ Sql.spaced (t.offset q)))

end Target

/-- How the statement of a query is laid out. -/
def Query.LaidOut (t : Target) (q : Query) (l : Layout) : Prop :=
  ∃ conditions window, Predicate.chain t q.wheres = .ok conditions ∧
    (t.numbersRows q = true → rowWindow q.limit q.offset = .ok window) ∧
    l = t.layout q conditions window

namespace Target

variable {t : Target} {q : Query} {conditions : List (Linked Sql)}

/-! ## The text of a layout -/

theorem entries_list (t : Target) (q : Query) : (t.list q).entries = t.entries q := by
  rw [list]
  cases q.aggregate <;> rfl

theorem entries_ne_nil (t : Target) (q : Query) : t.entries q ≠ [] := by
  unfold entries
  cases q.aggregate with
  | some a => exact List.cons_ne_nil _ _
  | none =>
    cases q.selects with
    | none => exact List.cons_ne_nil _ _
    | some selects =>
      cases selects with
      | nil => exact List.cons_ne_nil _ _
      | cons s ss => exact List.cons_ne_nil _ _

theorem text_body : (t.body q conditions).text = " FROM " ++ t.source q conditions := by
  have hkeyword : " FROM " = " " ++ "FROM " := rfl
  rw [body, List.flatMap_cons, Sql.text_append, fromTable, Sql.text_spaced_lit, source, hkeyword]
  simp only [String.append_assoc]

theorem text_projection (ha : q.aggregate = none) :
    (t.projection q).text = String.intercalate ", " ((t.entries q).map (Entry.text t)) := by
  unfold projection entries
  rw [ha]
  cases q.selects with
  | none => simp [Entry.text]
  | some selects =>
    cases selects with
    | nil => simp [Entry.text]
    | cons s ss => simp [Entry.text, Function.comp_def]

theorem text_numbering (derived : Bool) :
    (t.numbering q derived).text = (t.numberEntry q derived).text t := by
  have hnumber : ") AS " ++ t.rowNumber = ")" ++ (" AS " ++ t.naming.reference "RowNum") := by
    rw [← String.append_assoc]
    rfl
  rw [numberEntry, Entry.text, numbering, Sql.text_append, Sql.text_append, Sql.text_lit,
    Sql.text_lit, hnumber, numberOrder]
  simp only [String.append_assoc]

/-- One more entry stands behind a comma. -/
theorem text_concat (l : SelectList) (hne : l.entries ≠ []) (e : Entry) :
    ({ l with entries := l.entries ++ [e] } : SelectList).text t =
      l.text t ++ ", " ++ e.text t := by
  have hentries : String.intercalate ", " ((l.entries ++ [e]).map (Entry.text t)) =
      String.intercalate ", " (l.entries.map (Entry.text t)) ++ ", " ++ e.text t := by
    apply String.toList_inj.1
    rw [String.toList_append, String.toList_append, String.toList_intercalate,
      String.toList_intercalate, List.map_append, List.map_append,
      intercalate_append (by simpa using hne) (by simp)]
    simp
  rw [SelectList.text, SelectList.text, hentries]
  simp only [String.append_assoc]

theorem text_selectClause_of_aggregate {a : Aggregate} (ha : q.aggregate = some a) :
    (t.selectClause q).text = (t.list q).text t := by
  have hkeyword : ") AS " = ")" ++ " AS " := rfl
  rw [selectClause, list, ha]
  simp only [SelectList.text, entries, ha, aggregate, Sql.text_lit, List.map_singleton,
    String.intercalate_singleton, Entry.text, hkeyword, String.append_assoc, String.empty_append,
    Bool.false_eq_true, if_false]

/-- The SELECT of a query is its list, with the numbers behind it if they are one more entry. -/
theorem text_selectClause : (t.selectClause q).text = (t.list q).text t ++
    if t.numbersRows q && !q.distinct then ", " ++ (t.numberEntry q false).text t else "" := by
  cases ha : q.aggregate with
  | some a =>
    have hn : t.numbersRows q = false := by simp [numbersRows, ha]
    rw [text_selectClause_of_aggregate ha, hn]
    exact (String.append_empty).symm
  | none =>
    have hnumbered : Sql.text (if t.numbersRows q && !q.distinct then
          Sql.lit ", " ++ t.numbering q false else []) =
        if t.numbersRows q && !q.distinct then ", " ++ (t.numberEntry q false).text t else "" := by
      split
      · rw [Sql.text_append, Sql.text_lit, text_numbering]
      · rfl
    rw [selectClause, list, ha]
    simp only [Sql.text_append, Sql.text_lit, hnumbered, text_projection ha, SelectList.text]
    unfold top
    cases t.dialect <;> cases effective q.limit <;> cases effective q.offset <;> rfl

/-- The SELECT of numbered rows, as one more column or around distinct ones. -/
theorem text_numberedRows (hn : t.numbersRows q = true) : (t.numberedRows q conditions).text t =
    Sql.text (if q.distinct then
      Sql.lit "SELECT *, " ++ t.numbering q true ++ Sql.lit " FROM (" ++
        (t.selectClause q ++ t.body q conditions) ++
        Sql.lit (") AS " ++ t.naming.reference "TempDistinct")
    else t.selectClause q ++ t.body q conditions) := by
  have hne : (t.list q).entries ≠ [] := by
    rw [entries_list]
    exact t.entries_ne_nil q
  rw [numberedRows]
  cases hd : q.distinct with
  | true =>
    have hstar : ({ entries := [.star, t.numberEntry q true] } : SelectList).text t =
        "SELECT *, " ++ (t.numberEntry q true).text t :=
      text_concat { entries := [.star] } (List.cons_ne_nil _ _) _
    simp only [if_true, Layout.text, hstar, Sql.text_append, Sql.text_lit, text_numbering,
      text_selectClause, text_body, hn, hd, Bool.not_true, Bool.and_false, Bool.false_eq_true,
      if_false, String.append_empty, String.append_assoc]
  | false =>
    simp only [Bool.false_eq_true, if_false, Layout.text, text_concat _ hne, Sql.text_append,
      text_selectClause, text_body, hn, hd, Bool.not_false, Bool.and_true, if_true,
      String.append_assoc]

/-- Every statement of a query is laid out. -/
theorem text_layout {sql : Sql} (h : q.select t = .ok sql) :
    ∃ l, q.LaidOut t l ∧ sql.text = l.text t := by
  obtain ⟨conditions, hc, h⟩ := bind_eq_ok.1 ((Query.select_eq t q).symm.trans h)
  cases hn : t.numbersRows q with
  | false =>
    rw [statement_of_plain hn] at h
    obtain rfl := Except.ok.inj h
    refine ⟨_, ⟨conditions, "", hc, fun h => absurd (hn.symm.trans h) Bool.false_ne_true, rfl⟩, ?_⟩
    rw [layout, hn]
    simp only [Bool.false_eq_true, Bool.false_and, if_false, Layout.text, Sql.text_append,
      text_selectClause, text_body, hn, String.append_assoc, String.append_empty]
  | true =>
    rw [statement_of_numbersRows hn] at h
    obtain ⟨window, hwindow, h⟩ := bind_eq_ok.1 h
    obtain rfl := Except.ok.inj h
    refine ⟨_, ⟨conditions, window, hc, fun _ => hwindow, rfl⟩, ?_⟩
    rw [layout, hn, if_pos rfl, Layout.text, text_numberedRows hn]
    have hstar : ({ entries := [.star] } : SelectList).text t = "SELECT *" := rfl
    have hopen : "SELECT * FROM (" = "SELECT *" ++ " FROM (" := rfl
    simp only [Sql.text_append, Sql.text_lit, hstar, hopen, String.append_assoc]

/-! ## The columns of a layout -/

theorem columns_entries (meaning : Selection → List String) (all : List String) :
    (t.entries q).flatMap (Entry.columns meaning all) = q.columns meaning all := by
  unfold entries Query.columns
  cases q.aggregate with
  | some a => rfl
  | none =>
    cases q.selects with
    | none => exact List.append_nil _
    | some selects =>
      cases selects with
      | nil => exact List.append_nil _
      | cons s ss => simp [List.flatMap_map, Entry.columns]

theorem columns_numberedRows (meaning : Selection → List String) (all : List String) :
    (t.numberedRows q conditions).columns meaning all = q.columns meaning all ++ ["RowNum"] := by
  unfold numberedRows
  cases q.distinct with
  | true =>
    -- the star of the distinct rows stands for the list inside
    simp [Layout.columns, entries_list, columns_entries, Entry.columns, numberEntry]
  | false =>
    simp [Layout.columns, entries_list, columns_entries, Entry.columns, numberEntry]

/-- The statement of a query returns what the query asks for, and the numbers of the rows if they
are numbered. -/
theorem columns_layout (conditions : List (Linked Sql)) (window : String)
    (meaning : Selection → List String) (all : List String) :
    (t.layout q conditions window).columns meaning all =
      q.columns meaning all ++ if t.numbersRows q then ["RowNum"] else [] := by
  unfold layout
  cases t.numbersRows q with
  | true => simp [Layout.columns, Entry.columns, columns_numberedRows]
  | false => simp [Layout.columns, entries_list, columns_entries]

end Target

/-! ## The statements inside a statement -/

mutual

/-- The predicates of a query, at any depth. -/
def Query.predicates : Query → List Predicate
  | ⟨_, _, _, _, _, wheres, _, _, _, _, _, _, _⟩ => Predicate.chainPredicates wheres

def Predicate.chainPredicates : List (Linked Predicate) → List Predicate
  | [] => []
  | p :: ps => Predicate.linkedPredicates p ++ Predicate.chainPredicates ps

def Predicate.linkedPredicates : Linked Predicate → List Predicate
  | ⟨_, p⟩ => p :: p.innerPredicates

/-- The predicates inside a group or inside the query of a predicate. -/
def Predicate.innerPredicates : Predicate → List Predicate
  | .comparison _ => []
  | .member .. => []
  | .between .. => []
  | .null .. => []
  | .raw .. => []
  | .group members => Predicate.chainPredicates members
  | .memberOf _ _ query => query.predicates
  | .present _ query => query.predicates

end

theorem Linked.infix_chain {conditions : List (Linked Sql)} {l : Linked Sql}
    (h : l ∈ conditions) : l.item <:+: Linked.chain conditions := by
  cases conditions with
  | nil => cases h
  | cons first rest =>
    rw [Linked.chain]
    rcases List.mem_cons.1 h with rfl | h
    · exact Sql.infix_joined " " List.mem_cons_self
    · have hmem := List.mem_map_of_mem
        (f := fun l : Linked Sql => Sql.lit (l.connector.sql ++ " ") ++ l.item) h
      exact (List.suffix_append _ _).isInfix.trans
        (Sql.infix_joined " " (List.mem_cons_of_mem _ hmem))

theorem Target.infix_behind (keyword : String) (clause : Sql) :
    clause <:+: behind keyword clause := by
  unfold behind
  split
  · next he => rw [List.isEmpty_iff.1 he]
  · exact (List.suffix_append _ _).isInfix

section Inside

variable {t : Target} {p : Predicate}

mutual

/-- The condition of a predicate at any depth stands in the statement of the query. -/
theorem Query.infix_of_mem_predicates : ∀ (q : Query) {sql : Sql}, p ∈ q.predicates →
    q.select t = .ok sql → ∃ c, p.condition t = .ok c ∧ c <:+: sql
  | ⟨_, _, _, _, _, wheres, _, _, _, _, _, _, _⟩, _, hp, h => by
    obtain ⟨clause, hclause, hinfix⟩ := Query.infix_select h
    obtain ⟨conditions, hc, hclause⟩ := bind_eq_ok.1 hclause
    cases hclause
    rw [Query.predicates] at hp
    obtain ⟨c, hcondition, l, hl, hitem⟩ := Predicate.infix_of_mem_chain wheres hp hc
    exact ⟨c, hcondition, hitem.trans ((Linked.infix_chain hl).trans
      ((Target.infix_behind "WHERE" _).trans hinfix))⟩

theorem Predicate.infix_of_mem_chain : ∀ (ps : List (Linked Predicate))
    {conditions : List (Linked Sql)}, p ∈ Predicate.chainPredicates ps →
    Predicate.chain t ps = .ok conditions →
      ∃ c, p.condition t = .ok c ∧ ∃ l ∈ conditions, c <:+: l.item
  | [], _, hp, _ => by
    rw [Predicate.chainPredicates] at hp
    cases hp
  | first :: rest, _, hp, h => by
    rw [Predicate.chain] at h
    obtain ⟨l, hfirst, h⟩ := bind_eq_ok.1 h
    obtain ⟨ls, hrest, h⟩ := bind_eq_ok.1 h
    cases h
    rw [Predicate.chainPredicates, List.mem_append] at hp
    rcases hp with hp | hp
    · obtain ⟨c, hcondition, hitem⟩ := Predicate.infix_of_mem_linked first hp hfirst
      exact ⟨c, hcondition, l, List.mem_cons_self, hitem⟩
    · obtain ⟨c, hcondition, l', hl', hitem⟩ := Predicate.infix_of_mem_chain rest hp hrest
      exact ⟨c, hcondition, l', List.mem_cons_of_mem _ hl', hitem⟩

theorem Predicate.infix_of_mem_linked : ∀ (l : Linked Predicate) {l' : Linked Sql},
    p ∈ Predicate.linkedPredicates l → Predicate.linked t l = .ok l' →
      ∃ c, p.condition t = .ok c ∧ c <:+: l'.item
  | ⟨_, own⟩, _, hp, h => by
    rw [Predicate.linked] at h
    obtain ⟨condition, hown, h⟩ := bind_eq_ok.1 h
    cases h
    rw [Predicate.linkedPredicates] at hp
    rcases List.mem_cons.1 hp with rfl | hp
    · exact ⟨condition, hown, List.infix_rfl⟩
    · exact Predicate.infix_of_mem_inner own hp hown

theorem Predicate.infix_of_mem_inner : ∀ (own : Predicate) {condition : Sql},
    p ∈ own.innerPredicates → own.condition t = .ok condition →
      ∃ c, p.condition t = .ok c ∧ c <:+: condition
  | .comparison _, _, hp, _ => by simp [Predicate.innerPredicates] at hp
  | .member _ _ _, _, hp, _ => by simp [Predicate.innerPredicates] at hp
  | .between _ _ _ _, _, hp, _ => by simp [Predicate.innerPredicates] at hp
  | .null _ _, _, hp, _ => by simp [Predicate.innerPredicates] at hp
  | .raw _ _, _, hp, _ => by simp [Predicate.innerPredicates] at hp
  | .group members, _, hp, h => by
    rw [Predicate.innerPredicates] at hp
    rw [Predicate.condition] at h
    obtain ⟨conditions, hc, h⟩ := bind_eq_ok.1 h
    cases h
    obtain ⟨c, hcondition, l, hl, hitem⟩ := Predicate.infix_of_mem_chain members hp hc
    exact ⟨c, hcondition, hitem.trans ((Linked.infix_chain hl).trans (List.infix_append _ _ _))⟩
  | .memberOf _ _ query, _, hp, h => by
    rw [Predicate.innerPredicates] at hp
    rw [Predicate.condition] at h
    obtain ⟨source, hsource, h⟩ := bind_eq_ok.1 h
    cases h
    obtain ⟨c, hcondition, hinfix⟩ := Query.infix_of_mem_predicates query hp hsource
    exact ⟨c, hcondition, hinfix.trans (List.infix_append _ _ _)⟩
  | .present _ query, _, hp, h => by
    rw [Predicate.innerPredicates] at hp
    rw [Predicate.condition] at h
    obtain ⟨source, hsource, h⟩ := bind_eq_ok.1 h
    cases h
    obtain ⟨c, hcondition, hinfix⟩ := Query.infix_of_mem_predicates query hp hsource
    exact ⟨c, hcondition, hinfix.trans (List.infix_append _ _ _)⟩

end

end Inside

namespace Query

variable {t : Target} {q s : Query}

/-- The statement of a query that a column is compared to, at any depth, stands in the statement
around it. Laid out, it returns the columns of its select list and, where its rows are numbered, the
column of the numbers, so it returns the columns of the list alone exactly if it needs no
numbers: unless it has an offset on SQL Server. -/
theorem returns_columns_iff {sql : Sql} {negated : Bool} {column : String}
    (h : q.select t = .ok sql) (hs : .memberOf negated column s ∈ q.predicates) :
    ∃ source l, s.select t = .ok source ∧ t.memberOf negated column source <:+: sql ∧
      s.LaidOut t l ∧ source.text = l.text t ∧
      (∀ meaning all, l.columns meaning all =
        s.columns meaning all ++ if t.numbersRows s then ["RowNum"] else []) ∧
      ((∀ meaning all, l.columns meaning all = s.columns meaning all) ↔
        ¬ (t.dialect = .sqlserver ∧ s.aggregate = none ∧
          ∃ skipped, s.offset = some skipped ∧ 0 < skipped)) := by
  obtain ⟨c, hcondition, hinfix⟩ := q.infix_of_mem_predicates hs h
  rw [Predicate.condition] at hcondition
  obtain ⟨source, hsource, hcondition⟩ := bind_eq_ok.1 hcondition
  cases hcondition
  obtain ⟨l, hl, htext⟩ := Target.text_layout hsource
  have hcolumns : ∀ meaning all, l.columns meaning all =
      s.columns meaning all ++ if t.numbersRows s then ["RowNum"] else [] := by
    obtain ⟨conditions, window, -, -, rfl⟩ := hl
    exact Target.columns_layout conditions window
  refine ⟨source, l, hsource, hinfix, hl, htext, hcolumns, ?_⟩
  rw [← t.numbersRows_iff, Bool.not_eq_true]
  cases hn : t.numbersRows s with
  | true =>
    refine iff_of_false (fun hsame => ?_) (by decide)
    have hextra := (hcolumns (fun _ => []) []).symm.trans (hsame (fun _ => []) [])
    rw [hn] at hextra
    exact absurd (List.append_right_eq_self.1 hextra) (List.cons_ne_nil _ _)
  | false =>
    refine iff_of_true (fun meaning all => ?_) rfl
    rw [hcolumns, hn]
    exact List.append_nil _

/-- Orders that have none of the lines behind the first twenty in a group, with one that is open. -/
def linedSteps : List Step :=
  [.nested .or [.null .and false "void",
    .memberOf true "id" "lines" [.distinct, .select ["order_id"], .orderBy "n" .asc, .skip 20]]]

/-- Distinct rows are numbered in a second derived table. -/
theorem returns_columns_iff_lined : ∃ q lines sql source, ∃ l : Layout,
    Query.build "orders" linedSteps = .ok q ∧ q.select ⟨.sqlserver, "app_"⟩ = .ok sql ∧
      .memberOf true "id" lines ∈ q.predicates ∧ lines.select ⟨.sqlserver, "app_"⟩ = .ok source ∧
      source.text = l.text ⟨.sqlserver, "app_"⟩ ∧
      ∀ meaning all, l.columns meaning all = lines.columns meaning all ++ ["RowNum"] := by
  obtain ⟨q, sql, hq, hsql⟩ : ∃ q sql, Query.build "orders" linedSteps = .ok q ∧
      q.select ⟨.sqlserver, "app_"⟩ = .ok sql := exists_of_isOk_bind (by decide +kernel)
  obtain ⟨q', group, void, lines, hq', hpredicates, ha, ho⟩ : ∃ q group void lines,
      Query.build "orders" linedSteps = .ok q ∧
      q.predicates = [group, void, .memberOf true "id" lines] ∧ lines.aggregate = none ∧
      lines.offset = some 20 := ⟨_, _, _, _, rfl, rfl, rfl, rfl⟩
  obtain rfl := Except.ok.inj (hq'.symm.trans hq)
  have hmem : .memberOf true "id" lines ∈ q'.predicates := by simp [hpredicates]
  have hn : Target.numbersRows ⟨.sqlserver, "app_"⟩ lines = true :=
    (Target.numbersRows_iff _).2 ⟨rfl, ha, 20, ho, by decide⟩
  obtain ⟨source, l, hsource, -, -, htext, hcolumns, -⟩ := returns_columns_iff hsql hmem
  refine ⟨q', lines, sql, source, l, hq', hsql, hmem, hsource, htext, fun meaning all => ?_⟩
  rw [hcolumns, hn]
  rfl

/-- One page of the keys of the buyers. -/
def buyerSteps : List Step :=
  [.memberOf false "id" "orders" [.select ["user_id"], .skip 10, .take 5]]

/-- The users among one page of buyers are compared to rows of two columns. -/
theorem not_returns_columns_buyers : ∃ q buyers, ∃ l : Layout,
    Query.build "users" buyerSteps = .ok q ∧ q.predicates = [.memberOf false "id" buyers] ∧
      (q.select ⟨.sqlserver, ""⟩).map Sql.text =
        .ok ("SELECT * FROM [users] WHERE [id] IN (" ++ l.text ⟨.sqlserver, ""⟩ ++ ")") ∧
      buyers.LaidOut ⟨.sqlserver, ""⟩ l ∧
      (∀ all, buyers.columns (fun _ => ["user_id"]) all = ["user_id"]) ∧
      ∀ all, l.columns (fun _ => ["user_id"]) all = ["user_id", "RowNum"] := by
  obtain ⟨q, buyers, hq, hpredicates, hlist⟩ : ∃ q buyers, Query.build "users" buyerSteps = .ok q ∧
      q.predicates = [.memberOf false "id" buyers] ∧
      buyers = { ofTable "orders" with
        selects := some [.column "user_id"], limit := some 5, offset := some 10 } :=
    ⟨_, _, rfl, rfl, rfl⟩
  refine ⟨q, buyers, Target.layout ⟨.sqlserver, ""⟩ buyers [] "BETWEEN 11 AND 15", hq, hpredicates,
    ?_, ⟨[], _, ?_, ?_, rfl⟩, ?_, ?_⟩
  · obtain rfl := Except.ok.inj hq
    rw [hlist]
    decide +kernel
  all_goals rw [hlist]
  · rfl
  · exact fun _ => rfl
  · exact fun _ => rfl
  · exact fun _ => rfl

end Query

end SqlBuilder
