import SqlBuilder.Proofs.Fields
import SqlBuilder.Proofs.Inserts
import SqlBuilder.Proofs.References
import SqlBuilder.Proofs.Words
import SqlBuilder.Proofs.Writes

/-!
# Keys of inserted rows

On Postgres the INSERT of a row answers the key that was generated for it, under the name that the
RETURNING clause gives the column. That is the last identifier of the reference as it is written,
which `Quotes.lastIdentifier?` reads, and it is the result name of the column
(`Naming.lastIdentifier?_reference`). The key is looked up under the reference itself, qualifiers
and alias included, so it is found exactly if the reference has neither (`Query.readsKey_iff`).
-/

namespace SqlBuilder

/-! ## The last identifier of a text -/

namespace Quotes

/-- The name of the identifier at the end of a text, read from the end. This takes quotes that are
the same on both sides. -/
def lastIdentifier? (q : Quotes) (cs : List Char) : Option (List Char) :=
  (q.readIdentifier cs.reverse).map fun (name, _) => name.reverse

variable {q : Quotes}

theorem reverse_escape (name : List Char) : (q.escape name).reverse = q.escape name.reverse := by
  rw [escape, escape, List.reverse_flatMap]
  congr 1
  funext c
  rw [Function.comp_apply]
  split <;> rfl

theorem reverse_enclose (hq : q.opening = q.closing) (name : List Char) :
    (q.enclose name).reverse = q.enclose name.reverse := by
  simp [enclose, reverse_escape, hq]

/-- An identifier at the end of a text is read where no quote stands before it. -/
theorem lastIdentifier?_append_enclose (hq : q.opening = q.closing) {front name : List Char}
    (h : front.getLast? ≠ some q.closing) :
    q.lastIdentifier? (front ++ q.enclose name) = some name := by
  have hread : q.readIdentifier (front ++ q.enclose name).reverse =
      some (name.reverse, front.reverse) := by
    rw [List.reverse_append, reverse_enclose hq]
    exact readIdentifier_enclose (by rwa [List.head?_reverse])
  rw [lastIdentifier?, hread, Option.map_some]
  exact congrArg some (List.reverse_reverse name)

end Quotes

namespace Naming

variable {n : Naming}

/-- The last of the segments of a column path never names a table. -/
theorem exists_columnSegments_concat {segments : List (List Char)} {last : List Char}
    (h : segments.getLast? = some last) :
    ∃ before, n.columnSegments segments = before ++ [n.quotes.quote last] := by
  obtain ⟨before, rfl⟩ := List.getLast?_eq_some_iff.1 h
  match before with
  | [] => exact ⟨[], rfl⟩
  | [first] => exact ⟨[n.tableSegment first], rfl⟩
  | first :: second :: before =>
    exact ⟨n.tableSegment first :: (second :: before).map n.quotes.quote, by simp [columnSegments]⟩

/-- What is written for a reference ends in its result name, alone or behind a point or a blank. -/
theorem exists_toList_reference (column : String) : ∃ front,
    (n.reference column).toList = front ++ n.quotes.quote (resultName column).toList ∧
      ∀ c ∈ front.getLast?, c = '.' ∨ c = ' ' := by
  rw [reference, String.toList_ofList]
  unfold aliased resultName
  cases cutAlias? column.toList with
  | some cut =>
    obtain ⟨name, label⟩ := cut
    refine ⟨n.columnPath name ++ " AS ".toList, ?_, ?_⟩
    · simp only [String.toList_ofList]
    · intro c hc
      rw [List.getLast?_append] at hc
      exact Or.inr (Option.some.inj hc).symm
  | none =>
    obtain ⟨before, hsegments⟩ :=
      exists_columnSegments_concat (n := n) (getLast?_splitOn column.toList '.')
    dsimp only
    rw [columnPath, mapPath, hsegments, String.toList_ofList]
    by_cases hbefore : before = []
    · exact ⟨[], by rw [hbefore]; simp, by simp⟩
    · refine ⟨['.'].intercalate before ++ ['.'], ?_, ?_⟩
      · rw [intercalate_append hbefore (List.cons_ne_nil _ _), List.intercalate_singleton]
      · intro c hc
        rw [List.getLast?_concat] at hc
        exact Or.inl (Option.some.inj hc).symm

/-- The last identifier of what is written for a reference is its result name. -/
theorem lastIdentifier?_reference (hq : n.quotes.opening = n.quotes.closing)
    (hpoint : n.quotes.closing ≠ '.') (hblank : n.quotes.closing ≠ ' ') {column : String}
    (h : n.quotes.Plain (resultName column).toList) :
    n.quotes.lastIdentifier? (n.reference column).toList = some (resultName column).toList := by
  obtain ⟨front, hwritten, hfront⟩ := n.exists_toList_reference column
  rw [hwritten, quote_eq_enclose h]
  refine Quotes.lastIdentifier?_append_enclose hq fun hlast => ?_
  rcases hfront _ hlast with he | he
  · exact hpoint he
  · exact hblank he

end Naming

/-- An alias is shorter than its reference. -/
theorem length_lt_of_cutAlias? {cs name label : List Char} (h : cutAlias? cs = some (name, label)) :
    label.length < cs.length := by
  obtain ⟨⟨before, rest⟩, hcut, he⟩ := Option.map_eq_some_iff.1 h
  cases he
  obtain ⟨spelled, hspelled, rfl, -⟩ := Text.exists_of_splitFirst? (List.cons_ne_nil _ _) hcut
  have hkeyword := Text.length_of_lowerAscii hspelled
  have htrim := (Text.trim_infix rest).length_le
  simp only [List.length_append, List.length_cons, List.length_nil] at hkeyword ⊢
  omega

/-- A column comes back under the reference itself exactly if it has no alias and no qualifiers. -/
theorem resultName_eq_self_iff {column : String} :
    resultName column = column ↔ cutAlias? column.toList = none ∧ '.' ∉ column.toList := by
  rw [← String.toList_inj]
  unfold resultName
  cases hcut : cutAlias? column.toList with
  | some cut =>
    obtain ⟨name, label⟩ := cut
    refine iff_of_false (fun he => ?_) (fun h => nomatch h.1)
    have hlength := length_lt_of_cutAlias? hcut
    rw [← he, String.toList_ofList] at hlength
    exact lt_irrefl _ hlength
  | none =>
    have hmem := getLastD_splitOn_mem column.toList '.'
    rw [String.toList_ofList, and_iff_right rfl]
    constructor
    · intro he
      rw [← he]
      exact not_mem_of_mem_splitOn hmem
    · intro hpoint
      rw [List.splitOn_eq_singleton hpoint]
      rfl

namespace Query

/-! ## Reading the key -/

/-- A database answers the INSERT of a row that is accepted with rows, of which the first is given.
-/
structure KeyAnswered {σ : Type} (db : Database σ) (q : Query) (row : Row Value) (idColumn : String)
    (s : Session σ) (first : ResultRow) : Prop where
  accepted : row ≠ []
  answer : ∀ v sql, InsertRows.ofRows [row] = .ok v →
    db.target.insertReturning q.table v idColumn = .ok sql →
    ∃ rest, (db.connection.select sql.text v.bindings s.state).1 = .ok (first :: rest)

theorem forName_pgsql : Dialect.forName "pgsql" = .postgres := by
  decide

/-- Whatever is inserted, a key that the first row answered has under the name of the RETURNING
clause is the result. -/
def ReadsKey (t : Target) (idColumn : String) : Prop :=
  ∀ {σ : Type} (db : Database σ) (q : Query) (row : Row Value) (s : Session σ) (first : ResultRow)
    (name : String) (key : Int64), db.target = t → KeyAnswered db q row idColumn s first →
    t.dialect.quotes.lastIdentifier? (t.naming.reference idColumn).toList = some name.toList →
    first.get? name = some (.int key.toInt) →
    (q.insertReturning db row idColumn s).1 = .ok (some key)

variable {σ : Type} {db : Database σ} {q : Query} {row : Row Value} {idColumn : String}
  {s : Session σ} {first : ResultRow}

/-- The key is what the first row holds under the reference of the column. -/
theorem insertReturning_of_answered (hd : db.target.dialect = .postgres)
    (h : KeyAnswered db q row idColumn s first) :
    (q.insertReturning db row idColumn s).1 = .ok ((first.get? idColumn).bind Json.toInt64?) := by
  obtain ⟨v, hrows⟩ : ∃ v, InsertRows.ofRows [row] = .ok v :=
    ⟨_, InsertRows.ofRows_cons h.accepted []⟩
  have hsql := db.target.insertReturning_eq hrows q.table idColumn
  obtain ⟨rest, hanswer⟩ := h.answer _ _ hrows hsql
  have hreturns : db.target.dialect.returnsKey = true := by
    rw [hd]
    rfl
  simp only [insertReturning, hrows, hsql, hreturns, if_true, Database.select, hanswer]
  rfl

theorem toInt64?_toInt (key : Int64) : (Json.int key.toInt).toInt64? = some key := by
  have hlow := Int64.le_toInt key
  have hhigh := Int64.toInt_lt key
  have hrange : (Json.minSigned ≤ key.toInt && key.toInt ≤ Json.maxSigned) = true := by
    rw [Json.minSigned, Json.maxSigned, Bool.and_eq_true, decide_eq_true_iff, decide_eq_true_iff]
    omega
  rw [Json.toInt64?, if_pos hrange, Int64.ofInt_toInt]

/-- A database of Postgres that answers every statement with one row. -/
def answering (tablePrefix : String) (row : ResultRow) : Database Unit where
  connection :=
    { select := fun _ _ state => (.ok [row], state)
      execute := fun _ _ state => (.error .serialization, state) }
  config := { driver := "pgsql", tablePrefix }

theorem keyAnswered_answering (tablePrefix : String) (q : Query) {row : Row Value} (h : row ≠ [])
    (idColumn : String) (first : ResultRow) :
    KeyAnswered (answering tablePrefix first) q row idColumn ⟨(), []⟩ first where
  accepted := h
  answer _ _ _ _ := ⟨[], rfl⟩

/-- The key of an inserted row is read, whatever the row, exactly if its column is named without
qualifiers and without an alias. -/
theorem readsKey_iff {tablePrefix idColumn : String}
    (h : (Dialect.quotes .postgres).Plain (resultName idColumn).toList) :
    ReadsKey ⟨.postgres, tablePrefix⟩ idColumn ↔
      cutAlias? idColumn.toList = none ∧ '.' ∉ idColumn.toList := by
  obtain ⟨hpoint, hblank⟩ := Dialect.closing_quotes .postgres
  have hlast := Naming.lastIdentifier?_reference (n := Target.naming ⟨.postgres, tablePrefix⟩) rfl
    hpoint hblank h
  rw [← resultName_eq_self_iff]
  constructor
  · intro hreads
    have htarget : (answering tablePrefix [(resultName idColumn, .int 1)]).target =
        ⟨.postgres, tablePrefix⟩ := congrArg (Target.mk · tablePrefix) forName_pgsql
    have hanswered := keyAnswered_answering tablePrefix (ofTable "")
      (List.cons_ne_nil ("", .null) []) idColumn [(resultName idColumn, .int 1)]
    have hkey := hreads _ _ _ _ _ _ 1 htarget hanswered hlast (by simp [Fields.get?])
    rw [insertReturning_of_answered (by rw [htarget]) hanswered, Fields.get?_cons] at hkey
    by_contra hne
    rw [if_neg (Ne.symm hne)] at hkey
    cases hkey
  · intro hname σ db q row s first name key htarget hanswered hread hget
    have he : name = idColumn := by
      rw [← hname]
      exact String.toList_inj.1 (Option.some.inj (hread.symm.trans hlast))
    rw [insertReturning_of_answered (by rw [htarget]) hanswered, ← he, hget]
    exact congrArg Except.ok (toInt64?_toInt key)

/-- A name with a quote in it, and an alias. -/
theorem readsKey_iff_quote :
    (Dialect.quotes .postgres).Plain (resultName "user\x22 key").toList ∧
      ReadsKey ⟨.postgres, "app_"⟩ "user\x22 key" ∧
      (Dialect.quotes .postgres).Plain (resultName "id As key").toList ∧
      ¬ ReadsKey ⟨.postgres, "app_"⟩ "id As key" := by
  have hquote : (Dialect.quotes .postgres).Plain (resultName "user\x22 key").toList := by decide
  have hlabel : (Dialect.quotes .postgres).Plain (resultName "id As key").toList := by decide
  refine ⟨hquote, (readsKey_iff hquote).2 (by decide), hlabel, ?_⟩
  rw [readsKey_iff hlabel]
  decide

/-- A key that is answered is not found by its qualified name. -/
theorem not_readsKey : ∃ s,
    KeyAnswered (Terminal.replaying "pgsql" "") (ofTable "users") [("email", .string "a@b.c")]
        "users.id" s [("id", .int 7)] ∧
      (Dialect.quotes .postgres).lastIdentifier?
        (Naming.reference ⟨Dialect.quotes .postgres, ""⟩ "users.id").toList = some "id".toList ∧
      ((ofTable "users").insertReturning (Terminal.replaying "pgsql" "")
        [("email", .string "a@b.c")] "users.id" s).1 = .ok none ∧
      ¬ ReadsKey ⟨.postgres, ""⟩ "users.id" := by
  obtain ⟨s, hanswered, hlast, hnone⟩ : ∃ s,
      KeyAnswered (Terminal.replaying "pgsql" "") (ofTable "users") [("email", .string "a@b.c")]
          "users.id" s [("id", .int 7)] ∧
        (Dialect.quotes .postgres).lastIdentifier?
          (Naming.reference ⟨Dialect.quotes .postgres, ""⟩ "users.id").toList =
            some "id".toList ∧
        ((ofTable "users").insertReturning (Terminal.replaying "pgsql" "")
          [("email", .string "a@b.c")] "users.id" s).1 = .ok none :=
    ⟨⟨{ results := [[[("id", .int 7)]]] }, []⟩,
      ⟨List.cons_ne_nil _ _, fun _ _ _ _ => ⟨[], rfl⟩⟩, by decide, rfl⟩
  refine ⟨s, hanswered, hlast, hnone, fun hreads => ?_⟩
  have htarget : (Terminal.replaying "pgsql" "").target = ⟨.postgres, ""⟩ :=
    congrArg (Target.mk · "") forName_pgsql
  have hkey := hreads _ _ _ _ _ "id" 7 htarget hanswered hlast rfl
  rw [hnone] at hkey
  cases hkey

end Query

end SqlBuilder
