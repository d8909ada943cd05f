import SqlBuilder.Proofs.Qualifiers
import SqlBuilder.Proofs.SchemaNumbering
import SqlBuilder.Schema.SqlServer

/-!
# The name of a table inside other names

Most statements name a table as a path of identifiers, with the prefix at the last of them. Three
do not: renaming on SQL Server takes the table, or one of its columns, as a path in a string
literal, and dropping an unnamed primary key on Postgres takes the name of a constraint made of the
table's. These put the prefix in front of the whole name. So they speak of the same table as all
other statements only where the name is a single one, or, for the literals, where there is no
prefix (`names_alike_iff`).
-/

namespace SqlBuilder.Schema

/-- The text between quotes that follows some words at the beginning of a statement. -/
def quotedBehind? (q : Quotes) (words sql : String) : Option (List Char) :=
  if words.toList <+: sql.toList then
    (q.readIdentifier (sql.toList.drop words.toList.length)).map Prod.fst
  else none

theorem quotedBehind?_eq {q : Quotes} {words sql : String} {text rest : List Char}
    (hsql : sql.toList = words.toList ++ (q.enclose text ++ rest))
    (hrest : rest.head? ≠ some q.closing) : quotedBehind? q words sql = some text := by
  rw [quotedBehind?, hsql, if_pos (List.prefix_append _ _), List.drop_left,
    Quotes.readIdentifier_enclose hrest]
  rfl

/-! ## Paths with a prefix -/

section

variable {front last : List Char} {schema : List (List Char)}

/-- A prefix without points goes to the first name of a path. -/
theorem splitOn_append_intercalate {first : List Char} {rest : List (List Char)}
    (hfront : '.' ∉ front) (hpath : ∀ name ∈ first :: rest, '.' ∉ name) :
    (front ++ ['.'].intercalate (first :: rest)).splitOn '.' = (front ++ first) :: rest := by
  have hjoin : front ++ ['.'].intercalate (first :: rest) =
      ['.'].intercalate ((front ++ first) :: rest) := by
    cases rest with
    | nil => rw [List.intercalate_singleton, List.intercalate_singleton]
    | cons second rest =>
      rw [List.intercalate_cons_cons, List.intercalate_cons_cons, List.append_assoc,
        List.append_assoc, List.append_assoc]
  obtain ⟨hfirst, hrest⟩ := List.forall_mem_cons.1 hpath
  rw [hjoin]
  refine List.splitOn_intercalate '.' (List.forall_mem_cons.2 ⟨?_, hrest⟩) (List.cons_ne_nil _ _)
  intro hmem
  exact (List.mem_append.1 hmem).elim hfront hfirst

/-- A path is its last name only if that is the only one. -/
theorem intercalate_concat_eq_self_iff :
    ['.'].intercalate (schema ++ [last]) = last ↔ schema = [] := by
  constructor
  · intro h
    by_contra hne
    rw [intercalate_append hne (List.cons_ne_nil _ _), List.intercalate_singleton,
      List.append_left_eq_self] at h
    exact List.cons_ne_nil _ _ (List.append_eq_nil_iff.1 h).2
  · rintro rfl
    exact List.intercalate_singleton

/-- A path with the prefix in front of the whole is one with the prefix at its last name exactly
if there is no prefix, or one name and no point in the prefix. -/
theorem splitOn_eq_prefixPath_concat_iff (hpath : ∀ name ∈ schema ++ [last], '.' ∉ name) :
    (front ++ ['.'].intercalate (schema ++ [last])).splitOn '.' =
        Reference.prefixPath front schema ++ [front ++ last] ↔
      front = [] ∨ schema = [] ∧ '.' ∉ front := by
  obtain ⟨first, rest, hcons⟩ : ∃ first rest, schema ++ [last] = first :: rest := by
    cases schema with
    | nil => exact ⟨last, [], rfl⟩
    | cons name more => exact ⟨name, more ++ [last], rfl⟩
  by_cases hfront : '.' ∈ front
  · -- the names that a text is cut into have no points
    refine iff_of_false (fun h => ?_) ?_
    · have hmem : front ++ last ∈ (front ++ ['.'].intercalate (schema ++ [last])).splitOn '.' := by
        rw [h]
        exact List.mem_append_right _ (List.mem_singleton_self _)
      exact not_mem_of_mem_splitOn hmem (List.mem_append_left _ hfront)
    · rintro (rfl | ⟨-, hpoint⟩)
      · exact List.not_mem_nil hfront
      · exact hpoint hfront
  · have hsplit := splitOn_append_intercalate hfront (hcons ▸ hpath)
    rw [hcons, hsplit, Reference.cons_eq_prefixPath_concat_iff hcons]
    exact or_congr_right (and_iff_left hfront).symm

end

/-! ## What statements say -/

section

variable (tablePrefix : String) (b : Blueprint)

/-- The path of identifiers that statements in a dialect have for the table. -/
def TablePath (d : Dialect) (path : List (List Char)) : Prop :=
  d.quotes.readPath (Naming.table ⟨d.quotes, tablePrefix⟩ b.name).toList = some (path, [])

/-- The words of a statement that renames. -/
def SqlServer.renameWords : String :=
  "EXEC sp_rename "

/-- The statement that renames the table, and the one that renames a column of it, call the table
`object`. -/
structure SqlServer.Renames (source target : String) (object : List Char) : Prop where
  table : ∃ sql, (ddl tablePrefix).compile b (.rename target) = .ok [sql] ∧
    quotedBehind? literalQuotes renameWords sql = some object
  column : ∃ sql, (ddl tablePrefix).compile b (.renameColumn source target) = .ok [sql] ∧
    quotedBehind? literalQuotes renameWords sql = some (object ++ '.' :: source.toList)

/-- The statement that drops an unnamed primary key drops a constraint of the table. -/
def Postgres.DropsPrimary (constraint : List Char) : Prop :=
  ∃ sql, (ddl tablePrefix).compile b (.dropPrimary none) = .ok [sql] ∧
    quotedBehind? (Dialect.quotes .postgres) (alter (ddl tablePrefix).naming b "DROP CONSTRAINT ")
      sql = some constraint

namespace SqlServer

theorem quotedBehind?_rename (object behind : String) :
    quotedBehind? literalQuotes renameWords (renameWords ++ literal object ++ ", " ++ behind) =
      some object.toList := by
  have hchars : (renameWords ++ literal object ++ ", " ++ behind).toList =
      renameWords.toList ++
        (literalQuotes.enclose object.toList ++ ',' :: ' ' :: behind.toList) := by
    simp only [String.toList_append, toList_literal, List.append_assoc]
    rfl
  have hcomma : (',' :: ' ' :: behind.toList).head? ≠ some literalQuotes.closing :=
    fun h => absurd (Option.some.inj h) (by decide)
  exact quotedBehind?_eq hchars hcomma

/-- The prefix stands in front of the whole name. -/
theorem renames (source target : String) :
    Renames tablePrefix b source target (tablePrefix.toList ++ b.name.toList) := by
  constructor
  · refine ⟨_, rfl, ?_⟩
    rw [← String.toList_append]
    exact quotedBehind?_rename (tablePrefix ++ b.name) (literal (tablePrefix ++ target))
  · refine ⟨_, rfl, ?_⟩
    have hobject : (tablePrefix ++ b.name ++ "." ++ source).toList =
        tablePrefix.toList ++ b.name.toList ++ '.' :: source.toList := by
      simp only [String.toList_append, List.append_assoc]
      rfl
    have hread := quotedBehind?_rename (tablePrefix ++ b.name ++ "." ++ source)
      (literal target ++ ", 'COLUMN'")
    rwa [← String.append_assoc, hobject] at hread

end SqlServer

namespace Postgres

theorem toList_primaryName (n : Naming) :
    (primaryName n b).toList = n.tablePrefix.toList ++ b.name.toList ++ "_pkey".toList := by
  rw [primaryName, String.toList_append, String.toList_append]

/-- The name of an unnamed primary key is written as an identifier, for it ends in a letter. -/
theorem toList_value_primaryName {n : Naming} (hn : n.quotes = Dialect.quotes .postgres) :
    (n.value (primaryName n b)).toList =
      n.quotes.enclose (n.tablePrefix.toList ++ b.name.toList ++ "_pkey".toList) := by
  have hstar : (primaryName n b).toList ≠ ['*'] := by
    intro h
    have hlast := congrArg List.getLast? ((toList_primaryName b n).symm.trans h)
    rw [List.getLast?_append] at hlast
    exact absurd (Option.some.inj hlast) (by decide)
  have hquoted : n.quotes.isQuoted (primaryName n b).toList = false := hn ▸ unquoted_primaryName
  rw [Naming.toList_value, Quotes.quote_eq_enclose hstar hquoted, toList_primaryName]

/-- The prefix stands in front of the whole name here as well. -/
theorem dropsPrimary :
    DropsPrimary tablePrefix b (tablePrefix.toList ++ b.name.toList ++ "_pkey".toList) := by
  have hvalue := toList_value_primaryName b (n := (ddl tablePrefix).naming) rfl
  have hnothing : ([] : List Char).head? ≠ some (Dialect.quotes .postgres).closing := nofun
  refine ⟨dropConstraint (ddl tablePrefix).naming b (primaryName (ddl tablePrefix).naming b), rfl,
    quotedBehind?_eq ?_ hnothing⟩
  rw [dropConstraint, alter, alter, List.append_nil]
  simp only [String.toList_append, List.append_assoc] at hvalue ⊢
  rw [hvalue]
  rfl

end Postgres

end

/-! ## Where they agree -/

section

variable {last : String} {schema : List String} {b : Blueprint}
  (hname : b.name = ".".intercalate (schema ++ [last]))
include hname

theorem toList_name :
    b.name.toList = ['.'].intercalate (schema.map String.toList ++ [last.toList]) := by
  rw [hname, String.toList_intercalate, List.map_append]
  rfl

/-- In the path of a table, the last name has the prefix. -/
theorem tablePath {d : Dialect} (hlabel : cutAlias? b.name.toList = none)
    (hsegments : ∀ name ∈ schema ++ [last], d.quotes.Segment name.toList) (tablePrefix : String) :
    TablePath tablePrefix b d (Reference.prefixPath tablePrefix.toList (schema.map String.toList) ++
      [tablePrefix.toList ++ last.toList]) := by
  rw [hname] at hlabel
  have hwritten := Naming.toList_table (n := ⟨d.quotes, tablePrefix⟩) hsegments hlabel
  rw [TablePath, hname, hwritten, ← List.append_nil (Quotes.writePath _ _)]
  exact Quotes.readPath_writePath d.closing_quotes.1 (by simp) (by simp) (by simp)

/-- Renaming on SQL Server, and dropping an unnamed primary key on Postgres, against the path that
all other statements have for the table. What is renamed is that path exactly if there is no prefix,
or the table has a single name and the prefix no point; and the constraint is named for the last
name of that path exactly if it is the only one. -/
theorem names_alike_iff (hlabel : cutAlias? b.name.toList = none)
    (hserver : ∀ name ∈ schema ++ [last], (Dialect.quotes .sqlserver).Segment name.toList)
    (hpostgres : ∀ name ∈ schema ++ [last], (Dialect.quotes .postgres).Segment name.toList)
    (tablePrefix source target : String) :
    ∃ path key object constraint,
      TablePath tablePrefix b .sqlserver path ∧ TablePath tablePrefix b .postgres path ∧
      path.getLast? = some key ∧
      SqlServer.Renames tablePrefix b source target object ∧
      Postgres.DropsPrimary tablePrefix b constraint ∧
      (object.splitOn '.' = path ↔
        tablePrefix = "" ∨ schema = [] ∧ '.' ∉ tablePrefix.toList) ∧
      (constraint = key ++ "_pkey".toList ↔ schema = []) := by
  have hpoints : ∀ name ∈ schema.map String.toList ++ [last.toList], '.' ∉ name := by
    have hmap : ∀ name ∈ (schema ++ [last]).map String.toList, '.' ∉ name :=
      List.forall_mem_map.2 fun name hname => (hserver name hname).point_not_mem
    rwa [List.map_append] at hmap
  refine ⟨_, tablePrefix.toList ++ last.toList, _, _, tablePath hname hlabel hserver _,
    tablePath hname hlabel hpostgres _, List.getLast?_concat,
    SqlServer.renames tablePrefix b source target, Postgres.dropsPrimary tablePrefix b, ?_, ?_⟩
  · rw [toList_name hname, splitOn_eq_prefixPath_concat_iff hpoints, String.toList_eq_nil_iff,
      List.map_eq_nil_iff]
  · rw [List.append_left_inj, List.append_right_inj, toList_name hname,
      intercalate_concat_eq_self_iff, List.map_eq_nil_iff]

end

/-- A table of a schema. -/
def usersTable : Blueprint :=
  .ofTable "dbo.users"

theorem segments_usersTable :
    ∀ d : Dialect, ∀ name ∈ ["dbo"] ++ ["users"], d.quotes.Segment name.toList := by
  intro d
  cases d <;> decide

theorem names_alike_iff_users : ∃ path key object constraint,
    TablePath "" usersTable .sqlserver path ∧ path.getLast? = some key ∧
      SqlServer.Renames "" usersTable "id" "people" object ∧ object.splitOn '.' = path ∧
      Postgres.DropsPrimary "" usersTable constraint ∧ constraint ≠ key ++ "_pkey".toList := by
  have hname : usersTable.name = ".".intercalate (["dbo"] ++ ["users"]) := by decide
  have hlabel : cutAlias? usersTable.name.toList = none := by decide
  obtain ⟨path, key, object, constraint, hpath, -, hkey, hrenames, hdrops, hobject, hconstraint⟩ :=
    names_alike_iff hname hlabel (segments_usersTable .sqlserver) (segments_usersTable .postgres) ""
      "id" "people"
  exact ⟨path, key, object, constraint, hpath, hkey, hrenames, hobject.2 (Or.inl rfl), hdrops,
    fun h => absurd (hconstraint.1 h) (by decide)⟩

/-- With a prefix, a table of a schema is renamed as one of another schema, and the constraint is
named for another table. -/
theorem not_names_alike :
    TablePath "app_" usersTable .sqlserver ["dbo".toList, "app_users".toList] ∧
      SqlServer.Renames "app_" usersTable "id" "people" "app_dbo.users".toList ∧
      "app_dbo.users".toList.splitOn '.' ≠ ["dbo".toList, "app_users".toList] ∧
      TablePath "app_" usersTable .postgres ["dbo".toList, "app_users".toList] ∧
      Postgres.DropsPrimary "app_" usersTable "app_dbo.users_pkey".toList ∧
      "app_dbo.users_pkey".toList ≠ "app_users".toList ++ "_pkey".toList := by
  have hname : usersTable.name = ".".intercalate (["dbo"] ++ ["users"]) := by decide
  have hlabel : cutAlias? usersTable.name.toList = none := by decide
  exact ⟨tablePath hname hlabel (segments_usersTable .sqlserver) "app_",
    SqlServer.renames "app_" usersTable "id" "people", by decide,
    tablePath hname hlabel (segments_usersTable .postgres) "app_",
    Postgres.dropsPrimary "app_" usersTable, by decide⟩

end SqlBuilder.Schema
