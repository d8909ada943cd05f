import SqlBuilder.Proofs.Conditions

/-!
# Tables and their columns under a prefix

A column names its table by what stands before its last point, and the FROM clause names the table
by itself. The two are written apart: of a table path the last name gets the prefix, of a column
path the first, and an alias gets none. So a column behind a path of two or more names, or behind
an alias, names the table of the statement only where the prefix is empty
(`Naming.qualified_iff`, `Naming.resolves_iff`).
-/

namespace SqlBuilder

/-! ## Names in a path -/

/-- A name without points, neither empty nor a star and without a closing quote at its end. -/
def Quotes.Segment (q : Quotes) (cs : List Char) : Prop :=
  cs ≠ [] ∧ cs ≠ ['*'] ∧ '.' ∉ cs ∧ cs.getLast? ≠ some q.closing

instance (q : Quotes) (cs : List Char) : Decidable (q.Segment cs) :=
  inferInstanceAs (Decidable (cs ≠ [] ∧ cs ≠ ['*'] ∧ '.' ∉ cs ∧ cs.getLast? ≠ some q.closing))

namespace Quotes.Segment

variable {q : Quotes} {cs : List Char} (h : q.Segment cs)

include h in
theorem point_not_mem : '.' ∉ cs :=
  h.2.2.1

include h in
/-- A text that ends in such a name does not pass for quoted, whatever stands before the name. -/
theorem plain_append (front : List Char) : q.Plain (front ++ cs) := by
  obtain ⟨hne, hstar, -, hclosing⟩ := h
  constructor
  · intro he
    cases front with
    | nil => exact hstar he
    | cons c front =>
      have hnil := (List.append_eq_nil_iff.1 (List.cons.inj he).2).2
      exact hne hnil
  · obtain ⟨c, hlast⟩ : ∃ c, cs.getLast? = some c :=
      ⟨cs.getLast hne, List.getLast?_eq_some_getLast hne⟩
    have happend : (front ++ cs).getLast? = some c := by
      rw [List.getLast?_append, hlast]
      rfl
    have hc : c ≠ q.closing := fun he => hclosing (hlast.trans (congrArg some he))
    have hother : (some c == some q.closing) = false :=
      beq_eq_false_iff_ne.2 fun he => hc (Option.some.inj he)
    rw [isQuoted, happend, hother, Bool.and_false]

include h in
theorem plain : q.Plain cs :=
  h.plain_append []

end Quotes.Segment

/-- A name of at least one character, without blanks, points, stars and closing quotes. -/
def Quotes.Word (q : Quotes) (cs : List Char) : Prop :=
  cs ≠ [] ∧ ∀ c ∈ cs, Text.isBlank c = false ∧ c ≠ '.' ∧ c ≠ '*' ∧ c ≠ q.closing

theorem toNat_of_isAlphanum {c : Char} (h : c.isAlphanum = true ∨ c = '_') :
    (48 ≤ c.toNat ∧ c.toNat ≤ 57) ∨ (65 ≤ c.toNat ∧ c.toNat ≤ 90) ∨ c.toNat = 95 ∨
      (97 ≤ c.toNat ∧ c.toNat ≤ 122) := by
  rcases h with h | rfl
  · change ((decide (c.val ≥ 'A'.val ∧ c.val ≤ 'Z'.val) || (c.val ≥ 'a'.val && c.val ≤ 'z'.val)) ||
      (c.val ≥ '0'.val && c.val ≤ '9'.val)) = true at h
    simp only [Bool.or_eq_true, Bool.and_eq_true, decide_eq_true_eq, UInt32.le_iff_toNat_le,
      ge_iff_le] at h
    have hupper : 'A'.val.toNat = 65 ∧ 'Z'.val.toNat = 90 := ⟨rfl, rfl⟩
    have hlower : 'a'.val.toNat = 97 ∧ 'z'.val.toNat = 122 := ⟨rfl, rfl⟩
    have hdigit : '0'.val.toNat = 48 ∧ '9'.val.toNat = 57 := ⟨rfl, rfl⟩
    have hval : c.toNat = c.val.toNat := rfl
    omega
  · decide

/-- Letters, digits and underscores make a word in every dialect. -/
theorem Dialect.word_quotes (d : Dialect) {cs : List Char} (hne : cs ≠ [])
    (h : ∀ c ∈ cs, c.isAlphanum = true ∨ c = '_') : d.quotes.Word cs := by
  refine ⟨hne, fun c hc => ?_⟩
  have hcode := toNat_of_isAlphanum (h c hc)
  have hclosing : d.quotes.closing.toNat = 34 ∨ d.quotes.closing.toNat = 93 ∨
      d.quotes.closing.toNat = 96 := by
    cases d <;> decide
  refine ⟨?_, ?_, ?_, ?_⟩
  · exact Text.isBlank_eq_false (by omega) (by omega)
  · rintro rfl
    exact absurd hcode (by decide)
  · rintro rfl
    exact absurd hcode (by decide)
  · rintro rfl
    omega

namespace Quotes.Word

variable {q : Quotes} {cs : List Char} (h : q.Word cs)

include h in
theorem blank_not_mem : ' ' ∉ cs := by
  intro hmem
  exact absurd (h.2 ' ' hmem).1 (by decide)

include h in
theorem segment : q.Segment cs := by
  refine ⟨h.1, ?_, ?_, ?_⟩
  · rintro rfl
    exact (h.2 '*' List.mem_cons_self).2.2.1 rfl
  · intro hmem
    exact (h.2 '.' hmem).2.1 rfl
  · intro hlast
    exact (h.2 q.closing (List.mem_of_getLast? hlast)).2.2.2 rfl

include h in
theorem trim_eq : Text.trim cs = cs :=
  Text.trim_eq_self (fun c hc => (h.2 c (List.mem_of_mem_head? hc)).1)
    fun c hc => (h.2 c (List.mem_of_getLast? hc)).1

end Quotes.Word

/-! ## Paths -/

namespace Reference

variable {front : List Char} {path : List (List Char)}

/-- The prefix makes no difference to a path only if there is none, or no name that gets it. -/
theorem prefixPath_eq_self_iff : prefixPath front path = path ↔ front = [] ∨ path.length ≤ 1 := by
  match path with
  | [] => simp [prefixPath]
  | [_] => simp [prefixPath]
  | _ :: _ :: _ => simp [prefixPath]

/-- The prefix at the first name of a path is the prefix at its last name, and at the first of those
before it, only if there is none or the path has one name. -/
theorem cons_eq_prefixPath_concat_iff {schema rest : List (List Char)} {first last : List Char}
    (hpath : schema ++ [last] = first :: rest) :
    (front ++ first) :: rest = prefixPath front schema ++ [front ++ last] ↔
      front = [] ∨ schema = [] := by
  cases schema with
  | nil =>
    obtain ⟨rfl, rfl⟩ := List.cons.inj hpath
    simp [prefixPath]
  | cons name more =>
    obtain ⟨rfl, rfl⟩ := List.cons.inj hpath
    constructor
    · intro h
      have hlast : ((front ++ name) :: more ++ [last]).getLast? = some (front ++ last) :=
        (congrArg List.getLast? h).trans List.getLast?_concat
      rw [List.getLast?_concat] at hlast
      exact Or.inl (List.append_left_eq_self.1 (Option.some.inj hlast).symm)
    · rintro (rfl | h)
      · rw [prefixPath_eq_self_iff.2 (Or.inl rfl)]
        rfl
      · cases h

end Reference

namespace Quotes

variable {q : Quotes} {path path' : List (List Char)}

/-- A written path says which names it has. -/
theorem writePath_inj (hq : q.closing ≠ '.') (hp : path ≠ []) (hp' : path' ≠ []) :
    q.writePath path = q.writePath path' ↔ path = path' := by
  constructor
  · intro h
    have hread : q.readPath (q.writePath path ++ []) = some (path, []) :=
      readPath_writePath hq hp (by simp) (by simp)
    rw [h, readPath_writePath hq hp' (by simp) (by simp)] at hread
    exact (Prod.mk.inj (Option.some.inj hread)).1.symm
  · rintro rfl
    rfl

theorem writePath_singleton (name : List Char) : q.writePath [name] = q.enclose name :=
  List.intercalate_singleton

theorem writePath_append (hp : path ≠ []) (hp' : path' ≠ []) :
    q.writePath (path ++ path') = q.writePath path ++ '.' :: q.writePath path' := by
  rw [writePath, List.map_append, intercalate_append (by simpa using hp) (by simpa using hp')]
  simp [writePath]

end Quotes

/-- A name without blanks is cut off at the alias behind it. -/
theorem cutAlias?_of_word {q : Quotes} {cs label : List Char} (hcs : q.Word cs)
    (hlabel : q.Word label) : cutAlias? (cs ++ " as ".toList ++ label) = some (cs, label) := by
  have hnot : ¬ Aliased (cs ++ [' ', 'a', 's']) := by
    rintro ⟨spelled, hspelled, hinfix⟩
    have hbehind := infix_of_infix_append (head?_of_spelled hspelled) hcs.blank_not_mem hinfix
    have hle := hbehind.length_le
    rw [Text.length_of_lowerAscii hspelled] at hle
    exact absurd hle (by decide)
  have hcut : cutAlias? (cs ++ (" as ".toList ++ label)) = some (Text.trim cs, Text.trim label) :=
    cutAlias?_append (by decide) hnot
  rw [List.append_assoc, hcut, hcs.trim_eq, hlabel.trim_eq]

/-- A text without an alias has no beginning with one. -/
theorem cutAlias?_eq_none_of_append {cs more : List Char} (h : cutAlias? (cs ++ more) = none) :
    cutAlias? cs = none :=
  cutAlias?_eq_none_iff.2 fun halias =>
    cutAlias?_eq_none_iff.1 h (halias.of_infix (List.prefix_append cs more).isInfix)

/-! ## What is written for a table and its columns -/

namespace Naming

variable {n : Naming}

theorem tableSegment_segment {cs : List Char} (h : n.quotes.Segment cs) :
    n.tableSegment cs = n.quotes.enclose (n.tablePrefix.toList ++ cs) :=
  tableSegment_eq h.plain (h.plain_append _)

theorem map_quote_segments {path : List (List Char)}
    (hpath : ∀ name ∈ path, n.quotes.Segment name) :
    path.map n.quotes.quote = path.map n.quotes.enclose :=
  map_quote_eq fun name hname => (hpath name hname).plain

/-- Of a table path, the last name gets the prefix; those before it are written as a column path. -/
theorem tablePath_eq {schema : List (List Char)} {last : List Char}
    (hpath : ∀ name ∈ schema ++ [last], n.quotes.Segment name) :
    n.tablePath (['.'].intercalate (schema ++ [last])) =
      n.quotes.writePath (Reference.prefixPath n.tablePrefix.toList schema ++
        [n.tablePrefix.toList ++ last]) := by
  obtain ⟨hschema, hlast⟩ := List.forall_mem_append.1 hpath
  have hlast := hlast last List.mem_cons_self
  obtain ⟨front, hfront⟩ : ∃ front, ['.'].intercalate (schema ++ [last]) = front ++ last := by
    cases schema with
    | nil => exact ⟨[], List.intercalate_singleton⟩
    | cons first more =>
      refine ⟨['.'].intercalate (first :: more) ++ ['.'], ?_⟩
      rw [intercalate_append (List.cons_ne_nil _ _) (List.cons_ne_nil _ _),
        List.intercalate_singleton]
  have hquoted : n.quotes.isQuoted (['.'].intercalate (schema ++ [last])) = false := by
    rw [hfront]
    exact (hlast.plain_append front).2
  have hsplit : (['.'].intercalate (schema ++ [last])).splitOn '.' = schema ++ [last] :=
    List.splitOn_intercalate '.' (fun name hname => (hpath name hname).point_not_mem) (by simp)
  have hcolumns : n.columnSegments schema =
      (Reference.prefixPath n.tablePrefix.toList schema).map n.quotes.enclose :=
    columnSegments_eq fun name hname => ⟨(hschema name hname).plain,
      (hschema name hname).plain_append n.tablePrefix.toList⟩
  rw [tablePath, hquoted, if_neg Bool.false_ne_true, mapPath, hsplit, tableSegments,
    List.dropLast_concat, List.getLast?_concat, hcolumns, Option.map_some,
    tableSegment_segment hlast, Quotes.writePath, List.map_append]
  rfl

/-- Of a column behind a table path, the first name of the path gets the prefix. -/
theorem columnPath_concat {first column : List Char} {rest : List (List Char)}
    (hpath : ∀ name ∈ first :: rest, n.quotes.Segment name) (hpoint : '.' ∉ column) :
    n.columnPath (['.'].intercalate (first :: rest) ++ '.' :: column) =
      n.quotes.writePath ((n.tablePrefix.toList ++ first) :: rest) ++
        '.' :: n.quotes.quote column := by
  obtain ⟨hfirst, hrest⟩ := List.forall_mem_cons.1 hpath
  have hjoin : ['.'].intercalate (first :: rest) ++ '.' :: column =
      ['.'].intercalate (first :: rest ++ [column]) := by
    rw [intercalate_append (List.cons_ne_nil _ _) (List.cons_ne_nil _ _),
      List.intercalate_singleton, List.append_assoc]
    rfl
  have hsplit : (['.'].intercalate (first :: rest ++ [column])).splitOn '.' =
      first :: rest ++ [column] := by
    refine List.splitOn_intercalate '.' (fun name hname => ?_) (by simp)
    rcases List.mem_append.1 hname with hname | hname
    · exact (hpath name hname).point_not_mem
    · exact List.mem_singleton.1 hname ▸ hpoint
  have hsegments : n.columnSegments (first :: rest ++ [column]) =
      ((n.tablePrefix.toList ++ first) :: rest).map n.quotes.enclose ++
        [n.quotes.quote column] := by
    have htable : n.columnSegments (first :: rest ++ [column]) =
        n.tableSegment first :: (rest ++ [column]).map n.quotes.quote := by
      cases rest <;> rfl
    rw [htable, tableSegment_segment hfirst, List.map_append, map_quote_segments hrest]
    rfl
  rw [columnPath, mapPath, hjoin, hsplit, hsegments,
    intercalate_append (by simp) (List.cons_ne_nil _ _), List.intercalate_singleton,
    List.append_assoc]
  rfl

theorem toList_value (n : Naming) (name : String) :
    (n.value name).toList = n.quotes.quote name.toList :=
  String.toList_ofList

theorem toList_table {schema : List String} {last : String}
    (hpath : ∀ name ∈ schema ++ [last], n.quotes.Segment name.toList)
    (hlabel : cutAlias? (".".intercalate (schema ++ [last])).toList = none) :
    (n.table (".".intercalate (schema ++ [last]))).toList =
      n.quotes.writePath (Reference.prefixPath n.tablePrefix.toList (schema.map String.toList) ++
        [n.tablePrefix.toList ++ last.toList]) := by
  have hsegments : ∀ name ∈ (schema ++ [last]).map String.toList, n.quotes.Segment name :=
    List.forall_mem_map.2 hpath
  rw [List.map_append, List.map_singleton] at hsegments
  have hchars : (".".intercalate (schema ++ [last])).toList =
      ['.'].intercalate (schema.map String.toList ++ [last.toList]) := by
    rw [String.toList_intercalate, List.map_append]
    rfl
  rw [hchars] at hlabel
  rw [table, String.toList_ofList, hchars, aliased, hlabel, tablePath_eq hsegments]

theorem toList_reference_concat {first column : String} {rest : List String}
    (hpath : ∀ name ∈ first :: rest, n.quotes.Segment name.toList) (hpoint : '.' ∉ column.toList)
    (hlabel : cutAlias? (".".intercalate (first :: rest) ++ "." ++ column).toList = none) :
    (n.reference (".".intercalate (first :: rest) ++ "." ++ column)).toList =
      n.quotes.writePath ((n.tablePrefix.toList ++ first.toList) :: rest.map String.toList) ++
        '.' :: n.quotes.quote column.toList := by
  have hsegments : ∀ name ∈ (first :: rest).map String.toList, n.quotes.Segment name :=
    List.forall_mem_map.2 hpath
  rw [List.map_cons] at hsegments
  have hchars : (".".intercalate (first :: rest) ++ "." ++ column).toList =
      ['.'].intercalate (first.toList :: rest.map String.toList) ++ '.' :: column.toList := by
    rw [String.toList_append, String.toList_append, String.toList_intercalate, List.append_assoc]
    rfl
  rw [hchars] at hlabel
  rw [reference, String.toList_ofList, hchars, aliased, hlabel, columnPath_concat hsegments hpoint]

/-- The names of a table path as single identifiers, the last one with the prefix. -/
theorem toList_values {schema : List String} {last : String}
    (hpath : ∀ name ∈ schema ++ [last], n.quotes.Segment name.toList) :
    (".".intercalate (schema.map n.value ++ [n.value (n.tablePrefix ++ last)])).toList =
      n.quotes.writePath (schema.map String.toList ++ [n.tablePrefix.toList ++ last.toList]) := by
  have hlast : (n.value (n.tablePrefix ++ last)).toList =
      n.quotes.enclose (n.tablePrefix.toList ++ last.toList) := by
    rw [toList_value, String.toList_append]
    exact quote_eq_enclose ((hpath last (by simp)).plain_append _)
  have hschema : schema.map (fun name => (n.value name).toList) =
      schema.map fun name => n.quotes.enclose name.toList := by
    refine List.map_congr_left fun name hname => ?_
    rw [toList_value]
    exact quote_eq_enclose (hpath name (List.mem_append_left _ hname)).plain
  rw [String.toList_intercalate, Quotes.writePath, List.map_append, List.map_append,
    List.map_map, List.map_map, List.map_singleton, List.map_singleton, hlast]
  exact congrArg (fun names => ['.'].intercalate (names ++ _)) hschema

/-- A path of two names has the prefix at its last name, a longer one at its first as well. -/
theorem table_eq_values_iff {schema : List String} {last : String}
    (hclosing : n.quotes.closing ≠ '.')
    (hpath : ∀ name ∈ schema ++ [last], n.quotes.Segment name.toList)
    (hlabel : cutAlias? (".".intercalate (schema ++ [last])).toList = none) :
    n.table (".".intercalate (schema ++ [last])) =
        ".".intercalate (schema.map n.value ++ [n.value (n.tablePrefix ++ last)]) ↔
      n.tablePrefix = "" ∨ schema.length ≤ 1 := by
  have hempty : n.tablePrefix.toList = [] ↔ n.tablePrefix = "" := String.toList_eq_nil_iff
  rw [← String.toList_inj, toList_table hpath hlabel, toList_values hpath,
    Quotes.writePath_inj hclosing (by simp) (by simp), List.append_left_inj,
    Reference.prefixPath_eq_self_iff, hempty, List.length_map]

/-- Behind a path of one name, a column has the table as it is written. -/
theorem reference_eq_table_iff {schema : List String} {last column : String}
    (hclosing : n.quotes.closing ≠ '.')
    (hpath : ∀ name ∈ schema ++ [last], n.quotes.Segment name.toList)
    (hpoint : '.' ∉ column.toList)
    (hlabel : cutAlias? (".".intercalate (schema ++ [last])).toList = none)
    (hcolumn : cutAlias? (".".intercalate (schema ++ [last]) ++ "." ++ column).toList = none) :
    n.reference (".".intercalate (schema ++ [last]) ++ "." ++ column) =
        n.table (".".intercalate (schema ++ [last])) ++ "." ++ n.value column ↔
      n.tablePrefix = "" ∨ schema = [] := by
  have hempty : n.tablePrefix.toList = [] ↔ n.tablePrefix = "" := String.toList_eq_nil_iff
  obtain ⟨first, rest, hcons⟩ : ∃ first rest, schema ++ [last] = first :: rest := by
    cases schema with
    | nil => exact ⟨_, _, rfl⟩
    | cons first more => exact ⟨_, _, rfl⟩
  have hmap : schema.map String.toList ++ [last.toList] =
      first.toList :: rest.map String.toList := by
    have h := congrArg (List.map String.toList) hcons
    rwa [List.map_append] at h
  have hwritten : (n.table (".".intercalate (schema ++ [last])) ++ "." ++ n.value column).toList =
      n.quotes.writePath (Reference.prefixPath n.tablePrefix.toList
        (schema.map String.toList) ++ [n.tablePrefix.toList ++ last.toList]) ++
          '.' :: n.quotes.quote column.toList := by
    rw [String.toList_append, String.toList_append, toList_table hpath hlabel, toList_value,
      List.append_assoc]
    rfl
  have hreference := toList_reference_concat (hcons ▸ hpath) hpoint (hcons ▸ hcolumn)
  rw [← String.toList_inj, hwritten, hcons, hreference, List.append_left_inj,
    Quotes.writePath_inj hclosing (List.cons_ne_nil _ _) (by simp),
    Reference.cons_eq_prefixPath_concat_iff hmap, hempty, List.map_eq_nil_iff]

/-- A table path is written with the prefix at its last name alone exactly if the prefix is empty or
the path has at most two names. A column of the table begins with the written table exactly if the
prefix is empty or the path has one name. -/
theorem qualified_iff {t : Target} {schema : List String} {last column : String}
    (hpath : ∀ name ∈ schema ++ [last], t.dialect.quotes.Segment name.toList)
    (hpoint : '.' ∉ column.toList)
    (hlabel : cutAlias? (".".intercalate (schema ++ [last]) ++ "." ++ column).toList = none) :
    (t.naming.table (".".intercalate (schema ++ [last])) =
        ".".intercalate (schema.map t.naming.value ++ [t.naming.value (t.tablePrefix ++ last)]) ↔
      t.tablePrefix = "" ∨ schema.length ≤ 1) ∧
    (t.naming.reference (".".intercalate (schema ++ [last]) ++ "." ++ column) =
        t.naming.table (".".intercalate (schema ++ [last])) ++ "." ++ t.naming.value column ↔
      t.tablePrefix = "" ∨ schema = []) := by
  have hclosing : t.naming.quotes.closing ≠ '.' := t.dialect.closing_quotes.1
  have htable : cutAlias? (".".intercalate (schema ++ [last])).toList = none := by
    rw [String.toList_append, String.toList_append, List.append_assoc] at hlabel
    exact cutAlias?_eq_none_of_append hlabel
  constructor
  · exact table_eq_values_iff (n := t.naming) hclosing hpath htable
  · exact reference_eq_table_iff (n := t.naming) hclosing hpath hpoint htable hlabel

theorem qualified_iff_schema :
    Naming.table ⟨Dialect.quotes .sqlserver, "app_"⟩ "crm.order items" = "[crm].[app_order items]" ∧
      Naming.reference ⟨Dialect.quotes .sqlserver, "app_"⟩ "crm.order items.*" ≠
        "[crm].[app_order items].*" := by
  have hpath : ∀ name ∈ ["crm"] ++ ["order items"],
      (Dialect.quotes .sqlserver).Segment name.toList := by
    decide
  have hpoint : '.' ∉ "*".toList := by decide
  have hlabel : cutAlias? (".".intercalate (["crm"] ++ ["order items"]) ++ "." ++ "*").toList =
      none := by
    decide
  obtain ⟨htable, hcolumn⟩ := qualified_iff (t := ⟨.sqlserver, "app_"⟩) hpath hpoint hlabel
  have hwritten := htable.2 (Or.inr (Nat.le_refl 1))
  refine ⟨hwritten.trans (by decide), fun h => ?_⟩
  rcases hcolumn.1 (h.trans (by decide)) with hempty | hnil
  · exact absurd hempty (by decide)
  · cases hnil

/-- A schema gets the prefix in the place of its table. -/
theorem not_qualified_schema : ∃ q sql,
    Query.build "dbo.users" [.select ["dbo.users.id"]] = .ok q ∧
      q.select ⟨.sqlserver, "app_"⟩ = .ok sql ∧
      sql.text = "SELECT [app_dbo].[users].[id] FROM [dbo].[app_users]" ∧
      Naming.reference ⟨Dialect.quotes .sqlserver, "app_"⟩ "dbo.users.id" ≠
        Naming.table ⟨Dialect.quotes .sqlserver, "app_"⟩ "dbo.users" ++ "." ++
          Naming.value ⟨Dialect.quotes .sqlserver, "app_"⟩ "id" := by
  exact ⟨_, _, rfl, rfl, by decide +kernel, by decide⟩

/-! ## Aliases -/

section

variable {name label column : String} (hlabel : n.quotes.Word label.toList)

include hlabel in
/-- A table gets the prefix and its alias does not. -/
theorem toList_table_aliased (hname : n.quotes.Word name.toList) :
    (n.table (name ++ " as " ++ label)).toList = n.quotes.writeReference
      ⟨[n.tablePrefix.toList ++ name.toList], some label.toList⟩ := by
  have hpath : n.tablePath name.toList =
      n.quotes.writePath [n.tablePrefix.toList ++ name.toList] := by
    have hsegment : ∀ cs ∈ [] ++ [name.toList], n.quotes.Segment cs :=
      List.forall_mem_singleton.2 hname.segment
    have hsingle := tablePath_eq hsegment
    rwa [List.nil_append, List.intercalate_singleton] at hsingle
  rw [table, String.toList_ofList, String.toList_append, String.toList_append, aliased,
    cutAlias?_of_word hname hlabel]
  simp only [hpath, quote_eq_enclose hlabel.segment.plain]
  rfl

include hlabel in
/-- The alias gets the prefix where it stands before a column. -/
theorem toList_reference_aliased (hcolumn : n.quotes.Word column.toList) :
    (n.reference (label ++ "." ++ column)).toList = n.quotes.writeReference
      ⟨[n.tablePrefix.toList ++ label.toList, column.toList], none⟩ := by
  have hblank : ' ' ∉ (".".intercalate [label] ++ "." ++ column).toList := by
    have hpoint : ' ' ∉ ".".toList := by decide
    simp only [String.intercalate_singleton, String.toList_append, List.mem_append, not_or]
    exact ⟨⟨hlabel.blank_not_mem, hpoint⟩, hcolumn.blank_not_mem⟩
  have hwritten := toList_reference_concat (List.forall_mem_singleton.2 hlabel.segment)
    hcolumn.segment.point_not_mem (cutAlias?_eq_none hblank)
  rw [String.intercalate_singleton, quote_eq_enclose hcolumn.segment.plain] at hwritten
  have hpath := Quotes.writePath_append (q := n.quotes)
    (List.cons_ne_nil (n.tablePrefix.toList ++ label.toList) [])
    (List.cons_ne_nil column.toList [])
  rw [Quotes.writePath_singleton column.toList] at hpath
  exact hwritten.trans hpath.symm

end

/-- The name by which a column calls its table is the alias that stands for the table exactly if the
prefix is empty. -/
theorem resolves_iff {t : Target} {name label column : String}
    (hname : t.dialect.quotes.Word name.toList) (hlabel : t.dialect.quotes.Word label.toList)
    (hcolumn : t.dialect.quotes.Word column.toList) :
    ∃ source field,
      t.dialect.quotes.readReference (t.naming.table (name ++ " as " ++ label)).toList =
        some source ∧
      t.dialect.quotes.readReference (t.naming.reference (label ++ "." ++ column)).toList =
        some field ∧
      source.path = [t.tablePrefix.toList ++ name.toList] ∧ source.label = some label.toList ∧
      field.path.getLast? = some column.toList ∧
      (field.path.head? = source.label ↔ t.tablePrefix = "") := by
  obtain ⟨hpoint, hblank⟩ := t.dialect.closing_quotes
  have htable := toList_table_aliased (n := t.naming) hlabel hname
  have hreference := toList_reference_aliased (n := t.naming) hlabel hcolumn
  refine ⟨⟨[t.tablePrefix.toList ++ name.toList], some label.toList⟩,
    ⟨[t.tablePrefix.toList ++ label.toList, column.toList], none⟩, ?_, ?_, rfl, rfl, rfl, ?_⟩
  · rw [htable]
    exact Quotes.readReference_writeReference hpoint hblank (List.cons_ne_nil _ _)
  · rw [hreference]
    exact Quotes.readReference_writeReference hpoint hblank (List.cons_ne_nil _ _)
  · rw [List.head?_cons, Option.some_inj, List.append_left_eq_self]
    exact String.toList_eq_nil_iff

theorem resolves_iff_mysql : ∃ source field,
    (Dialect.quotes .mysql).readReference
        (Naming.table ⟨Dialect.quotes .mysql, ""⟩ "crm_orders as o_1").toList = some source ∧
      (Dialect.quotes .mysql).readReference
        (Naming.reference ⟨Dialect.quotes .mysql, ""⟩ "o_1.user_id").toList = some field ∧
      field.path.head? = source.label := by
  have hword : ∀ name ∈ ["crm_orders", "o_1", "user_id"],
      (Dialect.quotes .mysql).Word name.toList := by
    intro name hname
    have hchars : ∀ name ∈ ["crm_orders", "o_1", "user_id"], name.toList ≠ [] ∧
        (name.toList.all fun c => c.isAlphanum || c == '_') = true := by
      decide
    obtain ⟨hne, hall⟩ := hchars name hname
    refine Dialect.word_quotes .mysql hne fun c hc => ?_
    simpa using List.all_eq_true.1 hall c hc
  obtain ⟨source, field, hsource, hfield, -, -, -, hiff⟩ :=
    resolves_iff (t := ⟨.mysql, ""⟩) (hword "crm_orders" (by simp)) (hword "o_1" (by simp))
      (hword "user_id" (by simp))
  exact ⟨source, field, hsource, hfield, hiff.2 rfl⟩

/-- A column of an alias gets a prefix that the alias does not have. -/
theorem not_resolves_alias : ∃ q sql source field,
    Query.build "orders as o" [.select ["o.id"]] = .ok q ∧
      q.select ⟨.postgres, "app_"⟩ = .ok sql ∧
      sql.text = "SELECT \"app_o\".\"id\" FROM \"app_orders\" AS \"o\"" ∧
      (Dialect.quotes .postgres).readReference
        (Naming.table ⟨Dialect.quotes .postgres, "app_"⟩ "orders as o").toList = some source ∧
      (Dialect.quotes .postgres).readReference
        (Naming.reference ⟨Dialect.quotes .postgres, "app_"⟩ "o.id").toList = some field ∧
      source.label = some "o".toList ∧ field.path.head? = some "app_o".toList := by
  have htable : (Naming.table ⟨Dialect.quotes .postgres, "app_"⟩ "orders as o").toList =
      (Dialect.quotes .postgres).writeReference ⟨["app_orders".toList], some "o".toList⟩ := by
    decide
  have hreference : (Naming.reference ⟨Dialect.quotes .postgres, "app_"⟩ "o.id").toList =
      (Dialect.quotes .postgres).writeReference ⟨["app_o".toList, "id".toList], none⟩ := by
    decide
  refine ⟨_, _, ⟨["app_orders".toList], some "o".toList⟩, ⟨["app_o".toList, "id".toList], none⟩,
    rfl, rfl, by decide +kernel, ?_, ?_, rfl, rfl⟩
  · rw [htable]
    exact Quotes.readReference_writeReference (by decide) (by decide) (List.cons_ne_nil _ _)
  · rw [hreference]
    exact Quotes.readReference_writeReference (by decide) (by decide) (List.cons_ne_nil _ _)

end Naming

end SqlBuilder
