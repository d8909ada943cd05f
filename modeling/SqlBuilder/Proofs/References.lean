import SqlBuilder.Proofs.Identifiers
import SqlBuilder.Query.Fetch

/-!
# Reading references

A `Reference` is a path of names and an alias, if there is one. `Reference.ofText` is what a caller
means by a text, `Quotes.readReference` what a database reads in a statement: identifiers with points
between them, and an identifier behind ` AS `. What is written for a reference reads back as the
reference, its first name with the table prefix if there are others behind it; and the last name read
is the one that a result row is asked for (`Naming.readReference_reference`).
-/

namespace SqlBuilder

/-- A path of names with an alias or none. -/
structure Reference where
  path : List (List Char)
  label : Option (List Char)

namespace Reference

/-- The reference that a caller writes. -/
def ofText (cs : List Char) : Reference :=
  match cutAlias? cs with
  | some (name, label) => ⟨name.splitOn '.', some label⟩
  | none => ⟨cs.splitOn '.', none⟩

/-- The names in the order in which they stand in the text. -/
def names (r : Reference) : List (List Char) :=
  r.path ++ r.label.toList

/-- A path with a prefix to its first name if there are names behind it. -/
def prefixPath (tablePrefix : List Char) : List (List Char) → List (List Char)
  | first :: second :: rest => (tablePrefix ++ first) :: second :: rest
  | path => path

def withPrefix (tablePrefix : List Char) (r : Reference) : Reference :=
  { r with path := prefixPath tablePrefix r.path }

theorem prefixPath_ne_nil {path : List (List Char)} (h : path ≠ []) (tablePrefix : List Char) :
    prefixPath tablePrefix path ≠ [] := by
  match path with
  | [] => exact absurd rfl h
  | [_] => exact h
  | _ :: _ :: _ => exact List.cons_ne_nil _ _

/-- The last name of a path never gets the prefix. -/
theorem getLast?_prefixPath (tablePrefix : List Char) (path : List (List Char)) :
    (prefixPath tablePrefix path).getLast? = path.getLast? := by
  match path with
  | [] => rfl
  | [_] => rfl
  | _ :: _ :: _ => rw [prefixPath, List.getLast?_cons_cons, List.getLast?_cons_cons]

theorem path_ofText_ne_nil (cs : List Char) : (ofText cs).path ≠ [] := by
  unfold ofText
  split <;> exact List.splitOn_ne_nil _ _

/-- The last name of a reference names the column in a result row. -/
theorem getLast?_names (column : String) (tablePrefix : List Char) :
    ((ofText column.toList).withPrefix tablePrefix).names.getLast? =
      some (resultName column).toList := by
  unfold ofText resultName
  cases cutAlias? column.toList with
  | some cut =>
    obtain ⟨name, label⟩ := cut
    simp [withPrefix, names]
  | none =>
    have hne : column.toList.splitOn '.' ≠ [] := List.splitOn_ne_nil _ _
    simp only [withPrefix, names, Option.toList_none, List.append_nil, getLast?_prefixPath,
      String.toList_ofList, List.getLastD_eq_getLast?]
    rw [List.getLast?_eq_some_getLast hne]
    rfl

end Reference

namespace Quotes

variable (q : Quotes)

theorem length_lt_of_readIdentifier {cs name rest : List Char}
    (h : q.readIdentifier cs = some (name, rest)) : rest.length < cs.length := by
  obtain ⟨rfl, -⟩ := readIdentifier_eq_some_iff.1 h
  simp [enclose]
  omega

/-- The names at the front of a text, with points between them, and what follows. -/
def readPath (cs : List Char) : Option (List (List Char) × List Char) :=
  match h : q.readIdentifier cs with
  | none => none
  | some (name, rest) =>
    if rest.head? = some '.' then
      have := q.length_lt_of_readIdentifier h
      (readPath rest.tail).map fun (path, rest) => (name :: path, rest)
    else some ([name], rest)
termination_by cs.length
decreasing_by
  rw [List.length_tail]
  omega

/-- The reference that a text consists of. -/
def readReference (cs : List Char) : Option Reference :=
  match q.readPath cs with
  | some (path, []) => some ⟨path, none⟩
  | some (path, ' ' :: 'A' :: 'S' :: ' ' :: rest) =>
    match q.readIdentifier rest with
    | some (label, []) => some ⟨path, some label⟩
    | _ => none
  | _ => none

/-- A path as SQL, every name an identifier. -/
def writePath (path : List (List Char)) : List Char :=
  ['.'].intercalate (path.map q.enclose)

/-- A reference as SQL, every name an identifier. -/
def writeReference (r : Reference) : List Char :=
  match r.label with
  | some label => q.writePath r.path ++ " AS ".toList ++ q.enclose label
  | none => q.writePath r.path

variable {q} {name rest : List Char} {path : List (List Char)}

theorem readPath_eq {cs : List Char} (h : q.readIdentifier cs = some (name, rest)) :
    q.readPath cs =
      if rest.head? = some '.' then
        (q.readPath rest.tail).map fun (path, rest) => (name :: path, rest)
      else some ([name], rest) := by
  rw [readPath]
  split
  · next hnone => rw [h] at hnone; cases hnone
  · next name' rest' hsome =>
    rw [h] at hsome
    cases hsome
    rfl

/-- A written path is read back where the text behind it goes on with something else. -/
theorem readPath_writePath (hq : q.closing ≠ '.') (hne : path ≠ [])
    (hclosing : rest.head? ≠ some q.closing) (hpoint : rest.head? ≠ some '.') :
    q.readPath (q.writePath path ++ rest) = some (path, rest) := by
  induction path with
  | nil => exact absurd rfl hne
  | cons first path ih =>
    cases path with
    | nil =>
      rw [writePath, List.map_singleton, List.intercalate_singleton,
        readPath_eq (readIdentifier_enclose hclosing), if_neg hpoint]
    | cons second path =>
      have hnext : ('.' :: (q.writePath (second :: path) ++ rest)).head? ≠ some q.closing :=
        fun he => hq (Option.some.inj he).symm
      have htext : q.writePath (first :: second :: path) ++ rest =
          q.enclose first ++ '.' :: (q.writePath (second :: path) ++ rest) := by
        simp [writePath, List.intercalate_cons_cons]
      rw [htext, readPath_eq (readIdentifier_enclose hnext), if_pos (List.head?_cons),
        List.tail_cons, ih (List.cons_ne_nil _ _)]
      rfl

/-- A written reference is read back. -/
theorem readReference_writeReference (hpoint : q.closing ≠ '.') (hblank : q.closing ≠ ' ')
    {r : Reference} (hne : r.path ≠ []) : q.readReference (q.writeReference r) = some r := by
  obtain ⟨path, label⟩ := r
  cases label with
  | none =>
    have hpath : q.readPath (q.writePath path ++ []) = some (path, []) :=
      readPath_writePath hpoint hne (by simp) (by simp)
    rw [List.append_nil] at hpath
    simp only [writeReference, readReference, hpath]
  | some label =>
    have hclosing : (" AS ".toList ++ q.enclose label).head? ≠ some q.closing :=
      fun he => hblank (Option.some.inj he).symm
    have hpath := readPath_writePath hpoint hne hclosing (by simp)
    have hlabel : q.readIdentifier (q.enclose label ++ []) = some (label, []) :=
      readIdentifier_enclose (by simp)
    rw [List.append_nil] at hlabel
    rw [← List.append_assoc] at hpath
    have hkeyword : " AS ".toList ++ q.enclose label = ' ' :: 'A' :: 'S' :: ' ' :: q.enclose label :=
      rfl
    simp only [writeReference, readReference, hpath, hkeyword, hlabel]

end Quotes

theorem Dialect.closing_quotes (d : Dialect) :
    d.quotes.closing ≠ '.' ∧ d.quotes.closing ≠ ' ' := by
  cases d <;> decide

/-! ## What is written for a reference -/

/-- Neither a star nor, by its ends, quoted already. -/
def Quotes.Plain (q : Quotes) (cs : List Char) : Prop :=
  cs ≠ ['*'] ∧ q.isQuoted cs = false

instance (q : Quotes) (cs : List Char) : Decidable (q.Plain cs) :=
  inferInstanceAs (Decidable (cs ≠ ['*'] ∧ q.isQuoted cs = false))

namespace Naming

/-- A table prefix that makes no plain name look like a star or like a quoted name, such as one of
letters, digits and underscores. -/
def PlainPrefix (n : Naming) : Prop :=
  ∀ c ∈ n.tablePrefix.toList, c ≠ '*' ∧ c ≠ n.quotes.opening

instance (n : Naming) : Decidable n.PlainPrefix :=
  List.decidableBAll (fun c => c ≠ '*' ∧ c ≠ n.quotes.opening) n.tablePrefix.toList

variable {n : Naming}

theorem quote_eq_enclose {cs : List Char} (h : n.quotes.Plain cs) :
    n.quotes.quote cs = n.quotes.enclose cs :=
  Quotes.quote_eq_enclose h.1 h.2

theorem PlainPrefix.append (hn : n.PlainPrefix) {cs : List Char} (h : n.quotes.Plain cs) :
    n.quotes.Plain (n.tablePrefix.toList ++ cs) := by
  unfold PlainPrefix at hn
  cases hp : n.tablePrefix.toList with
  | nil => exact h
  | cons c ps =>
    obtain ⟨hstar, hopening⟩ := hn c (hp ▸ List.mem_cons_self)
    constructor
    · intro he
      exact hstar (List.cons.inj he).1
    · simp [Quotes.isQuoted, hopening]

theorem map_quote_eq {path : List (List Char)} (h : ∀ name ∈ path, n.quotes.Plain name) :
    path.map n.quotes.quote = path.map n.quotes.enclose :=
  List.map_congr_left fun name hname => quote_eq_enclose (h name hname)

theorem tableSegment_eq {cs : List Char} (h : n.quotes.Plain cs)
    (happend : n.quotes.Plain (n.tablePrefix.toList ++ cs)) :
    n.tableSegment cs = n.quotes.enclose (n.tablePrefix.toList ++ cs) := by
  rw [tableSegment, h.2]
  exact quote_eq_enclose happend

/-- Of a column path, the first of several names gets the prefix. -/
theorem columnSegments_eq {path : List (List Char)}
    (h : ∀ name ∈ path, n.quotes.Plain name ∧ n.quotes.Plain (n.tablePrefix.toList ++ name)) :
    n.columnSegments path =
      (Reference.prefixPath n.tablePrefix.toList path).map n.quotes.enclose := by
  match path with
  | [] => rfl
  | [_] => exact map_quote_eq fun name hname => (h name hname).1
  | first :: second :: rest =>
    obtain ⟨hfirst, hrest⟩ := List.forall_mem_cons.1 h
    rw [columnSegments, tableSegment_eq hfirst.1 hfirst.2,
      map_quote_eq fun name hname => (hrest name hname).1]
    rfl

/-- A path of plain segments is written segment by segment. -/
theorem columnPath_eq (hn : n.PlainPrefix) {cs : List Char}
    (h : ∀ segment ∈ cs.splitOn '.', n.quotes.Plain segment) :
    n.columnPath cs =
      n.quotes.writePath (Reference.prefixPath n.tablePrefix.toList (cs.splitOn '.')) := by
  have hsegments := columnSegments_eq fun name hname => ⟨h name hname, hn.append (h name hname)⟩
  rw [columnPath, mapPath, hsegments, Quotes.writePath]

/-- A reference to plain names is written name by name. -/
theorem toList_reference (hn : n.PlainPrefix) {column : String}
    (hc : ∀ name ∈ (Reference.ofText column.toList).names, n.quotes.Plain name) :
    (n.reference column).toList =
      n.quotes.writeReference
        ((Reference.ofText column.toList).withPrefix n.tablePrefix.toList) := by
  rw [reference, String.toList_ofList]
  unfold Reference.ofText aliased at *
  cases hcut : cutAlias? column.toList with
  | some cut =>
    obtain ⟨name, label⟩ := cut
    rw [hcut] at hc
    obtain ⟨hpath, hlabel⟩ := List.forall_mem_append.1 hc
    dsimp only at hpath hlabel ⊢
    rw [quote_eq_enclose (hlabel label (by simp)), columnPath_eq hn hpath]
    rfl
  | none =>
    rw [hcut] at hc
    dsimp only at hc ⊢
    rw [columnPath_eq hn fun segment hs => hc segment (List.mem_append_left _ hs)]
    rfl

/-- What is written for a reference reads back as the reference, its first name behind the table
prefix if there are others. The last name read is the one under which a result row is asked for the
column. -/
theorem readReference_reference {t : Target} (hp : t.naming.PlainPrefix) {column : String}
    (hc : ∀ name ∈ (Reference.ofText column.toList).names, t.dialect.quotes.Plain name) :
    ∃ read, t.dialect.quotes.readReference (t.naming.reference column).toList = some read ∧
      read = (Reference.ofText column.toList).withPrefix t.tablePrefix.toList ∧
      ∃ key : String, read.names.getLast? = some key.toList ∧ resultName column = key ∧
        ∀ (q : Query) (row : ResultRow) (v : Json),
          row.get? key = some v → q.columnOf column row = .ok v := by
  have hwritten := toList_reference hp hc
  have hne := Reference.prefixPath_ne_nil (Reference.path_ofText_ne_nil column.toList)
    t.tablePrefix.toList
  obtain ⟨hpoint, hblank⟩ := t.dialect.closing_quotes
  refine ⟨_, ?_, rfl, resultName column, Reference.getLast?_names column _, rfl, ?_⟩
  · rw [hwritten]
    exact Quotes.readReference_writeReference hpoint hblank hne
  · intro q row v hv
    rw [Query.columnOf, hv]

/-- Quotes and points in every place, a segment without a name, and an alias that holds the keyword
once more. -/
theorem readReference_reference_total : ∃ read,
    Quotes.readReference ⟨'[', ']'⟩
        (Naming.reference ⟨⟨'[', ']'⟩, "app_"⟩ "lines].sum]]. As t.o] as t ").toList =
      some read ∧
    read.names.map String.ofList = ["app_lines]", "sum]]", "", "t.o] as t"] ∧
    ∀ (q : Query) (row : ResultRow) (v : Json), row.get? "t.o] as t" = some v →
      q.columnOf "lines].sum]]. As t.o] as t " row = .ok v := by
  have hplain : ∀ name ∈ (Reference.ofText "lines].sum]]. As t.o] as t ".toList).names,
      (Dialect.quotes .sqlserver).Plain name := by decide
  obtain ⟨read, hread, hnames, key, -, hkey, hrow⟩ :=
    readReference_reference (t := ⟨.sqlserver, "app_"⟩) (by decide) hplain
  have he : key = "t.o] as t" := hkey.symm.trans (by decide)
  refine ⟨read, hread, ?_, he ▸ hrow⟩
  rw [hnames]
  decide

end Naming

end SqlBuilder
