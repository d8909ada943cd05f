import SqlBuilder.Proofs.References
import SqlBuilder.Proofs.SchemaNumbering
import SqlBuilder.Schema.Migration

/-!
# Lists of literals

A list of values is written as literals with a comma and a blank between each two. The values may
hold quotes, commas and blanks themselves. Still the text can be cut in one way only: a literal ends
at its first quote that is not written twice, so what looks like a separator inside a literal is
never taken for one. `readValues` reads a list from the left by that rule alone, and what it reads
as a list is exactly what is written for it (`readValues_eq_some_iff`).

So different lists have different texts, and so have the conditions on the values of a column that
are written for an enumeration by all but MySQL (`allowed_values_read_back`).
-/

namespace SqlBuilder.Schema

/-! ## Reading a list -/

/-- The texts of the literals at the front of a text, one or more with a comma and a blank between
each two, and what follows them. -/
def readLiterals (cs : List Char) : Option (List String × List Char) :=
  match h : literalQuotes.readIdentifier cs with
  | none => none
  | some (value, ',' :: ' ' :: rest) =>
    have := literalQuotes.length_lt_of_readIdentifier h
    (readLiterals rest).map fun (values, rest) => (String.ofList value :: values, rest)
  | some (value, rest) => some ([String.ofList value], rest)
termination_by cs.length
decreasing_by
  simp only [List.length_cons] at this
  omega

/-- The list of values that a text consists of. The empty text is the empty list. -/
def readValues (cs : List Char) : Option (List String) :=
  if cs = [] then some []
  else
    match readLiterals cs with
    | some (values, []) => some values
    | _ => none

variable {cs rest : List Char} {value : String} {values others : List String}

theorem toList_literals_cons (h : values ≠ []) :
    (literals (value :: values)).toList =
      literalQuotes.enclose value.toList ++ ',' :: ' ' :: (literals values).toList := by
  cases values with
  | nil => exact absurd rfl h
  | cons next values =>
    rw [literals, List.map_cons, List.map_cons, String.intercalate_cons_cons, String.toList_append,
      String.toList_append, toList_literal, List.append_assoc]
    rfl

theorem toList_literals_singleton (value : String) :
    (literals [value]).toList = literalQuotes.enclose value.toList := by
  rw [literals, List.map_singleton, String.intercalate_singleton, toList_literal]

/-- A literal with a separator behind it goes on with the next one. -/
theorem readLiterals_separator {name : List Char}
    (h : literalQuotes.readIdentifier cs = some (name, ',' :: ' ' :: rest)) :
    readLiterals cs =
      (readLiterals rest).map fun (values, rest) => (String.ofList name :: values, rest) := by
  rw [readLiterals]
  split
  · next hnone => rw [h] at hnone; cases hnone
  · next name' rest' hsome =>
    rw [h] at hsome
    cases hsome
    rfl
  · next name' rest' hlast hsome =>
    rw [h] at hsome
    cases hsome
    exact absurd rfl (hlast rest)

/-- A literal with no separator behind it is the last one. -/
theorem readLiterals_last {name : List Char} (hrest : ¬ [',', ' '] <+: rest)
    (h : literalQuotes.readIdentifier cs = some (name, rest)) :
    readLiterals cs = some ([String.ofList name], rest) := by
  rw [readLiterals]
  split
  · next hnone => rw [h] at hnone; cases hnone
  · next name' rest' hsome =>
    rw [h] at hsome
    cases hsome
    exact absurd (List.prefix_append [',', ' '] rest') hrest
  · next name' rest' hlast hsome =>
    rw [h] at hsome
    cases hsome
    rfl

/-- Written literals are read back where the text behind them goes on with neither a quote nor a
separator. -/
theorem readLiterals_literals (hquote : rest.head? ≠ some '\x27')
    (hseparator : ¬ [',', ' '] <+: rest) (hne : values ≠ []) :
    readLiterals ((literals values).toList ++ rest) = some (values, rest) := by
  induction values with
  | nil => exact absurd rfl hne
  | cons value values ih =>
    by_cases hvalues : values = []
    · subst hvalues
      have hread : literalQuotes.readIdentifier ((literals [value]).toList ++ rest) =
          some (value.toList, rest) := by
        rw [toList_literals_singleton]
        exact Quotes.readIdentifier_enclose hquote
      rw [readLiterals_last hseparator hread, String.ofList_toList]
    · have hread : literalQuotes.readIdentifier ((literals (value :: values)).toList ++ rest) =
          some (value.toList, ',' :: ' ' :: ((literals values).toList ++ rest)) := by
        rw [toList_literals_cons hvalues, List.append_assoc]
        refine Quotes.readIdentifier_enclose fun hhead => ?_
        cases hhead
      rw [readLiterals_separator hread, ih hvalues, String.ofList_toList]
      rfl

/-- Nothing else is read. -/
theorem eq_of_readLiterals (h : readLiterals cs = some (values, rest)) :
    values ≠ [] ∧ cs = (literals values).toList ++ rest := by
  fun_induction readLiterals cs generalizing values with
  | case1 cs hnone => cases h
  | case2 cs name behind hread _ ih =>
    obtain ⟨⟨values', rest'⟩, hvalues, he⟩ := Option.map_eq_some_iff.1 h
    cases he
    obtain ⟨hne, hbehind⟩ := ih hvalues
    obtain ⟨hcs, -⟩ := Quotes.readIdentifier_eq_some_iff.1 hread
    refine ⟨List.cons_ne_nil _ _, ?_⟩
    rw [hcs, hbehind, toList_literals_cons hne, String.toList_ofList, List.append_assoc]
    rfl
  | case3 cs name behind hlast hread =>
    cases h
    obtain ⟨hcs, -⟩ := Quotes.readIdentifier_eq_some_iff.1 hread
    refine ⟨List.cons_ne_nil _ _, ?_⟩
    rw [hcs, toList_literals_singleton, String.toList_ofList]

/-- A text consists of literals exactly if it is written for their texts. -/
theorem readLiterals_eq_iff :
    readLiterals cs = some (values, []) ↔ values ≠ [] ∧ cs = (literals values).toList := by
  constructor
  · intro h
    obtain ⟨hne, hcs⟩ := eq_of_readLiterals h
    exact ⟨hne, hcs.trans (List.append_nil _)⟩
  · rintro ⟨hne, rfl⟩
    have hread : readLiterals ((literals values).toList ++ []) = some (values, []) :=
      readLiterals_literals (by simp) (by simp) hne
    rwa [List.append_nil] at hread

theorem literals_eq_empty_iff : literals values = "" ↔ values = [] := by
  refine ⟨fun h => ?_, fun h => h ▸ rfl⟩
  cases values with
  | nil => rfl
  | cons value values =>
    have hnil : (literals (value :: values)).toList = [] := String.toList_eq_nil_iff.2 h
    by_cases hvalues : values = []
    · rw [hvalues, toList_literals_singleton] at hnil
      cases hnil
    · rw [toList_literals_cons hvalues] at hnil
      cases hnil

theorem readValues_eq_some_iff_of_ne (h : cs ≠ []) :
    readValues cs = some values ↔ readLiterals cs = some (values, []) := by
  rw [readValues, if_neg h]
  split
  · next values' hread =>
    rw [hread, Option.some.injEq, Option.some.injEq, Prod.mk.injEq, eq_self, and_true]
  · next hother => exact iff_of_false nofun (hother values)

/-- A text is read as a list of values exactly if it is what is written for the list. -/
theorem readValues_eq_some_iff {text : String} :
    readValues text.toList = some values ↔ text = literals values := by
  by_cases htext : text = ""
  · subst htext
    have hread : readValues "".toList = some [] := rfl
    rw [hread, Option.some.injEq, eq_comm, eq_comm (a := ""), literals_eq_empty_iff]
  · have hne : text.toList ≠ [] := mt String.toList_eq_nil_iff.1 htext
    rw [readValues_eq_some_iff_of_ne hne, readLiterals_eq_iff, String.toList_inj]
    refine ⟨And.right, fun h => ⟨?_, h⟩⟩
    rintro rfl
    exact htext h

/-- Different lists have different texts. -/
theorem literals_inj : literals values = literals others ↔ values = others := by
  constructor
  · intro h
    have hvalues : readValues (literals values).toList = some values :=
      readValues_eq_some_iff.2 rfl
    rw [readValues_eq_some_iff.2 h] at hvalues
    exact (Option.some.inj hvalues).symm
  · exact congrArg literals

/-! ## Enumerations -/

theorem checkAllowed_inj (n : Naming) (c : Column) :
    checkAllowed n c values = checkAllowed n c others ↔ values = others := by
  rw [checkAllowed, checkAllowed, String.append_left_inj, String.append_right_inj, literals_inj]

/-- Outside MySQL the type of an enumeration is a text with a condition on its values. -/
theorem exists_typeName_enumeration {driver : Driver} (h : driver ≠ .mysql) (tablePrefix : String)
    (c : Column) : ∃ type : String, ∀ values : List String,
      (Ddl.ofDriver tablePrefix driver).typeName { c with type := .enumeration values } =
        .ok (type ++ checkAllowed (Ddl.ofDriver tablePrefix driver).naming c values) := by
  cases driver with
  | mysql => exact absurd rfl h
  | sqlite => exact ⟨"VARCHAR ", fun _ => rfl⟩
  | postgres => exact ⟨"VARCHAR(255) ", fun _ => rfl⟩
  | sqlserver => exact ⟨"NVARCHAR(255) ", fun _ => rfl⟩

/-- A list of values is read back from its text, all of it and whatever the values hold, and from no
other text. So two lists with the same text are the same, and outside MySQL, where an enumeration is
a text with a condition, so are two lists with the same condition on a column. -/
theorem allowed_values_read_back (values : List String) :
    (∀ text : String, readValues text.toList = some values ↔ text = literals values) ∧
      (∀ others, literals values = literals others ↔ values = others) ∧
      ∀ driver ≠ Driver.mysql, ∀ (tablePrefix : String) (c : Column),
        (∃ type : String, ∀ allowed : List String,
          (Ddl.ofDriver tablePrefix driver).typeName { c with type := .enumeration allowed } =
            .ok (type ++ checkAllowed (Ddl.ofDriver tablePrefix driver).naming c allowed)) ∧
          ∀ others, checkAllowed (Ddl.ofDriver tablePrefix driver).naming c values =
            checkAllowed (Ddl.ofDriver tablePrefix driver).naming c others ↔ values = others := by
  refine ⟨fun text => readValues_eq_some_iff, fun others => literals_inj, ?_⟩
  intro driver hdriver tablePrefix c
  exact ⟨exists_typeName_enumeration hdriver tablePrefix c, fun others => checkAllowed_inj _ c⟩

def statusColumn : Column :=
  { name := "status", type := .enumeration ["draft", "live"] }

/-- One value that looks like two. -/
theorem allowed_values_read_back_separator :
    Driver.postgres ≠ .mysql ∧ readValues "'a'', ''b'".toList = some ["a', 'b"] ∧
      checkAllowed (Ddl.ofDriver "app_" .postgres).naming statusColumn ["a', 'b"] ≠
        checkAllowed (Ddl.ofDriver "app_" .postgres).naming statusColumn ["a", "b"] := by
  obtain ⟨hread, -, hallowed⟩ := allowed_values_read_back ["a', 'b"]
  obtain ⟨-, hcheck⟩ := hallowed .postgres nofun "app_" statusColumn
  exact ⟨nofun, (hread _).2 rfl, fun h => absurd ((hcheck _).1 h) (by decide)⟩

end SqlBuilder.Schema
