import SqlBuilder.Identifier

/-!
# Reading identifiers

An identifier in a statement runs from its opening quote to the first closing quote that is not
written twice; a closing quote written twice is one character of the name. `Quotes.readIdentifier`
reads one at the front of a text, and what it reads is exactly what `Quotes.enclose` writes, in front
of a text that does not go on with a closing quote (`Quotes.readIdentifier_eq_some_iff`).

A name is written as one identifier unless it passes for quoted already. That is decided by its two
ends alone, so a name may pass that is no identifier (`Naming.isIdentifier_value_iff`).
-/

namespace SqlBuilder

namespace Quotes

variable (q : Quotes)

/-- A name as an identifier, whatever it looks like. -/
def enclose (name : List Char) : List Char :=
  q.opening :: q.escape name ++ [q.closing]

/-- The name up to its closing quote, and what follows that. -/
def readName : List Char → Option (List Char × List Char)
  | [] => none
  | [c] => if c = q.closing then some ([], []) else none
  | c :: d :: cs =>
    if c ≠ q.closing then (readName (d :: cs)).map fun (name, rest) => (c :: name, rest)
    else if d = q.closing then (readName cs).map fun (name, rest) => (c :: name, rest)
    else some ([], d :: cs)

/-- The name of the identifier at the front of a text, and what follows it. -/
def readIdentifier : List Char → Option (List Char × List Char)
  | [] => none
  | c :: cs => if c = q.opening then q.readName cs else none

/-- Whether a text is one identifier with nothing behind it. -/
def IsIdentifier (cs : List Char) : Prop :=
  (q.readIdentifier cs).map Prod.snd = some []

instance (cs : List Char) : Decidable (q.IsIdentifier cs) :=
  inferInstanceAs (Decidable ((q.readIdentifier cs).map Prod.snd = some []))

variable {q} {name rest cs : List Char}

theorem escape_cons (c : Char) (cs : List Char) :
    q.escape (c :: cs) = (if c = q.closing then [c, c] else [c]) ++ q.escape cs :=
  List.flatMap_cons

theorem escape_cons_closing (cs : List Char) :
    q.escape (q.closing :: cs) = q.closing :: q.closing :: q.escape cs := by
  rw [escape_cons, if_pos rfl]
  rfl

theorem escape_cons_of_ne {c : Char} (h : c ≠ q.closing) (cs : List Char) :
    q.escape (c :: cs) = c :: q.escape cs := by
  rw [escape_cons, if_neg h]
  rfl

theorem readName_cons_of_ne {c : Char} (h : c ≠ q.closing) (cs : List Char) :
    q.readName (c :: cs) = (q.readName cs).map fun (name, rest) => (c :: name, rest) := by
  cases cs with
  | nil => simp only [readName, if_neg h, Option.map_none]
  | cons d cs => rw [readName, if_pos h]

theorem readName_closing (h : rest.head? ≠ some q.closing) :
    q.readName (q.closing :: rest) = some ([], rest) := by
  cases rest with
  | nil => rw [readName, if_pos rfl]
  | cons d rest =>
    have hd : d ≠ q.closing := fun he => h (congrArg some he)
    rw [readName, if_neg (not_not_intro rfl), if_neg hd]

theorem readName_closing_closing (cs : List Char) :
    q.readName (q.closing :: q.closing :: cs) =
      (q.readName cs).map fun (name, rest) => (q.closing :: name, rest) := by
  rw [readName, if_neg (not_not_intro rfl), if_pos rfl]

/-- A written name is read back where the text behind it does not go on with a closing quote. -/
theorem readName_escape (h : rest.head? ≠ some q.closing) :
    q.readName (q.escape name ++ q.closing :: rest) = some (name, rest) := by
  induction name with
  | nil => exact readName_closing h
  | cons c name ih =>
    by_cases hc : c = q.closing
    · rw [hc, escape_cons_closing, List.cons_append, List.cons_append, readName_closing_closing, ih]
      rfl
    · rw [escape_cons_of_ne hc, List.cons_append, readName_cons_of_ne hc, ih]
      rfl

/-- Nothing else is read. -/
theorem eq_of_readName (h : q.readName cs = some (name, rest)) :
    cs = q.escape name ++ q.closing :: rest ∧ rest.head? ≠ some q.closing := by
  fun_induction readName q cs generalizing name with
  | case1 => cases h
  | case2 =>
    obtain ⟨rfl, rfl⟩ := Prod.mk.inj (Option.some.inj h)
    exact ⟨rfl, by simp⟩
  | case3 c hc => cases h
  | case4 c d cs hc ih =>
    obtain ⟨⟨tail, rest'⟩, htail, he⟩ := Option.map_eq_some_iff.1 h
    cases he
    obtain ⟨hcs, hrest⟩ := ih htail
    rw [hcs, escape_cons_of_ne hc]
    exact ⟨rfl, hrest⟩
  | case5 c cs hc ih =>
    obtain ⟨⟨tail, rest'⟩, htail, he⟩ := Option.map_eq_some_iff.1 h
    cases he
    obtain ⟨hcs, hrest⟩ := ih htail
    rw [hcs, Decidable.not_not.1 hc, escape_cons_closing]
    exact ⟨rfl, hrest⟩
  | case6 c d cs hc hd =>
    obtain ⟨rfl, rfl⟩ := Prod.mk.inj (Option.some.inj h)
    rw [Decidable.not_not.1 hc]
    exact ⟨rfl, fun he => hd (Option.some.inj he)⟩

/-- An identifier is read exactly where it was written and does not go on. -/
theorem readIdentifier_eq_some_iff :
    q.readIdentifier cs = some (name, rest) ↔
      cs = q.enclose name ++ rest ∧ rest.head? ≠ some q.closing := by
  have happend : q.enclose name ++ rest = q.opening :: (q.escape name ++ q.closing :: rest) := by
    simp [enclose]
  constructor
  · intro h
    cases cs with
    | nil => cases h
    | cons c cs =>
      by_cases hc : c = q.opening
      · rw [readIdentifier, if_pos hc] at h
        obtain ⟨hcs, hrest⟩ := eq_of_readName h
        rw [happend, hc, hcs]
        exact ⟨rfl, hrest⟩
      · rw [readIdentifier, if_neg hc] at h
        cases h
  · rintro ⟨rfl, hrest⟩
    rw [happend, readIdentifier, if_pos rfl]
    exact readName_escape hrest

theorem readIdentifier_enclose (h : rest.head? ≠ some q.closing) :
    q.readIdentifier (q.enclose name ++ rest) = some (name, rest) :=
  readIdentifier_eq_some_iff.2 ⟨rfl, h⟩

theorem isIdentifier_iff : q.IsIdentifier cs ↔ ∃ name, cs = q.enclose name := by
  unfold IsIdentifier
  rw [Option.map_eq_some_iff]
  constructor
  · rintro ⟨⟨name, rest⟩, h, rfl⟩
    obtain ⟨hcs, -⟩ := readIdentifier_eq_some_iff.1 h
    exact ⟨name, hcs.trans (List.append_nil _)⟩
  · rintro ⟨name, rfl⟩
    refine ⟨(name, []), readIdentifier_eq_some_iff.2 ⟨(List.append_nil _).symm, ?_⟩, rfl⟩
    simp

/-- A name that is not left alone is written as an identifier. -/
theorem quote_eq_enclose (hstar : cs ≠ ['*']) (hquoted : q.isQuoted cs = false) :
    q.quote cs = q.enclose cs := by
  unfold quote enclose
  rw [if_neg]
  simp [hstar, hquoted]

theorem quote_of_isQuoted (h : q.isQuoted cs = true) : q.quote cs = cs := by
  unfold quote
  rw [if_pos]
  simp [h]

theorem head?_of_isQuoted (h : q.isQuoted cs = true) : cs.head? = some q.opening := by
  simp only [isQuoted, Bool.and_eq_true, beq_iff_eq] at h
  exact h.1.2

theorem getLast?_of_isQuoted (h : q.isQuoted cs = true) : cs.getLast? = some q.closing := by
  simp only [isQuoted, Bool.and_eq_true, beq_iff_eq] at h
  exact h.2

theorem isQuoted_enclose (q : Quotes) (name : List Char) : q.isQuoted (q.enclose name) = true := by
  have hlast : (q.enclose name).getLast? = some q.closing := List.getLast?_concat
  rw [isQuoted, hlast]
  simp [enclose]

theorem quote_star (q : Quotes) : q.quote ['*'] = ['*'] :=
  if_pos rfl

/-- What is written for a name is a star or passes for quoted. -/
theorem star_or_isQuoted_quote (q : Quotes) (cs : List Char) :
    q.quote cs = ['*'] ∨ q.isQuoted (q.quote cs) = true := by
  by_cases hstar : cs = ['*']
  · exact Or.inl (hstar ▸ quote_star q)
  · cases hquoted : q.isQuoted cs with
    | true => exact Or.inr (by rw [quote_of_isQuoted hquoted, hquoted])
    | false => exact Or.inr (by rw [quote_eq_enclose hstar hquoted, isQuoted_enclose])

end Quotes

namespace Naming

/-- What is written for a name is one identifier, unless the name begins and ends with the quotes
and is itself no identifier. -/
theorem isIdentifier_value_iff (n : Naming) {name : String} (hstar : name ≠ "*") :
    n.quotes.IsIdentifier (n.value name).toList ↔
      n.quotes.isQuoted name.toList = false ∨ n.quotes.IsIdentifier name.toList := by
  have hchars : name.toList ≠ ['*'] := fun h => hstar (String.toList_inj.1 h)
  rw [value, String.toList_ofList]
  cases hquoted : n.quotes.isQuoted name.toList with
  | false =>
    -- every closing quote is doubled, so the first single one is the last character
    rw [Quotes.quote_eq_enclose hchars hquoted]
    exact iff_of_true (Quotes.isIdentifier_iff.2 ⟨_, rfl⟩) (Or.inl rfl)
  | true =>
    rw [Quotes.quote_of_isQuoted hquoted]
    simp

/-- Quotes and SQL mixed, but not at the last place. -/
theorem isIdentifier_value_hostile :
    "]; DROP TABLE users; --" ≠ "*" ∧
      (Dialect.quotes .sqlserver).IsIdentifier
        (Naming.value ⟨Dialect.quotes .sqlserver, "app_"⟩ "]; DROP TABLE users; --").toList := by
  have hstar : "]; DROP TABLE users; --" ≠ "*" := by decide
  exact ⟨hstar, (isIdentifier_value_iff ⟨Dialect.quotes .sqlserver, "app_"⟩ hstar).2
    (Or.inl (by decide))⟩

/-- A condition between two quoted names passes for a quoted name. -/
theorem not_isIdentifier_value :
    "\"id\" = 1 OR \"id\"" ≠ "*" ∧
      ¬ (Dialect.quotes .postgres).IsIdentifier
        (Naming.value ⟨Dialect.quotes .postgres, ""⟩ "\"id\" = 1 OR \"id\"").toList := by
  decide

end Naming

end SqlBuilder
