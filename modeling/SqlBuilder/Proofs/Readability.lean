import SqlBuilder.Proofs.Conditions
import SqlBuilder.Proofs.Groups

/-!
# Unique readability of a WHERE list

Two WHERE lists with the same text are the same filter. Read from the left, the text of a predicate
ends where it ends whatever stands behind it: its first character tells whether it is a group, a
constant or a condition on a column, and each of them tells where it ends. So a text with one
predicate in front is not one with another predicate in front
(`Predicate.outline_eq_of_append`). The same holds of chains where the end of the text or a closing
parenthesis follows, for a connector in its place says that the chain goes on.

What the text does not show of a chain is the contents of the values, the connector in front of the
first member of a list, and the column of a list without values: `Predicate.outlineChain` takes them
out.
-/

namespace SqlBuilder

/-- Columns whose names are words and values that are bound; no verbatim SQL and no other queries. -/
def Vocabulary.readable (q : Quotes) : Vocabulary where
  table _ := False
  column := q.WordColumn
  expression _ := False
  value v := v.isRaw = false
  fragment _ _ := False

/-! ## What the text shows -/

mutual

/-- The predicate with null for every value and with no column where there are no values to compare
it to. -/
def Predicate.outline : Predicate → Predicate
  | .comparison c => .comparison { c with value := .null }
  | .member negated column values =>
    .member negated (if values.isEmpty then "" else column) (List.replicate values.length .null)
  | .between negated column _ _ => .between negated column .null .null
  | .null negated column => .null negated column
  | .raw sql bindings => .raw sql bindings
  | .group members => .group (Predicate.outlineChain members)
  | .memberOf negated column query => .memberOf negated column query
  | .present negated query => .present negated query

/-- The outlines of a list, AND in front of the first. -/
def Predicate.outlineChain : List (Linked Predicate) → List (Linked Predicate)
  | [] => []
  | ⟨_, p⟩ :: ps => ⟨.and, p.outline⟩ :: Predicate.outlineTail ps

def Predicate.outlineTail : List (Linked Predicate) → List (Linked Predicate)
  | [] => []
  | ⟨connector, p⟩ :: ps => ⟨connector, p.outline⟩ :: Predicate.outlineTail ps

end

/-- What stands for membership in no values. -/
def constant (negated : Bool) : List Char :=
  (if negated then "1 = 1" else "0 = 1").toList

/-- The list of a condition that takes one. -/
def Keyword.list (count : Nat) : Keyword → List Char
  | .member _ => markList count
  | _ => []

/-- The outline of a condition on a column. -/
def Keyword.outline (column : String) (count : Nat) : Keyword → Predicate
  | .compare operator => .comparison ⟨column, operator, .null⟩
  | .member negated => .member negated column (List.replicate count .null)
  | .between negated => .between negated column .null .null
  | .null negated => .null negated column

variable (n : Naming)

/-- The text of a condition on a column. -/
def Naming.test (column : String) (count : Nat) (k : Keyword) : List Char :=
  (n.reference column).toList ++ ' ' :: (k.sql.toList ++ k.list count)

mutual

/-- The text of a predicate without verbatim SQL and queries. -/
def Predicate.text : Predicate → List Char
  | .comparison c => n.test c.column 0 (.compare c.operator)
  | .member negated column values =>
    if values.isEmpty then constant negated else n.test column values.length (.member negated)
  | .between negated column _ _ => n.test column 0 (.between negated)
  | .null negated column => n.test column 0 (.null negated)
  | .group members => '(' :: (Predicate.chainText members ++ [')'])
  | .raw _ _ => []
  | .memberOf _ _ _ => []
  | .present _ _ => []

def Predicate.chainText : List (Linked Predicate) → List Char
  | [] => []
  | ⟨_, p⟩ :: ps => p.text ++ Predicate.tailText ps

def Predicate.tailText : List (Linked Predicate) → List Char
  | [] => []
  | ⟨connector, p⟩ :: ps =>
    ' ' :: (connector.sql.toList ++ ' ' :: (p.text ++ Predicate.tailText ps))

end

/-! ## The text is what is written -/

theorem Sql.toList_text_joined_blank (first : Sql) (rest : List (Linked Sql)) :
    (Sql.joined " " (first :: rest.map fun l => Sql.lit (l.connector.sql ++ " ") ++ l.item)).text.toList =
      first.text.toList ++ rest.flatMap fun l =>
        ' ' :: (l.connector.sql.toList ++ ' ' :: l.item.text.toList) := by
  induction rest generalizing first with
  | nil => simp
  | cons l rest ih =>
    rw [List.map_cons, Sql.joined_cons_cons, Sql.text_append, String.toList_append, ih]
    simp

/-- A chain on its text: the first member and, each behind its connector, the others. -/
theorem Linked.toList_text_chain (first : Linked Sql) (rest : List (Linked Sql)) :
    (Linked.chain (first :: rest)).text.toList =
      first.item.text.toList ++ rest.flatMap fun l =>
        ' ' :: (l.connector.sql.toList ++ ' ' :: l.item.text.toList) :=
  Sql.toList_text_joined_blank first.item rest

namespace Target

variable {t : Target}

theorem toList_text_comparison {c : Comparison} (h : c.value.isRaw = false) :
    (t.comparison c).text.toList = t.naming.test c.column 0 (.compare c.operator) := by
  simp [comparison, reference, Naming.test, Keyword.sql, Keyword.list, Sql.text, Sql.lit, Piece.sql,
    Value.placeholder_eq h]

theorem toList_text_member (negated : Bool) (column : String) {values : List Value}
    (h : ∀ v ∈ values, v.isRaw = false) :
    (t.member negated column values).text.toList =
      (Predicate.member negated column values).text t.naming := by
  cases values with
  | nil => simp [member, Predicate.text, constant]
  | cons v vs =>
    have hparams := Sql.toList_text_params h
    cases negated <;>
      simpa [member, memberOf, reference, Predicate.text, Naming.test, Keyword.sql, Keyword.list]
        using hparams

theorem toList_text_between (negated : Bool) (column : String) {low high : Value}
    (hl : low.isRaw = false) (hh : high.isRaw = false) :
    (t.between negated column low high).text.toList =
      t.naming.test column 0 (.between negated) := by
  cases negated <;>
    simp [between, reference, Naming.test, Keyword.sql, Keyword.list, Sql.text, Sql.lit, Piece.sql,
      Value.placeholder_eq hl, Value.placeholder_eq hh]

theorem toList_text_nullity (negated : Bool) (column : String) :
    (t.nullity negated column).text.toList = t.naming.test column 0 (.null negated) := by
  cases negated <;> simp [nullity, reference, Naming.test, Keyword.sql, Keyword.list]

end Target

mutual

theorem Predicate.exists_condition {t : Target} :
    ∀ {p : Predicate}, p.Uses (.readable t.dialect.quotes) →
      ∃ s, p.condition t = .ok s ∧ s.text.toList = p.text t.naming
  | .comparison c, hp => by
    simp only [Predicate.Uses] at hp
    rw [Predicate.text]
    exact ⟨_, rfl, Target.toList_text_comparison hp.2⟩
  | .member negated column values, hp => by
    simp only [Predicate.Uses] at hp
    exact ⟨_, rfl, Target.toList_text_member negated column hp.2⟩
  | .between negated column low high, hp => by
    simp only [Predicate.Uses] at hp
    rw [Predicate.text]
    exact ⟨_, rfl, Target.toList_text_between negated column hp.2.1 hp.2.2⟩
  | .null negated column, _ => by
    rw [Predicate.text]
    exact ⟨_, rfl, Target.toList_text_nullity negated column⟩
  | .raw _ _, hp => by
    simp only [Predicate.Uses] at hp
    exact hp.elim
  | .group members, hp => by
    simp only [Predicate.Uses] at hp
    obtain ⟨conditions, hc, htext, -⟩ := Predicate.exists_chain hp
    refine ⟨Sql.lit "(" ++ Linked.chain conditions ++ Sql.lit ")", ?_, ?_⟩
    · rw [Predicate.condition, hc]
      rfl
    · simp [Predicate.text, htext]
  | .memberOf _ _ query, hp => by
    simp only [Predicate.Uses] at hp
    exact hp.2.names.table.elim
  | .present _ query, hp => by
    simp only [Predicate.Uses] at hp
    exact hp.names.table.elim

/-- A list has conditions, and their text is the same whether the list is the whole chain or goes on
behind other members. -/
theorem Predicate.exists_chain {t : Target} :
    ∀ {ps : List (Linked Predicate)}, Predicate.ChainUses (.readable t.dialect.quotes) ps →
      ∃ conditions, Predicate.chain t ps = .ok conditions ∧
        (Linked.chain conditions).text.toList = Predicate.chainText t.naming ps ∧
        (conditions.flatMap fun l => ' ' :: (l.connector.sql.toList ++ ' ' :: l.item.text.toList)) =
          Predicate.tailText t.naming ps
  | [], _ => ⟨[], rfl, rfl, rfl⟩
  | ⟨connector, p⟩ :: ps, hps => by
    simp only [Predicate.ChainUses, Predicate.LinkedUses] at hps
    obtain ⟨condition, hc, htext⟩ := Predicate.exists_condition hps.1
    obtain ⟨conditions, hcs, -, htail⟩ := Predicate.exists_chain hps.2
    refine ⟨⟨connector, condition⟩ :: conditions, ?_, ?_, ?_⟩
    · rw [Predicate.chain, Predicate.linked, hc, hcs]
      rfl
    · rw [Linked.toList_text_chain, htext, htail, Predicate.chainText]
    · rw [List.flatMap_cons, htext, htail, Predicate.tailText]
      simp

end

/-! ## Where a predicate ends -/

theorem Dialect.opening_ne_parenthesis (d : Dialect) :
    d.quotes.opening ≠ '(' ∧ d.quotes.opening ≠ ')' := by
  cases d <;> decide

theorem Dialect.opening_ne_digit (d : Dialect) (negated : Bool) :
    d.quotes.opening ≠ if negated then '1' else '0' := by
  cases d <;> cases negated <;> decide

theorem constant_head? (negated : Bool) :
    (constant negated).head? = some (if negated then '1' else '0') := by
  cases negated <;> rfl

theorem constant_append_inj {negated negated' : Bool} {rest rest' : List Char}
    (h : constant negated ++ rest = constant negated' ++ rest') :
    negated = negated' ∧ rest = rest' := by
  match negated, negated' with
  | false, false => exact ⟨rfl, List.append_cancel_left h⟩
  | true, true => exact ⟨rfl, List.append_cancel_left h⟩
  | false, true => cases (List.cons.inj h).1
  | true, false => cases (List.cons.inj h).1

theorem Keyword.list_append_inj {k : Keyword} (column : String) {count count' : Nat}
    {rest rest' : List Char} (h : k.list count ++ rest = k.list count' ++ rest') :
    k.outline column count = k.outline column count' ∧ rest = rest' := by
  cases k with
  | compare operator => exact ⟨rfl, h⟩
  | member negated =>
    obtain ⟨rfl, hrest⟩ := markList_append_inj h
    exact ⟨rfl, hrest⟩
  | between negated => exact ⟨rfl, h⟩
  | null negated => exact ⟨rfl, h⟩

theorem Quotes.head?_writePath (q : Quotes) {path : List (List Char)} (h : path ≠ []) :
    (q.writePath path).head? = some q.opening := by
  match path with
  | [] => exact absurd rfl h
  | [_] => rfl
  | _ :: _ :: _ => rfl

theorem eq_of_head?_append {α : Type} {xs ys rest rest' : List α} {x y : α}
    (h : xs ++ rest = ys ++ rest') (hx : xs.head? = some x) (hy : ys.head? = some y) : x = y := by
  have hhead := congrArg List.head? h
  rw [List.head?_append, List.head?_append, hx, hy] at hhead
  exact Option.some.inj hhead

/-- What may follow a chain: nothing, or the parenthesis that closes its group. -/
def Closed (rest : List Char) : Prop :=
  ∀ c ∈ rest.head?, c = ')'

section Ends

variable {t : Target} (hn : t.naming.PlainPrefix)

include hn in
theorem Naming.head?_test {column : String} (hc : t.dialect.quotes.WordColumn column) (count : Nat)
    (k : Keyword) : (t.naming.test column count k).head? = some t.dialect.quotes.opening := by
  have hhead : (t.naming.reference column).toList.head? = some t.dialect.quotes.opening := by
    rw [toList_reference_word hn hc]
    exact Quotes.head?_writePath _ (Reference.prefixPath_ne_nil (List.splitOn_ne_nil _ _) _)
  rw [test, List.head?_append, hhead]
  rfl

include hn in
theorem Naming.test_append_inj {column column' : String}
    (hc : t.dialect.quotes.WordColumn column) (hc' : t.dialect.quotes.WordColumn column')
    {count count' : Nat} {k k' : Keyword} {rest rest' : List Char}
    (h : t.naming.test column count k ++ rest = t.naming.test column' count' k' ++ rest') :
    k.outline column count = k'.outline column' count' ∧ rest = rest' := by
  simp only [test, List.append_assoc, List.cons_append] at h
  obtain ⟨rfl, hwords⟩ := reference_append_inj hn hc hc' h
  obtain ⟨rfl, hlist⟩ := Keyword.sql_append_inj hwords
  exact Keyword.list_append_inj column hlist

/-- A predicate that is no group is a constant or a condition on a column. -/
theorem Predicate.constant_or_test {p : Predicate} (n : Naming)
    (hp : p.Uses (.readable t.dialect.quotes)) (hg : ∀ members, p ≠ .group members) :
    (∃ negated, p.text n = constant negated ∧ p.outline = .member negated "" []) ∨
      ∃ column count k, t.dialect.quotes.WordColumn column ∧ p.text n = n.test column count k ∧
        p.outline = k.outline column count := by
  cases p with
  | comparison c =>
    simp only [Uses] at hp
    exact Or.inr ⟨c.column, 0, .compare c.operator, hp.1, by rw [text], by rw [outline]; rfl⟩
  | member negated column values =>
    simp only [Uses] at hp
    cases values with
    | nil => exact Or.inl ⟨negated, by simp [text], by simp [outline]⟩
    | cons v vs =>
      refine Or.inr ⟨column, vs.length + 1, .member negated, hp.1, ?_, ?_⟩
      · simp [text]
      · simp [outline, Keyword.outline]
  | between negated column low high =>
    simp only [Uses] at hp
    exact Or.inr ⟨column, 0, .between negated, hp.1, by rw [text], by rw [outline]; rfl⟩
  | null negated column =>
    simp only [Uses] at hp
    exact Or.inr ⟨column, 0, .null negated, hp, by rw [text], by rw [outline]; rfl⟩
  | group members => exact absurd rfl (hg members)
  | raw sql bindings =>
    simp only [Uses] at hp
    exact hp.elim
  | memberOf negated column query =>
    simp only [Uses] at hp
    exact hp.2.names.table.elim
  | present negated query =>
    simp only [Uses] at hp
    exact hp.names.table.elim

include hn in
/-- A predicate that is no group begins with no parenthesis. -/
theorem Predicate.exists_head {p : Predicate} (hp : p.Uses (.readable t.dialect.quotes))
    (hg : ∀ members, p ≠ .group members) :
    ∃ c, (p.text t.naming).head? = some c ∧ c ≠ '(' ∧ c ≠ ')' := by
  rcases constant_or_test t.naming hp hg with
    ⟨negated, htext, -⟩ | ⟨column, count, k, hc, htext, -⟩
  · refine ⟨_, htext ▸ constant_head? negated, ?_⟩
    cases negated <;> decide
  · exact ⟨_, htext ▸ Naming.head?_test hn hc count k, t.dialect.opening_ne_parenthesis⟩

include hn in
/-- Predicates that are no groups and begin a text are the same as far as the text shows them. -/
theorem Predicate.outline_eq_of_append_test {p p' : Predicate} {rest rest' : List Char}
    (hp : p.Uses (.readable t.dialect.quotes)) (hp' : p'.Uses (.readable t.dialect.quotes))
    (hg : ∀ members, p ≠ .group members) (hg' : ∀ members, p' ≠ .group members)
    (h : p.text t.naming ++ rest = p'.text t.naming ++ rest') :
    p.outline = p'.outline ∧ rest = rest' := by
  rcases constant_or_test t.naming hp hg with
    ⟨negated, htext, hout⟩ | ⟨column, count, k, hc, htext, hout⟩ <;>
  rcases constant_or_test t.naming hp' hg' with
    ⟨negated', htext', hout'⟩ | ⟨column', count', k', hc', htext', hout'⟩ <;>
  rw [htext, htext'] at h
  · obtain ⟨rfl, hrest⟩ := constant_append_inj h
    exact ⟨hout.trans hout'.symm, hrest⟩
  · have he := eq_of_head?_append h (constant_head? negated) (Naming.head?_test hn hc' count' k')
    exact absurd he.symm (t.dialect.opening_ne_digit negated)
  · have he := eq_of_head?_append h (Naming.head?_test hn hc count k) (constant_head? negated')
    exact absurd he (t.dialect.opening_ne_digit negated')
  · obtain ⟨houtline, hrest⟩ := Naming.test_append_inj hn hc hc' h
    exact ⟨hout.trans (houtline.trans hout'.symm), hrest⟩

include hn in
theorem Predicate.outline_eq_of_append_of_ne_group {p p' : Predicate} {rest rest' : List Char}
    (hp : p.Uses (.readable t.dialect.quotes)) (hp' : p'.Uses (.readable t.dialect.quotes))
    (hg : ∀ members, p ≠ .group members)
    (h : p.text t.naming ++ rest = p'.text t.naming ++ rest') :
    p.outline = p'.outline ∧ rest = rest' := by
  by_cases hg' : ∃ members', p' = .group members'
  · obtain ⟨members', rfl⟩ := hg'
    obtain ⟨c, hc, hne, -⟩ := exists_head hn hp hg
    have hc' : ((Predicate.group members').text t.naming).head? = some '(' := by rw [text]; rfl
    exact absurd (eq_of_head?_append h hc hc') hne
  · exact outline_eq_of_append_test hn hp hp' hg (not_exists.1 hg') h

include hn in
/-- No predicate begins with a closing parenthesis. -/
theorem Predicate.not_closed {p : Predicate} (hp : p.Uses (.readable t.dialect.quotes))
    (rest : List Char) : ¬ Closed (p.text t.naming ++ rest) := by
  intro hclosed
  rw [Closed, List.head?_append] at hclosed
  by_cases hg : ∃ members, p = .group members
  · obtain ⟨members, rfl⟩ := hg
    exact absurd (hclosed '(' (by rw [text]; rfl)) (by decide)
  · obtain ⟨c, hc, -, hne⟩ := exists_head hn hp (not_exists.1 hg)
    exact hne (hclosed c (by rw [hc]; rfl))

end Ends

theorem Connector.sql_append_inj {connector connector' : Connector} {rest rest' : List Char}
    (h : connector.sql.toList ++ ' ' :: rest = connector'.sql.toList ++ ' ' :: rest') :
    connector = connector' ∧ rest = rest' := by
  match connector, connector' with
  | .and, .and => exact ⟨rfl, (List.cons.inj (List.append_cancel_left h)).2⟩
  | .or, .or => exact ⟨rfl, (List.cons.inj (List.append_cancel_left h)).2⟩
  | .and, .or => cases (List.cons.inj h).1
  | .or, .and => cases (List.cons.inj h).1

mutual

/-- A predicate at the front of a text is what the text shows, and ends where the text says. -/
theorem Predicate.outline_eq_of_append {t : Target} (hn : t.naming.PlainPrefix) {p p' : Predicate}
    {rest rest' : List Char} (hp : p.Uses (.readable t.dialect.quotes))
    (hp' : p'.Uses (.readable t.dialect.quotes))
    (h : p.text t.naming ++ rest = p'.text t.naming ++ rest') :
    p.outline = p'.outline ∧ rest = rest' := by
  cases p with
  | group members =>
    by_cases hg' : ∃ members', p' = .group members'
    · obtain ⟨members', rfl⟩ := hg'
      simp only [Predicate.Uses] at hp hp'
      simp only [Predicate.text, List.cons_append, List.append_assoc, List.nil_append,
        List.cons.injEq, true_and] at h
      have hclosed (rest : List Char) : Closed (')' :: rest) := by
        simp [Closed]
      obtain ⟨hout, hrest⟩ :=
        Predicate.outlineChain_eq_of_append hn (hclosed rest) (hclosed rest') hp hp' h
      rw [Predicate.outline, Predicate.outline, hout]
      exact ⟨rfl, (List.cons.inj hrest).2⟩
    · obtain ⟨hout, hrest⟩ :=
        Predicate.outline_eq_of_append_of_ne_group hn hp' hp (not_exists.1 hg') h.symm
      exact ⟨hout.symm, hrest.symm⟩
  | _ => exact Predicate.outline_eq_of_append_of_ne_group hn hp hp' nofun h

theorem Predicate.outlineChain_eq_of_append {t : Target} (hn : t.naming.PlainPrefix)
    {ps ps' : List (Linked Predicate)} {rest rest' : List Char} (hr : Closed rest)
    (hs : Closed rest') (hps : Predicate.ChainUses (.readable t.dialect.quotes) ps)
    (hps' : Predicate.ChainUses (.readable t.dialect.quotes) ps')
    (h : Predicate.chainText t.naming ps ++ rest = Predicate.chainText t.naming ps' ++ rest') :
    Predicate.outlineChain ps = Predicate.outlineChain ps' ∧ rest = rest' := by
  match ps, ps' with
  | [], [] => exact ⟨rfl, h⟩
  | [], ⟨_, p'⟩ :: ps' =>
    simp only [Predicate.ChainUses, Predicate.LinkedUses] at hps'
    rw [Predicate.chainText, List.nil_append, Predicate.chainText, List.append_assoc] at h
    exact absurd (h ▸ hr) (Predicate.not_closed hn hps'.1 _)
  | ⟨_, p⟩ :: ps, [] =>
    simp only [Predicate.ChainUses, Predicate.LinkedUses] at hps
    rw [Predicate.chainText, Predicate.chainText, List.nil_append, List.append_assoc] at h
    exact absurd (h ▸ hs) (Predicate.not_closed hn hps.1 _)
  | ⟨_, p⟩ :: ps, ⟨_, p'⟩ :: ps' =>
    simp only [Predicate.ChainUses, Predicate.LinkedUses] at hps hps'
    simp only [Predicate.chainText, List.append_assoc] at h
    obtain ⟨hp, htail⟩ := Predicate.outline_eq_of_append hn hps.1 hps'.1 h
    obtain ⟨hout, hrest⟩ := Predicate.outlineTail_eq_of_append hn hr hs hps.2 hps'.2 htail
    rw [Predicate.outlineChain, Predicate.outlineChain, hp, hout]
    exact ⟨rfl, hrest⟩

theorem Predicate.outlineTail_eq_of_append {t : Target} (hn : t.naming.PlainPrefix)
    {ps ps' : List (Linked Predicate)} {rest rest' : List Char} (hr : Closed rest)
    (hs : Closed rest') (hps : Predicate.ChainUses (.readable t.dialect.quotes) ps)
    (hps' : Predicate.ChainUses (.readable t.dialect.quotes) ps')
    (h : Predicate.tailText t.naming ps ++ rest = Predicate.tailText t.naming ps' ++ rest') :
    Predicate.outlineTail ps = Predicate.outlineTail ps' ∧ rest = rest' := by
  match ps, ps' with
  | [], [] => exact ⟨rfl, h⟩
  -- a blank stands where the other chain has ended
  | [], ⟨_, p'⟩ :: ps' =>
    rw [Predicate.tailText, List.nil_append, Predicate.tailText] at h
    exact absurd (hr ' ' (by rw [h]; rfl)) (by decide)
  | ⟨_, p⟩ :: ps, [] =>
    rw [Predicate.tailText, Predicate.tailText, List.nil_append] at h
    exact absurd (hs ' ' (by rw [← h]; rfl)) (by decide)
  | ⟨connector, p⟩ :: ps, ⟨connector', p'⟩ :: ps' =>
    simp only [Predicate.ChainUses, Predicate.LinkedUses] at hps hps'
    simp only [Predicate.tailText, List.cons_append, List.append_assoc, List.cons.injEq,
      true_and] at h
    obtain ⟨rfl, hnext⟩ := Connector.sql_append_inj h
    obtain ⟨hp, htail⟩ := Predicate.outline_eq_of_append hn hps.1 hps'.1 hnext
    obtain ⟨hout, hrest⟩ := Predicate.outlineTail_eq_of_append hn hr hs hps.2 hps'.2 htail
    rw [Predicate.outlineTail, Predicate.outlineTail, hp, hout]
    exact ⟨rfl, hrest⟩

end

/-! ## WHERE lists -/

/-- The text of a list of predicates, if it has one. -/
def Predicate.listText (t : Target) (ps : List (Linked Predicate)) : Except Error String :=
  (Predicate.chain t ps).map fun conditions => (Linked.chain conditions).text

/-- No step makes a group without members, at any depth, and the text of a list of predicates, bound
values and word columns throughout, shows all of the list but what its outline leaves out: the
contents of values, the connectors of first members and the columns of lists without values. -/
theorem Predicate.outlineChain_eq_of_listText :
    (∀ {table : String} {steps : List Step} {q : Query}, Query.build table steps = .ok q →
      q.Filled) ∧
    ∀ {t : Target}, t.naming.PlainPrefix → ∀ {ps ps' : List (Linked Predicate)},
      Predicate.ChainUses (.readable t.dialect.quotes) ps →
      Predicate.ChainUses (.readable t.dialect.quotes) ps' →
      ∃ text, Predicate.listText t ps = .ok text ∧
        (Predicate.listText t ps' = .ok text →
          Predicate.outlineChain ps = Predicate.outlineChain ps') := by
  refine ⟨Query.filled_of_build, fun {t} hn {ps ps'} hps hps' => ?_⟩
  obtain ⟨conditions, hc, htext, -⟩ := Predicate.exists_chain hps
  obtain ⟨conditions', hc', htext', -⟩ := Predicate.exists_chain hps'
  refine ⟨(Linked.chain conditions).text, by rw [listText, hc]; rfl, fun he => ?_⟩
  rw [listText, hc'] at he
  have hsame : Predicate.chainText t.naming ps ++ [] = Predicate.chainText t.naming ps' ++ [] := by
    rw [List.append_nil, List.append_nil, ← htext, ← htext']
    exact congrArg String.toList (Except.ok.inj he).symm
  have hclosed : Closed [] := by simp [Closed]
  exact (Predicate.outlineChain_eq_of_append hn hclosed hclosed hps hps' hsame).1

/-- Steps to a list with a group in it. -/
def rangeSteps (first : Connector) (low high : Value) (column : String) : List Step :=
  [.compare first ⟨"t.a", .gte, low⟩,
    .nested .or [.between first true "b_1" low high, .null .or false "c", .nested .or []],
    .member .and true column [],
    .member .or false "d" [low, high]]

def rangeList (first : Connector) (low high : Value) (column : String) : List (Linked Predicate) :=
  [⟨first, .comparison ⟨"t.a", .gte, low⟩⟩,
    ⟨.or, .group [⟨first, .between true "b_1" low high⟩, ⟨.or, .null false "c"⟩]⟩,
    ⟨.and, .member true column []⟩,
    ⟨.or, .member false "d" [low, high]⟩]

/-- The values differ, the connectors of the first members and the column compared to no values. -/
theorem Predicate.outlineChain_eq_of_listText_range :
    ∃ q q' : Query, Query.build "t" (rangeSteps .and (.int64 1) .null "e") = .ok q ∧
      Query.build "t" (rangeSteps .or (.string "?") (.bool true) "f.g") = .ok q' ∧
      Predicate.listText ⟨.mysql, "app_"⟩ q.wheres = Predicate.listText ⟨.mysql, "app_"⟩ q'.wheres ∧
      Predicate.outlineChain q.wheres = Predicate.outlineChain q'.wheres ∧ q.Filled := by
  obtain ⟨q, hq, hw⟩ : ∃ q, Query.build "t" (rangeSteps .and (.int64 1) .null "e") = .ok q ∧
      q.wheres = rangeList .and (.int64 1) .null "e" := ⟨_, rfl, rfl⟩
  obtain ⟨q', hq', hw'⟩ : ∃ q, Query.build "t" (rangeSteps .or (.string "?") (.bool true) "f.g") =
      .ok q ∧ q.wheres = rangeList .or (.string "?") (.bool true) "f.g" := ⟨_, rfl, rfl⟩
  have htexts : Predicate.listText ⟨.mysql, "app_"⟩ (rangeList .and (.int64 1) .null "e") =
      Predicate.listText ⟨.mysql, "app_"⟩ (rangeList .or (.string "?") (.bool true) "f.g") := rfl
  have hreadable (first : Connector) (low high : Value) (column : String)
      (hl : low.isRaw = false) (hh : high.isRaw = false)
      (hc : (Dialect.quotes .mysql).WordColumn column) :
      Predicate.ChainUses (.readable (Dialect.quotes .mysql)) (rangeList first low high column) := by
    simp only [rangeList, Predicate.ChainUses, Predicate.LinkedUses, Predicate.Uses,
      Vocabulary.comparison, Vocabulary.readable, List.forall_mem_cons, List.not_mem_nil,
      false_imp_iff, implies_true, hl, hh, hc, true_and, and_true]
    decide
  obtain ⟨hfilled, hlists⟩ := @Predicate.outlineChain_eq_of_listText
  obtain ⟨text, htext, hsame⟩ := hlists (t := ⟨.mysql, "app_"⟩) (by decide)
    (hreadable .and (.int64 1) .null "e" rfl rfl (by decide))
    (hreadable .or (.string "?") (.bool true) "f.g" rfl rfl (by decide))
  refine ⟨q, q', hq, hq', ?_, ?_, hfilled hq⟩
  · rw [hw, hw', htexts]
  · rw [hw, hw']
    exact hsame (htexts.symm.trans htext)

end SqlBuilder
