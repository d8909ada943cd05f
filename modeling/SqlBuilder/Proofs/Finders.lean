import SqlBuilder.Proofs.Words
import SqlBuilder.Query.Step

/-!
# Columns in a method name

A finder name is `where_` in some spelling and then its columns, with `_and_` or `_or_` in some
spelling between them. `Splits` cuts such a text at the leftmost separator, again and again behind
the cut, and that is how a name is read (`Method.parse_finder_iff`). What is read spells the name
again, with no separator left inside a column. The other way round, columns are read back from every
text that spells them and in which separators begin only at the `separatorPlaces`; one that begins
inside another, as in `_and_or_`, counts too. A finder does what the `equalities` of its columns do
one after the other.
-/

namespace SqlBuilder

namespace Text

variable {α : Type} {strip? : List Char → Option α} {cs before : List Char}

theorem lowerAscii_append (cs ds : List Char) :
    lowerAscii (cs ++ ds) = lowerAscii cs ++ lowerAscii ds :=
  List.map_append

theorem splitFirst?_eq_none_iff_drop :
    splitFirst? strip? cs = none ↔ ∀ place < cs.length, strip? (cs.drop place) = none := by
  induction cs with
  | nil => exact iff_of_true rfl fun _ h => absurd h (Nat.not_lt_zero _)
  | cons c cs ih =>
    rw [List.length_cons, Nat.forall_lt_succ_left, List.drop_zero, splitFirst?]
    cases strip? (c :: cs) with
    | some rest => simp
    | none => simp [ih]

/-- A text is cut at the leftmost place where something can be stripped. -/
theorem splitFirst?_eq_some_iff_drop {a : α} : splitFirst? strip? cs = some (before, a) ↔
    ∃ rest, cs = before ++ rest ∧ rest ≠ [] ∧ strip? rest = some a ∧
      ∀ place < before.length, strip? (cs.drop place) = none := by
  induction cs generalizing before with
  | nil =>
    refine iff_of_false (by simp [splitFirst?]) ?_
    rintro ⟨rest, hcs, hrest, -⟩
    exact hrest (List.append_eq_nil_iff.1 hcs.symm).2
  | cons c cs ih =>
    rw [splitFirst?]
    cases before with
    | nil => cases hstrip : strip? (c :: cs) <;> simp [hstrip]
    | cons b before =>
      rw [List.length_cons, Nat.forall_lt_succ_left, List.drop_zero]
      cases hstrip : strip? (c :: cs) with
      | some rest => simp
      | none => simp only [Option.map_eq_some_iff]; simp [ih]; grind

end Text

/-! ## Separators -/

/-- The word before a column with this connector, in small letters. -/
def Connector.separator : Connector → List Char
  | .and => "_and_".toList
  | .or => "_or_".toList

theorem Connector.separator_ne_nil (c : Connector) : c.separator ≠ [] := by
  cases c <;> decide

/-- Whether a separator begins in a text at a place. -/
def SeparatorAt (cs : List Char) (place : Nat) : Prop :=
  ∃ c sep, Text.lowerAscii sep = Connector.separator c ∧ sep <+: cs.drop place

variable {cs sep rest : List Char} {c next : Connector} {place : Nat}

/-- A text begins with one separator at most. -/
theorem connector_eq_of_stripWord? {other : List Char}
    (h : Text.stripWord? c.separator cs = some rest)
    (hnext : Text.stripWord? next.separator cs = some other) : c = next := by
  obtain ⟨sep, hsep, rfl⟩ := Text.stripWord?_eq_some_iff.1 h
  obtain ⟨sep', hsep', hcs⟩ := Text.stripWord?_eq_some_iff.1 hnext
  have hlower := congrArg Text.lowerAscii hcs
  rw [Text.lowerAscii_append, Text.lowerAscii_append, hsep, hsep'] at hlower
  cases c <;> cases next <;> first | rfl | cases hlower

theorem separator?_eq_some_iff_stripWord? :
    separator? cs = some (c, rest) ↔ Text.stripWord? c.separator cs = some rest := by
  have hwordAnd : "_and_".toList = Connector.and.separator := rfl
  have hwordOr : "_or_".toList = Connector.or.separator := rfl
  rw [separator?, hwordAnd, hwordOr]
  cases hand : Text.stripWord? Connector.and.separator cs with
  | none => cases c <;> simp [hand]
  | some other =>
    constructor
    · rintro ⟨⟩
      exact hand
    · intro h
      obtain rfl := connector_eq_of_stripWord? hand h
      obtain rfl := Option.some.inj (hand.symm.trans h)
      rfl

theorem separator?_eq_some_iff :
    separator? cs = some (c, rest) ↔
      ∃ sep, Text.lowerAscii sep = c.separator ∧ cs = sep ++ rest :=
  separator?_eq_some_iff_stripWord?.trans Text.stripWord?_eq_some_iff

theorem separator?_drop_eq_none_iff :
    separator? (cs.drop place) = none ↔ ¬ SeparatorAt cs place := by
  rw [Option.eq_none_iff_forall_ne_some, SeparatorAt, not_exists]
  constructor
  · rintro h c ⟨sep, hsep, rest, hcs⟩
    exact h (c, rest) (separator?_eq_some_iff.2 ⟨sep, hsep, hcs.symm⟩)
  · rintro h ⟨c, rest⟩ hstrip
    obtain ⟨sep, hsep, hcs⟩ := separator?_eq_some_iff.1 hstrip
    exact h c ⟨sep, hsep, rest, hcs.symm⟩

theorem SeparatorAt.lt_length (h : SeparatorAt cs place) : place < cs.length := by
  obtain ⟨c, sep, hsep, hstart⟩ := h
  have hpos := List.length_pos_iff.2 c.separator_ne_nil
  rw [← Text.length_of_lowerAscii hsep] at hpos
  have hle := hstart.length_le
  rw [List.length_drop] at hle
  omega

theorem SeparatorAt.append (h : SeparatorAt cs place) (rest : List Char) :
    SeparatorAt (cs ++ rest) place := by
  have hlt := h.lt_length
  obtain ⟨c, sep, hsep, hstart⟩ := h
  refine ⟨c, sep, hsep, ?_⟩
  rw [List.drop_append_of_le_length hlt.le]
  exact hstart.trans (List.prefix_append _ _)

theorem SeparatorAt.of_append (before : List Char) (h : SeparatorAt cs place) :
    SeparatorAt (before ++ cs) (before.length + place) := by
  obtain ⟨c, sep, hsep, hstart⟩ := h
  exact ⟨c, sep, hsep, by rwa [List.drop_append, List.drop_eq_nil_of_le (Nat.le_add_right _ _),
    List.nil_append, Nat.add_sub_cancel_left]⟩

theorem splitFirst?_separator?_eq_none_iff :
    Text.splitFirst? separator? cs = none ↔ ∀ place, ¬ SeparatorAt cs place := by
  rw [Text.splitFirst?_eq_none_iff_drop]
  constructor
  · exact fun h place hat => separator?_drop_eq_none_iff.1 (h place hat.lt_length) hat
  · exact fun h place _ => separator?_drop_eq_none_iff.2 (h place)

theorem splitFirst?_separator?_eq_some_iff {before : List Char} :
    Text.splitFirst? separator? cs = some (before, next, rest) ↔
      ∃ sep, Text.lowerAscii sep = next.separator ∧ cs = before ++ (sep ++ rest) ∧
        ∀ place < before.length, ¬ SeparatorAt cs place := by
  rw [Text.splitFirst?_eq_some_iff_drop]
  simp only [separator?_drop_eq_none_iff]
  constructor
  · rintro ⟨tail, rfl, -, hstrip, hnone⟩
    obtain ⟨sep, hsep, rfl⟩ := separator?_eq_some_iff.1 hstrip
    exact ⟨sep, hsep, rfl, hnone⟩
  · rintro ⟨sep, hsep, rfl, hnone⟩
    have hstrip : separator? (sep ++ rest) = some (next, rest) :=
      separator?_eq_some_iff.2 ⟨sep, hsep, rfl⟩
    refine ⟨sep ++ rest, rfl, ?_, hstrip, hnone⟩
    intro hnil
    rw [hnil] at hstrip
    cases hstrip

/-! ## Columns -/

/-- The columns of a text cut at the leftmost separator, again and again behind the cut. Each has
the connector of the separator before it, the first one the connector given. -/
inductive Splits : Connector → List Char → List (Linked String) → Prop
  | whole {c : Connector} {column : String} (hnone : ∀ place, ¬ SeparatorAt column.toList place) :
    Splits c column.toList [⟨c, column⟩]
  | cut {c next : Connector} {column : String} {sep rest : List Char}
    {columns : List (Linked String)} (hsep : Text.lowerAscii sep = next.separator)
    (hnone : ∀ place < column.length, ¬ SeparatorAt (column.toList ++ (sep ++ rest)) place)
    (hrest : Splits next rest columns) :
    Splits c (column.toList ++ (sep ++ rest)) (⟨c, column⟩ :: columns)

/-- Whether a text is these columns with separators between them, each separator in some spelling
that of the connector of the column after it. -/
inductive Spells : List (Linked String) → List Char → Prop
  | single (l : Linked String) : Spells [l] l.item.toList
  | cons {l next : Linked String} {columns : List (Linked String)} {sep rest : List Char}
    (hsep : Text.lowerAscii sep = next.connector.separator)
    (hrest : Spells (next :: columns) rest) :
    Spells (l :: next :: columns) (l.item.toList ++ (sep ++ rest))

/-- Where the separators between columns begin in a text that the columns spell. -/
def separatorPlaces : List (Linked String) → List Nat
  | [] => []
  | [_] => []
  | l :: next :: columns =>
    l.item.length ::
      (separatorPlaces (next :: columns)).map (l.item.length + next.connector.separator.length + ·)

/-- The rest of a finder name behind `where_` in some spelling. -/
def FinderName (name : String) (rest : List Char) : Prop :=
  ∃ word, Text.lowerAscii word = "where_".toList ∧ name.toList = word ++ rest

variable {columns : List (Linked String)}

theorem finderColumns_of_eq_none (h : Text.splitFirst? separator? cs = none) :
    finderColumns c cs = [⟨c, cs⟩] := by
  unfold finderColumns
  split
  · rfl
  · next h' => cases h.symm.trans h'

theorem finderColumns_of_eq_some {column : List Char}
    (h : Text.splitFirst? separator? cs = some (column, next, rest)) :
    finderColumns c cs = ⟨c, column⟩ :: finderColumns next rest := by
  rw [finderColumns]
  split
  · next h' => cases h.symm.trans h'
  · next h' =>
    cases h.symm.trans h'
    rfl

theorem splits_finderColumns (c : Connector) (cs : List Char) :
    Splits c cs ((finderColumns c cs).map fun l => ⟨l.connector, String.ofList l.item⟩) := by
  induction c, cs using finderColumns.induct with
  | case1 c cs h =>
    rw [finderColumns_of_eq_none h]
    have hwhole := @Splits.whole c (String.ofList cs)
    rw [String.toList_ofList] at hwhole
    exact hwhole (splitFirst?_separator?_eq_none_iff.1 h)
  | case2 c cs column next rest h _ ih =>
    rw [finderColumns_of_eq_some h]
    obtain ⟨sep, hsep, rfl, hnone⟩ := splitFirst?_separator?_eq_some_iff.1 h
    have hcut := fun hnone => @Splits.cut c next (String.ofList column) sep rest _ hsep hnone ih
    rw [String.toList_ofList, String.length_ofList] at hcut
    exact hcut hnone

/-- A text has only one cut into columns. -/
theorem Splits.eq_finderColumns (h : Splits c cs columns) :
    (finderColumns c cs).map (fun l => ⟨l.connector, String.ofList l.item⟩) = columns := by
  induction h with
  | whole hnone =>
    rw [finderColumns_of_eq_none (splitFirst?_separator?_eq_none_iff.2 hnone), List.map_singleton,
      String.ofList_toList]
  | cut hsep hnone _ ih =>
    have hcut := splitFirst?_separator?_eq_some_iff.2 ⟨_, hsep, rfl, hnone⟩
    rw [finderColumns_of_eq_some hcut, List.map_cons, ih, String.ofList_toList]

theorem Splits.head (h : Splits c cs columns) :
    columns.head?.map (·.connector) = some c := by
  cases h <;> rfl

/-- Nothing is lost in the cut. -/
theorem Splits.spells (h : Splits c cs columns) : Spells columns cs := by
  induction h with
  | whole => exact .single _
  | cut hsep hnone hrest ih =>
    cases hrest with
    | whole => exact .cons hsep ih
    | cut => exact .cons hsep ih

theorem Splits.not_separatorAt (h : Splits c cs columns) :
    ∀ l ∈ columns, ∀ place, ¬ SeparatorAt l.item.toList place := by
  induction h with
  | whole hnone => exact List.forall_mem_singleton.2 hnone
  | cut hsep hnone _ ih =>
    refine List.forall_mem_cons.2 ⟨fun place hat => ?_, ih⟩
    exact hnone place hat.lt_length (hat.append _)

theorem Spells.splits (h : Spells columns cs) (hc : columns.head?.map (·.connector) = some c)
    (honly : ∀ place, SeparatorAt cs place → place ∈ separatorPlaces columns) :
    Splits c cs columns := by
  induction h generalizing c with
  | single l =>
    obtain rfl : l.connector = c := Option.some.inj hc
    exact .whole fun place hat => List.not_mem_nil (honly place hat)
  | @cons l next columns sep rest hsep hrest ih =>
    obtain rfl : l.connector = c := Option.some.inj hc
    refine .cut hsep (fun place hlt hat => ?_) (ih rfl fun place hat => ?_)
    · rcases List.mem_cons.1 (honly place hat) with rfl | hmem
      · exact absurd hlt (Nat.lt_irrefl _)
      · obtain ⟨later, -, rfl⟩ := List.mem_map.1 hmem
        omega
    · have hlength := Text.length_of_lowerAscii hsep
      have hpos := List.length_pos_iff.2 next.connector.separator_ne_nil
      have hat' := (hat.of_append sep).of_append l.item.toList
      rcases List.mem_cons.1 (honly _ hat') with heq | hmem
      · rw [String.length_toList] at heq
        omega
      · obtain ⟨later, hlater, heq⟩ := List.mem_map.1 hmem
        rw [String.length_toList] at heq
        obtain rfl : later = place := by omega
        exact hlater

/-! ## Finders -/

/-- No aggregate function is called like a finder. -/
theorem AggregateFunction.parse?_eq_none {name : String} (h : FinderName name rest) :
    AggregateFunction.parse? name = none := by
  obtain ⟨word, hword, hname⟩ := h
  refine List.find?_eq_none.2 fun f _ => ?_
  rw [hname, Text.lowerAscii_append, hword, decide_eq_true_eq]
  cases f <;> rintro ⟨⟩

/-- A finder name is rejected for an empty column alone. -/
theorem Method.parse_eq_of_splits {name : String} (hname : FinderName name rest)
    (hsplits : Splits .and rest columns) :
    Method.parse name =
      if ∃ l ∈ columns, l.item = "" then .error (.undefinedMethod name)
      else .ok (.finder columns) := by
  have hstrip : Text.stripWord? "where_".toList name.toList = some rest :=
    Text.stripWord?_eq_some_iff.2 hname
  obtain rfl := hsplits.eq_finderColumns
  rw [Method.parse, AggregateFunction.parse?_eq_none hname, hstrip]
  simp [String.ofList_eq_empty_iff]

theorem Method.exists_finderName {name : String}
    (h : Method.parse name = .ok (.finder columns)) : ∃ rest, FinderName name rest := by
  rw [Method.parse] at h
  cases hagg : AggregateFunction.parse? name with
  | some f =>
    rw [hagg] at h
    cases h
  | none =>
    cases hstrip : Text.stripWord? "where_".toList name.toList with
    | none =>
      rw [hagg, hstrip] at h
      cases h
    | some rest => exact ⟨rest, Text.stripWord?_eq_some_iff.1 hstrip⟩

theorem Method.parse_eq_ok_finder_iff {name : String} :
    Method.parse name = .ok (.finder columns) ↔
      ∃ rest, FinderName name rest ∧ Splits .and rest columns ∧ ∀ l ∈ columns, l.item ≠ "" := by
  constructor
  · intro h
    obtain ⟨rest, hname⟩ := Method.exists_finderName h
    have hsplits := splits_finderColumns .and rest
    rw [Method.parse_eq_of_splits hname hsplits] at h
    split at h
    · cases h
    · next hitems =>
      cases h
      exact ⟨rest, hname, hsplits, fun l hl hempty => hitems ⟨l, hl, hempty⟩⟩
  · rintro ⟨rest, hname, hsplits, hitems⟩
    rw [Method.parse_eq_of_splits hname hsplits, if_neg]
    exact fun ⟨l, hl, hempty⟩ => hitems l hl hempty

/-- An equality for each column, as steps. -/
def equalities (columns : List (Linked String)) (values : List Value) : List Step :=
  List.zipWith (fun l v => .compare l.connector ⟨l.item, .eq, v⟩) columns values

theorem applyAll_equalities (columns : List (Linked String)) (values : List Value) (q : Query) :
    Step.applyAll (equalities columns values) q =
      .ok ((columns.zip values).foldl (fun q (l, v) => q.whereEq l.connector l.item v) q) := by
  induction columns generalizing values q with
  | nil => rfl
  | cons l columns ih =>
    cases values with
    | nil => rfl
    | cons v values => exact ih values _

theorem Query.addFinder_eq {name : String} {values : List Value} (q : Query)
    (h : Method.parse name = .ok (.finder columns)) (hvalues : values.length = columns.length) :
    q.addFinder name values = Step.applyAll (equalities columns values) q := by
  rw [applyAll_equalities, Query.addFinder, h]
  exact if_neg (not_not.2 hvalues.symm)

/-- Method names are read and written back without loss, and a finder does what its equalities do
one after the other. -/
theorem Method.parse_finder_iff (name : String) (columns : List (Linked String)) :
    (Method.parse name = .ok (.finder columns) ↔
      ∃ rest, FinderName name rest ∧ Splits .and rest columns ∧ ∀ l ∈ columns, l.item ≠ "") ∧
    (Method.parse name = .ok (.finder columns) →
      (∃ rest, FinderName name rest ∧ Spells columns rest) ∧
      columns.head?.map (·.connector) = some .and ∧
      (∀ l ∈ columns, ∀ place, ¬ SeparatorAt l.item.toList place) ∧
      ∀ (q : Query) (values : List Value), values.length = columns.length →
        q.addFinder name values = Step.applyAll (equalities columns values) q) ∧
    ∀ rest, FinderName name rest → Spells columns rest →
      columns.head?.map (·.connector) = some .and → (∀ l ∈ columns, l.item ≠ "") →
      (∀ place, SeparatorAt rest place → place ∈ separatorPlaces columns) →
      Method.parse name = .ok (.finder columns) := by
  refine ⟨Method.parse_eq_ok_finder_iff, fun h => ?_, ?_⟩
  · obtain ⟨rest, hname, hsplits, -⟩ := Method.parse_eq_ok_finder_iff.1 h
    exact ⟨⟨rest, hname, hsplits.spells⟩, hsplits.head, hsplits.not_separatorAt,
      fun q _ => Query.addFinder_eq q h⟩
  · intro rest hname hspells hhead hitems honly
    exact Method.parse_eq_ok_finder_iff.2 ⟨rest, hname, hspells.splits hhead honly, hitems⟩

/-- Both separators, one of them in capitals, and underscores that belong to the columns. -/
theorem Method.parse_finder_iff_first_name :
    Method.parse "where_first_name_AND_last_name_or_nick" =
      .ok (.finder [⟨.and, "first_name"⟩, ⟨.and, "last_name"⟩, ⟨.or, "nick"⟩]) := by
  have hspells : Spells [⟨.and, "first_name"⟩, ⟨.and, "last_name"⟩, ⟨.or, "nick"⟩]
      "first_name_AND_last_name_or_nick".toList :=
    @Spells.cons _ _ _ "_AND_".toList _ rfl (@Spells.cons _ _ _ "_or_".toList _ rfl (.single _))
  refine (Method.parse_finder_iff _ _).2.2 _ ⟨"where_".toList, rfl, rfl⟩ hspells rfl (by decide) ?_
  intro place hat
  have hplaces : ∀ place < 32, place ∉ [10, 24] →
      separator? ("first_name_AND_last_name_or_nick".toList.drop place) = none := by decide
  by_contra hnot
  exact separator?_drop_eq_none_iff.1 (hplaces place hat.lt_length hnot) hat

end SqlBuilder
