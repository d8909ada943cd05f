import SqlBuilder.Error
import SqlBuilder.Query.Basic

/-!
# Method names

A method name such as `where_email_or_name` stands for a chain of equalities, one for each column
between the separators `_and_` and `_or_`; the name of an aggregate function stands for the
function. Letters count in any case, and the columns are kept as written.
-/

namespace SqlBuilder

/-- A separator at the front of a text: the connector it stands for and what follows it. -/
def separator? (cs : List Char) : Option (Connector × List Char) :=
  match Text.stripWord? "_and_".toList cs with
  | some rest => some (.and, rest)
  | none => (Text.stripWord? "_or_".toList cs).map fun rest => (.or, rest)

theorem length_lt_of_separator? {cs rest : List Char} {c : Connector}
    (h : separator? cs = some (c, rest)) : rest.length < cs.length := by
  unfold separator? at h
  split at h
  next r hr =>
    obtain ⟨-, rfl⟩ := Prod.mk.inj (Option.some.inj h)
    rw [Text.length_of_stripWord? hr]
    simp
  next =>
    obtain ⟨r, hr, he⟩ := Option.map_eq_some_iff.1 h
    obtain ⟨-, rfl⟩ := Prod.mk.inj he
    rw [Text.length_of_stripWord? hr]
    simp

theorem length_lt_of_splitFirst? {cs before rest : List Char} {c : Connector}
    (h : Text.splitFirst? separator? cs = some (before, c, rest)) : rest.length < cs.length := by
  induction cs generalizing before with
  | nil => simp [Text.splitFirst?] at h
  | cons x xs ih =>
    simp only [Text.splitFirst?] at h
    split at h
    next r hr =>
      obtain ⟨-, rfl⟩ := Prod.mk.inj (Option.some.inj h)
      exact length_lt_of_separator? hr
    next =>
      obtain ⟨⟨b, r⟩, hr, he⟩ := Option.map_eq_some_iff.1 h
      obtain ⟨-, rfl⟩ := Prod.mk.inj he
      exact Nat.lt_succ_of_lt (ih hr)

/-- The columns of a finder, cut at the leftmost separator, again and again; each has the connector
that precedes it, the first one the connector given. -/
def finderColumns (connector : Connector) (cs : List Char) : List (Linked (List Char)) :=
  match h : Text.splitFirst? separator? cs with
  | none => [⟨connector, cs⟩]
  | some (column, next, rest) =>
    have := length_lt_of_splitFirst? h
    ⟨connector, column⟩ :: finderColumns next rest
termination_by cs.length

inductive Method where
  /-- An equality for each column. -/
  | finder (columns : List (Linked String))
  | aggregate (function : AggregateFunction)

namespace Method

/-- What a method name stands for. A finder has a name in every place between its separators. -/
def parse (name : String) : Except Error Method :=
  match AggregateFunction.parse? name with
  | some f => .ok (.aggregate f)
  | none =>
    match Text.stripWord? "where_".toList name.toList with
    | none => .error (.undefinedMethod name)
    | some rest =>
      let columns := finderColumns .and rest
      if columns.any (·.item.isEmpty) then .error (.undefinedMethod name)
      else .ok (.finder (columns.map fun l => ⟨l.connector, String.ofList l.item⟩))

end Method

namespace Query

/-- The query with an equality of a column and a value. -/
def whereEq (q : Query) (connector : Connector) (column : String) (value : Value) : Query :=
  q.addWhere connector (.comparison ⟨column, .eq, value⟩) [value]

/-- The query with the equalities of a finder, as many as there are values. -/
def addFinder (q : Query) (method : String) (values : List Value) : Except Error Query := do
  match ← Method.parse method with
  | .aggregate _ => .error (.undefinedMethod method)
  | .finder columns =>
    if columns.length ≠ values.length then
      .error (.invalidQuery (.parameterCount method columns.length values.length))
    else
      .ok ((columns.zip values).foldl (fun q (l, v) => q.whereEq l.connector l.item v) q)

end Query

end SqlBuilder
