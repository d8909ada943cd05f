/-!
# Errors

What can go wrong, by cause. `Error.message` is the one place where an error gets its wording.
-/

namespace SqlBuilder

/-- Why a request has no meaning as a statement. -/
inductive Fault where
  /-- An insert without rows or without columns. -/
  | emptyInsert
  | emptyUpdate
  /-- A further inserted row has another number of columns than the first. -/
  | unevenRows
  /-- A further inserted row lacks a column of the first. -/
  | missingColumn (column : String)
  /-- A finder name with a number of columns other than the number of values. -/
  | parameterCount (method : String) (expected given : Nat)
  /-- The row after the offset has no number. -/
  | offsetRange (offset : UInt64)
  /-- The last row of the window has no number. -/
  | windowRange (offset limit : UInt64)
  /-- A blueprint bound to another connection than the one it is run on. -/
  | otherConnection (table bound actual : String)
  | noReferencedTable (key : String)
  | noReferencedColumns (key : String)
  /-- A full-text index without the unique key index it needs. -/
  | noKeyIndex (index : String)
  /-- A primary key to drop without its constraint name. -/
  | unnamedPrimary
  /-- A cause known by its wording alone. -/
  | other (reason : String)
  deriving DecidableEq

def Fault.reason : Fault → String
  | .emptyInsert => "INSERT requires at least one value"
  | .emptyUpdate => "UPDATE requires at least one column"
  | .unevenRows => "every inserted row must have the same columns"
  | .missingColumn column => "inserted row is missing column '" ++ column ++ "'"
  | .parameterCount method expected given =>
    method ++ " expects " ++ toString expected ++ " parameters, got " ++ toString given
  | .offsetRange offset => "offset " ++ toString offset.toNat ++ " is out of range"
  | .windowRange offset limit =>
    "offset " ++ toString offset.toNat ++ " with limit " ++ toString limit.toNat
      ++ " is out of range"
  | .otherConnection table bound actual =>
    "Table [" ++ table ++ "] belongs to connection [" ++ bound ++ "], not [" ++ actual ++ "]"
  | .noReferencedTable key => "Foreign key [" ++ key ++ "] has no referenced table"
  | .noReferencedColumns key => "Foreign key [" ++ key ++ "] has no referenced columns"
  | .noKeyIndex index =>
    "Full-text index [" ++ index ++ "] needs the name of a unique key index"
  | .unnamedPrimary => "Dropping a primary key needs its constraint name"
  | .other reason => reason

/-- What can go wrong in building, compiling or running a statement. -/
inductive Error where
  /-- A statement could not be made or was refused. -/
  | sqlGeneration (reason : String)
  /-- A request that has no meaning as a statement. -/
  | invalidQuery (fault : Fault)
  /-- A result row lacks a column that was asked for. -/
  | columnNotFound (table column : String)
  /-- A dialect cannot express an operation; the hint tells what to do instead. -/
  | unsupported (dialect operation : String) (hint : Option String)
  /-- A driver name without schema statements. -/
  | unsupportedDriver (driver : String)
  /-- A method name that stands for nothing. -/
  | undefinedMethod (method : String)
  /-- Data does not have the shape asked for. -/
  | serialization
  deriving DecidableEq

def Error.message : Error → String
  | .sqlGeneration reason => "SQL generation error: " ++ reason
  | .invalidQuery fault => "Invalid query: " ++ fault.reason
  | .columnNotFound table column =>
    "Column '" ++ column ++ "' not found in results from table '" ++ table ++ "'"
  | .unsupported dialect operation hint =>
    "The " ++ dialect ++ " grammar does not support " ++ operation
      ++ (hint.map ("; " ++ ·)).getD ""
  | .unsupportedDriver driver => "Schema operations not supported for driver [" ++ driver ++ "]"
  | .undefinedMethod method => "Method [" ++ method ++ "] is not defined on the query builder"
  | .serialization => "Serialization error"

/-- One computation behind another succeeds exactly if both do. -/
theorem bind_eq_ok {α β : Type} {x : Except Error α} {f : α → Except Error β} {b : β} :
    (x >>= f) = .ok b ↔ ∃ a, x = .ok a ∧ f a = .ok b := by
  cases x with
  | error e =>
    refine ⟨fun h => ?_, fun ⟨a, ha, _⟩ => ?_⟩
    · cases h
    · cases ha
  | ok a =>
    refine ⟨fun h => ⟨a, rfl, h⟩, fun ⟨a', ha, h⟩ => ?_⟩
    cases ha
    exact h

/-- Of two computations, one behind the other, the first fails or the second. -/
theorem bind_eq_error {α β : Type} {x : Except Error α} {f : α → Except Error β} {e : Error} :
    (x >>= f) = .error e ↔ x = .error e ∨ ∃ a, x = .ok a ∧ f a = .error e := by
  cases x with
  | error e' =>
    refine ⟨fun h => Or.inl (by cases h; rfl), ?_⟩
    rintro (h | ⟨a, ha, -⟩)
    · cases h
      rfl
    · cases ha
  | ok a =>
    refine ⟨fun h => Or.inr ⟨a, rfl, h⟩, ?_⟩
    rintro (h | ⟨a', ha, h⟩)
    · cases h
    · cases ha
      exact h

/-- Computations one after the other succeed exactly if each of them does. -/
theorem mapM_eq_ok_iff {α β : Type} {f : α → Except Error β} {xs : List α} {ys : List β} :
    xs.mapM f = .ok ys ↔ xs.map f = ys.map .ok := by
  induction xs generalizing ys with
  | nil =>
    cases ys with
    | nil => exact iff_of_true rfl rfl
    | cons y ys => exact iff_of_false (fun h => nomatch h) (fun h => nomatch h)
  | cons x xs ih =>
    rw [List.mapM_cons, bind_eq_ok]
    constructor
    · rintro ⟨y, hy, h⟩
      obtain ⟨rest, hrest, h⟩ := bind_eq_ok.1 h
      cases h
      rw [List.map_cons, List.map_cons, hy, ih.1 hrest]
    · intro h
      cases ys with
      | nil => cases h
      | cons y ys =>
        obtain ⟨hy, hrest⟩ := List.cons.inj h
        exact ⟨y, hy, bind_eq_ok.2 ⟨ys, ih.2 hrest, rfl⟩⟩

theorem exists_mapM_iff {α β : Type} {f : α → Except Error β} {xs : List α} :
    (∃ ys, xs.mapM f = .ok ys) ↔ ∀ x ∈ xs, ∃ y, f x = .ok y := by
  simp only [mapM_eq_ok_iff]
  induction xs with
  | nil => exact iff_of_true ⟨[], rfl⟩ fun x hx => absurd hx List.not_mem_nil
  | cons x xs ih =>
    rw [List.forall_mem_cons, ← ih]
    constructor
    · rintro ⟨ys, h⟩
      cases ys with
      | nil => cases h
      | cons y ys => exact ⟨⟨y, (List.cons.inj h).1⟩, ys, (List.cons.inj h).2⟩
    · rintro ⟨⟨y, hy⟩, ys, hys⟩
      exact ⟨y :: ys, by rw [List.map_cons, List.map_cons, hy, hys]⟩

theorem exists_of_isOk_bind {α β : Type} {x : Except Error α} {f : α → Except Error β}
    (h : (x >>= f).isOk) : ∃ a b, x = .ok a ∧ f a = .ok b := by
  cases hb : x >>= f with
  | error e =>
    rw [hb] at h
    cases h
  | ok b =>
    obtain ⟨a, ha, hf⟩ := bind_eq_ok.1 hb
    exact ⟨a, b, ha, hf⟩

end SqlBuilder
