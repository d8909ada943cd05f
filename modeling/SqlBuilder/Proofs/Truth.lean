import SqlBuilder.Proofs.Pieces
import SqlBuilder.Query.Select

/-!
# Reading a WHERE list

What a database makes of a WHERE list for a row, in the three truth values of SQL. AND binds tighter
than OR, and a group is read by itself (`Linked.truth`). So a chain falls apart at an OR
(`Linked.truth_append_or`).

A predicate that is not a group, a verbatim one included, has whatever truth the row gives it at its
place. A place is the number of the predicate in its chain, then that of the group around it in the
chain of the group, and so on outwards.
-/

namespace SqlBuilder

/-- The truth values of SQL. -/
inductive Truth where
  | yes
  | no
  | unknown
  deriving DecidableEq

namespace Truth

def and : Truth → Truth → Truth
  | .no, _ => .no
  | _, .no => .no
  | .yes, .yes => .yes
  | _, _ => .unknown

def or : Truth → Truth → Truth
  | .yes, _ => .yes
  | _, .yes => .yes
  | .no, .no => .no
  | _, _ => .unknown

theorem and_eq_yes {a b : Truth} : a.and b = .yes ↔ a = .yes ∧ b = .yes := by
  cases a <;> cases b <;> decide

theorem or_eq_yes {a b : Truth} : a.or b = .yes ↔ a = .yes ∨ b = .yes := by
  cases a <;> cases b <;> decide

theorem or_assoc (a b c : Truth) : (a.or b).or c = a.or (b.or c) := by
  cases a <;> cases b <;> cases c <;> rfl

end Truth

namespace Linked

/-- The truth of what is left of a chain behind conditions that are joined by AND. -/
def truthAfter (current : Truth) : List (Linked Truth) → Truth
  | [] => current
  | ⟨.and, x⟩ :: rest => truthAfter (current.and x) rest
  | ⟨.or, x⟩ :: rest => current.or (truthAfter x rest)

/-- The truth of a chain of conditions. -/
def truth : List (Linked Truth) → Truth
  | [] => .yes
  | first :: rest => truthAfter first.item rest

theorem truthAfter_append_or (current : Truth) (ls rest : List (Linked Truth)) (x : Truth) :
    truthAfter current (ls ++ ⟨.or, x⟩ :: rest) =
      (truthAfter current ls).or (truthAfter x rest) := by
  induction ls generalizing current with
  | nil => rfl
  | cons l ls ih =>
    obtain ⟨connector, y⟩ := l
    cases connector with
    | and => exact ih (current.and y)
    | or =>
      have htail := ih y
      simp only [List.cons_append, truthAfter, htail, Truth.or_assoc]

/-- An OR joins the truth of what is before it to the truth of what is behind it. -/
theorem truth_append_or {ls : List (Linked Truth)} (h : ls ≠ []) (x : Truth)
    (rest : List (Linked Truth)) :
    truth (ls ++ ⟨.or, x⟩ :: rest) = (truth ls).or (truth (⟨.or, x⟩ :: rest)) := by
  cases ls with
  | nil => exact absurd rfl h
  | cons first ls => exact truthAfter_append_or first.item ls rest x

theorem truthAfter_of_and {current : Truth} {ls : List (Linked Truth)}
    (h : ∀ l ∈ ls, l.connector = .and) :
    truthAfter current ls = .yes ↔ current = .yes ∧ ∀ l ∈ ls, l.item = .yes := by
  induction ls generalizing current with
  | nil => simp [truthAfter]
  | cons l ls ih =>
    obtain ⟨connector, x⟩ := l
    obtain rfl : connector = .and := h _ List.mem_cons_self
    have hrest : ∀ l ∈ ls, l.connector = .and := fun l hl => h l (List.mem_cons_of_mem _ hl)
    rw [truthAfter, ih hrest, Truth.and_eq_yes, List.forall_mem_cons, and_assoc]

/-- Conditions joined by AND hold together if each of them does. The connector of the first one
has no effect. -/
theorem truth_of_and {ls : List (Linked Truth)} (h : ∀ l ∈ ls.tail, l.connector = .and) :
    truth ls = .yes ↔ ∀ l ∈ ls, l.item = .yes := by
  cases ls with
  | nil => simp [truth]
  | cons first rest =>
    have hrest : ∀ l ∈ rest, l.connector = .and := h
    rw [truth, truthAfter_of_and hrest, List.forall_mem_cons]

theorem truth_of_before {ls : List (Linked Truth)} (hls : ls ≠ []) (h : truth ls = .yes) (x : Truth)
    (rest : List (Linked Truth)) : truth (ls ++ ⟨.or, x⟩ :: rest) = .yes := by
  rw [truth_append_or hls, Truth.or_eq_yes]
  exact Or.inl h

theorem truth_of_forall {ls : List (Linked Truth)} (h : ∀ l ∈ ls, l.item = .yes) :
    truth ls = .yes := by
  have key (rest : List (Linked Truth)) : ∀ {current : Truth}, current = .yes →
      (∀ l ∈ rest, l.item = .yes) → truthAfter current rest = .yes := by
    induction rest with
    | nil => intro current hc _; exact hc
    | cons l rest ih =>
      intro current hc hrest
      obtain ⟨connector, x⟩ := l
      have hx : x = .yes := hrest _ List.mem_cons_self
      cases connector with
      | and =>
        exact ih (Truth.and_eq_yes.2 ⟨hc, hx⟩) fun l hl => hrest l (List.mem_cons_of_mem _ hl)
      | or => exact Truth.or_eq_yes.2 (Or.inl hc)
  cases ls with
  | nil => rfl
  | cons first rest =>
    exact key rest (h first List.mem_cons_self) fun l hl => h l (List.mem_cons_of_mem _ hl)

end Linked

variable (row : List Nat → Truth)

mutual

/-- The truth of a predicate at a place. -/
def Predicate.truth : List Nat → Predicate → Truth
  | place, .group members => Linked.truth (Predicate.truths place 0 members)
  | place, _ => row place

def Predicate.linkedTruth : List Nat → Linked Predicate → Linked Truth
  | place, ⟨connector, p⟩ => ⟨connector, p.truth place⟩

/-- The truth of the predicates of a chain inside a place, the first of which has a number. -/
def Predicate.truths : List Nat → Nat → List (Linked Predicate) → List (Linked Truth)
  | _, _, [] => []
  | place, i, p :: ps =>
    Predicate.linkedTruth (i :: place) p :: Predicate.truths place (i + 1) ps

end

/-- The truth of the WHERE list of a query. -/
def Query.truth (q : Query) : Truth :=
  Linked.truth (Predicate.truths row [] 0 q.wheres)

namespace Predicate

theorem connector_linkedTruth (place : List Nat) (l : Linked Predicate) :
    (linkedTruth row place l).connector = l.connector := by
  cases l
  rfl

theorem truths_append (place : List Nat) (i : Nat) (ps qs : List (Linked Predicate)) :
    truths row place i (ps ++ qs) =
      truths row place i ps ++ truths row place (i + ps.length) qs := by
  induction ps generalizing i with
  | nil => rfl
  | cons p ps ih =>
    have hnext : i + 1 + ps.length = i + (p :: ps).length := by
      rw [List.length_cons]
      omega
    rw [List.cons_append, truths, ih, hnext]
    rfl

/-- A chain keeps its connectors. -/
theorem connectors_truths (place : List Nat) (i : Nat) (ps : List (Linked Predicate)) :
    (truths row place i ps).map (·.connector) = ps.map (·.connector) := by
  induction ps generalizing i with
  | nil => rfl
  | cons p ps ih => rw [truths, List.map_cons, List.map_cons, ih, connector_linkedTruth]

/-- A chain of ANDs stays one. -/
theorem and_of_mem_tail_truths {ps : List (Linked Predicate)}
    (h : ∀ l ∈ ps.tail, l.connector = .and) (place : List Nat) (i : Nat) :
    ∀ l ∈ (truths row place i ps).tail, l.connector = .and := by
  intro l hl
  have hmem : l.connector ∈ ((truths row place i ps).map (·.connector)).tail := by
    rw [← List.map_tail]
    exact List.mem_map_of_mem hl
  rw [connectors_truths, ← List.map_tail] at hmem
  obtain ⟨p, hp, he⟩ := List.mem_map.1 hmem
  exact he ▸ h p hp

end Predicate

variable {row}

mutual

/-- Where the row makes everything inside a place true, the predicate at the place is true. -/
theorem Predicate.truth_of_forall : ∀ (p : Predicate) {place : List Nat},
    (∀ inner, row (inner ++ place) = .yes) → p.truth row place = .yes
  | .group members, place, h => by
    simp only [Predicate.truth]
    exact Linked.truth_of_forall
      (Predicate.truths_of_forall members fun inner j _ _ => h (inner ++ [j]))
  | .comparison _, _, h => h []
  | .member _ _ _, _, h => h []
  | .between _ _ _ _, _, h => h []
  | .null _ _, _, h => h []
  | .raw _ _, _, h => h []
  | .memberOf _ _ _, _, h => h []
  | .present _ _, _, h => h []

theorem Predicate.linkedTruth_of_forall : ∀ (l : Linked Predicate) {place : List Nat},
    (∀ inner, row (inner ++ place) = .yes) → (Predicate.linkedTruth row place l).item = .yes
  | ⟨_, p⟩, _, h => Predicate.truth_of_forall p h

theorem Predicate.truths_of_forall : ∀ (ps : List (Linked Predicate)) {place : List Nat} {i : Nat},
    (∀ inner j, i ≤ j → j < i + ps.length → row (inner ++ [j] ++ place) = .yes) →
      ∀ l ∈ Predicate.truths row place i ps, l.item = .yes
  | [], _, _, _ => by
    intro l hl
    cases hl
  | p :: ps, place, i, h => by
    intro l hl
    rw [List.length_cons] at h
    rcases List.mem_cons.1 hl with rfl | hl
    · refine Predicate.linkedTruth_of_forall p fun inner => ?_
      have hplace := h inner i (Nat.le_refl i) (by omega)
      rwa [List.append_assoc, List.singleton_append] at hplace
    · refine Predicate.truths_of_forall ps (fun inner j hj hlt => ?_) l hl
      exact h inner j (by omega) (by omega)

end

end SqlBuilder
