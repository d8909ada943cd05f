import Mathlib.Data.List.Basic
import SqlBuilder.Schema.MySql
import SqlBuilder.Schema.Postgres

/-!
# Implied commands

The first build of a blueprint adds the commands that its columns imply, in whatever dialect it is
and whether it fails or not. Building once more adds nothing, so a blueprint can be built in one
dialect after the other, each time with the result of a fresh copy (`Ddl.implied_of_buildAll`).
-/

namespace SqlBuilder.Schema

/-- A blueprint built in one dialect after the other: the results, and the blueprint after. -/
def Ddl.buildAll : List Ddl → Blueprint → List (Except Error (List String)) × Blueprint
  | [], b => ([], b)
  | g :: gs, b =>
    let built := g.build b
    let rest := buildAll gs built.2
    (built.1 :: rest.1, rest.2)

namespace Blueprint

variable {b : Blueprint}

theorem completed_step (b : Blueprint) (s : Step) : (b.step s).completed = b.completed := by
  cases s <;> rfl

/-- What steps describe was never built. -/
theorem completed_ofSteps (name : String) (steps : List Step) :
    (ofSteps name steps).completed = false := by
  suffices h : ∀ b : Blueprint, (b.stepAll steps).completed = b.completed from h (ofTable name)
  unfold stepAll
  induction steps with
  | nil => intro b; rfl
  | cons s ss ih => intro b; exact (ih (b.step s)).trans (completed_step b s)

theorem createsTable_iff : b.createsTable = true ↔ .create ∈ b.commands :=
  List.contains_iff_mem

/-- The columns of a table that is not created here are added, before anything else. -/
theorem impliedBefore_eq (b : Blueprint) :
    b.impliedBefore = if b.columns ≠ [] ∧ .create ∉ b.commands then [.add] else [] := by
  unfold impliedBefore
  by_cases h : b.columns ≠ [] ∧ .create ∉ b.commands
  · rw [if_pos h, if_pos]
    simpa [← createsTable_iff] using h
  · rw [if_neg h, if_neg]
    simpa [← createsTable_iff] using h

/-- Every index asked for with a column is one on that column. -/
theorem impliedAfter_eq (b : Blueprint) :
    b.impliedAfter = b.columns.flatMap fun c => c.indexes.map fun i =>
      .index ⟨i.kind, i.name.getD (defaultName b.name [c.name] i.kind.name), [c.name],
        none, none⟩ :=
  rfl

theorem complete_eq (hb : b.completed = false) :
    b.complete =
      { b with
        commands := b.impliedBefore ++ b.commands ++ b.impliedAfter
        completed := true } := by
  rw [complete, hb, if_neg Bool.false_ne_true]

theorem mem_commands_complete {c : Command} (h : c ∈ b.commands) : c ∈ b.complete.commands := by
  unfold complete
  split
  · exact h
  · exact List.mem_append_left _ (List.mem_append_right _ h)

end Blueprint

namespace Ddl

theorem buildAll_cons_snd (g : Ddl) (gs : List Ddl) (b : Blueprint) :
    (buildAll (g :: gs) b).2 = (buildAll gs b.complete).2 :=
  rfl

/-- The blueprint after one or more builds is the completed one. -/
theorem buildAll_blueprint (g : Ddl) (gs : List Ddl) (b : Blueprint) :
    (buildAll (g :: gs) b).2 = b.complete := by
  induction gs generalizing g b with
  | nil => rfl
  | cons h gs ih =>
    calc (buildAll (g :: h :: gs) b).2
      _ = (buildAll (h :: gs) b.complete).2 := buildAll_cons_snd g (h :: gs) b
      _ = b.complete.complete := ih h b.complete
      _ = b.complete := Blueprint.complete_complete b

/-- No build has an influence on the results of the builds after it. -/
theorem buildAll_results (gs : List Ddl) (b : Blueprint) :
    (buildAll gs b).1 = gs.map fun g => (g.build b).1 := by
  induction gs generalizing b with
  | nil => rfl
  | cons g gs ih =>
    have hrest : (buildAll gs (g.build b).2).1 = gs.map fun h => (h.build b).1 := by
      rw [ih]
      exact List.map_congr_left fun h _ => congrArg Prod.fst (build_build h g b)
    exact congrArg ((g.build b).1 :: ·) hrest

/-- A blueprint that was never built, after one or more builds: its own commands, in front of them
one that adds the columns unless there are none or the table is created with them, behind them one
for each index asked for with a column; and each build had the result of a fresh copy. -/
theorem implied_of_buildAll {b : Blueprint} (hb : b.completed = false) (g : Ddl) (gs : List Ddl) :
    (buildAll (g :: gs) b).2.commands =
        (if b.columns ≠ [] ∧ .create ∉ b.commands then [.add] else []) ++ b.commands ++
          (b.columns.flatMap fun c => c.indexes.map fun i =>
            .index ⟨i.kind, i.name.getD (defaultName b.name [c.name] i.kind.name), [c.name],
              none, none⟩) ∧
      (buildAll (g :: gs) b).2.columns = b.columns ∧
      (buildAll (g :: gs) b).1 = (g :: gs).map fun h => (h.build b).1 := by
  refine ⟨?_, ?_, buildAll_results (g :: gs) b⟩
  · rw [buildAll_blueprint, Blueprint.complete_eq hb, ← Blueprint.impliedBefore_eq,
      ← Blueprint.impliedAfter_eq]
  · rw [buildAll_blueprint, Blueprint.complete_eq hb]

/-- A table with indexes of all sorts asked for, and a command that one dialect does not have. -/
def usersBlueprint : Blueprint :=
  .ofSteps "app.Users"
    [.column "e-mail" (.string 200) [.index .unique, .indexedAs "login", .index .fulltext],
      .command (.dropIndexIfExists "old"), .column "id" .integer [.index .primary]]

/-- The first and the last build fail, the one between succeeds. -/
theorem implied_of_buildAll_users :
    usersBlueprint.completed = false ∧
      (buildAll [MySql.ddl "", Postgres.ddl "p_", MySql.ddl ""] usersBlueprint).2.commands =
        [.add, .dropIndexIfExists "old", .index ⟨.unique, "login", ["e-mail"], none, none⟩,
          .index ⟨.fulltext, "app_users_e_mail_fulltext", ["e-mail"], none, none⟩,
          .index ⟨.primary, "app_users_id_primary", ["id"], none, none⟩] ∧
      (buildAll [MySql.ddl "", Postgres.ddl "p_", MySql.ddl ""] usersBlueprint).1 =
        [((MySql.ddl "").build usersBlueprint).1, ((Postgres.ddl "p_").build usersBlueprint).1,
          ((MySql.ddl "").build usersBlueprint).1] ∧
      ((MySql.ddl "").build usersBlueprint).1.isOk = false ∧
      ((Postgres.ddl "p_").build usersBlueprint).1.isOk = true := by
  have hb : usersBlueprint.completed = false := Blueprint.completed_ofSteps _ _
  obtain ⟨hcommands, -, hresults⟩ :=
    implied_of_buildAll hb (MySql.ddl "") [Postgres.ddl "p_", MySql.ddl ""]
  refine ⟨hb, hcommands.trans ?_, hresults, ?_, ?_⟩ <;> decide +kernel

end Ddl

end SqlBuilder.Schema
