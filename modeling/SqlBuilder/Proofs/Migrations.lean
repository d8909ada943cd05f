import Mathlib.Data.List.Basic
import SqlBuilder.Schema.Migration

/-!
# What running a blueprint sends

A blueprint is compiled as a whole before any of it is sent. It is `Refused` if it belongs to
another connection, if the driver has no schema statements, or if one of its commands, asked for or
implied, does not compile; nothing is sent then. Else its statements are sent without bindings, in
their order, up to the first that fails (`sent_cases`).
-/

namespace SqlBuilder

variable {σ : Type}

/-- The state of a connection after statements were sent for their effect, failed or not. -/
def Connection.afterAll (c : Connection σ) (sent : List LogEntry) (state : σ) : σ :=
  sent.foldl (fun state e => (c.execute e.sql e.bindings state).2) state

/-- The session after statements were sent for their effect, failed or not. -/
def Database.afterAll (db : Database σ) (sent : List LogEntry) (s : Session σ) : Session σ where
  state := db.connection.afterAll sent s.state
  log := if db.keepsLog then s.log ++ sent else s.log

theorem Database.afterAll_nil (db : Database σ) (s : Session σ) : db.afterAll [] s = s := by
  unfold afterAll
  cases db.keepsLog <;> simp [Connection.afterAll]

theorem Database.afterAll_cons (db : Database σ) (e : LogEntry) (sent : List LogEntry)
    (s : Session σ) :
    db.afterAll (e :: sent) s = db.afterAll sent (db.execute e.sql e.bindings s).2 := by
  unfold afterAll execute after
  cases db.keepsLog <;> simp [Connection.afterAll]

namespace Schema

/-- A statement of a schema has no bindings. -/
def entry (sql : String) : LogEntry :=
  ⟨sql, []⟩

/-- The answer to the statement at a place, once those before it were sent. -/
def answerAt (c : Connection σ) (sqls : List String) (state : σ) (place : Nat) :
    Option (Except Error Effect) :=
  sqls[place]?.map fun sql =>
    (c.execute sql [] (c.afterAll ((sqls.take place).map entry) state)).1

/-- No statement before a place fails. -/
def SucceedsTo (c : Connection σ) (sqls : List String) (state : σ) (place : Nat) : Prop :=
  ∀ i < place, ∃ effect, answerAt c sqls state i = some (.ok effect)

/-- The statement at a place is the first that fails. -/
structure FailsAt (c : Connection σ) (sqls : List String) (state : σ) (place : Nat)
    (e : Error) : Prop where
  fails : answerAt c sqls state place = some (.error e)
  before : SucceedsTo c sqls state place

/-- The statements that running a blueprint sends, as a session that logs keeps them. -/
def sent (db : Database σ) (b : Blueprint) (s : Session σ) : List LogEntry :=
  (run { db with keepsLog := true } b s.clearLog).2.log

/-- Why no statement of a blueprint can be sent. -/
inductive Refused (config : Config) (b : Blueprint) : Prop
  | connection {bound : String} (hb : b.connection = some bound) (hne : bound ≠ config.name)
  | driver (hd : Driver.parse? config.driver = none)
  /-- A command does not compile. It may be one that the columns imply. -/
  | command {d : Driver} {c : Command} {e : Error} (hd : Driver.parse? config.driver = some d)
      (hc : c ∈ b.complete.commands)
      (he : (Ddl.ofDriver config.tablePrefix d).compile b.complete c = .error e)

/-! ## Compiling -/

namespace Ddl

/-- Commands do not compile exactly if one of them does not. -/
theorem compileAll_eq_error_iff {g : Ddl} {b : Blueprint} {cs : List Command} :
    (∃ e, g.compileAll b cs = .error e) ↔ ∃ c ∈ cs, ∃ e, g.compile b c = .error e := by
  induction cs with
  | nil => simp [compileAll]
  | cons c cs ih =>
    rw [List.exists_mem_cons_iff, ← ih, compileAll]
    cases g.compile b c with
    | error e => exact iff_of_true ⟨e, rfl⟩ (Or.inl ⟨e, rfl⟩)
    | ok sqls =>
      cases g.compileAll b cs with
      | error e => exact iff_of_true ⟨e, rfl⟩ (Or.inr ⟨e, rfl⟩)
      | ok rest => simp [bind, Except.bind]

theorem forName_of_parse? {name : String} {d : Driver} (h : Driver.parse? name = some d)
    (tablePrefix : String) : forName name tablePrefix = .ok (ofDriver tablePrefix d) := by
  unfold forName Driver.parse
  rw [h]
  rfl

theorem forName_of_unknown {name : String} (h : Driver.parse? name = none) (tablePrefix : String) :
    forName name tablePrefix = .error (.unsupportedDriver name) := by
  unfold forName Driver.parse
  rw [h]
  rfl

end Ddl

section

variable {config : Config} {b : Blueprint} {d : Driver}

theorem statements_build_eq (hd : Driver.parse? config.driver = some d) :
    statements.build config b = ((Ddl.ofDriver config.tablePrefix d).build b).1 := by
  unfold statements.build
  rw [Ddl.forName_of_parse? hd]
  rfl

theorem statements_eq_build (h : ∀ bound, b.connection = some bound → bound = config.name) :
    statements config b = statements.build config b := by
  unfold statements
  cases hb : b.connection with
  | none => rfl
  | some bound => exact if_pos (h bound hb)

theorem exists_error_of_build {e : Error} (h : statements.build config b = .error e) :
    ∃ e, statements config b = .error e := by
  unfold statements
  cases b.connection with
  | none => exact ⟨e, h⟩
  | some bound =>
    by_cases hb : bound = config.name
    · exact ⟨e, (if_pos hb).trans h⟩
    · exact ⟨_, if_neg hb⟩

theorem exists_error_of_refused (h : Refused config b) : ∃ e, statements config b = .error e := by
  cases h with
  | connection hb hne =>
    unfold statements
    rw [hb]
    exact ⟨_, if_neg hne⟩
  | driver hd =>
    apply exists_error_of_build
    unfold statements.build
    rw [Ddl.forName_of_unknown hd]
    rfl
  | command hd hc he =>
    obtain ⟨e, herror⟩ := Ddl.compileAll_eq_error_iff.2 ⟨_, hc, _, he⟩
    exact exists_error_of_build ((statements_build_eq hd).trans herror)

/-- A blueprint that is not refused has the statements that its commands compile to. -/
theorem exists_ok_of_not_refused (h : ¬ Refused config b) : ∃ d sqls,
    Driver.parse? config.driver = some d ∧
      ((Ddl.ofDriver config.tablePrefix d).build b).1 = .ok sqls ∧
      statements config b = .ok sqls := by
  have hname : ∀ bound, b.connection = some bound → bound = config.name := by
    intro bound hb
    exact Decidable.byContradiction fun hne => h (.connection hb hne)
  cases hd : Driver.parse? config.driver with
  | none => exact absurd (.driver hd) h
  | some d =>
    cases hbuild : ((Ddl.ofDriver config.tablePrefix d).build b).1 with
    | error e =>
      obtain ⟨c, hc, e, he⟩ := Ddl.compileAll_eq_error_iff.1 ⟨e, hbuild⟩
      exact absurd (.command hd hc he) h
    | ok sqls =>
      have hstatements : statements config b = .ok sqls := by
        rw [statements_eq_build hname, statements_build_eq hd, hbuild]
      exact ⟨d, sqls, rfl, hbuild, hstatements⟩

end

/-! ## Sending -/

section

variable {c : Connection σ} {sql : String} {sqls : List String} {state : σ}

theorem succeedsTo_zero : SucceedsTo c sqls state 0 := by
  intro i hi
  exact absurd hi (Nat.not_lt_zero i)

theorem SucceedsTo.of_cons {place : Nat} (h : SucceedsTo c (sql :: sqls) state (place + 1)) :
    (∃ effect, (c.execute sql [] state).1 = .ok effect) ∧
      SucceedsTo c sqls (c.execute sql [] state).2 place := by
  constructor
  · obtain ⟨effect, he⟩ := h 0 (Nat.succ_pos place)
    exact ⟨effect, Option.some.inj he⟩
  · intro i hi
    exact h (i + 1) (Nat.succ_lt_succ hi)

/-- Either no statement fails, or one is the first that does. -/
theorem succeedsTo_or_failsAt (c : Connection σ) (sqls : List String) (state : σ) :
    SucceedsTo c sqls state sqls.length ∨ ∃ place e, FailsAt c sqls state place e := by
  have key (n : Nat) (hn : n ≤ sqls.length) :
      SucceedsTo c sqls state n ∨ ∃ place e, FailsAt c sqls state place e := by
    induction n with
    | zero => exact Or.inl succeedsTo_zero
    | succ n ih =>
      rcases ih (Nat.le_of_succ_le hn) with hbefore | hfails
      · have hsql := List.getElem?_eq_getElem (Nat.lt_of_succ_le hn)
        cases hanswer : (c.execute sqls[n] [] (c.afterAll ((sqls.take n).map entry) state)).1 with
        | error e =>
          refine Or.inr ⟨n, e, ⟨?_, hbefore⟩⟩
          rw [answerAt, hsql, ← hanswer]
          rfl
        | ok effect =>
          refine Or.inl fun i hi => ?_
          rcases Nat.lt_succ_iff_lt_or_eq.1 hi with hlt | rfl
          · exact hbefore i hlt
          · refine ⟨effect, ?_⟩
            rw [answerAt, hsql, ← hanswer]
            rfl
      · exact Or.inr hfails
  exact key sqls.length (Nat.le_refl _)

end

section

variable {db : Database σ} {sql : String} {sqls : List String} {s : Session σ}

theorem sendAll_cons_of_ok {effect : Effect} (h : (db.execute sql [] s).1 = .ok effect) :
    sendAll db (sql :: sqls) s = sendAll db sqls (db.execute sql [] s).2 := by
  rw [sendAll]
  generalize db.execute sql [] s = answered at h
  obtain ⟨answer, s'⟩ := answered
  cases h
  rfl

theorem sendAll_cons_of_error {e : Error} (h : (db.execute sql [] s).1 = .error e) :
    sendAll db (sql :: sqls) s = (.error e, (db.execute sql [] s).2) := by
  rw [sendAll]
  generalize db.execute sql [] s = answered at h
  obtain ⟨answer, s'⟩ := answered
  cases h
  rfl

/-- Statements of which none fails are all sent. -/
theorem sendAll_of_succeedsTo (db : Database σ) (s : Session σ)
    (h : SucceedsTo db.connection sqls s.state sqls.length) :
    sendAll db sqls s = (.ok (), db.afterAll (sqls.map entry) s) := by
  induction sqls generalizing s with
  | nil => rw [sendAll, List.map_nil, db.afterAll_nil]
  | cons sql sqls ih =>
    obtain ⟨⟨effect, hsql⟩, hrest⟩ := h.of_cons
    have htail := ih (db.execute sql [] s).2 hrest
    rw [sendAll_cons_of_ok hsql, htail, List.map_cons, db.afterAll_cons]
    rfl

/-- The statement that fails first is the last to be sent. -/
theorem sendAll_of_failsAt (db : Database σ) (s : Session σ) {place : Nat} {e : Error}
    (h : FailsAt db.connection sqls s.state place e) :
    sendAll db sqls s = (.error e, db.afterAll ((sqls.take (place + 1)).map entry) s) := by
  induction sqls generalizing s place with
  | nil => cases h.fails
  | cons sql sqls ih =>
    cases place with
    | zero =>
      have hsql : (db.execute sql [] s).1 = .error e := Option.some.inj h.fails
      rw [sendAll_cons_of_error hsql, List.take_succ_cons, List.take_zero, List.map_singleton,
        db.afterAll_cons, db.afterAll_nil]
      rfl
    | succ place =>
      obtain ⟨⟨effect, hsql⟩, hbefore⟩ := h.before.of_cons
      have htail := ih (db.execute sql [] s).2 ⟨h.fails, hbefore⟩
      rw [sendAll_cons_of_ok hsql, htail, List.take_succ_cons, List.map_cons, db.afterAll_cons]
      rfl

/-! ## Running -/

theorem run_of_statements {b : Blueprint} (h : statements db.config b = .ok sqls) :
    run db b s = sendAll db sqls s := by
  rw [run, h]

theorem run_of_refused (db : Database σ) {b : Blueprint} (h : Refused db.config b)
    (s : Session σ) : ∃ e, run db b s = (.error e, s) := by
  obtain ⟨e, he⟩ := exists_error_of_refused h
  exact ⟨e, by rw [run, he]⟩

/-- What a session that logs from nothing keeps is what was sent. -/
theorem log_afterAll_clearLog (db : Database σ) (es : List LogEntry) (s : Session σ) :
    (({ db with keepsLog := true } : Database σ).afterAll es s.clearLog).log = es :=
  List.nil_append es

theorem sent_of_refused {b : Blueprint} (h : Refused db.config b) : sent db b s = [] := by
  obtain ⟨e, he⟩ := run_of_refused { db with keepsLog := true } h s.clearLog
  rw [sent, he]
  rfl

/-- What is sent is what leaves a session that logs from nothing. -/
theorem sent_of_sendAll {b : Blueprint} {answer : Except Error Unit} {es : List LogEntry}
    (h : statements db.config b = .ok sqls)
    (hsend : sendAll { db with keepsLog := true } sqls s.clearLog =
      (answer, ({ db with keepsLog := true } : Database σ).afterAll es s.clearLog)) :
    sent db b s = es := by
  have hrun : run { db with keepsLog := true } b s.clearLog =
      sendAll { db with keepsLog := true } sqls s.clearLog := run_of_statements h
  rw [sent, hrun, hsend, log_afterAll_clearLog]

theorem sent_of_succeedsTo {b : Blueprint} (h : statements db.config b = .ok sqls)
    (hall : SucceedsTo db.connection sqls s.state sqls.length) :
    sent db b s = sqls.map entry :=
  sent_of_sendAll h (sendAll_of_succeedsTo { db with keepsLog := true } s.clearLog hall)

theorem sent_of_failsAt {b : Blueprint} {place : Nat} {e : Error}
    (h : statements db.config b = .ok sqls)
    (hfails : FailsAt db.connection sqls s.state place e) :
    sent db b s = (sqls.take (place + 1)).map entry :=
  sent_of_sendAll h (sendAll_of_failsAt { db with keepsLog := true } s.clearLog hfails)

/-- A blueprint that is refused sends nothing. Else its statements are sent without bindings, in
their order, all of them or up to the first that fails, of which the error is passed on. -/
theorem sent_cases (db : Database σ) (b : Blueprint) (s : Session σ) :
    (run db b s).2 = db.afterAll (sent db b s) s ∧
    ((Refused db.config b ∧ sent db b s = [] ∧ ∃ e, (run db b s).1 = .error e) ∨
      (¬ Refused db.config b ∧ ∃ d sqls k,
        Driver.parse? db.config.driver = some d ∧
        ((Ddl.ofDriver db.config.tablePrefix d).build b).1 = .ok sqls ∧
        sent db b s = (sqls.take k).map entry ∧
        ((k = sqls.length ∧ SucceedsTo db.connection sqls s.state sqls.length ∧
            (run db b s).1 = .ok ()) ∨
          ∃ place e, k = place + 1 ∧ FailsAt db.connection sqls s.state place e ∧
            (run db b s).1 = .error e))) := by
  by_cases h : Refused db.config b
  · have hsent := sent_of_refused (s := s) h
    obtain ⟨e, he⟩ := run_of_refused db h s
    refine ⟨?_, Or.inl ⟨h, hsent, e, congrArg Prod.fst he⟩⟩
    rw [he, hsent, db.afterAll_nil]
  · obtain ⟨d, sqls, hd, hbuild, hstatements⟩ := exists_ok_of_not_refused h
    have hrun : run db b s = sendAll db sqls s := run_of_statements hstatements
    rcases succeedsTo_or_failsAt db.connection sqls s.state with hall | ⟨place, e, hfails⟩
    · have hsend := sendAll_of_succeedsTo db s hall
      have hsent := sent_of_succeedsTo hstatements hall
      refine ⟨?_, Or.inr ⟨h, d, sqls, sqls.length, hd, hbuild, ?_, Or.inl ⟨rfl, hall, ?_⟩⟩⟩
      · rw [hrun, hsend, hsent]
      · rw [hsent, List.take_length]
      · rw [hrun, hsend]
    · have hsend := sendAll_of_failsAt db s hfails
      have hsent := sent_of_failsAt hstatements hfails
      refine ⟨?_, Or.inr ⟨h, d, sqls, place + 1, hd, hbuild, hsent,
        Or.inr ⟨place, e, rfl, hfails, ?_⟩⟩⟩
      · rw [hrun, hsend, hsent]
      · rw [hrun, hsend]

end

end Schema

end SqlBuilder
