import Loomterm.Executor.Base

/-!
# The history of an execution

Six places of the engine race to finish the same execution, and most of them check its
state in one request and write in another. The store checks again in `finish` and in
`mark_running`, so whatever the order each execution goes through its states once.
-/

namespace Loomterm

open Database

namespace ExecutionRecord.Lifecycle

variable {record : ExecutionRecord}

theorem cancelled_iff (valid : record.Lifecycle) : record.row.state = .cancelled ↔
    ∃ reason, record.row.outcome = some (.cancelled reason) := by
  have terminal := valid.terminal_iff
  have agrees := valid.agrees
  cases outcome : record.row.outcome with
  | none =>
    rw [outcome] at terminal
    constructor
    · intro state
      rw [state] at terminal
      cases terminal
    · rintro ⟨_, ⟨⟩⟩
  | some own => cases own <;> simp [agrees _ outcome, ExecutionOutcome.terminalState]

theorem interrupted_iff (valid : record.Lifecycle) : record.row.state = .interrupted ↔
    ∃ message, record.row.outcome = some (.interrupted message) := by
  have terminal := valid.terminal_iff
  have agrees := valid.agrees
  cases outcome : record.row.outcome with
  | none =>
    rw [outcome] at terminal
    constructor
    · intro state
      rw [state] at terminal
      cases terminal
    · rintro ⟨_, ⟨⟩⟩
  | some own => cases own <;> simp [agrees _ outcome, ExecutionOutcome.terminalState]

theorem finished_iff (valid : record.Lifecycle) : record.row.state = .finished ↔
    (∃ code, record.row.outcome = some (.exited code)) ∨
      (∃ signal, record.row.outcome = some (.signaled signal)) ∨
      ∃ message, record.row.outcome = some (.spawnError message) := by
  have terminal := valid.terminal_iff
  have agrees := valid.agrees
  cases outcome : record.row.outcome with
  | none =>
    rw [outcome] at terminal
    constructor
    · intro state
      rw [state] at terminal
      cases terminal
    · rintro (⟨_, ⟨⟩⟩ | ⟨_, ⟨⟩⟩ | ⟨_, ⟨⟩⟩)
  | some own => cases own <;> simp [agrees _ outcome, ExecutionOutcome.terminalState]

end ExecutionRecord.Lifecycle

namespace Engine

variable {e e' : Engine} {a : Action} {x : ExecutionId}

/-- What stands behind a record: an earlier record of the same execution, or its creation
under an id that was new. -/
def Descends (e : Engine) (x : ExecutionId) (record' : ExecutionRecord) : Prop :=
  (∃ record, e.db.records x = some record ∧ record.Evolves record') ∨
    (x ∉ e.issued ∧ Relation.ReflTransGen ExecutionState.Moves .queued record'.row.state)

theorem Descends.evolves {record record' : ExecutionRecord} (before : e.Descends x record)
    (after : record.Evolves record') : e.Descends x record' := by
  rcases before with ⟨first, found, evolved⟩ | ⟨unused, moved⟩
  · exact .inl ⟨first, found, evolved.trans after⟩
  · exact .inr ⟨unused, moved.trans after.moved⟩

/-- Every record after a step descends from the state before it. -/
theorem Grounded.descends (grounded : e.Grounded) (stepped : e.step a = some e') :
    ∀ record, e'.db.records x = some record → e.Descends x record := by
  refine grounded.preserves stepped
    (P := fun r => ∀ record, r = some record → e.Descends x record) ?_ ?_
  · intro change r r' permits agrees fresh step held record' present
    by_cases creates : change.Creates x
    · have unused : x ∉ e.issued := fun issued => fresh issued creates
      cases step with
      | idle => exact held record' present
      | create =>
        cases present
        exact .inr ⟨unused, .refl⟩
      | _ => exact creates.elim
    · obtain ⟨record, found, after⟩ := step.evolves agrees creates present
      exact (held record found).evolves after
  · intro record found
    exact .inl ⟨record, found, .refl record⟩

/-- Every record at the end of a run descends from the state at its beginning. -/
theorem descends_run {cond : Engine → Action → Prop} (reached : engine.ReachableVia cond e)
    (steps : engine.RunVia cond e e') :
    e.issued ⊆ e'.issued ∧ ∀ record, e'.db.records x = some record → e.Descends x record := by
  refine System.RunVia.invariant
    (fun t => e.issued ⊆ t.issued ∧ ∀ record, t.db.records x = some record → e.Descends x record)
    reached ⟨fun _ member => member, fun record found => .inl ⟨record, found, .refl record⟩⟩ ?_ steps
  rintro t a t' before ⟨issued, descends⟩ _ stepped
  have base := grounded before
  refine ⟨fun _ member => base.issued stepped (issued member), fun record' found => ?_⟩
  rcases base.descends stepped record' found with ⟨record, present, after⟩ | ⟨unused, moved⟩
  · exact (descends record present).evolves after
  · exact .inr ⟨fun member => unused (issued member), moved⟩

end Engine

open Engine in
/-- Along every run of the engine and its store, each execution goes from queued over
running to a terminal state, or from queued to a terminal state, and stays there; its log
has one started event exactly when it has started, and one finished event, with the
outcome of the row, exactly when it is terminal; and its state agrees with the outcome. -/
theorem execution_history {e e' : Engine} (reached : engine.Reachable e)
    (steps : engine.RunVia (fun _ _ => True) e e') :
    ∀ row' ∈ e'.db.executions.rows,
      ((e'.db.log row'.id).filter fun event => event.payload.isStarted).map (·.timestampMs) =
        row'.startedAtMs.toList ∧
      ((e'.db.log row'.id).filterMap fun event => event.payload.outcome?) =
        row'.outcome.toList ∧
      (row'.state.isTerminal = true ↔ row'.outcome.isSome = true) ∧
      (row'.state = .cancelled ↔ ∃ reason, row'.outcome = some (.cancelled reason)) ∧
      (row'.state = .interrupted ↔ ∃ message, row'.outcome = some (.interrupted message)) ∧
      (row'.state = .finished ↔ (∃ code, row'.outcome = some (.exited code)) ∨
        (∃ signal, row'.outcome = some (.signaled signal)) ∨
        ∃ message, row'.outcome = some (.spawnError message)) ∧
      (∀ row ∈ e.db.executions.rows, row.id = row'.id →
        Relation.ReflTransGen ExecutionState.Moves row.state row'.state ∧
        (row.state.isTerminal = true → row'.state = row.state ∧ row'.outcome = row.outcome ∧
          row'.endedAtMs = row.endedAtMs)) ∧
      ((∀ row ∈ e.db.executions.rows, row.id ≠ row'.id) →
        Relation.ReflTransGen ExecutionState.Moves .queued row'.state) := by
  intro row' member
  have found := Database.record_of_find? (Table.mem_rows_iff.mp member)
  have valid := (grounded (reached.run steps)).lifecycle row'.id _ found
  refine ⟨valid.starts_eq, valid.finishes_eq, ?_, valid.cancelled_iff, valid.interrupted_iff,
    valid.finished_iff, ?_⟩
  · rw [show row'.state.isTerminal = _ from valid.terminal_iff]
  have descends := (descends_run reached steps).2 _ found
  constructor
  · intro row present same
    have first := Database.record_of_find? (Table.mem_rows_iff.mp present)
    rw [same] at first
    rcases descends with ⟨record, before, evolved⟩ | ⟨unused, _⟩
    · rw [first] at before
      cases before
      exact ⟨evolved.moved, evolved.frozen⟩
    · exact absurd ((grounded reached).known _ _ first) unused
  · intro absent
    rcases descends with ⟨record, before, _⟩ | ⟨_, moved⟩
    · obtain ⟨row, _⟩ := record
      have present := (Database.records_eq_some.mp before).1
      exact absurd (Table.find?_key present)
        (absent row (Table.mem_rows_iff.mpr (Table.find?_key present ▸ present)))
    · exact moved

/-- A daemon over a store with one workspace. -/
def sampleEngine : Engine := .new {} sampleDatabase

theorem sampleEngine_start : engine.start sampleEngine := ⟨⟨rfl, rfl⟩, rfl⟩

/-- A client has the execution `id` made, and its task takes it up to the Spawn. -/
def sampleLaunch (n : Nat) (id : ExecutionId) : List Action :=
  [.begin n (.execute { workspaceId := "w", command := .argv "make" [] }),
   .call n {}, .call n {}, .call n { input := .resolved (.ok "/demo") }, .call n { id }, .call n {},
   .call n {}, .task id {}, .task id {}, .task id {}, .task id { input := .launched (.ok ()) }]

/-- The Spawn is sent and written, the handle is registered, and Started is handled. -/
def sampleStart (id : ExecutionId) : List Action :=
  [.task id {}, .control id true, .task id {}, .task id {}, .task id {},
   .task id { input := .frame (some (.ok (.started 10 10))) }, .task id {}, .task id {},
   .task id { now := 2 }]

/-- The command prints two bytes and ends, and its outcome is written. -/
def sampleEnd (id : ExecutionId) : List Action :=
  [.task id { input := .frame (some (.ok (.output .stdout (.ok [104, 105])))) }, .task id {},
   .task id { input := .frame (some (.ok (.finished (.exited 0)))) }, .task id {},
   .writer {}, .writer {}, .writer {}, .writer {}, .writer {}, .task id {}, .task id {},
   .task id { now := 5 }]

theorem execution_history_sample :
    ∃ e e', engine.run sampleEngine (sampleLaunch 0 "a" ++ sampleStart "a") = some e ∧
      engine.run e (sampleEnd "a") = some e' ∧
      (e'.db.executions.rows.map fun row => (row.state, row.outcome)) =
        [(.finished, some (.exited 0))] ∧
      ∀ row' ∈ e'.db.executions.rows, ∀ row ∈ e.db.executions.rows, row.id = row'.id →
        Relation.ReflTransGen ExecutionState.Moves row.state row'.state := by
  have states : (engine.run sampleEngine (sampleLaunch 0 "a" ++ sampleStart "a")).bind
      (fun e => (engine.run e (sampleEnd "a")).map fun e' =>
        e'.db.executions.rows.map fun row => (row.state, row.outcome)) =
        some [(.finished, some (.exited 0))] := by decide +kernel
  obtain ⟨e, ran, states⟩ := Option.bind_eq_some_iff.mp states
  obtain ⟨e', ended, states⟩ := Option.map_eq_some_iff.mp states
  have reached : engine.Reachable e := System.run_reachable sampleEngine_start ran
  refine ⟨e, e', ran, ended, states, fun row' member row present same => ?_⟩
  have history := execution_history reached (System.run_runVia ended) row' member
  exact (history.2.2.2.2.2.2.1 row present same).1

end Loomterm
