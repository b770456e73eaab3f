import Loomterm.Executor.Output

/-!
# Retention and output on its way

Every task prunes when it ends, and a prune deletes terminal executions of any task. A
batch with a record of a deleted execution fails as a whole, its error stops the daemon,
and the other executions in the batch lose their output. As long as only live executions
have output on its way, a prune cannot reach them.
-/

namespace Loomterm

open Database

namespace Engine

variable {e e' : Engine} {a : Action} {x : ExecutionId}

/-- An execution that is over has nothing on its way, now and for the rest of the run. -/
theorem pending_run (reached : engine.ReachableVia Tidy e) (steps : engine.RunVia Tidy e e')
    (issued : x ∈ e.issued) (isOver : Over (e.db.records x)) : e'.pending x = [] := by
  have kept := System.RunVia.invariant (fun t => x ∈ t.issued ∧ Over (t.db.records x)) reached
    ⟨issued, isOver⟩ (fun t a t' before held _ stepped =>
      ⟨(grounded before).issued stepped held.1, (grounded before).isOver stepped held.1 held.2⟩) steps
  by_contra pending
  exact over_iff_not_live.mp kept.2 (delivering (reached.run steps) x pending)

/-- A prune deletes nothing that has output on its way. -/
theorem pending_prune (reached : engine.ReachableVia Tidy e) (tidy : e.Tidy a)
    (stepped : e.step a = some e') {retentionDays retentionBytes : Nat}
    (prunes : e.calling a = some (.prune retentionDays retentionBytes))
    (deleted : e'.db.records x = none) : e.pending x = [] := by
  by_contra pending
  have live := delivering reached x pending
  have notRestart : a.isRestart = false := by
    cases a with
    | restart c => cases prunes
    | _ => rfl
  have unfinished := not_finishedBy_of_pending (piped reached) tidy notRestart live pending
  obtain ⟨record, found, _⟩ := (grounded reached).live stepped unfinished live
  rw [deleted] at found
  cases found

/-- The writer's batch fails only when the database does. -/
theorem append_fails (reached : engine.ReachableVia Tidy e) {conditions : Conditions}
    {error : Error} {db : Database}
    (asked : Store.request (Database.appendCaptureBatch e.writer.records) conditions e.db =
      (.error error, db)) : error.isStorage = true := by
  have batched := request_of_post
    (post_appendCaptureBatch (grounded reached).sound.linked e.writer.records)
    (fun message => ⟨rfl, .inl rfl⟩) conditions
  rw [asked] at batched
  rcases batched.2 with storage | ⟨record, member, _, absent⟩
  · exact storage
  · have queued : record ∈ recordsIn e.line := by
      rw [line, Writer.recordsIn_line]
      exact List.mem_append_left _ member
    obtain ⟨own, found, _⟩ := delivering reached _ (pending_of_line queued rfl)
    rw [absent] at found
    cases found

theorem fatal_step (reached : engine.ReachableVia Tidy e) {conditions : Conditions}
    (stepped : e.step (.writer conditions) = some e') :
    e'.fatal = e.fatal ∨ ∃ error : Error, error.isStorage = true ∧ e'.fatal = some error.toString := by
  cases step_capture stepped with
  | queued asked => cases asked
  | received _ _ same =>
    subst same
    exact .inl rfl
  | wrote _ _ _ _ same =>
    subst same
    exact .inl rfl
  | failed _ _ _ asked same =>
    subst same
    exact .inr ⟨_, append_fails reached asked, rfl⟩
  | empty _ _ _ same =>
    subst same
    exact .inl rfl
  | answered _ _ same =>
    subst same
    exact .inl rfl
  | forgotten acts => cases acts
  | kept _ notWriter => cases notWriter

end Engine

open Engine in
/-- In every run in which executions are cut off only when none of their output is on its
way, and output is read only of live executions: whatever is on its way belongs to a live
execution; a prune deletes nothing that has output on its way or will have any; and the
capture writer fails a batch, and raises the fatal signal, only when the database fails. -/
theorem retention_spares_output {e : Engine} (reached : engine.ReachableVia Tidy e) :
    (∀ x, e.pending x ≠ [] →
      ∃ row, e.db.executions.find? x = some row ∧ row.state.isTerminal = false) ∧
    (∀ a e' retentionDays retentionBytes, e.Tidy a → e.step a = some e' →
      e.calling a = some (.prune retentionDays retentionBytes) →
      ∀ row ∈ e.db.executions.rows, e'.db.executions.find? row.id = none →
        e.pending row.id = [] ∧
          ∀ e'', engine.RunVia Tidy e' e'' → e''.pending row.id = []) ∧
    (∀ conditions error db,
      Store.request (Database.appendCaptureBatch e.writer.records) conditions e.db =
        (.error error, db) → error.isStorage = true) ∧
    ∀ conditions e', e.step (.writer conditions) = some e' →
      e'.fatal = e.fatal ∨ ∃ error : Error, error.isStorage = true ∧ e'.fatal = some error.toString := by
  refine ⟨?_, ?_, fun conditions error db => append_fails reached,
    fun conditions e' => fatal_step reached⟩
  · intro x pending
    obtain ⟨record, found, open_⟩ := delivering reached x pending
    exact ⟨record.row, (records_eq_some.mp found).1, open_⟩
  · intro a e' retentionDays retentionBytes tidy stepped prunes row member deleted
    have absent : e'.db.records row.id = none := records_eq_none.mpr deleted
    refine ⟨pending_prune reached tidy stepped prunes absent, fun e'' steps => ?_⟩
    have first := record_of_find? (Table.mem_rows_iff.mp member)
    have base := grounded reached
    refine pending_run (.step reached tidy stepped) steps
      (base.issued stepped (base.known _ _ first)) ?_
    intro record found
    rw [absent] at found
    cases found

/-- A daemon that keeps one byte of output. -/
def sampleSmallEngine : Engine := .new { retentionBytes := 1 } sampleDatabase

theorem sampleSmallEngine_start : engine.start sampleSmallEngine := ⟨⟨rfl, rfl⟩, rfl⟩

/-- "b" has ended, and its task comes to its prune while output of "a" is on its way. -/
def sampleNeighbours : List Action :=
  sampleLaunch 0 "a" ++ sampleStart "a" ++ sampleLaunch 1 "b" ++ sampleStart "b" ++
    sampleEnd "b" ++ (sampleCleanup "b").take 3 ++ (sampleEnd "a").take 2

/-- The limits of a prune. -/
def StoreCall.limits : StoreCall → Option (Nat × Nat)
  | .prune retentionDays retentionBytes => some (retentionDays, retentionBytes)
  | _ => none

theorem StoreCall.of_limits {call : StoreCall} {days bytes : Nat}
    (limits : call.limits = some (days, bytes)) : call = .prune days bytes := by
  cases call <;> cases limits
  rfl

/-- The prune deletes "b", which will have no more output, and not "a". -/
theorem retention_spares_output_sample :
    ∃ e e' row, engine.runIf Engine.Tidy sampleSmallEngine sampleNeighbours = some e ∧
      e.Tidy (.task "b" {}) ∧ e.step (.task "b" {}) = some e' ∧
      e.db.executions.find? "b" = some row ∧ e'.db.executions.find? "b" = none ∧
      (∀ e'', engine.RunVia Engine.Tidy e' e'' → e''.pending "b" = []) ∧
      (e.pending "a").length = 1 ∧
      ∃ own, e.db.executions.find? "a" = some own ∧ own.state.isTerminal = false := by
  have traced : (engine.runIf Engine.Tidy sampleSmallEngine sampleNeighbours).bind (fun e =>
      (e.step (.task "b" {})).bind fun e' => (e.db.executions.find? "b").map fun row =>
        (decide (e.Tidy (.task "b" {})), (e.calling (.task "b" {})).bind StoreCall.limits, row.id,
          (e'.db.executions.find? "b").isSome, (e.pending "a").length)) =
      some (true, some (7, 1), "b", false, 1) := by decide +kernel
  obtain ⟨e, ran, traced⟩ := Option.bind_eq_some_iff.mp traced
  obtain ⟨e', stepped, traced⟩ := Option.bind_eq_some_iff.mp traced
  obtain ⟨row, stored, seen⟩ := Option.map_eq_some_iff.mp traced
  simp only [Prod.mk.injEq, decide_eq_true_eq] at seen
  obtain ⟨tidy, limits, id, gone, waiting⟩ := seen
  obtain ⟨call, calling, own⟩ := Option.bind_eq_some_iff.mp limits
  have prunes : e.calling (.task "b" {}) = some (.prune 7 1) := StoreCall.of_limits own ▸ calling
  have deleted : e'.db.executions.find? "b" = none := by simpa using gone
  have reached : engine.ReachableVia Engine.Tidy e :=
    (System.ReachableVia.start sampleSmallEngine_start).run (System.runIf_runVia ran)
  have spared := retention_spares_output reached
  have spent := spared.2.1 _ e' 7 1 tidy stepped prunes row (Table.mem_of_find? stored)
    (id.symm ▸ deleted)
  rw [id] at spent
  refine ⟨e, e', row, ran, tidy, stepped, stored, deleted, spent.2, waiting, spared.1 "a" ?_⟩
  intro none
  rw [none] at waiting
  cases waiting

/-- "a" is cancelled when its supervisor already has the Spawn, "b" ends, and "c" runs. Output
of "a" and "c" waits in the queue when the task of "b" comes to its prune. -/
def sampleCrowd : List Action :=
  sampleLaunch 0 "a" ++ (sampleStart "a").take 5 ++ sampleCancel 1 "a" ++ [.call 1 {}] ++
  sampleLaunch 2 "b" ++ sampleStart "b" ++ sampleEnd "b" ++ (sampleCleanup "b").take 3 ++
  sampleLaunch 3 "c" ++ sampleStart "c" ++
  [.task "a" { input := .frame (some (.ok (.started 11 11))) }, .task "a" {}, .task "a" {},
   .task "a" {}, .task "a" { input := .frame (some (.ok (.output .stdout (.ok [104, 105])))) },
   .task "a" {},
   .task "c" { input := .frame (some (.ok (.output .stdout (.ok [33])))) }, .task "c" {}]

/-- The prune deletes "a" under its output: the batch fails, "c" loses its output with it,
and the daemon is stopped. -/
theorem retention_deletes_output :
    ∃ e e', engine.run sampleSmallEngine sampleCrowd = some e ∧
      engine.run e [.task "b" {}, .writer {}, .writer {}, .writer {}, .writer {}, .writer {}] = some e' ∧
      (e.pending "a").length = 1 ∧ (e.pending "c").length = 1 ∧
      (e'.db.executions.find? "a").isSome = false ∧
      e'.fatal = some (Error.executionNotFound "a").toString ∧
      (e'.pending "c").length = 0 ∧ (e'.db.log "c").map (·.payload) = [.started 10 10] := by
  have traced : (engine.run sampleSmallEngine sampleCrowd).bind (fun e =>
      (engine.run e [.task "b" {}, .writer {}, .writer {}, .writer {}, .writer {}, .writer {}]).map fun e' =>
        ([(e.pending "a").length, (e.pending "c").length, (e'.pending "c").length],
          (e'.db.executions.find? "a").isSome, e'.fatal, (e'.db.log "c").map (·.payload))) =
      some ([1, 1, 0], false, some (Error.executionNotFound "a").toString, [.started 10 10]) := by
    decide +kernel
  obtain ⟨e, ran, traced⟩ := Option.bind_eq_some_iff.mp traced
  obtain ⟨e', ran', seen⟩ := Option.map_eq_some_iff.mp traced
  simp only [Prod.mk.injEq, List.cons.injEq] at seen
  obtain ⟨⟨own, other, lost, _⟩, gone, fatal, payloads⟩ := seen
  exact ⟨e, e', ran, ran', own, other, gone, fatal, lost, payloads⟩

end Loomterm
