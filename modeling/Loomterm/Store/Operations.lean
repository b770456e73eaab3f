import Loomterm.Store.Refinement

/-!
# Sequences of store operations

The store as a state machine: every step is one command, run under any schedule of
failing statements, and both its result and its error leave a database. What holds of the
journal along every run therefore holds of the tables after every sequence of commands.
-/

namespace Loomterm

/-- The commands that write executions or their events (`src/store.rs:1690`); the others
write only the remaining tables. -/
inductive StoreOp where
  | createExecution (now : Int) (id : ExecutionId) (request : ExecutionRequest) (cwd : String)
  | markRunning (now : Int) (id : ExecutionId) (pid : Nat) (pgid : Int)
  | appendCaptureBatch (records : List CaptureRecord)
  | finish (now : Int) (id : ExecutionId) (state : ExecutionState) (outcome : ExecutionOutcome)
  | cancelQueued (now : ExecutionId → Int)
  | reconcileIncomplete (now : ExecutionId → Int)
  | prune (order : Database.EndOrder) (now : Int) (retentionDays retentionBytes : Nat)
  | deleteAgentSession (id : SessionId)
  | elsewhere (workspaces : Table fun row : WorkspaceRow => row.id)
      (agentSessions : Table AgentSessionRow.id) (agentTurns : Table AgentTurnRow.id)
      (agentActions : Table AgentActionRow.id)

namespace StoreOp

/-- The program of a command, without its reply. -/
def program : StoreOp → Store Unit
  | .createExecution now id request cwd => do
      let _ ← Database.createExecution now id request cwd
  | .markRunning now id pid pgid => do
      let _ ← Database.markRunning now id pid pgid
  | .appendCaptureBatch records => do
      let _ ← Database.appendCaptureBatch records
  | .finish now id state outcome => do
      let _ ← Database.finish now id state outcome
  | .cancelQueued now => do
      let _ ← Database.cancelQueued now
  | .reconcileIncomplete now => do
      let _ ← Database.reconcileIncomplete now
  | .prune order now retentionDays retentionBytes => do
      let _ ← Database.prune order now retentionDays retentionBytes
  | .deleteAgentSession id => Database.deleteAgentSession id
  | .elsewhere workspaces agentSessions agentTurns agentActions =>
      Sql.statement fun db =>
        .ok ((), { db with workspaces, agentSessions, agentTurns, agentActions })

/-- Between two databases one execution was created, or those there were have changed. -/
def Touched (db db' : Database) : Prop :=
  ∃ changes, Database.Effect db changes db' ∧
    ((∃ now id request cwd, changes = [.create now id request cwd]) ∨
      ∀ c ∈ changes, ∀ id, ¬ c.Creates id)

theorem Touched.created {db db' : Database} {now : Int} {id : ExecutionId}
    {request : ExecutionRequest} {cwd : String}
    (effect : Database.Effect db [.create now id request cwd] db') : Touched db db' :=
  ⟨_, effect, .inl ⟨now, id, request, cwd, rfl⟩⟩

theorem Touched.of_map {db db' : Database} {ι : Type} {items : List ι} {f : ι → Change}
    (effect : Database.Effect db (items.map f) db') (works : ∀ i id, ¬ (f i).Creates id) :
    Touched db db' := by
  refine ⟨_, effect, .inr fun c member id => ?_⟩
  obtain ⟨i, _, rfl⟩ := List.mem_map.mp member
  exact works i id

theorem Touched.single {db db' : Database} {c : Change} (effect : Database.Effect db [c] db')
    (works : ∀ id, ¬ c.Creates id) : Touched db db' := by
  refine ⟨_, effect, .inr fun c' member => ?_⟩
  rw [List.mem_singleton.mp member]
  exact works

open Database in
/-- Whether it ends well or not, a command leaves a database that changes of the journal
lead to. -/
theorem post_program {db : Database} (linked : db.Linked) (op : StoreOp) :
    Sql.Post StorageFault op.program db fun _ db' => Touched db db' := by
  have idle : Touched db db := ⟨[], .refl linked, .inr fun _ member => by cases member⟩
  cases op with
  | createExecution now id request cwd =>
    refine Sql.post_bind ((post_createExecution linked).mono fun r db' created => ?_)
    cases r with
    | ok execution => exact Sql.post_pure (.created created.1)
    | error e =>
      rcases created with rfl | ⟨_, effect⟩
      · exact idle
      · exact .created effect
  | markRunning now id pid pgid =>
    refine Sql.post_bind ((post_markRunning linked).mono fun r db' moved => ?_)
    cases r with
    | ok event =>
      obtain ⟨_, _, _, _, _, effect⟩ := moved
      exact Sql.post_pure (.single effect fun _ creates => creates)
    | error e =>
      obtain ⟨rfl, _⟩ := moved
      exact idle
  | appendCaptureBatch captured =>
    refine Sql.post_bind ((post_appendCaptureBatch linked captured).mono fun r db' batched => ?_)
    cases r with
    | ok events => exact Sql.post_pure (.of_map batched.1 fun _ _ creates => creates)
    | error e =>
      obtain ⟨rfl, _⟩ := batched
      exact idle
  | finish now id state outcome =>
    refine Sql.post_bind ((post_finish linked).mono fun r db' moved => ?_)
    cases r with
    | ok event =>
      obtain ⟨_, _, _, _, _, effect⟩ := moved
      exact Sql.post_pure (.single effect fun _ creates => creates)
    | error e =>
      obtain ⟨rfl, _⟩ := moved
      exact idle
  | cancelQueued now =>
    refine Sql.post_bind ((post_cancelQueued linked).mono fun r db' swept => ?_)
    obtain ⟨ids, sweep, _⟩ := swept
    cases r with
    | ok events => exact Sql.post_pure (.of_map sweep.effect fun _ _ creates => creates)
    | error e => exact .of_map sweep.effect fun _ _ creates => creates
  | reconcileIncomplete now =>
    refine Sql.post_bind ((post_reconcileIncomplete linked now).mono fun r db' swept => ?_)
    obtain ⟨ids, sweep, _⟩ := swept
    cases r with
    | ok count => exact Sql.post_pure (.of_map sweep.effect fun _ _ creates => creates)
    | error e => exact .of_map sweep.effect fun _ _ creates => creates
  | prune order now retentionDays retentionBytes =>
    refine Sql.post_bind ((post_prune linked).mono fun r db' removed => ?_)
    cases r with
    | ok count =>
      obtain ⟨ids, effect⟩ := removed
      exact Sql.post_pure (.of_map effect fun _ _ creates => creates)
    | error e =>
      obtain ⟨_, rfl⟩ := removed
      exact idle
  | deleteAgentSession id =>
    refine (post_deleteAgentSession linked).mono fun r db' deleted => ?_
    cases r with
    | ok _ => exact .single deleted.1 fun _ creates => creates
    | error e => exact deleted ▸ idle
  | elsewhere =>
    unfold program
    exact Sql.post_statement (fun _ _ => idle) (show Touched db _ from
      ⟨[], ⟨linked, rfl⟩, .inr fun _ member => by cases member⟩)

/-- A command does not create an execution that is there. -/
theorem Touched.known {db db' : Database} (touched : Touched db db') {id : ExecutionId}
    {record : ExecutionRecord} (before : db.records id = some record) :
    journal.RunVia (fun _ c => ¬ c.Creates id) db.records db'.records := by
  obtain ⟨changes, effect, ⟨now, own, request, cwd, rfl⟩ | works⟩ := touched
  · -- the one change is that of another execution
    have applied : Change.apply db.records (.create now own request cwd) = some db'.records :=
      effect.apply
    by_cases equal : own = id
    · subst equal
      simp [Change.apply, before] at applied
    · exact System.run_runVia_of_forall effect.replay (by simp [Change.Creates, equal])
  · exact System.run_runVia_of_forall effect.replay fun c member _ => works c member id

/-- A command adds to the log of an execution that stays. -/
theorem Touched.grown {db db' : Database} (touched : Touched db db') {id : ExecutionId}
    {record record' : ExecutionRecord} (before : db.records id = some record)
    (after : db'.records id = some record') : record.log <+: record'.log := by
  obtain ⟨first, found, grown⟩ := Records.grown_run (touched.known before) after
  rw [before] at found
  exact Option.some.inj found ▸ grown

/-- What a command does, run under any schedule. -/
theorem touched {db : Database} (linked : db.Linked) (op : StoreOp)
    (faults : List (Option String)) : Touched db (Store.run op.program faults db).2 :=
  Database.run_of_post (op.post_program linked) faults

end StoreOp

/-- Commands in any order, each with its schedule of failing statements. -/
def store : System Database (StoreOp × List (Option String)) where
  start := Database.Fresh
  step db command := some (Store.run command.1.program command.2 db).2

/-- What the tables keep to after every command. -/
structure Database.Sound (db : Database) : Prop where
  linked : db.Linked
  wellFormed : db.records.WellFormed

theorem Database.Fresh.sound {db : Database} (fresh : db.Fresh) : db.Sound := by
  refine ⟨fresh.linked, ?_⟩
  intro id record found
  rw [fresh.records] at found
  cases found

theorem Database.Effect.sound {db db' : Database} {changes : List Change}
    (effect : Database.Effect db changes db') (sound : db.Sound) : db'.Sound :=
  ⟨effect.linked, Records.wellFormed_run (System.run_runVia effect.replay) sound.wellFormed⟩

theorem store_sound {db : Database} (reached : store.Reachable db) : db.Sound := by
  refine reached.invariant Database.Sound (fun _ fresh => Database.Fresh.sound fresh) ?_
  intro db command db' _ sound _ enabled
  obtain ⟨op, faults⟩ := command
  obtain ⟨changes, effect, _⟩ := op.touched sound.linked faults
  have same : (Store.run op.program faults db).2 = db' := Option.some.inj enabled
  rw [same] at effect
  exact effect.sound sound

/-- After every sequence of commands, failed ones included, each execution's events are
numbered `1 .. last_seq` and its counters are those of its log; and a capture batch is
appended as a whole, in order, or changes nothing. -/
theorem store_log_numbered {db : Database} (reached : store.Reachable db) :
    (∀ row ∈ db.executions.rows,
      (db.log row.id).map ExecutionEvent.seq = List.range' 1 row.lastSeq ∧
      row.capturedBytes = ((db.log row.id).map fun event => event.payload.bytes).sum ∧
      (row.outputTruncated = true ↔
        ∃ event ∈ db.log row.id, ∃ limit, event.payload = .captureTruncated limit)) ∧
    ∀ captured faults,
      match Store.run (Database.appendCaptureBatch captured) faults db with
      | (.ok events, db') => db'.events.rows = db.events.rows ++ events ∧
          events.map ExecutionEvent.content = captured.map CaptureRecord.content
      | (.error _, db') => db' = db := by
  have sound := store_sound reached
  refine ⟨fun row member => ?_, fun captured faults => ?_⟩
  · have found := Database.record_of_find? (Table.mem_rows_iff.mp member)
    have valid := sound.wellFormed row.id _ found
    refine ⟨valid.seqs, valid.captured, ?_⟩
    rw [show row.outputTruncated = _ from valid.truncated, List.any_eq_true]
    constructor
    · rintro ⟨event, present, truncated⟩
      refine ⟨event, present, ?_⟩
      cases payload : event.payload with
      | captureTruncated limit => exact ⟨limit, rfl⟩
      | _ =>
        rw [payload] at truncated
        cases truncated
    · rintro ⟨event, present, limit, payload⟩
      exact ⟨event, present, by rw [payload]; rfl⟩
  · have batched := Database.run_of_post
      (Database.post_appendCaptureBatch sound.linked captured) faults
    cases ran : Store.run (Database.appendCaptureBatch captured) faults db with
    | mk result db' =>
      rw [ran] at batched
      cases result with
      | ok events => exact ⟨batched.2.1, batched.2.2⟩
      | error e => exact batched.1

/-- A store with one workspace. -/
def sampleDatabase : Database where
  workspaces := ⟨[{ id := "w", name := "demo", root := "/demo", createdAtMs := 0 }], by decide⟩
  agentSessions := .empty
  executions := .empty
  events := .empty
  agentTurns := .empty
  agentActions := .empty

/-- Two executions share a batch; a second batch fails half way through. -/
def sampleOps : List (StoreOp × List (Option String)) :=
  let request : ExecutionRequest := { workspaceId := "w", command := .argv "make" [] }
  [(.createExecution 1 "a" request "/demo", []),
   (.createExecution 2 "b" request "/demo", []),
   (.markRunning 3 "a" 10 10, []),
   (.appendCaptureBatch [.output "a" 4 .stdout [104, 105], .output "b" 4 .stderr [33],
     .truncated "a" 4 2], []),
   (.appendCaptureBatch [.output "b" 5 .stdout [34], .output "a" 5 .stdout [35]],
     [none, none, none, none, none, some "disk full"]),
   (.finish 6 "a" .finished (.exited 0), [])]

theorem store_log_numbered_sample :
    (store.run sampleDatabase sampleOps).map (fun db =>
      db.executions.rows.map fun row => (row.id, row.lastSeq, row.capturedBytes)) =
        some [("a", 4, 2), ("b", 1, 1)] ∧
    ∃ db, store.run sampleDatabase sampleOps = some db ∧ ∀ row ∈ db.executions.rows,
      (db.log row.id).map ExecutionEvent.seq = List.range' 1 row.lastSeq := by
  have counts : (store.run sampleDatabase sampleOps).map (fun db =>
      db.executions.rows.map fun row => (row.id, row.lastSeq, row.capturedBytes)) =
        some [("a", 4, 2), ("b", 1, 1)] := by decide +kernel
  obtain ⟨db, ran, _⟩ := Option.map_eq_some_iff.mp counts
  refine ⟨counts, db, ran, fun row member => ?_⟩
  have reached : store.Reachable db := System.run_reachable ⟨rfl, rfl⟩ ran
  exact ((store_log_numbered reached).1 row member).1

end Loomterm
