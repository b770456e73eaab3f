import Loomterm.Store.Links

/-!
# Runs of the store actor

Every command that writes, in any order and under any schedule of failing statements,
starting from the empty tables of a new database.
-/

namespace Loomterm

/-- The commands of `run_store_actor` that write (`src/store.rs:1676`). -/
inductive StoreCommand where
  | addWorkspace (now : Int) (id : WorkspaceId) (name : String)
      (root : Except Error (String × Bool))
  | removeWorkspace (identifier : String)
  | createExecution (now : Int) (id : ExecutionId) (request : ExecutionRequest) (cwd : String)
  | markRunning (now : Int) (id : ExecutionId) (pid : Nat) (pgid : Int)
  | appendCaptureBatch (records : List CaptureRecord)
  | finish (now : Int) (id : ExecutionId) (state : ExecutionState) (outcome : ExecutionOutcome)
  | createAgentSession (now : Int) (request : AgentSessionRequest) (cwd : Except Error String)
  | finishAgentSession (now : Int) (id : SessionId) (finish : AgentSessionFinish)
  | deleteAgentSession (id : SessionId)
  | recordAgentEvent (now : Int) (turnId actionRowId : String) (request : AgentEventRequest)
  | reconcileIncomplete (now : ExecutionId → Int)
  | cancelQueued (now : ExecutionId → Int)
  | prune (order : Database.EndOrder) (now : Int) (retentionDays retentionBytes : Nat)

/-- The program of a command, without its reply. -/
def StoreCommand.program : StoreCommand → Store Unit
  | .addWorkspace now id name root => do
      let _ ← Database.addWorkspace now id name root
  | .removeWorkspace identifier => Database.removeWorkspace identifier
  | .createExecution now id request cwd => do
      let _ ← Database.createExecution now id request cwd
  | .markRunning now id pid pgid => do
      let _ ← Database.markRunning now id pid pgid
  | .appendCaptureBatch records => do
      let _ ← Database.appendCaptureBatch records
  | .finish now id state outcome => do
      let _ ← Database.finish now id state outcome
  | .createAgentSession now request cwd => do
      let _ ← Database.createAgentSession now request cwd
  | .finishAgentSession now id ending => do
      let _ ← Database.finishAgentSession now id ending
  | .deleteAgentSession id => Database.deleteAgentSession id
  | .recordAgentEvent now turnId actionRowId request => do
      let _ ← Database.recordAgentEvent now turnId actionRowId request
  | .reconcileIncomplete now => do
      let _ ← Database.reconcileIncomplete now
  | .cancelQueued now => do
      let _ ← Database.cancelQueued now
  | .prune order now retentionDays retentionBytes => do
      let _ ← Database.prune order now retentionDays retentionBytes

/-- `run_store_actor` (`src/store.rs:1676`). -/
def storeActor : System Database (StoreCommand × List (Option String)) where
  start db := db = newDatabase
  step db command := some (Store.run command.1.program command.2 db).2

namespace Database

/-! ## Every command keeps the links -/

/-- The writing statements of the operations on workspaces keep `Inv`. -/
structure WorkspaceWrites (Inv : Database → Prop) : Prop where
  active : ∀ active id, Sql.Keeps StorageFault Inv (setActive active id)
  insert : ∀ workspace, Sql.Keeps StorageFault Inv (insertWorkspace workspace)

namespace WorkspaceWrites

variable {Inv : Database → Prop} (writes : WorkspaceWrites Inv)
include writes

theorem addWorkspace_keeps (now : Int) (id : WorkspaceId) (name : String)
    (root : Except Error (String × Bool)) :
    Sql.Keeps StorageFault Inv (addWorkspace now id name root) := by
  refine Sql.Keeps.ite Sql.Keeps.fail ?_
  match root with
  | .error e => exact Sql.Keeps.fail
  | .ok (root, false) => exact Sql.Keeps.fail
  | .ok (root, true) =>
    refine Sql.Keeps.bind Sql.Keeps.select fun existingRoot => ?_
    cases existingRoot with
    | some row =>
      refine Sql.Keeps.ite Sql.Keeps.fail ?_
      exact Sql.Keeps.ite (Sql.Keeps.bind (writes.active _ _) fun _ => Sql.Keeps.pure)
        Sql.Keeps.pure
    | none =>
      refine Sql.Keeps.bind Sql.Keeps.select fun existingName => ?_
      cases existingName with
      | some row => exact Sql.Keeps.fail
      | none => exact Sql.Keeps.bind (writes.insert _) fun _ => Sql.Keeps.pure

theorem removeWorkspace_keeps (identifier : String) :
    Sql.Keeps StorageFault Inv (removeWorkspace identifier) := by
  refine Sql.Keeps.bind Sql.Keeps.select fun workspace => ?_
  cases workspace with
  | none => exact Sql.Keeps.fail
  | some row => exact writes.active _ _

end WorkspaceWrites

theorem LinksKept.workspaceWrites : WorkspaceWrites LinksKept where
  active active id := by
    refine Sql.Keeps.statement fun s a s' kept ran => ?_
    cases ran
    exact kept.frame rfl rfl rfl rfl
  insert workspace := by
    refine Sql.Keeps.statement fun s a s' kept ran => ?_
    split at ran
    · cases ran
    · split at ran
      · cases ran
      · split at ran <;> cases ran
        exact kept.frame rfl rfl rfl rfl

theorem deleteAgentSession_keeps (id : SessionId) :
    Sql.Keeps StorageFault LinksKept (deleteAgentSession id) := by
  intro db kept
  refine (post_deleteAgentSession_rows db id).mono fun r db' removed => ?_
  cases r with
  | ok _ => exact kept.withoutSession removed.2
  | error e => exact removed ▸ kept

theorem program_keeps (command : StoreCommand) :
    Sql.Keeps StorageFault LinksKept command.program := by
  cases command with
  | addWorkspace =>
    exact Sql.Keeps.bind (LinksKept.workspaceWrites.addWorkspace_keeps _ _ _ _)
      fun _ => Sql.Keeps.pure
  | removeWorkspace => exact LinksKept.workspaceWrites.removeWorkspace_keeps _
  | createExecution => exact Sql.Keeps.bind (createExecution_keeps _ _ _ _) fun _ => Sql.Keeps.pure
  | markRunning =>
    exact Sql.Keeps.bind (LinksKept.writes.markRunning_keeps _ _ _ _) fun _ => Sql.Keeps.pure
  | appendCaptureBatch =>
    exact Sql.Keeps.bind (LinksKept.writes.appendCaptureBatch_keeps _) fun _ => Sql.Keeps.pure
  | finish => exact Sql.Keeps.bind (LinksKept.writes.finish_keeps _ _ _ _) fun _ => Sql.Keeps.pure
  | createAgentSession =>
    exact Sql.Keeps.bind (createAgentSession_keeps _ _ _) fun _ => Sql.Keeps.pure
  | finishAgentSession =>
    exact Sql.Keeps.bind (finishAgentSession_keeps _ _ _) fun _ => Sql.Keeps.pure
  | deleteAgentSession => exact deleteAgentSession_keeps _
  | recordAgentEvent =>
    exact Sql.Keeps.bind (recordAgentEvent_keeps _ _ _ _) fun _ => Sql.Keeps.pure
  | reconcileIncomplete =>
    refine Sql.Keeps.bind (Sql.Keeps.bind Sql.Keeps.select fun ids => ?_) fun _ => Sql.Keeps.pure
    exact Sql.Keeps.bind (LinksKept.writes.finishEach_keeps _ _ _ _) fun _ => Sql.Keeps.pure
  | cancelQueued =>
    refine Sql.Keeps.bind (Sql.Keeps.bind Sql.Keeps.select fun ids => ?_) fun _ => Sql.Keeps.pure
    exact LinksKept.writes.finishEach_keeps _ _ _ _
  | prune => exact Sql.Keeps.bind (LinksKept.writes.prune_keeps _ _ _ _) fun _ => Sql.Keeps.pure

/-- The detail of a session begins with the row of that session. -/
theorem post_getAgentSession_row (db : Database) (now : ExecutionId → Int) (id : SessionId) :
    Sql.Post StorageFault (getAgentSession now id) db fun r db' => db' = db ∧
      ∀ detail, r = .ok detail → db.agentSessions.find? id = some detail.session := by
  refine Sql.post_bind (Sql.post_select (fun _ _ => ⟨rfl, by simp⟩) ?_)
  cases found : db.agentSessions.find? id with
  | none => exact ⟨rfl, by simp⟩
  | some session =>
    refine Sql.post_bind (Sql.post_select (fun _ _ => ⟨rfl, by simp⟩) ?_)
    refine Sql.post_bind (Sql.post_select (fun _ _ => ⟨rfl, by simp⟩) ?_)
    refine Sql.post_bind (Sql.post_select (fun _ _ => ⟨rfl, by simp⟩) ?_)
    refine Sql.post_pure ⟨rfl, fun detail same => ?_⟩
    cases same
    rfl

/-- The executions that a session shows are in its own workspace. -/
theorem LinksKept.post_getAgentSession {db : Database} (kept : db.LinksKept)
    (now : ExecutionId → Int) (id : SessionId) :
    Sql.Post StorageFault (getAgentSession now id) db fun r db' => db' = db ∧
      ∀ detail, r = .ok detail → ∀ execution ∈ detail.executions,
        execution.workspaceId = detail.session.workspaceId := by
  refine Sql.post_bind (Sql.post_select (fun _ _ => ⟨rfl, by simp⟩) ?_)
  cases found : db.agentSessions.find? id with
  | none => exact ⟨rfl, by simp⟩
  | some session =>
    have owner : db.sessionWorkspace id = some session.workspaceId := by
      simp [sessionWorkspace, found]
    have inside : ∀ row ∈ db.sessionExecutions id, row.workspaceId = session.workspaceId := by
      intro row member
      have selected := (List.perm_insertionSort _ _).mem_iff.mp member
      obtain ⟨present, tied⟩ := List.mem_filter.mp selected
      simp only [Bool.or_eq_true, decide_eq_true_eq, List.contains_iff_mem,
        List.mem_filterMap] at tied
      cases tied with
      | inl column =>
        have linked := (kept.executions row present).2 id column
        rw [owner, Option.some.injEq] at linked
        exact linked.symm
      | inr named =>
        obtain ⟨action, there, link⟩ := named
        split at link
        · rename_i ofSession
          simp only [List.any_eq_true, Bool.and_eq_true, decide_eq_true_eq] at ofSession
          have turn := Table.find?_map_eq_some.mpr ofSession
          obtain ⟨sessionId, w, ofTurn, workspace, execution⟩ := kept.actions action there
          have same : some id = some sessionId := turn.symm.trans ofTurn
          rw [← Option.some.inj same, owner, Option.some.injEq] at workspace
          have own := execution row.id link
          rw [← workspace, executionWorkspace, Table.mem_rows_iff.mp present] at own
          exact Option.some.inj own
        · cases link
    refine Sql.post_bind (Sql.post_select (fun _ _ => ⟨rfl, by simp⟩) ?_)
    refine Sql.post_bind (Sql.post_select (fun _ _ => ⟨rfl, by simp⟩) ?_)
    refine Sql.post_bind (Sql.post_select (fun _ _ => ⟨rfl, by simp⟩) ?_)
    refine Sql.post_pure ⟨rfl, fun detail same execution member => ?_⟩
    cases same
    obtain ⟨row, selected, rfl⟩ := List.mem_map.mp member
    exact inside row selected

/-! ## Tables that are not written -/

section

variable {τ : Type} {P : τ → Prop} (view : Database → τ)

theorem updateTurns_apart (apart : ∀ db agentTurns, view { db with agentTurns } = view db)
    {p : AgentTurnRow → Bool} {set : AgentTurnRow → AgentTurnRow}
    (keeps : ∀ row, (set row).id = row.id) :
    Sql.Keeps StorageFault (fun db => P (view db)) (updateTurns p set keeps) := by
  refine Sql.Keeps.frame view fun s a s' ran => ?_
  cases ran
  exact apart s _

theorem findProviderTurn_keeps {Inv : Database → Prop} (request : AgentEventRequest) :
    Sql.Keeps StorageFault Inv (findProviderTurn request) := by
  unfold findProviderTurn
  cases request.providerTurnId with
  | none => exact Sql.Keeps.pure
  | some providerTurnId => exact Sql.Keeps.select

theorem insertAgentTurn_apart (apart : ∀ db agentTurns, view { db with agentTurns } = view db)
    (id : String) (request : AgentEventRequest) (prompt : String) (createdAtMs : Int) :
    Sql.Keeps StorageFault (fun db => P (view db))
      (insertAgentTurn id request prompt createdAtMs) := by
  refine Sql.Keeps.bind (Sql.Keeps.frame view fun s a s' ran => ?_) fun _ => Sql.Keeps.select
  split at ran
  · cases ran
  · split at ran
    · cases ran
    · split at ran <;> cases ran
      exact apart s _

theorem findOrCreateAgentTurn_apart
    (apart : ∀ db agentTurns, view { db with agentTurns } = view db) (id : String)
    (request : AgentEventRequest) (createdAtMs : Int) :
    Sql.Keeps StorageFault (fun db => P (view db))
      (findOrCreateAgentTurn id request createdAtMs) := by
  refine Sql.Keeps.bind (Sql.Keeps.ite (findProviderTurn_keeps _) Sql.Keeps.select) ?_
  intro existing
  cases existing with
  | some turn => exact Sql.Keeps.pure
  | none => exact insertAgentTurn_apart view apart _ _ _ _

theorem createExecution_apart (apart : ∀ db executions, view { db with executions } = view db)
    (now : Int) (id : ExecutionId) (request : ExecutionRequest) (cwd : String) :
    Sql.Keeps StorageFault (fun db => P (view db)) (createExecution now id request cwd) := by
  unfold createExecution
  cases request.validate with
  | error e => exact Sql.Keeps.fail
  | ok _ =>
    have checked : Sql.Keeps StorageFault (fun db => P (view db)) (checkSession request) := by
      intro db kept
      refine post_checkSession.mono fun r db' same => ?_
      rw [same]
      exact kept
    refine Sql.Keeps.bind checked fun _ => Sql.Keeps.bind ?_ fun _ => Sql.Keeps.select
    refine Sql.Keeps.frame view fun s a s' ran => ?_
    split at ran
    · cases ran
    · split at ran <;> cases ran
      exact apart s _

end

/-! ## The sessions table -/

/-- An invariant of the sessions table alone. -/
abbrev OfSessions (P : Table AgentSessionRow.id → Prop) (db : Database) : Prop :=
  P db.agentSessions

namespace OfSessions

variable {P : Table AgentSessionRow.id → Prop}

theorem writes : ExecutionWrites (OfSessions P) where
  event event := by
    refine Sql.Keeps.frame agentSessions fun s a s' ran => ?_
    split at ran
    · cases ran
    · split at ran <;> cases ran
      rfl
  update keeps same := by
    refine Sql.Keeps.frame agentSessions fun s a s' ran => ?_
    cases ran
    rfl
  delete p := by
    refine Sql.Keeps.frame agentSessions fun s a s' ran => ?_
    cases ran
    rfl

theorem workspaceWrites : WorkspaceWrites (OfSessions P) where
  active active id := by
    refine Sql.Keeps.frame agentSessions fun s a s' ran => ?_
    cases ran
    rfl
  insert workspace := by
    refine Sql.Keeps.frame agentSessions fun s a s' ran => ?_
    split at ran
    · cases ran
    · split at ran
      · cases ran
      · split at ran <;> cases ran
        rfl

theorem createExecution_keeps (now : Int) (id : ExecutionId) (request : ExecutionRequest)
    (cwd : String) : Sql.Keeps StorageFault (OfSessions P) (createExecution now id request cwd) :=
  createExecution_apart agentSessions (fun _ _ => rfl) now id request cwd

theorem updateTurns_keeps {p : AgentTurnRow → Bool} {set : AgentTurnRow → AgentTurnRow}
    (keeps : ∀ row, (set row).id = row.id) :
    Sql.Keeps StorageFault (OfSessions P) (updateTurns p set keeps) :=
  updateTurns_apart agentSessions (fun _ _ => rfl) keeps

theorem insertAgentTurn_keeps (id : String) (request : AgentEventRequest) (prompt : String)
    (createdAtMs : Int) :
    Sql.Keeps StorageFault (OfSessions P) (insertAgentTurn id request prompt createdAtMs) :=
  insertAgentTurn_apart agentSessions (fun _ _ => rfl) id request prompt createdAtMs

theorem findOrCreateAgentTurn_keeps (id : String) (request : AgentEventRequest)
    (createdAtMs : Int) :
    Sql.Keeps StorageFault (OfSessions P) (findOrCreateAgentTurn id request createdAtMs) :=
  findOrCreateAgentTurn_apart agentSessions (fun _ _ => rfl) id request createdAtMs

theorem upsertAction_keeps {action : AgentActionRow} {set : AgentActionRow → AgentActionRow}
    (keeps : ∀ row, (set row).id = row.id) :
    Sql.Keeps StorageFault (OfSessions P) (upsertAction action set keeps) := by
  refine Sql.Keeps.frame agentSessions fun s a s' ran => ?_
  split at ran
  · cases ran
  · split at ran
    · cases ran
    · dsimp only at ran
      split at ran <;> cases ran <;> rfl

theorem recordAgentEvent_keeps (now : Int) (turnId actionRowId : String)
    (request : AgentEventRequest) :
    Sql.Keeps StorageFault (OfSessions P) (recordAgentEvent now turnId actionRowId request) := by
  unfold recordAgentEvent
  cases request.validate with
  | error e => exact Sql.Keeps.fail
  | ok _ =>
    refine Sql.Keeps.bind Sql.Keeps.select fun session => Sql.Keeps.ite Sql.Keeps.fail ?_
    cases request.event with
    | promptSubmitted prompt =>
      refine Sql.Keeps.bind (updateTurns_keeps (by intros; rfl)) fun _ => ?_
      refine Sql.Keeps.bind (findProviderTurn_keeps _) fun existing => ?_
      cases existing with
      | some turn =>
        exact Sql.Keeps.bind (updateTurns_keeps (by intros; rfl)) fun _ => Sql.Keeps.select
      | none => exact insertAgentTurn_keeps _ _ _ _
    | toolStarted actionId toolName =>
      refine Sql.Keeps.bind (findOrCreateAgentTurn_keeps _ _ _) fun turn => ?_
      exact Sql.Keeps.bind (upsertAction_keeps (by intros; rfl)) fun _ => Sql.Keeps.pure
    | toolFinished actionId toolName failed executionId =>
      refine Sql.Keeps.bind (findOrCreateAgentTurn_keeps _ _ _) fun turn => ?_
      refine Sql.Keeps.bind ?_ fun known =>
        Sql.Keeps.bind (upsertAction_keeps (by intros; rfl)) fun _ => Sql.Keeps.pure
      cases executionId with
      | none => exact Sql.Keeps.pure
      | some id =>
        exact Sql.Keeps.bind (Sql.Keeps.attempt Sql.Keeps.select) fun found => Sql.Keeps.pure
    | turnFinished failed lastAssistantMessage =>
      refine Sql.Keeps.bind (findOrCreateAgentTurn_keeps _ _ _) fun turn => ?_
      exact Sql.Keeps.bind (updateTurns_keeps (by intros; rfl)) fun _ => Sql.Keeps.select

end OfSessions

/-- What holds of every recording path that the sessions table stores. -/
abbrev CastPaths (Q : String → Prop) : Database → Prop :=
  OfSessions fun table => ∀ row ∈ table.rows, Q row.castPath

theorem createAgentSession_castPaths {Q : String → Prop} {request : AgentSessionRequest}
    (fits : Q request.castPath) (now : Int) (cwd : Except Error String) :
    Sql.Keeps StorageFault (CastPaths Q) (createAgentSession now request cwd) := by
  unfold createAgentSession
  cases request.validate with
  | error e => exact Sql.Keeps.fail
  | ok _ =>
    refine Sql.Keeps.bind Sql.Keeps.select fun workspace => ?_
    cases cwd with
    | error e => exact Sql.Keeps.fail
    | ok cwd =>
      refine Sql.Keeps.ite Sql.Keeps.fail ?_
      refine Sql.Keeps.bind (Sql.Keeps.statement fun s a s' kept ran => ?_) fun _ =>
        Sql.Keeps.select
      split at ran
      · cases ran
      · split at ran <;> cases ran
        rename_i joined
        intro row member
        rw [(Table.insert?_eq_some.mp joined).2, List.mem_append, List.mem_singleton] at member
        cases member with
        | inl old => exact kept row old
        | inr new => exact new ▸ fits

/-- The other commands store no new path. -/
theorem program_castPaths {Q : String → Prop} {command : StoreCommand}
    (other : ∀ now request cwd, command ≠ .createAgentSession now request cwd) :
    Sql.Keeps StorageFault (CastPaths Q) command.program := by
  have writes : ExecutionWrites (CastPaths Q) := OfSessions.writes
  have workspaceWrites : WorkspaceWrites (CastPaths Q) := OfSessions.workspaceWrites
  cases command with
  | createAgentSession now request cwd => exact absurd rfl (other now request cwd)
  | addWorkspace =>
    exact Sql.Keeps.bind (workspaceWrites.addWorkspace_keeps _ _ _ _) fun _ => Sql.Keeps.pure
  | removeWorkspace => exact workspaceWrites.removeWorkspace_keeps _
  | createExecution =>
    exact Sql.Keeps.bind (OfSessions.createExecution_keeps _ _ _ _) fun _ => Sql.Keeps.pure
  | markRunning => exact Sql.Keeps.bind (writes.markRunning_keeps _ _ _ _) fun _ => Sql.Keeps.pure
  | appendCaptureBatch =>
    exact Sql.Keeps.bind (writes.appendCaptureBatch_keeps _) fun _ => Sql.Keeps.pure
  | finish => exact Sql.Keeps.bind (writes.finish_keeps _ _ _ _) fun _ => Sql.Keeps.pure
  | finishAgentSession now id ending =>
    refine Sql.Keeps.bind ?_ fun _ => Sql.Keeps.pure
    refine Sql.Keeps.ite Sql.Keeps.fail (Sql.Keeps.ite Sql.Keeps.fail ?_)
    refine Sql.Keeps.bind Sql.Keeps.select fun current => Sql.Keeps.ite Sql.Keeps.pure ?_
    refine Sql.Keeps.bind (Sql.Keeps.statement fun s a s' kept ran => ?_) fun _ => ?_
    · cases ran
      intro row member
      have keeps : ∀ row : AgentSessionRow, ({ row with
        state := ending.state
        endedAtMs := some now
        outcome := some ending.outcome
        capturedBytes := (toI64 ending.capturedBytes).toNat
        outputTruncated := ending.outputTruncated } : AgentSessionRow).id = row.id := fun _ => rfl
      obtain ⟨old, present, rfl⟩ := (Table.mem_update keeps).mp member
      have fits := kept old present
      split <;> exact fits
    · exact Sql.Keeps.bind (OfSessions.updateTurns_keeps (by intros; rfl)) fun _ =>
        Sql.Keeps.select
  | deleteAgentSession id =>
    intro db kept
    refine (post_deleteAgentSession_rows db id).mono fun r db' removed => ?_
    cases r with
    | ok _ =>
      intro row member
      rw [removed.2.sessions] at member
      exact kept row (List.mem_filter.mp member).1
    | error e => exact removed ▸ kept
  | recordAgentEvent =>
    exact Sql.Keeps.bind (OfSessions.recordAgentEvent_keeps _ _ _ _) fun _ => Sql.Keeps.pure
  | reconcileIncomplete =>
    refine Sql.Keeps.bind (Sql.Keeps.bind Sql.Keeps.select fun ids => ?_) fun _ => Sql.Keeps.pure
    exact Sql.Keeps.bind (writes.finishEach_keeps _ _ _ _) fun _ => Sql.Keeps.pure
  | cancelQueued =>
    refine Sql.Keeps.bind (Sql.Keeps.bind Sql.Keeps.select fun ids => ?_) fun _ => Sql.Keeps.pure
    exact writes.finishEach_keeps _ _ _ _
  | prune => exact Sql.Keeps.bind (writes.prune_keeps _ _ _ _) fun _ => Sql.Keeps.pure

end Database

theorem storeActor_linksKept {db : Database} (reached : storeActor.Reachable db) :
    db.LinksKept := by
  refine reached.invariant Database.LinksKept ?_ ?_
  · intro first new
    have empty : first = newDatabase := new
    subst empty
    exact ⟨fun _ none => (by cases none), fun _ none => (by cases none),
      fun _ none => (by cases none)⟩
  · intro before command after _ kept _ enabled
    obtain ⟨command, faults⟩ := command
    have done := Database.run_of_post (Database.program_keeps command before kept) faults
    rwa [Option.some.inj enabled] at done

/-- After every sequence of commands, an execution's session column says what its stored
initiator says and names a session of its workspace; an action names an execution of its
session's workspace, so the executions shown for a session are in its workspace; and
deleting a session takes its turns and actions, and the links to it, and nothing else. -/
theorem session_links_consistent {db : Database} (reached : storeActor.Reachable db) :
    (∀ row ∈ db.executions.rows, row.sessionId = row.initiator.sessionId ∧
      ∀ id, row.sessionId = some id → ∃ session ∈ db.agentSessions.rows,
        session.id = id ∧ session.workspaceId = row.workspaceId) ∧
    (∀ action ∈ db.agentActions.rows, ∀ id, action.executionId = some id →
      ∃ turn ∈ db.agentTurns.rows, ∃ session ∈ db.agentSessions.rows,
        ∃ row ∈ db.executions.rows, turn.id = action.turnId ∧ session.id = turn.sessionId ∧
          row.id = id ∧ row.workspaceId = session.workspaceId) ∧
    (∀ now id faults detail,
      (Store.run (Database.getAgentSession now id) faults db).1 = .ok detail →
        ∀ execution ∈ detail.executions, execution.workspaceId = detail.session.workspaceId) ∧
    ∀ id faults,
      match Store.run (Database.deleteAgentSession id) faults db with
      | (.ok _, db') => db.WithoutSession id db'
      | (.error _, db') => db' = db := by
  have kept := storeActor_linksKept reached
  refine ⟨?_, ?_, ?_, ?_⟩
  · intro row member
    have linked := kept.executions row member
    refine ⟨linked.1, fun id named => ?_⟩
    exact Table.find?_map_eq_some.mp (linked.2 id named)
  · intro action member id named
    obtain ⟨sessionId, w, ofTurn, ofSession, execution⟩ := kept.actions action member
    obtain ⟨turn, turnThere, turnId, owner⟩ := Table.find?_map_eq_some.mp ofTurn
    obtain ⟨session, there, own, workspace⟩ := Table.find?_map_eq_some.mp ofSession
    obtain ⟨row, present, rowId, inside⟩ := Table.find?_map_eq_some.mp (execution id named)
    exact ⟨turn, turnThere, session, there, row, present, turnId, own.trans owner.symm, rowId,
      inside.trans workspace.symm⟩
  · intro now id faults detail
    exact (Database.run_of_post (kept.post_getAgentSession now id) faults).2 detail
  · intro id faults
    have done := Database.run_of_post (Database.post_deleteAgentSession_rows db id) faults
    cases ran : Store.run (Database.deleteAgentSession id) faults db with
    | mk result db' =>
      rw [ran] at done
      cases result with
      | ok _ => exact done.2
      | error e => exact done

/-- Two workspaces; a session of the first one with an execution of its own, a hook that
names an execution of the first workspace, and one that names one of the second. -/
def sampleCommands : List (StoreCommand × List (Option String)) :=
  let command : CommandSpec := .argv "make" []
  let hook (event : AgentEvent) : AgentEventRequest :=
    { sessionId := "s", provider := "codex", providerSessionId := "p", providerTurnId := none,
      event }
  [(.addWorkspace 1 "w1" "demo" (.ok ("/demo", true)), []),
   (.addWorkspace 1 "w2" "docs" (.ok ("/docs", true)), []),
   (.createAgentSession 2
      { id := "s", workspaceId := "demo", agentKind := "codex", name := none, command,
        cwd := "/demo/app", recorderPid := 7, initialCols := 80, initialRows := 24,
        castPath := "/state/sessions/s/recording.cast",
        htmlPath := "/state/sessions/s/replay.html" } (.ok "/demo/app"), []),
   (.createExecution 3 "a"
      { workspaceId := "w1", command, initiator := { sessionId := some "s" } } "/demo", []),
   (.createExecution 4 "b" { workspaceId := "w1", command } "/demo", []),
   (.createExecution 5 "c" { workspaceId := "w2", command } "/docs", []),
   (.recordAgentEvent 6 "t" "x" (hook (.promptSubmitted "build it")), []),
   (.recordAgentEvent 7 "t'" "x" (hook (.toolFinished "1" "run" false (some "b"))), []),
   (.recordAgentEvent 8 "t'" "y" (hook (.toolFinished "2" "run" false (some "c"))), []),
   (.finishAgentSession 9 "s" ⟨.finished, .exited 0, 10, false⟩, [none, some "disk full"]),
   (.finishAgentSession 9 "s" ⟨.finished, .exited 0, 10, false⟩, [])]

theorem session_links_consistent_sample :
    ∃ db, storeActor.run newDatabase sampleCommands = some db ∧
      db.agentActions.rows.map (fun action => (action.turnId, action.executionId)) =
        [("t", some "b"), ("t", none)] ∧
      (db.sessionExecutions "s").map (·.id) = ["a", "b"] ∧
      ∀ action ∈ db.agentActions.rows, ∀ id, action.executionId = some id →
        ∃ turn ∈ db.agentTurns.rows, ∃ session ∈ db.agentSessions.rows,
          ∃ row ∈ db.executions.rows, turn.id = action.turnId ∧ session.id = turn.sessionId ∧
            row.id = id ∧ row.workspaceId = session.workspaceId := by
  have ran : (storeActor.run newDatabase sampleCommands).map (fun db =>
      (db.agentActions.rows.map (fun action => (action.turnId, action.executionId)),
        (db.sessionExecutions "s").map (·.id))) =
      some ([("t", some "b"), ("t", none)], ["a", "b"]) := by decide +kernel
  obtain ⟨db, replay, seen⟩ := Option.map_eq_some_iff.mp ran
  simp only [Prod.mk.injEq] at seen
  have reached : storeActor.Reachable db := System.run_reachable rfl replay
  exact ⟨db, replay, seen.1, seen.2, (session_links_consistent reached).2.1⟩

end Loomterm
