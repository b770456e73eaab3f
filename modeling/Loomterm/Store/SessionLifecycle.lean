import Loomterm.Store.Commands
import Loomterm.Store.Hooks

/-!
# The life of an agent session

A session is recorded until it is finished, and its turns and actions come and go meanwhile. Each
command of the actor moves the tables of the sessions in one of a few ways, `SessionMove`; from
these moves it follows how sessions, turns and actions end, and that a session that has ended is
left alone until it is deleted.
-/

namespace Loomterm

/-- What the columns of a session say about its end. -/
def AgentSessionRow.Kept (row : AgentSessionRow) : Prop :=
  (row.state = .recording ↔ row.endedAtMs = none) ∧ (row.state = .recording ↔ row.outcome = none) ∧
    (row.state = .interrupted ↔ ∃ reason, row.outcome = some (.interrupted reason))

/-- An action whose execution is gone. -/
def AgentActionRow.unlinked (action : AgentActionRow) : AgentActionRow :=
  { action with executionId := none }

/-- The columns of a session that has ended. -/
def AgentSessionRow.ended (now : Int) (finish : AgentSessionFinish) (row : AgentSessionRow) :
    AgentSessionRow :=
  { row with
    state := finish.state
    endedAtMs := some now
    outcome := some finish.outcome
    capturedBytes := (Database.toI64 finish.capturedBytes).toNat
    outputTruncated := finish.outputTruncated }

@[simp] theorem AgentSessionRow.ended_id (now : Int) (finish : AgentSessionFinish)
    (row : AgentSessionRow) : (row.ended now finish).id = row.id := rfl

/-- A finish that passes the checks of `finish_agent_session`. -/
def AgentSessionFinish.Valid (finish : AgentSessionFinish) : Prop :=
  finish.state ≠ .recording ∧ finish.agrees = true

theorem AgentSessionFinish.Valid.interrupted {finish : AgentSessionFinish} (valid : finish.Valid) :
    finish.state = .interrupted ↔ ∃ reason, finish.outcome = .interrupted reason := by
  have agrees := valid.2
  unfold AgentSessionFinish.agrees at agrees
  cases state : finish.state <;> cases outcome : finish.outcome <;> simp_all

theorem AgentSessionRow.ended_kept {finish : AgentSessionFinish} (valid : finish.Valid) (now : Int)
    (row : AgentSessionRow) : (row.ended now finish).Kept := by
  refine ⟨?_, ?_, ?_⟩
  · exact iff_of_false valid.1 (Option.some_ne_none now)
  · exact iff_of_false valid.1 (Option.some_ne_none finish.outcome)
  · rw [AgentSessionRow.ended, valid.interrupted]
    simp only [Option.some.injEq]

namespace Database

/-! ## Moves -/

/-- The tables of the sessions are as they were, but for links to executions that are gone. -/
def Aside (db db' : Database) : Prop :=
  db'.agentSessions = db.agentSessions ∧ db'.agentTurns = db.agentTurns ∧
    ∃ p : AgentActionRow → Bool, db'.agentActions.rows =
      db.agentActions.rows.map fun action =>
        if p action then action.unlinked else action

/-- The session as it is finished. -/
def ended (db : Database) (now : Int) (id : SessionId) (finish : AgentSessionFinish) : Database :=
  { db with
    agentSessions := db.agentSessions.update (fun row => row.id = id)
      (AgentSessionRow.ended now finish) (AgentSessionRow.ended_id now finish) }

/-- The session as it is finished, and its turns interrupted. -/
def closed (db : Database) (now : Int) (id : SessionId) (finish : AgentSessionFinish) : Database :=
  { db.ended now id finish with
    agentTurns := db.agentTurns.update (fun turn => turn.sessionId = id && turn.state = .active)
      (AgentTurnRow.interrupted now) (AgentTurnRow.interrupted_id now) }

/-- What a command may do to the tables of the sessions. -/
inductive SessionMove (db : Database) : StoreCommand → Database → Prop
  | aside {command : StoreCommand} {db' : Database} : db.Aside db' → SessionMove db command db'
  | opened {now : Int} {request : AgentSessionRequest} {cwd : Except Error String}
      {row : AgentSessionRow} {agentSessions : Table AgentSessionRow.id} :
      row.state = .recording → row.Kept → db.agentSessions.insert? row = some agentSessions →
      SessionMove db (.createAgentSession now request cwd) { db with agentSessions }
  | ended {now : Int} {id : SessionId} {finish : AgentSessionFinish} :
      db.IsRecording id → finish.Valid →
      SessionMove db (.finishAgentSession now id finish) (db.ended now id finish)
  | closed {now : Int} {id : SessionId} {finish : AgentSessionFinish} :
      db.IsRecording id → finish.Valid →
      SessionMove db (.finishAgentSession now id finish) (db.closed now id finish)
  | hooked {now : Int} {turnId actionRowId : String} {request : AgentEventRequest}
      {db' : Database} : db.IsRecording request.sessionId → Hooked request db db' →
      SessionMove db (.recordAgentEvent now turnId actionRowId request) db'
  | removed {id : SessionId} {db' : Database} : ¬ db.IsRecording id → db.WithoutSession id db' →
      SessionMove db (.deleteAgentSession id) db'

variable {db db' middle : Database}

theorem Aside.refl (db : Database) : db.Aside db := ⟨rfl, rfl, fun _ => false, by simp⟩

theorem Aside.trans (first : db.Aside middle) (second : middle.Aside db') : db.Aside db' := by
  obtain ⟨sessions, turns, p, actions⟩ := first
  obtain ⟨sessions', turns', p', actions'⟩ := second
  refine ⟨sessions'.trans sessions, turns'.trans turns, fun action => p action ||
    p' (if p action then action.unlinked else action), ?_⟩
  rw [actions', actions, List.map_map]
  refine List.map_congr_left fun action _ => ?_
  simp only [Function.comp_apply]
  by_cases cleared : p action = true
  · simp [cleared, AgentActionRow.unlinked]
  · simp [cleared]

theorem Aside.of_eq (sessions : db'.agentSessions = db.agentSessions)
    (turns : db'.agentTurns = db.agentTurns) (actions : db'.agentActions = db.agentActions) :
    db.Aside db' :=
  ⟨sessions, turns, fun _ => false, by simp [actions]⟩

theorem withoutExecutions_aside (db : Database) (p : ExecutionRow → Bool) :
    db.Aside (db.withoutExecutions p) :=
  ⟨rfl, rfl, _, rfl⟩

theorem aside_writes (db : Database) : ExecutionWrites db.Aside where
  event event := by
    refine Sql.Keeps.statement fun s a s' kept ran => ?_
    split at ran
    · cases ran
    · split at ran <;> cases ran
      exact kept.trans (.of_eq rfl rfl rfl)
  update keeps same := by
    refine Sql.Keeps.statement fun s a s' kept ran => ?_
    cases ran
    exact kept.trans (.of_eq rfl rfl rfl)
  delete p := by
    refine Sql.Keeps.statement fun s a s' kept ran => ?_
    cases ran
    exact kept.trans (withoutExecutions_aside s p)

theorem aside_workspaceWrites (db : Database) : WorkspaceWrites db.Aside where
  active active id := by
    refine Sql.Keeps.statement fun s a s' kept ran => ?_
    cases ran
    exact kept.trans (.of_eq rfl rfl rfl)
  insert workspace := by
    refine Sql.Keeps.statement fun s a s' kept ran => ?_
    split at ran
    · cases ran
    · split at ran
      · cases ran
      · split at ran <;> cases ran
        exact kept.trans (.of_eq rfl rfl rfl)

/-- An execution is created under a session that is recording, or nothing is changed. -/
theorem createExecution_spec (db : Database) (now : Int) (id : ExecutionId)
    (request : ExecutionRequest) (cwd : String) :
    Sql.Post StorageFault (createExecution now id request cwd) db fun r db' =>
      ((∃ e, r = .error e) ∧ db' = db) ∨ db.Aside db' ∧
        ∀ sessionId, request.initiator.sessionId = some sessionId → db.IsRecording sessionId := by
  have checked : Sql.Post StorageFault (checkSession request) db fun r db' => db' = db ∧
      ∀ u, r = .ok u → ∀ sessionId, request.initiator.sessionId = some sessionId →
        db.IsRecording sessionId := by
    unfold checkSession
    cases request.initiator.sessionId with
    | none => exact Sql.post_pure ⟨rfl, fun _ _ _ none => by cases none⟩
    | some sessionId =>
      refine Sql.post_bind (Sql.post_select (fun _ _ => ⟨rfl, by simp⟩) ?_)
      cases found : db.agentSessions.find? sessionId with
      | none => exact ⟨rfl, by simp⟩
      | some session =>
        show Sql.Post _ (ite _ _ _) db _
        split
        · exact Sql.post_fail ⟨rfl, by simp⟩
        · split
          · exact Sql.post_fail ⟨rfl, by simp⟩
          · rename_i recording
            refine Sql.post_pure ⟨rfl, fun _ _ other named => ?_⟩
            cases named
            exact ⟨session, found, Classical.not_not.mp recording⟩
  unfold createExecution
  cases request.validate with
  | error e => exact Sql.post_fail (.inl ⟨⟨e, rfl⟩, rfl⟩)
  | ok _ =>
    refine Sql.post_bind (checked.mono fun r middle looked => ?_)
    obtain ⟨rfl, recording⟩ := looked
    cases r with
    | error e => exact .inl ⟨⟨e, rfl⟩, rfl⟩
    | ok u =>
      refine Sql.post_bind (Sql.post_statement (fun e _ => .inl ⟨⟨e, rfl⟩, rfl⟩) ?_)
      split
      · rename_i inserted
        split at inserted
        · cases inserted
        · split at inserted <;> cases inserted
          have after := recording u rfl
          exact Sql.post_select (fun _ _ => .inr ⟨.of_eq rfl rfl rfl, after⟩)
            (.inr ⟨.of_eq rfl rfl rfl, after⟩)
      · exact .inl ⟨⟨_, rfl⟩, rfl⟩

theorem createAgentSession_spec (now : Int) (request : AgentSessionRequest)
    (cwd : Except Error String) :
    Sql.Post StorageFault (createAgentSession now request cwd) db fun _ db' =>
      SessionMove db (.createAgentSession now request cwd) db' := by
  have still : SessionMove db (.createAgentSession now request cwd) db := .aside (.refl db)
  unfold createAgentSession
  cases request.validate with
  | error e => exact Sql.post_fail still
  | ok _ =>
    refine Sql.post_bind ?_
    unfold getWorkspace
    refine Sql.post_select (fun _ _ => still) ?_
    split
    · cases cwd with
      | error e => exact Sql.post_fail still
      | ok cwd =>
        show Sql.Post _ (ite _ _ _) db _
        split
        · exact Sql.post_fail still
        · refine Sql.post_bind (Sql.post_statement (fun _ _ => still) ?_)
          split
          · rename_i inserted
            split at inserted
            · cases inserted
            · split at inserted <;> cases inserted
              rename_i agentSessions joined
              have opened : SessionMove db (.createAgentSession now request (.ok cwd))
                  { db with agentSessions } :=
                .opened rfl (by simp [AgentSessionRow.Kept]) joined
              exact Sql.post_select (fun _ _ => opened) opened
          · exact still
    · exact still

/-- A session that has ended is handed out as it is. -/
theorem finishAgentSession_again {fault : Error → Prop} (now : Int) {id : SessionId}
    {finish : AgentSessionFinish} {row : AgentSessionRow} (valid : finish.Valid)
    (found : db.agentSessions.find? id = some row) (terminal : row.state.isTerminal = true) :
    Sql.Post fault (finishAgentSession now id finish) db fun r db' => db' = db ∧
      (r = .ok row ∨ ∃ e, fault e ∧ r = .error e) := by
  unfold finishAgentSession
  rw [if_neg valid.1, if_neg (by simp [valid.2])]
  refine Sql.post_bind (Sql.post_select (fun e raised => ⟨rfl, .inr ⟨e, raised, rfl⟩⟩) ?_)
  rw [found]
  show Sql.Post _ (ite _ _ _) db _
  rw [if_pos terminal]
  exact Sql.post_pure ⟨rfl, .inl rfl⟩

theorem finishAgentSession_spec (db : Database) (now : Int) (id : SessionId)
    (finish : AgentSessionFinish) :
    Sql.Post StorageFault (finishAgentSession now id finish) db fun r db' =>
      match r with
      | .ok row => (db' = db ∨ db.IsRecording id ∧ finish.Valid ∧ db' = db.closed now id finish) ∧
          db'.agentSessions.find? id = some row ∧ row.state.isTerminal = true
      | .error e => db' = db ∨ e.isStorage = true ∧ db.IsRecording id ∧ finish.Valid ∧
          (db' = db.ended now id finish ∨ db' = db.closed now id finish) := by
  unfold finishAgentSession
  by_cases recording : finish.state = .recording
  · rw [if_pos recording]
    exact Sql.post_fail (.inl rfl)
  · rw [if_neg recording]
    by_cases agrees : (!finish.agrees) = true
    · rw [if_pos agrees]
      exact Sql.post_fail (.inl rfl)
    · rw [if_neg agrees]
      have valid : finish.Valid := ⟨recording, by simpa using agrees⟩
      refine Sql.post_bind (Sql.post_select (fun _ _ => .inl rfl) ?_)
      cases found : db.agentSessions.find? id with
      | none => exact .inl rfl
      | some row =>
        show Sql.Post _ (ite _ _ _) db _
        by_cases terminal : row.state.isTerminal = true
        · rw [if_pos terminal]
          exact Sql.post_pure ⟨.inl rfl, found, terminal⟩
        · rw [if_neg terminal]
          have open_ : db.IsRecording id :=
            ⟨row, found, by simpa [AgentSessionState.isTerminal] using terminal⟩
          refine Sql.post_bind (Sql.post_statement (fun _ _ => .inl rfl) ?_)
          refine Sql.post_bind (Sql.post_statement
            (fun e raised => .inr ⟨raised, open_, valid, .inl rfl⟩) ?_)
          have after : (db.closed now id finish).agentSessions.find? id =
              some (row.ended now finish) := by
            show (db.ended now id finish).agentSessions.find? id = _
            rw [ended, Table.find?_update, found, Option.map_some, Table.find?_key found]
            simp
          have isOver : (row.ended now finish).state.isTerminal = true := by
            exact decide_eq_true recording
          show Sql.Post StorageFault (getAgentSessionRecord id) (db.closed now id finish) _
          refine Sql.post_select (fun e raised => .inr ⟨raised, open_, valid, .inr rfl⟩) ?_
          rw [after]
          exact ⟨.inr ⟨open_, valid, rfl⟩, rfl, isOver⟩

/-- Each command of the actor moves the tables of the sessions, whatever becomes of it. -/
theorem command_moves (db : Database) (command : StoreCommand) :
    Sql.Post StorageFault command.program db fun _ db' => SessionMove db command db' := by
  have still : SessionMove db command db := .aside (.refl db)
  -- a program of executions and workspaces leaves the sessions aside
  have aside : ∀ {α : Type} {program : Store α}, Sql.Keeps StorageFault db.Aside program →
      Sql.Post StorageFault (program >>= fun _ => pure ()) db
        fun _ db' => SessionMove db command db' := by
    intro α program keeps
    refine Sql.post_bind ((keeps db (.refl db)).mono fun r db' kept => ?_)
    cases r with
    | ok _ => exact Sql.post_pure (.aside kept)
    | error e => exact .aside kept
  have executions := aside_writes db
  have workspaces := aside_workspaceWrites db
  cases command with
  | addWorkspace => exact aside (workspaces.addWorkspace_keeps _ _ _ _)
  | removeWorkspace =>
    exact (workspaces.removeWorkspace_keeps _ db (.refl db)).mono fun _ _ kept => .aside kept
  | createExecution now id request cwd =>
    refine Sql.post_bind ((createExecution_spec db now id request cwd).mono fun r db' created => ?_)
    have kept : db.Aside db' := by
      obtain ⟨_, rfl⟩ | ⟨kept, _⟩ := created
      · exact .refl _
      · exact kept
    cases r with
    | ok _ => exact Sql.post_pure (.aside kept)
    | error e => exact .aside kept
  | markRunning => exact aside (executions.markRunning_keeps _ _ _ _)
  | appendCaptureBatch => exact aside (executions.appendCaptureBatch_keeps _)
  | finish => exact aside (executions.finish_keeps _ _ _ _)
  | createAgentSession now request cwd =>
    refine Sql.post_bind ((createAgentSession_spec now request cwd).mono fun r db' moved => ?_)
    cases r with
    | ok _ => exact Sql.post_pure moved
    | error e => exact moved
  | finishAgentSession now id finish =>
    refine Sql.post_bind ((finishAgentSession_spec db now id finish).mono fun r db' done => ?_)
    cases r with
    | ok _ =>
      obtain ⟨rfl | ⟨recording, valid, rfl⟩, _⟩ := done
      · exact Sql.post_pure still
      · exact Sql.post_pure (.closed recording valid)
    | error e =>
      obtain rfl | ⟨_, recording, valid, rfl | rfl⟩ := done
      · exact still
      · exact .ended recording valid
      · exact .closed recording valid
  | deleteAgentSession id =>
    refine (post_deleteAgentSession_rows db id).mono fun r db' removed => ?_
    cases r with
    | ok _ =>
      obtain ⟨⟨session, found, terminal⟩, without⟩ := removed
      refine .removed ?_ without
      rintro ⟨other, there, recording⟩
      rw [found, Option.some.injEq] at there
      rw [there, recording] at terminal
      cases terminal
    | error e => exact removed ▸ still
  | recordAgentEvent now turnId actionRowId request =>
    refine Sql.post_bind ((recordAgentEvent_spec (fun _ raised => raised) now turnId
      actionRowId).mono fun r db' recorded => ?_)
    cases r with
    | ok turn =>
      obtain ⟨session, found, recording, recorded⟩ := recorded
      exact Sql.post_pure (.hooked ⟨session, found, recording⟩ recorded.hooked)
    | error e =>
      obtain rfl | ⟨_, recording, hooked⟩ := recorded
      · exact still
      · exact .hooked recording hooked
  | reconcileIncomplete =>
    exact aside (Sql.Keeps.bind Sql.Keeps.select fun ids =>
      Sql.Keeps.bind (executions.finishEach_keeps _ _ _ _) fun _ => Sql.Keeps.pure)
  | cancelQueued =>
    exact aside (Sql.Keeps.bind Sql.Keeps.select fun ids => executions.finishEach_keeps _ _ _ _)
  | prune => exact aside (executions.prune_keeps _ _ _ _)

/-! ## How things end -/

/-- What is kept of sessions, turns and actions. -/
structure SessionsKept (db : Database) : Prop where
  sessions : ∀ row ∈ db.agentSessions.rows, row.Kept
  turns : ∀ turn ∈ db.agentTurns.rows, turn.Kept ∧
    (turn.state = .active → db.IsRecording turn.sessionId)
  actions : ∀ action ∈ db.agentActions.rows, action.Kept

variable {command : StoreCommand} {request : AgentEventRequest}

theorem isRecording_congr (same : db'.agentSessions = db.agentSessions) {id : SessionId} :
    db'.IsRecording id ↔ db.IsRecording id := by
  rw [IsRecording, IsRecording, same]

theorem HookWrite.sessions (write : HookWrite request db db') :
    db'.agentSessions = db.agentSessions := by
  cases write <;> rfl

theorem Hooked.sessions (hooked : Hooked request db db') :
    db'.agentSessions = db.agentSessions := by
  induction hooked with
  | refl => rfl
  | tail _ write ih => exact write.sessions.trans ih

theorem SessionsKept.hookWrite (kept : db.SessionsKept)
    (recording : db.IsRecording request.sessionId) (write : HookWrite request db db') :
    db'.SessionsKept := by
  have ours : ∀ turn : AgentTurnRow, turn.owner = request.owner →
      turn.sessionId = request.sessionId := by
    intro turn owned
    exact congrArg Prod.fst owned
  cases write with
  | @turns p set keeps selects same =>
    refine ⟨kept.sessions, fun turn member => ?_, kept.actions⟩
    obtain ⟨old, present, rfl⟩ := (Table.mem_update keeps).mp member
    split
    · rename_i selected
      obtain ⟨owner, ends⟩ := same old
      refine ⟨ends, fun _ => ?_⟩
      rw [ours (set old) (owner.trans (selects old present selected))]
      exact recording
    · exact kept.turns old present
  | newTurn owned ends joined =>
    refine ⟨kept.sessions, fun turn member => ?_, kept.actions⟩
    rw [(Table.insert?_eq_some.mp joined).2, List.mem_append, List.mem_singleton] at member
    cases member with
    | inl old => exact kept.turns turn old
    | inr new =>
      subst new
      refine ⟨ends, fun _ => ?_⟩
      rw [ours turn owned]
      exact recording
  | actions keeps selects same =>
    refine ⟨kept.sessions, kept.turns, fun action member => ?_⟩
    obtain ⟨old, present, rfl⟩ := (Table.mem_update keeps).mp member
    split
    · exact (same old).2.2
    · exact kept.actions old present
  | newAction owned ends joined =>
    refine ⟨kept.sessions, kept.turns, fun action member => ?_⟩
    rw [(Table.insert?_eq_some.mp joined).2, List.mem_append, List.mem_singleton] at member
    cases member with
    | inl old => exact kept.actions action old
    | inr new => exact new ▸ ends

theorem SessionsKept.hooked (kept : db.SessionsKept)
    (recording : db.IsRecording request.sessionId) (hooked : Hooked request db db') :
    db'.SessionsKept := by
  induction hooked with
  | refl => exact kept
  | tail before write ih =>
    exact ih.hookWrite ((isRecording_congr (Hooked.sessions before)).mpr recording) write

theorem SessionsKept.aside (kept : db.SessionsKept) (aside : db.Aside db') :
    db'.SessionsKept := by
  obtain ⟨sessions, turns, p, actions⟩ := aside
  refine ⟨?_, ?_, ?_⟩
  · rw [sessions]
    exact kept.sessions
  · intro turn member
    rw [turns] at member
    rw [isRecording_congr sessions]
    exact kept.turns turn member
  · intro action member
    rw [actions] at member
    obtain ⟨old, present, rfl⟩ := List.mem_map.mp member
    split
    · exact kept.actions old present
    · exact kept.actions old present

theorem SessionsKept.closed (kept : db.SessionsKept) {now : Int} {id : SessionId}
    {finish : AgentSessionFinish} (valid : finish.Valid) :
    (db.closed now id finish).SessionsKept := by
  refine ⟨fun row member => ?_, fun turn member => ?_, kept.actions⟩
  · obtain ⟨old, present, rfl⟩ := (Table.mem_update (AgentSessionRow.ended_id now finish)).mp member
    split
    · exact old.ended_kept valid now
    · exact kept.sessions old present
  · obtain ⟨old, present, rfl⟩ := (Table.mem_update (AgentTurnRow.interrupted_id now)).mp member
    split
    · refine ⟨old.interrupted_kept now, fun active => ?_⟩
      cases active
    · rename_i other
      refine ⟨(kept.turns old present).1, fun active => ?_⟩
      have elsewhere : old.sessionId ≠ id := by
        simpa [active] using other
      obtain ⟨session, found, recording⟩ := (kept.turns old present).2 active
      refine ⟨session, ?_, recording⟩
      show (db.ended now id finish).agentSessions.find? old.sessionId = _
      rw [ended, Table.find?_update, found, Option.map_some, Table.find?_key found]
      simp [elsewhere]

theorem SessionsKept.move (kept : db.SessionsKept) (move : SessionMove db command db')
    (other : ∀ now id finish, command ≠ .finishAgentSession now id finish) :
    db'.SessionsKept := by
  cases move with
  | aside aside => exact kept.aside aside
  | opened recording ends joined =>
    refine ⟨fun row member => ?_, fun turn member => ?_, kept.actions⟩
    · rw [(Table.insert?_eq_some.mp joined).2, List.mem_append, List.mem_singleton] at member
      cases member with
      | inl old => exact kept.sessions row old
      | inr new => exact new ▸ ends
    · refine ⟨(kept.turns turn member).1, fun active => ?_⟩
      obtain ⟨session, found, still⟩ := (kept.turns turn member).2 active
      refine ⟨session, ?_, still⟩
      rw [Table.find?_insert joined]
      split
      · rename_i same
        have free := (Table.insert?_eq_some.mp joined).1
        rw [same, found] at free
        cases free
      · exact found
  | ended => exact absurd rfl (other _ _ _)
  | closed => exact absurd rfl (other _ _ _)
  | hooked recording hooked => exact kept.hooked recording hooked
  | @removed id _ isOver without =>
    refine ⟨fun row member => ?_, fun turn member => ?_, fun action member => ?_⟩
    · rw [without.sessions] at member
      exact kept.sessions row (List.mem_filter.mp member).1
    · rw [without.turns] at member
      obtain ⟨present, elsewhere⟩ := List.mem_filter.mp member
      refine ⟨(kept.turns turn present).1, fun active => ?_⟩
      obtain ⟨session, found, recording⟩ := (kept.turns turn present).2 active
      refine ⟨session, ?_, recording⟩
      have own := Table.find?_key found
      rw [← own] at elsewhere ⊢
      refine Table.mem_rows_iff.mp ?_
      rw [without.sessions]
      exact List.mem_filter.mpr ⟨Table.mem_of_find? found, elsewhere⟩
    · rw [without.actions] at member
      exact kept.actions action (List.mem_filter.mp member).1

/-- A finish of the command succeeds or is rejected; no other command is asked anything. -/
def Concluded (db : Database) (command : StoreCommand × List (Option String)) : Prop :=
  match command.1 with
  | .finishAgentSession now id finish =>
      match (Store.run (finishAgentSession now id finish) command.2 db).1 with
      | .ok _ => True
      | .error e => e.isStorage = false
  | _ => True

instance (db : Database) (command : StoreCommand × List (Option String)) :
    Decidable (db.Concluded command) := by
  unfold Concluded
  split
  · split <;> infer_instance
  · infer_instance

/-- Throwing the reply away leaves the database as it is. -/
theorem run_discard {α : Type} (program : Store α) (faults : List (Option String)) :
    (Store.run (program >>= fun _ => pure ()) faults db).2 = (Store.run program faults db).2 := by
  show (Sql.andThen program (fun _ => Sql.ret ()) db _).state = (program db _).state
  unfold Sql.andThen
  cases program db (faults.map (Option.map Error.database)) with
  | mk result state rest => cases result <;> rfl

theorem SessionsKept.step {faults : List (Option String)} (kept : db.SessionsKept)
    (concluded : db.Concluded (command, faults)) :
    (Store.run command.program faults db).2.SessionsKept := by
  have moves := run_of_post (command_moves db command) faults
  cases command with
  | finishAgentSession now id finish =>
    rw [StoreCommand.program, run_discard]
    have done := run_of_post (finishAgentSession_spec db now id finish) faults
    cases result : (Store.run (finishAgentSession now id finish) faults db).1 with
    | ok row =>
      rw [result] at done
      obtain ⟨same | ⟨_, valid, same⟩, _⟩ := done
      · rw [same]
        exact kept
      · rw [same]
        exact kept.closed valid
    | error e =>
      rw [result] at done
      obtain same | ⟨storage, _⟩ := done
      · rw [same]
        exact kept
      · simp only [Concluded, result] at concluded
        rw [concluded] at storage
        cases storage
  | _ => exact kept.move moves fun _ _ _ => StoreCommand.noConfusion

/-! ## Sessions that have ended -/

/-- The turns of a session. -/
def turnsOf (db : Database) (id : SessionId) : List AgentTurnRow :=
  db.agentTurns.rows.filter fun turn => turn.sessionId = id

/-- Rows that are not changed, and whose fellows do not join them, are left. -/
theorem turnsOf_update {p : AgentTurnRow → Bool} {set : AgentTurnRow → AgentTurnRow}
    (keeps : ∀ turn, (set turn).id = turn.id) {id : SessionId}
    (elsewhere : ∀ turn ∈ db.agentTurns.rows, p turn = true →
      turn.sessionId ≠ id ∧ (set turn).sessionId ≠ id) :
    turnsOf { db with agentTurns := db.agentTurns.update p set keeps } id = db.turnsOf id := by
  unfold turnsOf Table.update
  dsimp only
  generalize db.agentTurns.rows = rows at elsewhere
  induction rows with
  | nil => rfl
  | cons turn rest ih =>
    have later := ih fun other member => elsewhere other (List.mem_cons_of_mem _ member)
    rw [List.map_cons, List.filter_cons, List.filter_cons, later]
    cases selected : p turn with
    | false => rfl
    | true =>
      obtain ⟨before, after⟩ := elsewhere turn List.mem_cons_self selected
      simp [before, after]

theorem turnsOf_insert {turn : AgentTurnRow} {agentTurns : Table AgentTurnRow.id}
    (joined : db.agentTurns.insert? turn = some agentTurns) {id : SessionId}
    (elsewhere : turn.sessionId ≠ id) : turnsOf { db with agentTurns } id = db.turnsOf id := by
  unfold turnsOf
  rw [(Table.insert?_eq_some.mp joined).2, List.filter_append]
  simp [elsewhere]

theorem Hooked.turnsOf (hooked : Hooked request db db') {id : SessionId}
    (other : request.sessionId ≠ id) : db'.turnsOf id = db.turnsOf id := by
  induction hooked with
  | refl => rfl
  | @tail middle _ _ write ih =>
    refine Eq.trans ?_ ih
    cases write with
    | turns keeps selects same =>
      refine turnsOf_update keeps fun turn member selected => ?_
      have owned := selects turn member selected
      have before : turn.sessionId = request.sessionId := congrArg Prod.fst owned
      have after := congrArg Prod.fst (same turn).1
      exact ⟨before ▸ other, fun own => other (before.symm.trans (after.symm.trans own))⟩
    | newTurn owned _ joined =>
      have own := congrArg Prod.fst owned
      exact turnsOf_insert joined fun same => other (own.symm.trans same)
    | actions => rfl
    | newAction => rfl

/-- A session that has ended, and its turns, are left alone by all commands but its deletion. -/
theorem SessionMove.left (move : SessionMove db command db') {row : AgentSessionRow}
    (found : db.agentSessions.find? row.id = some row) (terminal : row.state.isTerminal = true)
    (keeps : command ≠ .deleteAgentSession row.id) :
    db'.agentSessions.find? row.id = some row ∧ db'.turnsOf row.id = db.turnsOf row.id := by
  have isOver : ∀ {id}, db.IsRecording id → id ≠ row.id := by
    rintro id ⟨session, there, recording⟩ rfl
    rw [found, Option.some.injEq] at there
    rw [there, recording] at terminal
    cases terminal
  have spared : ∀ {now id finish}, db.IsRecording id →
      (db.ended now id finish).agentSessions.find? row.id = some row := by
    intro now id finish recording
    rw [Database.ended, Table.find?_update, found, Option.map_some]
    simp [(isOver recording).symm]
  cases move with
  | aside aside =>
    obtain ⟨sessions, turns, _⟩ := aside
    rw [sessions, turnsOf, turns]
    exact ⟨found, rfl⟩
  | opened _ _ joined =>
    refine ⟨?_, rfl⟩
    rw [Table.find?_insert joined]
    split
    · rename_i same
      have free := (Table.insert?_eq_some.mp joined).1
      rw [same, found] at free
      cases free
    · exact found
  | ended recording _ => exact ⟨spared recording, rfl⟩
  | closed recording _ =>
    refine ⟨spared recording, turnsOf_update _ fun turn _ selected => ?_⟩
    simp only [Bool.and_eq_true, decide_eq_true_eq] at selected
    rw [AgentTurnRow.interrupted, selected.1]
    exact ⟨isOver recording, isOver recording⟩
  | hooked recording hooked =>
    rw [hooked.sessions]
    exact ⟨found, hooked.turnsOf (isOver recording)⟩
  | @removed id _ _ without =>
    have other : row.id ≠ id := fun same => keeps (same ▸ rfl)
    constructor
    · refine Table.mem_rows_iff.mp ?_
      rw [without.sessions]
      exact List.mem_filter.mpr ⟨Table.mem_of_find? found, by simpa using other⟩
    · rw [turnsOf, turnsOf, without.turns, List.filter_filter]
      refine List.filter_congr fun turn _ => ?_
      by_cases own : turn.sessionId = row.id
      · simp [own, other]
      · simp [own]

/-- The session `id` is not deleted. -/
def Keeping (id : SessionId) (_ : Database) (command : StoreCommand × List (Option String)) :
    Prop :=
  command.1 ≠ .deleteAgentSession id

theorem left_run {row : AgentSessionRow} (found : db.agentSessions.find? row.id = some row)
    (terminal : row.state.isTerminal = true)
    (later : storeActor.RunVia (Keeping row.id) db db') :
    db'.agentSessions.find? row.id = some row ∧ db'.turnsOf row.id = db.turnsOf row.id := by
  induction later with
  | refl => exact ⟨found, rfl⟩
  | @tail middle _ _ last ih =>
    obtain ⟨⟨command, faults⟩, keeps, enabled⟩ := last
    obtain ⟨there, same⟩ := ih
    have moves := run_of_post (command_moves middle command) faults
    rw [Option.some.inj enabled] at moves
    obtain ⟨still, turns⟩ := moves.left there terminal keeps
    exact ⟨still, turns.trans same⟩

end Database

theorem storeActor_sessionsKept {db : Database}
    (reached : storeActor.ReachableVia Database.Concluded db) : db.SessionsKept := by
  apply reached.invariant Database.SessionsKept
  · intro first new
    have empty : first = newDatabase := new
    subst empty
    exact ⟨fun _ none => (by cases none), fun _ none => (by cases none),
      fun _ none => (by cases none)⟩
  · intro before command after _ kept concluded enabled
    obtain ⟨command, faults⟩ := command
    rw [← Option.some.inj enabled]
    exact kept.step concluded

open Database in
/-- In every run whose finishes succeed or are rejected: a session is recording as long as it has
no end and no outcome, and is interrupted as its outcome says; a turn is active as long as it has
no end, and then its session is recording; an action is running as long as it has no end. What
has ended stays as it is until it is deleted: nothing is added to its turns, and finishing it
again returns the first result. No execution is created under what is not recording. -/
theorem agent_session_lifecycle {db : Database}
    (reached : storeActor.ReachableVia Concluded db) :
    (∀ row ∈ db.agentSessions.rows,
      (row.state = .recording ↔ row.endedAtMs = none) ∧
      (row.state = .recording ↔ row.outcome = none) ∧
      (row.state = .interrupted ↔ ∃ reason, row.outcome = some (.interrupted reason))) ∧
    (∀ turn ∈ db.agentTurns.rows, (turn.endedAtMs = none ↔ turn.state = .active) ∧
      (turn.state = .active → db.IsRecording turn.sessionId)) ∧
    (∀ action ∈ db.agentActions.rows, action.endedAtMs = none ↔ action.state = .running) ∧
    (∀ now id finish faults row db',
      Store.run (finishAgentSession now id finish) faults db = (.ok row, db') →
        row.id = id ∧ row.state.isTerminal = true ∧ row ∈ db'.agentSessions.rows) ∧
    (∀ row ∈ db.agentSessions.rows, row.state.isTerminal = true →
      ∀ db', storeActor.RunVia (Keeping row.id) db db' →
        row ∈ db'.agentSessions.rows ∧ db'.turnsOf row.id = db.turnsOf row.id ∧
        ∀ now finish faults, finish.Valid →
          (Store.run (finishAgentSession now row.id finish) faults db').2 = db' ∧
          ((Store.run (finishAgentSession now row.id finish) faults db').1 = .ok row ∨
            ∃ e, e.isStorage = true ∧
              (Store.run (finishAgentSession now row.id finish) faults db').1 = .error e)) ∧
    ∀ now id request cwd faults sessionId, request.initiator.sessionId = some sessionId →
      ¬ db.IsRecording sessionId →
        ∃ e, Store.run (createExecution now id request cwd) faults db = (.error e, db) := by
  have kept := storeActor_sessionsKept reached
  refine ⟨kept.sessions, kept.turns, kept.actions, ?_, ?_, ?_⟩
  · intro now id finish faults row db' ran
    have done := run_of_post (finishAgentSession_spec db now id finish) faults
    rw [ran] at done
    exact ⟨Table.find?_key done.2.1, done.2.2, Table.mem_of_find? done.2.1⟩
  · intro row member terminal db' later
    obtain ⟨found, turns⟩ := left_run (Table.mem_rows_iff.mp member) terminal later
    refine ⟨Table.mem_of_find? found, turns, ?_⟩
    intro now finish faults valid
    exact run_of_post (finishAgentSession_again now valid found terminal) faults
  · intro now id request cwd faults sessionId named isOver
    have created := run_of_post (createExecution_spec db now id request cwd) faults
    obtain ⟨⟨e, failed⟩, same⟩ | ⟨_, recording⟩ := created
    · exact ⟨e, Prod.ext failed same⟩
    · exact absurd (recording sessionId named) isOver

/-- A recording with a turn and an action, which is finished and then finished again. -/
def sampleRecording : List (StoreCommand × List (Option String)) :=
  sampleCommands.take 9 ++
    [(.finishAgentSession 9 "s" ⟨.interrupted, .interrupted "gone", 10, false⟩, []),
     (.finishAgentSession 12 "s" ⟨.finished, .exited 0, 20, false⟩, [])]

theorem agent_session_lifecycle_sample :
    ∃ db, storeActor.ReachableVia Database.Concluded db ∧
      db.agentSessions.rows.map (fun row => (row.state, row.endedAtMs)) =
        [(.interrupted, some 9)] ∧
      db.agentTurns.rows.map (fun turn => (turn.state, turn.endedAtMs)) =
        [(.interrupted, some 9)] ∧
      ∀ turn ∈ db.agentTurns.rows, turn.endedAtMs = none ↔ turn.state = .active := by
  have ran : (storeActor.runIf Database.Concluded newDatabase sampleRecording).map (fun db =>
      (db.agentSessions.rows.map (fun row => (row.state, row.endedAtMs)),
        db.agentTurns.rows.map (fun turn => (turn.state, turn.endedAtMs)))) =
      some ([(.interrupted, some 9)], [(.interrupted, some 9)]) := by decide +kernel
  obtain ⟨db, replay, seen⟩ := Option.map_eq_some_iff.mp ran
  obtain ⟨sessions, turns⟩ := Prod.mk.inj seen
  have reached := (System.ReachableVia.start rfl).run (System.runIf_runVia replay)
  exact ⟨db, reached, sessions, turns,
    fun turn member => ((agent_session_lifecycle reached).2.1 turn member).1⟩

end Loomterm
