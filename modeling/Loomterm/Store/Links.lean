import Loomterm.Misc.System
import Loomterm.Store.Sessions

/-!
# Links between sessions and executions

Every row that names a row of another table names one that is there, and what a session
and its hooks name is in the session's own workspace. The invariant is proved statement by
statement; the rules of `Sql.Keeps` carry it through the operations.
-/

namespace Loomterm

namespace Database

/-! ## Operations on executions -/

/-- The writing statements of the operations on executions keep `Inv`. -/
structure ExecutionWrites (Inv : Database → Prop) : Prop where
  event : ∀ event, Sql.Keeps StorageFault Inv (insertEvent event)
  update : ∀ {id : ExecutionId} {set : ExecutionRow → ExecutionRow}
    (keeps : ∀ row, (set row).id = row.id),
    (∀ row, (set row).workspaceId = row.workspaceId ∧ (set row).sessionId = row.sessionId ∧
      (set row).initiator = row.initiator) →
    Sql.Keeps StorageFault Inv (updateExecution id set keeps)
  delete : ∀ p, Sql.Keeps StorageFault Inv (deleteExecutions p)

namespace ExecutionWrites

variable {Inv : Database → Prop} (writes : ExecutionWrites Inv)
include writes

/-- Numbering an event, writing it and updating its execution. -/
theorem write_keeps {id : ExecutionId} {event : Nat → ExecutionEvent}
    {set : Nat → ExecutionRow → ExecutionRow} (keeps : ∀ seq row, (set seq row).id = row.id)
    (same : ∀ seq row, (set seq row).workspaceId = row.workspaceId ∧
      (set seq row).sessionId = row.sessionId ∧ (set seq row).initiator = row.initiator) :
    Sql.Keeps StorageFault Inv (do
      let seq ← nextSeq id
      insertEvent (event seq)
      updateExecution id (set seq) (keeps seq)
      pure (event seq)) := by
  refine Sql.Keeps.bind Sql.Keeps.select fun seq => ?_
  refine Sql.Keeps.bind (writes.event _) fun _ => ?_
  refine Sql.Keeps.bind (writes.update (keeps seq) (same seq)) fun _ => ?_
  exact Sql.Keeps.pure

theorem markRunning_keeps (now : Int) (id : ExecutionId) (pid : Nat) (pgid : Int) :
    Sql.Keeps StorageFault Inv (markRunning now id pid pgid) := by
  refine Sql.Keeps.transaction (Sql.Keeps.bind Sql.Keeps.select fun state => ?_)
  refine Sql.Keeps.ite Sql.Keeps.fail ?_
  exact writes.write_keeps (by intros; rfl) (by intros; exact ⟨rfl, rfl, rfl⟩)

theorem appendRecords_keeps (records : List CaptureRecord) :
    Sql.Keeps StorageFault Inv (appendRecords records) := by
  induction records with
  | nil => exact Sql.Keeps.pure
  | cons record rest ih =>
    refine Sql.Keeps.bind ?_ fun event => Sql.Keeps.bind ih fun events => Sql.Keeps.pure
    cases record with
    | output => exact writes.write_keeps (by intros; rfl) (by intros; exact ⟨rfl, rfl, rfl⟩)
    | truncated => exact writes.write_keeps (by intros; rfl) (by intros; exact ⟨rfl, rfl, rfl⟩)

theorem appendCaptureBatch_keeps (records : List CaptureRecord) :
    Sql.Keeps StorageFault Inv (appendCaptureBatch records) := by
  cases records with
  | nil => exact Sql.Keeps.pure
  | cons record rest => exact Sql.Keeps.transaction (writes.appendRecords_keeps _)

theorem finish_keeps (now : Int) (id : ExecutionId) (state : ExecutionState)
    (outcome : ExecutionOutcome) :
    Sql.Keeps StorageFault Inv (finish now id state outcome) := by
  refine Sql.Keeps.transaction (Sql.Keeps.bind Sql.Keeps.select fun current => ?_)
  refine Sql.Keeps.ite Sql.Keeps.fail ?_
  exact writes.write_keeps (by intros; rfl) (by intros; exact ⟨rfl, rfl, rfl⟩)

theorem finishEach_keeps (now : ExecutionId → Int) (state : ExecutionState)
    (outcome : ExecutionOutcome) (ids : List ExecutionId) :
    Sql.Keeps StorageFault Inv (finishEach now state outcome ids) := by
  induction ids with
  | nil => exact Sql.Keeps.pure
  | cons id rest ih =>
    refine Sql.Keeps.bind (writes.finish_keeps _ _ _ _) fun event => ?_
    exact Sql.Keeps.bind ih fun events => Sql.Keeps.pure

theorem pruneCandidates_keeps (excess : Nat) (candidates : List ExecutionRow) :
    Sql.Keeps StorageFault Inv (pruneCandidates excess candidates) := by
  induction candidates generalizing excess with
  | nil => exact Sql.Keeps.pure
  | cons row rest ih =>
    refine Sql.Keeps.ite Sql.Keeps.pure ?_
    refine Sql.Keeps.bind (writes.delete _) fun removed => ?_
    exact Sql.Keeps.bind (ih _) fun more => Sql.Keeps.pure

theorem prune_keeps (order : EndOrder) (now : Int) (retentionDays retentionBytes : Nat) :
    Sql.Keeps StorageFault Inv (prune order now retentionDays retentionBytes) := by
  refine Sql.Keeps.transaction (Sql.Keeps.bind (writes.delete _) fun removed => ?_)
  refine Sql.Keeps.bind Sql.Keeps.select fun total => ?_
  refine Sql.Keeps.ite ?_ Sql.Keeps.pure
  refine Sql.Keeps.bind Sql.Keeps.select fun candidates => ?_
  exact Sql.Keeps.bind (writes.pruneCandidates_keeps _ _) fun more => Sql.Keeps.pure

end ExecutionWrites

/-! ## The invariant -/

/-- The workspace of a session. -/
def sessionWorkspace (db : Database) (id : SessionId) : Option WorkspaceId :=
  (db.agentSessions.find? id).map (·.workspaceId)

/-- The workspace of an execution. -/
def executionWorkspace (db : Database) (id : ExecutionId) : Option WorkspaceId :=
  (db.executions.find? id).map (·.workspaceId)

/-- The session of a turn. -/
def turnSession (db : Database) (id : String) : Option SessionId :=
  (db.agentTurns.find? id).map (·.sessionId)

/-- The column agrees with the stored initiator, and names a session of the workspace. -/
def ExecutionLinked (db : Database) (row : ExecutionRow) : Prop :=
  row.sessionId = row.initiator.sessionId ∧
    ∀ id, row.sessionId = some id → db.sessionWorkspace id = some row.workspaceId

/-- The turn's session is there. -/
def TurnLinked (db : Database) (turn : AgentTurnRow) : Prop :=
  ∃ workspaceId, db.sessionWorkspace turn.sessionId = some workspaceId

/-- The action's turn is there, and the execution it names is in the workspace of the
turn's session. -/
def ActionLinked (db : Database) (action : AgentActionRow) : Prop :=
  ∃ sessionId workspaceId, db.turnSession action.turnId = some sessionId ∧
    db.sessionWorkspace sessionId = some workspaceId ∧
    ∀ id, action.executionId = some id → db.executionWorkspace id = some workspaceId

/-- Every link leads to a row, and stays inside one workspace. -/
structure LinksKept (db : Database) : Prop where
  executions : ∀ row ∈ db.executions.rows, db.ExecutionLinked row
  turns : ∀ turn ∈ db.agentTurns.rows, db.TurnLinked turn
  actions : ∀ action ∈ db.agentActions.rows, db.ActionLinked action

/-- What can be looked up in `db` can be looked up in `db'` with the same answer. -/
structure Extends (db db' : Database) : Prop where
  sessions : ∀ id w, db.sessionWorkspace id = some w → db'.sessionWorkspace id = some w
  turns : ∀ id s, db.turnSession id = some s → db'.turnSession id = some s
  executions : ∀ id w, db.executionWorkspace id = some w → db'.executionWorkspace id = some w

section
variable {db db' : Database}

theorem Extends.executionLinked (grown : db.Extends db') {row : ExecutionRow}
    (linked : db.ExecutionLinked row) : db'.ExecutionLinked row :=
  ⟨linked.1, fun id named => grown.sessions id _ (linked.2 id named)⟩

theorem Extends.turnLinked (grown : db.Extends db') {turn : AgentTurnRow}
    (linked : db.TurnLinked turn) : db'.TurnLinked turn := by
  obtain ⟨workspaceId, found⟩ := linked
  exact ⟨workspaceId, grown.sessions _ _ found⟩

theorem Extends.actionLinked (grown : db.Extends db') {action : AgentActionRow}
    (linked : db.ActionLinked action) : db'.ActionLinked action := by
  obtain ⟨sessionId, workspaceId, turn, session, named⟩ := linked
  exact ⟨sessionId, workspaceId, grown.turns _ _ turn, grown.sessions _ _ session,
    fun id link => grown.executions _ _ (named id link)⟩

/-! ## Statements -/

/-- A statement that adds rows or rewrites other columns keeps the links when the rows it
writes are linked. -/
theorem LinksKept.extend (kept : db.LinksKept) (grown : db.Extends db')
    (executions : ∀ row ∈ db'.executions.rows, row ∈ db.executions.rows ∨ db'.ExecutionLinked row)
    (turns : ∀ turn ∈ db'.agentTurns.rows, turn ∈ db.agentTurns.rows ∨ db'.TurnLinked turn)
    (actions : ∀ action ∈ db'.agentActions.rows,
      action ∈ db.agentActions.rows ∨ db'.ActionLinked action) : db'.LinksKept where
  executions row member := by
    cases executions row member with
    | inl old => exact grown.executionLinked (kept.executions row old)
    | inr new => exact new
  turns turn member := by
    cases turns turn member with
    | inl old => exact grown.turnLinked (kept.turns turn old)
    | inr new => exact new
  actions action member := by
    cases actions action member with
    | inl old => exact grown.actionLinked (kept.actions action old)
    | inr new => exact new

/-- Writing tables that carry no link. -/
theorem LinksKept.frame (kept : db.LinksKept) (sessions : db'.agentSessions = db.agentSessions)
    (executions : db'.executions = db.executions) (turns : db'.agentTurns = db.agentTurns)
    (actions : db'.agentActions = db.agentActions) : db'.LinksKept := by
  refine kept.extend ⟨?_, ?_, ?_⟩ ?_ ?_ ?_
  · simp [sessionWorkspace, sessions]
  · simp [turnSession, turns]
  · simp [executionWorkspace, executions]
  · exact fun row member => .inl (executions ▸ member)
  · exact fun turn member => .inl (turns ▸ member)
  · exact fun action member => .inl (actions ▸ member)

/-- Rewriting executions without touching their links. -/
theorem LinksKept.updateExecutions (kept : db.LinksKept) (p : ExecutionRow → Bool)
    (set : ExecutionRow → ExecutionRow) (keeps : ∀ row, (set row).id = row.id)
    (same : ∀ row, (set row).workspaceId = row.workspaceId ∧ (set row).sessionId = row.sessionId ∧
      (set row).initiator = row.initiator) :
    ({ db with executions := db.executions.update p set keeps } : Database).LinksKept := by
  refine kept.extend ⟨fun _ _ found => found, fun _ _ found => found, fun id w found => ?_⟩
    (fun row member => .inr ?_) (fun _ member => .inl member) (fun _ member => .inl member)
  · have kept_workspace := fun row => (same row).1
    exact (Table.find?_update_map keeps kept_workspace id).trans found
  · obtain ⟨old, present, rfl⟩ := (Table.mem_update keeps).mp member
    have linked := kept.executions old present
    split
    · obtain ⟨workspace, session, initiator⟩ := same old
      refine ⟨?_, fun id named => ?_⟩
      · rw [session, initiator]
        exact linked.1
      · rw [workspace]
        exact linked.2 id (session ▸ named)
    · exact linked

theorem LinksKept.updateTurns (kept : db.LinksKept) (p : AgentTurnRow → Bool)
    (set : AgentTurnRow → AgentTurnRow) (keeps : ∀ row, (set row).id = row.id)
    (same : ∀ row, (set row).sessionId = row.sessionId) :
    ({ db with agentTurns := db.agentTurns.update p set keeps } : Database).LinksKept := by
  refine kept.extend ⟨fun _ _ found => found, fun id s found => ?_, fun _ _ found => found⟩
    (fun _ member => .inl member) (fun turn member => .inr ?_) (fun _ member => .inl member)
  · exact (Table.find?_update_map keeps same id).trans found
  · obtain ⟨old, present, rfl⟩ := (Table.mem_update keeps).mp member
    obtain ⟨workspaceId, found⟩ := kept.turns old present
    refine ⟨workspaceId, ?_⟩
    split
    · exact (same old).symm ▸ found
    · exact found

theorem LinksKept.updateSessions (kept : db.LinksKept) (p : AgentSessionRow → Bool)
    (set : AgentSessionRow → AgentSessionRow) (keeps : ∀ row, (set row).id = row.id)
    (same : ∀ row, (set row).workspaceId = row.workspaceId) :
    ({ db with agentSessions := db.agentSessions.update p set keeps } : Database).LinksKept := by
  refine kept.extend ⟨fun id w found => ?_, fun _ _ found => found, fun _ _ found => found⟩
    (fun _ member => .inl member) (fun _ member => .inl member) (fun _ member => .inl member)
  exact (Table.find?_update_map keeps same id).trans found

/-- A row that joins a table leaves the lookups that were answered as they were. -/
theorem find?_insert_map {κ ρ β : Type} [DecidableEq κ] {key : ρ → κ} {t t' : Table key} {r : ρ}
    (inserted : t.insert? r = some t') {g : ρ → β} {k : κ} {b : β}
    (found : (t.find? k).map g = some b) : (t'.find? k).map g = some b := by
  rw [Table.find?_insert inserted]
  split
  · rename_i same
    have free := (Table.insert?_eq_some.mp inserted).1
    rw [same] at free
    simp [free] at found
  · exact found

theorem LinksKept.insertExecution (kept : db.LinksKept) {row : ExecutionRow}
    {executions : Table ExecutionRow.id} (inserted : db.executions.insert? row = some executions)
    (linked : db.ExecutionLinked row) : ({ db with executions } : Database).LinksKept := by
  refine kept.extend ⟨fun _ _ found => found, fun _ _ found => found,
      fun _ _ found => find?_insert_map inserted found⟩
    (fun other member => ?_) (fun _ member => .inl member) (fun _ member => .inl member)
  rw [(Table.insert?_eq_some.mp inserted).2, List.mem_append, List.mem_singleton] at member
  cases member with
  | inl old => exact .inl old
  | inr new => exact .inr (new ▸ linked)

theorem LinksKept.insertSession (kept : db.LinksKept) {row : AgentSessionRow}
    {agentSessions : Table AgentSessionRow.id}
    (inserted : db.agentSessions.insert? row = some agentSessions) :
    ({ db with agentSessions } : Database).LinksKept :=
  kept.extend ⟨fun _ _ found => find?_insert_map inserted found, fun _ _ found => found,
      fun _ _ found => found⟩
    (fun _ member => .inl member) (fun _ member => .inl member) (fun _ member => .inl member)

theorem LinksKept.insertTurn (kept : db.LinksKept) {turn : AgentTurnRow}
    {agentTurns : Table AgentTurnRow.id} (inserted : db.agentTurns.insert? turn = some agentTurns)
    (linked : db.TurnLinked turn) : ({ db with agentTurns } : Database).LinksKept := by
  refine kept.extend ⟨fun _ _ found => found, fun _ _ found => find?_insert_map inserted found,
      fun _ _ found => found⟩
    (fun _ member => .inl member) (fun other member => ?_) (fun _ member => .inl member)
  rw [(Table.insert?_eq_some.mp inserted).2, List.mem_append, List.mem_singleton] at member
  cases member with
  | inl old => exact .inl old
  | inr new => exact .inr (new ▸ linked)

/-- Removed executions take their links with them. -/
theorem LinksKept.withoutExecutions (kept : db.LinksKept) (p : ExecutionRow → Bool) :
    (db.withoutExecutions p).LinksKept := by
  refine ⟨fun row member => ?_, fun turn member => kept.turns turn member, fun action member => ?_⟩
  · exact kept.executions row (Table.mem_delete.mp member).1
  · have keeps (action : AgentActionRow) :
        ({ action with executionId := none } : AgentActionRow).id = action.id := rfl
    obtain ⟨old, present, rfl⟩ := (Table.mem_update keeps).mp member
    obtain ⟨sessionId, workspaceId, turn, session, named⟩ := kept.actions old present
    split
    · exact ⟨sessionId, workspaceId, turn, session, fun _ none => by cases none⟩
    · rename_i stays
      refine ⟨sessionId, workspaceId, turn, session, fun id link => ?_⟩
      have before := named id link
      show ((db.executions.delete p).find? id).map _ = _
      rw [Table.find?_delete]
      cases found : db.executions.find? id with
      | none => simp [executionWorkspace, found] at before
      | some row =>
        have remains : p row = false := by
          by_contra gone
          refine stays ?_
          simp only [link, Option.any_some, List.any_eq_true, Bool.and_eq_true,
            decide_eq_true_eq]
          exact ⟨row, Table.mem_of_find? found, Table.find?_key found, by simpa using gone⟩
        simpa [executionWorkspace, found, remains] using before

theorem LinksKept.writes : ExecutionWrites LinksKept where
  event event := by
    refine Sql.Keeps.statement fun s a s' kept ran => ?_
    split at ran
    · cases ran
    · split at ran <;> cases ran
      exact kept.frame rfl rfl rfl rfl
  update keeps same := by
    refine Sql.Keeps.statement fun s a s' kept ran => ?_
    cases ran
    exact kept.updateExecutions _ _ keeps same
  delete p := by
    refine Sql.Keeps.statement fun s a s' kept ran => ?_
    cases ran
    exact kept.withoutExecutions p

/-! ## Creating an execution -/

/-- A session that passes the checks of `create_execution` is in the request's workspace. -/
theorem post_checkSession_ok (request : ExecutionRequest) :
    Sql.Post StorageFault (checkSession request) db fun r db' => db' = db ∧ ∀ u, r = .ok u →
      ∀ id, request.initiator.sessionId = some id →
        db.sessionWorkspace id = some request.workspaceId := by
  unfold checkSession
  cases request.initiator.sessionId with
  | none => exact Sql.post_pure ⟨rfl, fun _ _ _ none => by cases none⟩
  | some sessionId =>
    refine Sql.post_bind (Sql.post_select (fun _ _ => ⟨rfl, by simp⟩) ?_)
    cases found : db.agentSessions.find? sessionId with
    | none => exact ⟨rfl, by simp⟩
    | some session =>
      show Sql.Post _ (ite _ _ _) db _
      by_cases elsewhere : session.workspaceId ≠ request.workspaceId
      · rw [if_pos elsewhere]
        exact Sql.post_fail ⟨rfl, by simp⟩
      · rw [if_neg elsewhere]
        have same : session.workspaceId = request.workspaceId := Classical.not_not.mp elsewhere
        by_cases ended : session.state ≠ .recording
        · rw [if_pos ended]
          exact Sql.post_fail ⟨rfl, by simp⟩
        · rw [if_neg ended]
          refine Sql.post_pure ⟨rfl, fun _ _ id named => ?_⟩
          cases named
          simp [sessionWorkspace, found, same]

theorem createExecution_keeps (now : Int) (id : ExecutionId) (request : ExecutionRequest)
    (cwd : String) : Sql.Keeps StorageFault LinksKept (createExecution now id request cwd) := by
  intro db kept
  unfold createExecution
  cases request.validate with
  | error e => exact Sql.post_fail kept
  | ok _ =>
    refine Sql.post_bind ((post_checkSession_ok request).mono fun r middle checked => ?_)
    obtain ⟨rfl, allowed⟩ := checked
    cases r with
    | error e => exact kept
    | ok u =>
      have linked : middle.ExecutionLinked (queuedRow now id request cwd) :=
        ⟨rfl, fun sessionId named => allowed u rfl sessionId named⟩
      refine Sql.post_bind (Sql.post_statement (fun _ _ => kept) ?_)
      split
      · rename_i inserted
        split at inserted
        · cases inserted
        · split at inserted <;> cases inserted
          rename_i executions joined
          have after := kept.insertExecution joined linked
          exact Sql.post_select (fun _ _ => after) after
      · exact kept

/-! ## Operations on sessions -/

theorem createAgentSession_keeps (now : Int) (request : AgentSessionRequest)
    (cwd : Except Error String) :
    Sql.Keeps StorageFault LinksKept (createAgentSession now request cwd) := by
  unfold createAgentSession
  cases request.validate with
  | error e => exact Sql.Keeps.fail
  | ok _ =>
    refine Sql.Keeps.bind Sql.Keeps.select fun workspace => ?_
    cases cwd with
    | error e => exact Sql.Keeps.fail
    | ok cwd =>
      refine Sql.Keeps.ite Sql.Keeps.fail ?_
      refine Sql.Keeps.bind (Sql.Keeps.statement fun s a s' kept ran => ?_) fun _ =>
        Sql.Keeps.select
      split at ran
      · cases ran
      · split at ran <;> cases ran
        rename_i agentSessions joined
        exact kept.insertSession joined

theorem updateTurns_keeps {p : AgentTurnRow → Bool} {set : AgentTurnRow → AgentTurnRow}
    (keeps : ∀ row, (set row).id = row.id) (same : ∀ row, (set row).sessionId = row.sessionId) :
    Sql.Keeps StorageFault LinksKept (updateTurns p set keeps) := by
  refine Sql.Keeps.statement fun s a s' kept ran => ?_
  cases ran
  exact kept.updateTurns p set keeps same

theorem finishAgentSession_keeps (now : Int) (id : SessionId) (finish : AgentSessionFinish) :
    Sql.Keeps StorageFault LinksKept (finishAgentSession now id finish) := by
  refine Sql.Keeps.ite Sql.Keeps.fail (Sql.Keeps.ite Sql.Keeps.fail ?_)
  refine Sql.Keeps.bind Sql.Keeps.select fun current => Sql.Keeps.ite Sql.Keeps.pure ?_
  refine Sql.Keeps.bind (Sql.Keeps.statement fun s a s' kept ran => ?_) fun _ => ?_
  · cases ran
    exact kept.updateSessions _ _ (by intros; rfl) (by intros; rfl)
  · exact Sql.Keeps.bind (updateTurns_keeps (by intros; rfl) (by intros; rfl)) fun _ =>
      Sql.Keeps.select

/-! ## Hook events -/

/-- The session of `request` is there and belongs to `workspaceId`. -/
abbrev Recording (db : Database) (request : AgentEventRequest) (workspaceId : WorkspaceId) :
    Prop :=
  db.LinksKept ∧ db.sessionWorkspace request.sessionId = some workspaceId

variable {request : AgentEventRequest} {workspaceId : WorkspaceId}

/-- What a lookup or a new turn leaves behind: the turn is one of the request's session. -/
def TurnReady (request : AgentEventRequest) (workspaceId : WorkspaceId)
    (r : Except Error AgentTurnRow) (db' : Database) : Prop :=
  db'.Recording request workspaceId ∧
    ∀ turn, r = .ok turn → db'.turnSession turn.id = some request.sessionId

theorem owned_turnSession {turn : AgentTurnRow} (member : turn ∈ db.agentTurns.rows)
    (owned : request.owns turn = true) : db.turnSession turn.id = some request.sessionId := by
  simp only [AgentEventRequest.owns, Bool.and_eq_true, decide_eq_true_eq] at owned
  have found := Table.mem_rows_iff.mp member
  simp [turnSession, found, owned.1.1]

theorem post_findProviderTurn :
    Sql.Post StorageFault (findProviderTurn request) db fun r db' => db' = db ∧
      ∀ turn, r = .ok (some turn) → db.turnSession turn.id = some request.sessionId := by
  unfold findProviderTurn
  cases request.providerTurnId with
  | none => exact Sql.post_pure ⟨rfl, by simp⟩
  | some providerTurnId =>
    refine Sql.post_select (fun _ _ => ⟨rfl, by simp⟩) ⟨rfl, fun turn found => ?_⟩
    have first := Except.ok.inj found
    have selected := List.find?_some first
    rw [Bool.and_eq_true] at selected
    exact owned_turnSession (List.mem_of_find?_eq_some first) selected.1

theorem post_findActiveTurn :
    Sql.Post StorageFault (findActiveTurn request) db fun r db' => db' = db ∧
      ∀ turn, r = .ok (some turn) → db.turnSession turn.id = some request.sessionId := by
  refine Sql.post_select (fun _ _ => ⟨rfl, by simp⟩) ⟨rfl, fun turn found => ?_⟩
  have first := List.mem_of_mem_head? (Except.ok.inj found)
  have selected := (List.perm_insertionSort _ _).mem_iff.mp first
  obtain ⟨member, active⟩ := List.mem_filter.mp (List.mem_reverse.mp selected)
  rw [Bool.and_eq_true] at active
  exact owned_turnSession member active.1

theorem post_insertAgentTurn (recording : db.Recording request workspaceId) (id prompt : String)
    (createdAtMs : Int) :
    Sql.Post StorageFault (insertAgentTurn id request prompt createdAtMs) db
      (TurnReady request workspaceId) := by
  have idle (e : Error) : TurnReady request workspaceId (.error e) db := ⟨recording, by simp⟩
  refine Sql.post_bind (Sql.post_statement (fun e _ => idle e) ?_)
  split
  · rename_i ran
    split at ran
    · cases ran
    · split at ran
      · cases ran
      · split at ran <;> cases ran
        rename_i agentTurns joined
        have linked := recording.1.insertTurn joined ⟨workspaceId, recording.2⟩
        refine Sql.post_select (fun _ _ => ⟨⟨linked, recording.2⟩, by simp⟩) ?_
        refine ⟨⟨linked, recording.2⟩, fun turn found => ?_⟩
        have new := Table.find?_insert joined id
        simp only [if_true] at new
        simp only [new, Except.ok.injEq] at found
        subst found
        simp [turnSession, new]
  · exact idle _

theorem post_findOrCreate (recording : db.Recording request workspaceId) (id : String)
    (createdAtMs : Int) :
    Sql.Post StorageFault (findOrCreateAgentTurn id request createdAtMs) db
      (TurnReady request workspaceId) := by
  have look : Sql.Post StorageFault
      (if request.providerTurnId.isSome then findProviderTurn request else findActiveTurn request)
      db fun r db' => db' = db ∧
        ∀ turn, r = .ok (some turn) → db.turnSession turn.id = some request.sessionId := by
    split
    · exact post_findProviderTurn
    · exact post_findActiveTurn
  refine Sql.post_bind (look.mono fun r db' looked => ?_)
  obtain ⟨rfl, found⟩ := looked
  cases r with
  | error e => exact ⟨recording, by simp⟩
  | ok existing =>
    cases existing with
    | none => exact post_insertAgentTurn recording id "" createdAtMs
    | some turn =>
      refine Sql.post_pure ⟨recording, fun same equal => ?_⟩
      cases equal
      exact found turn rfl

/-- The execution that an action may be linked to is in the session's workspace. -/
theorem post_knownExecution (workspaceId : WorkspaceId) (executionId : Option ExecutionId) :
    Sql.Post StorageFault (knownExecution workspaceId executionId) db fun r db' => db' = db ∧
      ∀ id, r = .ok (some id) → db.executionWorkspace id = some workspaceId := by
  cases executionId with
  | none => exact Sql.post_pure ⟨rfl, by simp⟩
  | some id =>
    have looked : Sql.Post StorageFault (Sql.attempt (Sql.select fun db : Database =>
        .ok (db.executions.rows.any fun row => row.id = id && row.workspaceId = workspaceId)))
        db fun r db' => db' = db ∧ ∃ found, r = .ok found ∧
          (found = some true → db.executionWorkspace id = some workspaceId) := by
      refine Sql.post_attempt (Sql.post_select (fun _ _ => ⟨rfl, none, rfl, by simp⟩) ?_)
      refine ⟨rfl, _, rfl, fun there => ?_⟩
      simp only [Option.some.injEq, List.any_eq_true, Bool.and_eq_true, decide_eq_true_eq] at there
      obtain ⟨row, member, rfl, same⟩ := there
      have found := Table.mem_rows_iff.mp member
      simp [executionWorkspace, found, same]
    refine Sql.post_bind (looked.mono fun r db' held => ?_)
    obtain ⟨rfl, found, rfl, known⟩ := held
    refine Sql.post_pure ⟨rfl, fun other named => ?_⟩
    split at named
    · rename_i there
      cases named
      exact known there
    · cases named

/-- Writing an action of one of the session's turns keeps the links, when the execution it
brings is in the session's workspace. -/
theorem post_upsertAction (recording : db.Recording request workspaceId)
    {action : AgentActionRow} {set : AgentActionRow → AgentActionRow}
    (keeps : ∀ row, (set row).id = row.id)
    (turn : db.turnSession action.turnId = some request.sessionId)
    (link : ∀ id, action.executionId = some id → db.executionWorkspace id = some workspaceId)
    (same : ∀ row, (set row).turnId = row.turnId)
    (brings : ∀ row id, (set row).executionId = some id →
      action.executionId = some id ∨ row.executionId = some id) :
    Sql.Post StorageFault (upsertAction action set keeps) db fun _ db' => db'.LinksKept := by
  refine Sql.post_statement (fun _ _ => recording.1) ?_
  split
  · rename_i ran
    split at ran
    · cases ran
    · split at ran
      · cases ran
      · rename_i agentActions joined
        have grown (table) : db.Extends { db with agentActions := table } :=
          ⟨fun _ _ found => found, fun _ _ found => found, fun _ _ found => found⟩
        dsimp only at ran
        split at ran <;> cases ran
        · refine recording.1.extend (grown _) (fun _ member => .inl member)
            (fun _ member => .inl member) fun row member => .inr ?_
          obtain ⟨old, present, rfl⟩ := (Table.mem_update keeps).mp member
          obtain ⟨sessionId, owner, ofTurn, ofSession, named⟩ := recording.1.actions old present
          split
          · -- the row is of the same turn, so it is of the same session and workspace
            rename_i conflicts
            simp only [Bool.and_eq_true, decide_eq_true_eq] at conflicts
            rw [conflicts.1, turn, Option.some.injEq] at ofTurn
            rw [← ofTurn, recording.2, Option.some.injEq] at ofSession
            refine ⟨request.sessionId, workspaceId, ?_, recording.2, fun id brought => ?_⟩
            · rw [same, conflicts.1]
              exact turn
            · cases brings old id brought with
              | inl new => exact link id new
              | inr kept => exact ofSession ▸ named id kept
          · exact ⟨sessionId, owner, ofTurn, ofSession, named⟩
        · refine recording.1.extend (grown _) (fun _ member => .inl member)
            (fun _ member => .inl member) fun row member => ?_
          rw [(Table.insert?_eq_some.mp joined).2, List.mem_append, List.mem_singleton] at member
          cases member with
          | inl old => exact .inl old
          | inr new =>
            subst new
            exact .inr ⟨request.sessionId, workspaceId, turn, recording.2, link⟩
  · exact recording.1

/-- What a program that starts with the request's turn leaves is shown for its rest. -/
theorem post_withTurn (recording : db.Recording request workspaceId) {turnId : String} {now : Int}
    {rest : AgentTurnRow → Store AgentTurnRow}
    (goes : ∀ db' turn, db'.Recording request workspaceId →
      db'.turnSession turn.id = some request.sessionId →
        Sql.Post StorageFault (rest turn) db' fun _ after => after.LinksKept) :
    Sql.Post StorageFault (findOrCreateAgentTurn turnId request now >>= rest) db
      fun _ after => after.LinksKept := by
  refine Sql.post_bind ((post_findOrCreate recording turnId now).mono fun r db' ready => ?_)
  cases r with
  | error e => exact ready.1.1
  | ok turn => exact goes db' turn ready.1 (ready.2 turn rfl)

theorem post_recordPrompt (recording : db.Recording request workspaceId) (now : Int)
    (turnId prompt : String) :
    Sql.Post StorageFault (recordPrompt now turnId request prompt) db
      fun _ db' => db'.LinksKept := by
  -- the first update keeps the session too
  refine Sql.post_bind (Sql.post_statement (fun _ _ => recording.1) ?_)
  have after := recording.1.updateTurns
    (fun turn => request.owns turn && turn.state = .active && (request.providerTurnId.isNone ||
      turn.providerTurnId.isNone || turn.providerTurnId ≠ request.providerTurnId))
    (fun turn => { turn with state := .interrupted, endedAtMs := some now })
    (by intros; rfl) (by intros; rfl)
  refine Sql.post_bind (post_findProviderTurn.mono fun r db' looked => ?_)
  obtain ⟨rfl, found⟩ := looked
  cases r with
  | error e => exact after
  | ok existing =>
    cases existing with
    | none =>
      exact (post_insertAgentTurn ⟨after, recording.2⟩ turnId prompt now).mono
        fun _ _ ready => ready.1.1
    | some turn =>
      exact (Sql.Keeps.bind (updateTurns_keeps (by intros; rfl) (by intros; rfl))
        fun _ => Sql.Keeps.select) _ after

theorem recordAgentEvent_keeps (now : Int) (turnId actionRowId : String)
    (request : AgentEventRequest) :
    Sql.Keeps StorageFault LinksKept (recordAgentEvent now turnId actionRowId request) := by
  intro db kept
  unfold recordAgentEvent
  cases request.validate with
  | error e => exact Sql.post_fail kept
  | ok _ =>
    refine Sql.post_bind (Sql.post_select (fun _ _ => kept) ?_)
    cases found : db.agentSessions.find? request.sessionId with
    | none => exact kept
    | some session =>
      have recording : db.Recording request session.workspaceId :=
        ⟨kept, by simp [sessionWorkspace, found]⟩
      show Sql.Post _ (ite _ _ _) db _
      split
      · exact Sql.post_fail kept
      · cases request.event with
        | promptSubmitted prompt => exact post_recordPrompt recording now turnId prompt
        | toolStarted actionId toolName =>
          refine post_withTurn recording fun db' turn recording ready => ?_
          refine Sql.post_bind ((post_upsertAction recording ?_ ready ?_ ?_ ?_).mono
            fun r after held => ?_)
          · intros
            rfl
          · intro _ none
            cases none
          · intros
            rfl
          · exact fun _ _ named => .inr named
          · cases r with
            | ok _ => exact Sql.post_pure held
            | error e => exact held
        | toolFinished actionId toolName failed executionId =>
          refine post_withTurn recording fun db' turn recording ready => ?_
          refine Sql.post_bind ((post_knownExecution session.workspaceId executionId).mono
            fun r same looked => ?_)
          obtain ⟨rfl, known⟩ := looked
          cases r with
          | error e => exact recording.1
          | ok id =>
            refine Sql.post_bind ((post_upsertAction recording ?_ ready ?_ ?_ ?_).mono
              fun r after held => ?_)
            · intros
              rfl
            · exact fun own named => known own (by rw [← named])
            · intros
              rfl
            · intro row own named
              cases id with
              | none => exact .inr named
              | some linked => exact .inl named
            · cases r with
              | ok _ => exact Sql.post_pure held
              | error e => exact held
        | turnFinished failed lastAssistantMessage =>
          refine post_withTurn recording fun db' turn recording ready => ?_
          exact (Sql.Keeps.bind (updateTurns_keeps (by intros; rfl) (by intros; rfl))
            fun _ => Sql.Keeps.select) db' recording.1

/-! ## Removing a session -/

/-- The row once its session is removed. -/
def unlinked (row : ExecutionRow) : ExecutionRow :=
  { row with sessionId := none, initiator := { row.initiator with sessionId := none } }

/-- The tables without a session: its turns and their actions go with it, and its executions
lose their link. -/
structure WithoutSession (db : Database) (id : SessionId) (db' : Database) : Prop where
  sessions : db'.agentSessions.rows = db.agentSessions.rows.filter fun row => row.id ≠ id
  turns : db'.agentTurns.rows = db.agentTurns.rows.filter fun turn => turn.sessionId ≠ id
  actions : db'.agentActions.rows =
    db.agentActions.rows.filter fun action => db.turnSession action.turnId ≠ some id
  executions : db'.executions.rows =
    db.executions.rows.map fun row => if row.sessionId = some id then unlinked row else row
  events : db'.events = db.events
  workspaces : db'.workspaces = db.workspaces

/-- `delete_agent_session` removes a terminal session with what is its own, or nothing. -/
theorem post_deleteAgentSession_rows (db : Database) (id : SessionId) :
    Sql.Post StorageFault (deleteAgentSession id) db fun r db' =>
      match r with
      | .ok _ => (∃ session, db.agentSessions.find? id = some session ∧
          session.state.isTerminal = true) ∧ db.WithoutSession id db'
      | .error _ => db' = db := by
  refine Sql.post_bind (Sql.post_select (fun _ _ => rfl) ?_)
  cases found : db.agentSessions.find? id with
  | none => exact rfl
  | some session =>
    show Sql.Post _ (ite _ _ _) db _
    by_cases recording : (!session.state.isTerminal) = true
    · rw [if_pos recording]
      exact Sql.post_fail rfl
    · rw [if_neg recording]
      refine Sql.post_transaction (fun _ _ => rfl) ?_
      refine Sql.post_bind (Sql.post_statement (fun _ _ => rfl) ?_)
      refine Sql.post_statement (fun _ _ => rfl) ⟨⟨session, rfl, by simpa using recording⟩, ?_⟩
      refine ⟨by simp [Table.delete], by simp [Table.delete], ?_, ?_, rfl, rfl⟩
      · refine List.filter_congr fun action _ => ?_
        have gone : (db.agentTurns.rows.any fun turn =>
            turn.id = action.turnId && turn.sessionId = id) =
              decide (db.turnSession action.turnId = some id) := by
          have named : db.turnSession action.turnId = some id ↔ _ := Table.find?_map_eq_some
          rw [Bool.eq_iff_iff, decide_eq_true_iff, named]
          simp
        dsimp only
        rw [gone, decide_not]
      · simp [Table.update, unlinked]

theorem LinksKept.withoutSession {id : SessionId} (kept : db.LinksKept)
    (removed : db.WithoutSession id db') : db'.LinksKept := by
  -- what belongs to another session is still found
  have sessions : ∀ other w, other ≠ id → db.sessionWorkspace other = some w →
      db'.sessionWorkspace other = some w := by
    intro other w different found
    obtain ⟨row, present, same, owner⟩ := Table.find?_map_eq_some.mp found
    refine Table.find?_map_eq_some.mpr ⟨row, ?_, same, owner⟩
    rw [removed.sessions]
    exact List.mem_filter.mpr ⟨present, by simpa [same] using different⟩
  have executions : ∀ other w, db.executionWorkspace other = some w →
      db'.executionWorkspace other = some w := by
    intro other w found
    obtain ⟨row, present, same, owner⟩ := Table.find?_map_eq_some.mp found
    refine Table.find?_map_eq_some.mpr
      ⟨if row.sessionId = some id then unlinked row else row, ?_, ?_, ?_⟩
    · rw [removed.executions]
      exact List.mem_map_of_mem present
    · split <;> exact same
    · split <;> exact owner
  refine ⟨?_, ?_, ?_⟩
  · intro row member
    rw [removed.executions] at member
    obtain ⟨old, present, rfl⟩ := List.mem_map.mp member
    have linked := kept.executions old present
    split
    · exact ⟨rfl, fun _ none => by cases none⟩
    · rename_i other
      refine ⟨linked.1, fun owner named => ?_⟩
      have different : owner ≠ id := by
        intro equal
        exact other (equal ▸ named)
      exact sessions owner _ different (linked.2 owner named)
  · intro turn member
    rw [removed.turns] at member
    obtain ⟨present, other⟩ := List.mem_filter.mp member
    obtain ⟨w, found⟩ := kept.turns turn present
    exact ⟨w, sessions _ w (by simpa using other) found⟩
  · intro action member
    rw [removed.actions] at member
    obtain ⟨present, other⟩ := List.mem_filter.mp member
    obtain ⟨sessionId, w, ofTurn, ofSession, named⟩ := kept.actions action present
    have different : sessionId ≠ id := by
      intro equal
      simp [ofTurn, equal] at other
    refine ⟨sessionId, w, ?_, sessions _ w different ofSession, fun own link => ?_⟩
    · obtain ⟨turn, there, same, owner⟩ := Table.find?_map_eq_some.mp ofTurn
      refine Table.find?_map_eq_some.mpr ⟨turn, ?_, same, owner⟩
      rw [removed.turns]
      exact List.mem_filter.mpr ⟨there, by simpa [owner] using different⟩
    · exact executions own w (named own link)

end

end Database

end Loomterm
