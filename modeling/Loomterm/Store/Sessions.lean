import Loomterm.Misc.Path
import Loomterm.Store.Workspaces

/-!
# Agent sessions

The operations of `Database` on agent sessions and on what their hooks report: turns and
the actions in them, which may name executions. An execution is tied to its session by a
column and by the initiator it stores, an action to an execution by a column of its own.
-/

namespace Loomterm

/-- `AgentSessionDetail` (`src/model.rs:295`). -/
structure AgentSessionDetail where
  session : AgentSessionRow
  executions : List Execution
  turns : List AgentTurnRow
  actions : List AgentActionRow

/-- Whether state and outcome of a finished session say the same about its interruption
(`src/store.rs:1190`). -/
def AgentSessionFinish.agrees (finish : AgentSessionFinish) : Bool :=
  match finish.state, finish.outcome with
  | .interrupted, .interrupted _ => true
  | .interrupted, _ => false
  | _, .interrupted _ => false
  | _, _ => true

/-- The columns that the lookups of turns share. -/
def AgentEventRequest.owns (request : AgentEventRequest) (turn : AgentTurnRow) : Bool :=
  turn.sessionId = request.sessionId && turn.provider = request.provider &&
    turn.providerSessionId = request.providerSessionId

namespace Database

/-! ## Sessions -/

/-- `INSERT INTO agent_sessions`. -/
def insertAgentSession (row : AgentSessionRow) : Store Unit :=
  Sql.statement fun db =>
    if db.workspaces.find? row.workspaceId = none then
      .error (.database "FOREIGN KEY constraint failed")
    else
      match db.agentSessions.insert? row with
      | none => .error (.database "UNIQUE constraint failed: agent_sessions.id")
      | some agentSessions => .ok ((), { db with agentSessions })

/-- `Database::create_agent_session` (`src/store.rs:1145`); `cwd` is what the path of the
request canonicalizes to. -/
def createAgentSession (now : Int) (request : AgentSessionRequest) (cwd : Except Error String) :
    Store AgentSessionRow :=
  match request.validate with
  | .error e => Sql.fail e
  | .ok () => do
      let workspace ← getWorkspace request.workspaceId
      match cwd with
      | .error e => Sql.fail e
      | .ok cwd =>
          if components cwd ≠ components workspace.root ∧
              ¬ components workspace.root <+: components cwd then
            Sql.fail (.outsideWorkspace cwd workspace.root)
          else do
            insertAgentSession
              { id := request.id
                workspaceId := workspace.id
                state := .recording
                agentKind := request.agentKind
                name := request.name
                command := request.command
                cwd := cwd
                createdAtMs := now
                recorderPid := request.recorderPid
                initialCols := request.initialCols
                initialRows := request.initialRows
                castPath := request.castPath
                htmlPath := request.htmlPath }
            getAgentSessionRecord request.id

/-- `UPDATE agent_turns SET .. WHERE ..`. -/
def updateTurns (p : AgentTurnRow → Bool) (set : AgentTurnRow → AgentTurnRow)
    (keeps : ∀ row, (set row).id = row.id := by intros; rfl) : Store Unit :=
  Sql.statement fun db => .ok ((), { db with agentTurns := db.agentTurns.update p set keeps })

/-- `Database::finish_agent_session` (`src/store.rs:1180`). -/
def finishAgentSession (now : Int) (id : SessionId) (finish : AgentSessionFinish) :
    Store AgentSessionRow :=
  if finish.state = .recording then
    Sql.fail (.invalidRequest "finished agent session must use a terminal state")
  else if !finish.agrees then
    Sql.fail (.invalidRequest "interrupted agent session state and outcome must agree")
  else do
    let current ← getAgentSessionRecord id
    if current.state.isTerminal then pure current
    else do
      Sql.statement fun db =>
        .ok ((), { db with
          agentSessions := db.agentSessions.update (fun row => row.id = id)
            (fun row =>
              { row with
                state := finish.state
                endedAtMs := some now
                outcome := some finish.outcome
                capturedBytes := (toI64 finish.capturedBytes).toNat
                outputTruncated := finish.outputTruncated })
            (by intros; rfl) })
      updateTurns (fun turn => turn.sessionId = id && turn.state = .active)
        fun turn => { turn with state := .interrupted, endedAtMs := some now }
      getAgentSessionRecord id

/-! ## Turns -/

/-- `get_agent_turn` (`src/store.rs:1663`). -/
def getAgentTurn (id : String) : Store AgentTurnRow :=
  Sql.select fun db =>
    match db.agentTurns.find? id with
    | some turn => .ok turn
    | none => .error (.invalidRequest ("agent turn not found: " ++ id))

/-- `find_provider_turn` (`src/store.rs:1573`). -/
def findProviderTurn (request : AgentEventRequest) : Store (Option AgentTurnRow) :=
  match request.providerTurnId with
  | none => pure none
  | some providerTurnId =>
      Sql.select fun db => .ok (db.agentTurns.rows.find? fun turn =>
        request.owns turn && turn.providerTurnId = some providerTurnId)

/-- `find_active_turn` (`src/store.rs:1599`). The index over `created_at_ms` is read from its end,
so that of turns of the same time the last one is taken. -/
def findActiveTurn (request : AgentEventRequest) : Store (Option AgentTurnRow) :=
  Sql.select fun db =>
    let active := db.agentTurns.rows.filter fun turn =>
      request.owns turn && turn.state = .active
    .ok (active.reverse.insertionSort fun left right =>
      right.createdAtMs ≤ left.createdAtMs).head?

/-- `INSERT INTO agent_turns`, with the declared keys and the index on the provider's turn. -/
def insertTurn (turn : AgentTurnRow) : Store Unit :=
  Sql.statement fun db =>
    if db.agentSessions.find? turn.sessionId |>.isNone then
      .error (.database "FOREIGN KEY constraint failed")
    else if turn.providerTurnId.isSome && db.agentTurns.rows.any fun other =>
        other.sessionId = turn.sessionId && other.provider = turn.provider &&
          other.providerSessionId = turn.providerSessionId &&
          other.providerTurnId = turn.providerTurnId then
      .error (.database "UNIQUE constraint failed: index 'agent_turns_provider_turn'")
    else
      match db.agentTurns.insert? turn with
      | none => .error (.database "UNIQUE constraint failed: agent_turns.id")
      | some agentTurns => .ok ((), { db with agentTurns })

/-- `insert_agent_turn` (`src/store.rs:1638`). -/
def insertAgentTurn (id : String) (request : AgentEventRequest) (prompt : String)
    (createdAtMs : Int) : Store AgentTurnRow := do
  insertTurn
    { id := id
      sessionId := request.sessionId
      provider := request.provider
      providerSessionId := request.providerSessionId
      providerTurnId := request.providerTurnId
      prompt := prompt
      createdAtMs := createdAtMs }
  getAgentTurn id

/-- `find_or_create_agent_turn` (`src/store.rs:1622`). -/
def findOrCreateAgentTurn (id : String) (request : AgentEventRequest) (createdAtMs : Int) :
    Store AgentTurnRow := do
  let existing ←
    (if request.providerTurnId.isSome then findProviderTurn request else findActiveTurn request)
  match existing with
  | some turn => pure turn
  | none => insertAgentTurn id request "" createdAtMs

/-! ## Actions -/

/-- `INSERT INTO agent_actions .. ON CONFLICT(turn_id, provider_action_id) DO UPDATE SET ..`. -/
def upsertAction (action : AgentActionRow) (set : AgentActionRow → AgentActionRow)
    (keeps : ∀ row, (set row).id = row.id := by intros; rfl) : Store Unit :=
  Sql.statement fun db =>
    let same (row : AgentActionRow) : Bool :=
      row.turnId = action.turnId && row.providerActionId = action.providerActionId
    if (db.agentTurns.find? action.turnId).isNone ||
        action.executionId.any fun id => (db.executions.find? id).isNone then
      .error (.database "FOREIGN KEY constraint failed")
    else
      match db.agentActions.insert? action with
      | none => .error (.database "UNIQUE constraint failed: agent_actions.id")
      | some agentActions =>
          if db.agentActions.rows.any same then
            .ok ((), { db with agentActions := db.agentActions.update same set keeps })
          else .ok ((), { db with agentActions })

/-- The execution that a finished tool may be linked to (`src/store.rs:1284`): it has to be
in the session's workspace, and a failing lookup counts as not found. -/
def knownExecution (workspaceId : WorkspaceId) :
    Option ExecutionId → Store (Option ExecutionId)
  | none => pure none
  | some id => do
      let found ← Sql.attempt (Sql.select fun db =>
        .ok (db.executions.rows.any fun row => row.id = id && row.workspaceId = workspaceId))
      pure (if found = some true then some id else none)

/-- `PromptSubmitted` in `record_agent_event` (`src/store.rs:1237`). -/
def recordPrompt (now : Int) (turnId : String) (request : AgentEventRequest) (prompt : String) :
    Store AgentTurnRow := do
  updateTurns (fun turn => request.owns turn && turn.state = .active &&
      (request.providerTurnId.isNone || turn.providerTurnId.isNone ||
        turn.providerTurnId ≠ request.providerTurnId))
    fun turn => { turn with state := .interrupted, endedAtMs := some now }
  let existing ← findProviderTurn request
  match existing with
  | some turn => do
      updateTurns (fun row => row.id = turn.id) fun row =>
        { row with state := .active, prompt, endedAtMs := none, lastAssistantMessage := none }
      getAgentTurn turn.id
  | none => insertAgentTurn turnId request prompt now

/-- `ToolStarted` in `record_agent_event` (`src/store.rs:1262`). -/
def recordToolStarted (now : Int) (turnId id : String) (request : AgentEventRequest)
    (actionId toolName : String) : Store AgentTurnRow := do
  let turn ← findOrCreateAgentTurn turnId request now
  upsertAction
    { id := id
      turnId := turn.id
      providerActionId := actionId
      toolName := toolName
      state := .running
      createdAtMs := now }
    fun row => { row with toolName, state := .running, endedAtMs := none }
  pure turn

/-- `ToolFinished` in `record_agent_event` (`src/store.rs:1277`). -/
def recordToolFinished (now : Int) (turnId id : String) (workspaceId : WorkspaceId)
    (request : AgentEventRequest) (actionId toolName : String) (failed : Bool)
    (executionId : Option ExecutionId) : Store AgentTurnRow := do
  let turn ← findOrCreateAgentTurn turnId request now
  let known ← knownExecution workspaceId executionId
  let state : AgentActionState := if failed then .failed else .completed
  upsertAction
    { id := id
      turnId := turn.id
      providerActionId := actionId
      toolName := toolName
      state := state
      executionId := known
      createdAtMs := now
      endedAtMs := some now }
    fun row =>
      { row with toolName, state, executionId := known <|> row.executionId, endedAtMs := some now }
  pure turn

/-- `TurnFinished` in `record_agent_event` (`src/store.rs:1318`). -/
def recordTurnFinished (now : Int) (turnId : String) (request : AgentEventRequest)
    (failed : Bool) (lastAssistantMessage : Option String) : Store AgentTurnRow := do
  let turn ← findOrCreateAgentTurn turnId request now
  let state : AgentTurnState := if failed then .failed else .completed
  updateTurns (fun row => row.id = turn.id) fun row =>
    { row with state, endedAtMs := some now, lastAssistantMessage }
  getAgentTurn turn.id

/-- `Database::record_agent_event` (`src/store.rs:1225`); `turnId` and `actionRowId` are the
ids it draws for a turn and for an action. -/
def recordAgentEvent (now : Int) (turnId actionRowId : String) (request : AgentEventRequest) :
    Store AgentTurnRow :=
  match request.validate with
  | .error e => Sql.fail e
  | .ok () => do
      let session ← getAgentSessionRecord request.sessionId
      if session.state ≠ .recording then
        Sql.fail (.invalidRequest
          ("agent session " ++ request.sessionId ++ " is no longer recording"))
      else
        match request.event with
        | .promptSubmitted prompt => recordPrompt now turnId request prompt
        | .toolStarted actionId toolName =>
            recordToolStarted now turnId actionRowId request actionId toolName
        | .toolFinished actionId toolName failed executionId =>
            recordToolFinished now turnId actionRowId session.workspaceId request actionId
              toolName failed executionId
        | .turnFinished failed lastAssistantMessage =>
            recordTurnFinished now turnId request failed lastAssistantMessage

/-! ## Reading -/

/-- The executions that `get_agent_session` selects: those of the session's column, and
those that its actions name. -/
def sessionExecutions (db : Database) (id : SessionId) : List ExecutionRow :=
  let linked := db.agentActions.rows.filterMap fun action =>
    if db.agentTurns.rows.any fun turn => turn.id = action.turnId && turn.sessionId = id then
      action.executionId
    else none
  (db.executions.rows.filter fun row => row.sessionId = some id || linked.contains row.id)
    |>.insertionSort fun left right => left.createdAtMs ≤ right.createdAtMs

/-- `Database::get_agent_session` (`src/store.rs:1335`); every row reads the clock anew. -/
def getAgentSession (now : ExecutionId → Int) (id : SessionId) : Store AgentSessionDetail := do
  let session ← getAgentSessionRecord id
  let executions ← Sql.select fun db =>
    .ok ((db.sessionExecutions id).map fun row => executionFromRow (now row.id) row)
  let turns ← Sql.select fun db =>
    .ok ((db.agentTurns.rows.filter fun turn => turn.sessionId = id).insertionSort
      fun left right => left.createdAtMs ≤ right.createdAtMs)
  let actions ← Sql.select fun db =>
    .ok ((db.agentActions.rows.filter fun action =>
      db.agentTurns.rows.any fun turn => turn.id = action.turnId && turn.sessionId = id)
        |>.insertionSort fun left right => left.createdAtMs ≤ right.createdAtMs)
  pure { session, executions, turns, actions }

/-- `Database::list_agent_sessions` (`src/store.rs:1378`). -/
def listAgentSessions (workspace : Option String) (limit : Nat) : Store (List AgentSessionRow) :=
  Sql.select fun db =>
    let rows : List AgentSessionRow := match workspace with
      | some identifier => db.agentSessions.rows.filter fun row =>
          db.workspaces.rows.any fun w =>
            w.id = row.workspaceId && (row.workspaceId = identifier || w.name = identifier)
      | none => db.agentSessions.rows
    let newest := rows.insertionSort fun left right => right.createdAtMs ≤ left.createdAtMs
    .ok (newest.take limit)

end Database

end Loomterm
