import Loomterm.Executor.Wait
import Loomterm.Misc.Render
import Loomterm.Session.Hook
import Loomterm.Store.Commands

/-!
# The frames of the daemon

What the daemon sends in answer to the operations that read records, as `serde` writes it in
one frame each, which the codec refuses beyond `MAX_FRAME_BYTES`. A command is stored once
and sent twice, as it is and as it is displayed; a list, a session or a page has as many
records as there are. `frames_fit_iff` weighs the rows.
-/

namespace Loomterm

open Json

/-- `MAX_FRAME_BYTES` (`src/protocol.rs:11`). -/
def maxFrameBytes : Nat := 16 * 1024 * 1024

/-- `PROTOCOL_VERSION` (`src/model.rs:12`). -/
def protocolVersion : Nat := 2

/-! ## Records as they are sent -/

/-- `shell_escape_for_display` (`src/model.rs:65`). -/
def shellEscapeForDisplay (value : String) : String :=
  if value.toList.all fun c => c.isAlphanum || "-._/:=@+".toList.contains c then value
  else
    "'" ++ .ofList (value.toList.flatMap fun c => if c.toNat = 39 then "'\\''".toList else [c]) ++
      "'"

/-- `CommandSpec::display` (`src/model.rs:53`). -/
def CommandSpec.display : CommandSpec → String
  | .argv program args => " ".intercalate ((program :: args).map shellEscapeForDisplay)
  | .shell command _ => command

/-- The rest of `execution_from_row` (`src/store.rs:1821`). -/
def Execution.displayed (execution : Execution) : DisplayedExecution :=
  { execution with commandDisplay := execution.command.display }

/-- `agent_session_from_row` (`src/store.rs:1860`). -/
def agentSessionFromRow (row : AgentSessionRow) : AgentSession :=
  { row with
    commandDisplay := row.command.display
    durationMs := row.endedAtMs.map fun ended =>
      (Database.saturatingSub ended row.createdAtMs).toNat }

def AgentSessionDetail.displayed (detail : AgentSessionDetail) : ReplayDetail where
  session := agentSessionFromRow detail.session
  executions := detail.executions.map Execution.displayed
  turns := detail.turns
  actions := detail.actions

def ExecutionEventPayload.fields : ExecutionEventPayload → List (String × Json)
  | .started pid pgid => [("kind", .string "started"), ("pid", natural pid), ("pgid", .number pgid)]
  | .output stream data => [
      ("kind", .string "output"),
      ("stream", .string stream.asStr),
      ("data_base64", .string (Base64.encode data))]
  | .captureTruncated limitBytes =>
      [("kind", .string "capture_truncated"), ("limit_bytes", natural limitBytes)]
  | .finished outcome => [("kind", .string "finished"), ("outcome", outcome.toJson)]

def ExecutionEvent.toJson (event : ExecutionEvent) : Json :=
  .object ([
    ("execution_id", .string event.executionId),
    ("seq", natural event.seq),
    ("timestamp_ms", .number event.timestampMs)] ++ event.payload.fields)

def ReadOutputResponse.fields (response : ReadOutputResponse) : List (String × Json) := [
    ("execution", response.execution.displayed.toJson),
    ("events", .array (response.events.map ExecutionEvent.toJson)),
    ("next_seq", natural response.nextSeq),
    ("has_more", .bool response.hasMore)]

/-- `ProtocolResult` (`src/protocol.rs:177`), as far as it holds records. -/
inductive ProtocolResult where
  | execution (execution : Execution)
  | executions (executions : List Execution)
  | agentSessions (sessions : List AgentSessionRow)
  | agentSessionDetail (detail : AgentSessionDetail)
  | output (response : ReadOutputResponse)
  | wait (response : WaitResponse)
  /-- `SubscriptionResponse` (`src/protocol.rs:195`). -/
  | subscription (execution : Execution) (nextSeq : Nat)

/-- The tag of a result. -/
def ProtocolResult.type : ProtocolResult → String
  | .execution _ => "execution"
  | .executions _ => "executions"
  | .agentSessions _ => "agent_sessions"
  | .agentSessionDetail _ => "agent_session_detail"
  | .output _ => "output"
  | .wait _ => "wait"
  | .subscription _ _ => "subscription"

def ProtocolResult.value : ProtocolResult → Json
  | .execution record => record.displayed.toJson
  | .executions records => .array (records.map fun record => record.displayed.toJson)
  | .agentSessions rows => .array (rows.map fun row => (agentSessionFromRow row).toJson)
  | .agentSessionDetail detail => detail.displayed.toJson
  | .output response => .object response.fields
  | .wait response => .object (response.fields ++ [("timed_out", .bool response.timedOut)])
  | .subscription record nextSeq =>
      .object [("execution", record.displayed.toJson), ("next_seq", natural nextSeq)]

/-- `WireMessage` (`src/protocol.rs:18`); of a request there are the fields of its
operation. -/
inductive WireMessage where
  | request (requestId operation : String) (fields : List (String × Json))
  | ok (requestId : String) (result : ProtocolResult)
  | error (requestId : String) (error : Error)
  | event (subscriptionId : String) (event : ExecutionEvent)

def WireMessage.toJson : WireMessage → Json
  | .request requestId operation fields => .object ([
      ("kind", .string "request"),
      ("version", natural protocolVersion),
      ("request_id", .string requestId),
      ("operation", .string operation)] ++ fields)
  | .ok requestId result => .object [
      ("kind", .string "response"),
      ("version", natural protocolVersion),
      ("request_id", .string requestId),
      ("status", .string "ok"),
      ("result", .object [("type", .string result.type), ("value", result.value)])]
  | .error requestId e => .object [
      ("kind", .string "response"),
      ("version", natural protocolVersion),
      ("request_id", .string requestId),
      ("status", .string "error"),
      ("error", .object [("code", .string e.code), ("message", .string e.toString)])]
  | .event subscriptionId sent => .object [
      ("kind", .string "event"),
      ("version", natural protocolVersion),
      ("subscription_id", .string subscriptionId),
      ("event", sent.toJson)]

/-- `ExecutionRequest` (`src/model.rs:101`); of `stdin_base64` the record keeps what it
decodes to, so its text is an argument. -/
def ExecutionRequest.toJson (request : ExecutionRequest) (stdinBase64 : Option String) : Json :=
  .object ([("workspace_id", .string request.workspaceId)] ++
    optionField "cwd" .string request.cwd ++ [
    ("command", request.command.toJson),
    ("env", .object (request.env.map fun entry => (entry.1, .string entry.2)))] ++
    optionField "stdin_base64" .string stdinBase64 ++ [
    ("initiator", request.initiator.toJson)] ++
    optionField "capture_limit_bytes" natural request.captureLimitBytes)

/-- The length of the frame of a message. -/
def WireMessage.frameBytes (float : UInt64 → String) (message : WireMessage) : Nat :=
  size float message.toJson

/-! ## Serving -/

/-- The operations that read records (`src/protocol.rs:78`). -/
inductive Query where
  | get (executionId : ExecutionId)
  | list (workspace : Option String) (limit : Nat)
  | sessionGet (sessionId : SessionId)
  | sessionList (workspace : Option String) (limit : Nat)
  | readOutput (executionId : ExecutionId) (afterSeq maxBytes : Nat)
  | wait (executionId : ExecutionId) (afterSeq timeoutMs maxBytes : Nat)
  | subscribe (executionId : ExecutionId) (afterSeq : Nat)

/-- The refusal of `handle_subscription` (`src/daemon.rs:187`). -/
def cursorError (afterSeq lastSeq : Nat) : Error :=
  .invalidRequest
    ("after_seq " ++ toString afterSeq ++ " exceeds execution cursor " ++ toString lastSeq)

/-- What `dispatch` (`src/daemon.rs:311`) and `handle_subscription` read for an operation: of
`wait` it is the read that it returns, and `timedOut` says which. -/
def Query.dispatch (now : String → Int) (timedOut : Bool) : Query → Store ProtocolResult
  | .get id => do
      let execution ← Database.getExecution (now id) id
      pure (.execution execution)
  | .list workspace limit => do
      let executions ← daemonList now workspace limit
      pure (.executions executions)
  | .sessionGet id => do
      let detail ← Database.getAgentSession now id
      pure (.agentSessionDetail detail)
  | .sessionList workspace limit => do
      let sessions ← Database.listAgentSessions workspace (max 1 (min limit 1000))
      pure (.agentSessions sessions)
  | .readOutput id afterSeq maxBytes => do
      let response ← daemonReadOutput id afterSeq maxBytes (now id)
      pure (.output response)
  | .wait id afterSeq _ maxBytes => do
      let call : WaitCall := ⟨id, afterSeq, some (max 1 (min maxBytes (8 * 1024 * 1024)))⟩
      let output ← call.read (now id)
      pure (.wait ⟨output, timedOut⟩)
  | .subscribe id afterSeq => do
      let execution ← Database.getExecution (now id) id
      if execution.lastSeq < afterSeq then Sql.fail (cursorError afterSeq execution.lastSeq)
      else pure (.subscription execution afterSeq)

/-- A request while it is served: what it asks, what the clock shows for each row, what its
reads meet, and the error, if any, of what went before them, `reconcile_agent_sessions` or
the first read of `wait`. -/
structure Answer where
  requestId : String
  query : Query
  now : String → Int := fun _ => 0
  conditions : Conditions := {}
  timedOut : Bool := false
  before : Option Error := none

/-- The response (`src/daemon.rs:156`). -/
def Answer.response (answer : Answer) (db : Database) : WireMessage :=
  let result : Except Error ProtocolResult := match answer.before with
    | some e => .error e
    | none =>
        (Store.request (answer.query.dispatch answer.now answer.timedOut) answer.conditions db).1
  match result with
  | .ok result => .ok answer.requestId result
  | .error e => .error answer.requestId e

/-- The events of a page that `replay_subscription` (`src/daemon.rs:269`) sends. -/
def replayPage (cursor : Nat) : List ExecutionEvent → List ExecutionEvent
  | [] => []
  | event :: rest =>
      if event.seq ≤ cursor then replayPage cursor rest
      else
        match event.payload with
        | .finished _ => [event]
        | _ => event :: replayPage event.seq rest

/-- What happens at the daemon: a command that writes, the answer to a request, a page that a
subscription replays, or an event that it receives from the engine. -/
inductive ServiceStep where
  | command (command : StoreCommand) (faults : List (Option String))
  | answer (answer : Answer)
  | replay (subscriptionId : String) (executionId : ExecutionId) (cursor : Nat) (now : Int)
      (conditions : Conditions)
  | event (subscriptionId : String) (event : ExecutionEvent)

/-- The messages that a step sends; a page stops at the first one that does not fit. -/
def ServiceStep.messages (db : Database) : ServiceStep → List WireMessage
  | .command _ _ => []
  | .answer asked => [asked.response db]
  | .replay subscriptionId id cursor now conditions =>
      match (Store.request (Database.readOutput now id cursor (1024 * 1024)) conditions db).1 with
      | .ok page => (replayPage cursor page.events).map (.event subscriptionId)
      | .error _ => []
  | .event subscriptionId received => [.event subscriptionId received]

/-- The database, and the messages that were to be sent so far. -/
structure Service where
  db : Database
  sent : List WireMessage := []

/-- Runs of the daemon from a new database on. -/
def service : System Service ServiceStep where
  start s := s = { db := newDatabase }
  step s step :=
    let db := match step with
      | .command command faults => (Store.run command.program faults s.db).2
      | _ => s.db
    some { db, sent := s.sent ++ step.messages s.db }

/-! ## What the rows weigh -/

def CommandSpec.weight : CommandSpec → Nat
  | .argv program args => 34 + textSize program + listSize (args.map textSize)
  | .shell command path => 27 + textSize command + path.elim 0 (9 + textSize ·)

def ExecutionOutcome.weight : ExecutionOutcome → Nat
  | .exited code => 25 + numberSize code
  | .signaled signal => 29 + numberSize signal
  | .spawnError message => 33 + textSize message
  | .cancelled signal => 30 + optionSize numberSize signal
  | .interrupted reason => 32 + textSize reason

def Initiator.weight (initiator : Initiator) : Nat :=
  9 + textSize initiator.kind + initiator.name.elim 0 (8 + textSize ·) +
    initiator.sessionId.elim 0 (14 + textSize ·)

/-- The command counts twice. -/
def DisplayedExecution.weight (execution : DisplayedExecution) : Nat :=
  234 + textSize execution.id + textSize execution.workspaceId + textSize execution.state.asStr +
    execution.command.weight + textSize execution.commandDisplay + textSize execution.cwd +
    listSize (execution.envKeys.map textSize) + execution.initiator.weight +
    numberSize execution.createdAtMs + optionSize numberSize execution.startedAtMs +
    optionSize numberSize execution.endedAtMs + optionSize naturalSize execution.durationMs +
    optionSize naturalSize execution.pid + optionSize numberSize execution.pgid +
    optionSize ExecutionOutcome.weight execution.outcome + naturalSize execution.capturedBytes +
    boolSize execution.outputTruncated + naturalSize execution.lastSeq

def AgentSession.weight (session : AgentSession) : Nat :=
  261 + textSize session.id + textSize session.workspaceId + textSize session.state.asStr +
    textSize session.agentKind + optionSize textSize session.name + session.command.weight +
    textSize session.commandDisplay + textSize session.cwd + numberSize session.createdAtMs +
    optionSize numberSize session.endedAtMs + optionSize naturalSize session.durationMs +
    naturalSize session.recorderPid + optionSize ExecutionOutcome.weight session.outcome +
    naturalSize session.capturedBytes + boolSize session.outputTruncated +
    naturalSize session.initialCols + naturalSize session.initialRows +
    textSize session.castPath + textSize session.htmlPath

def AgentTurnRow.weight (turn : AgentTurnRow) : Nat :=
  92 + textSize turn.id + textSize turn.sessionId + textSize turn.provider +
    textSize turn.providerSessionId + turn.providerTurnId.elim 0 (20 + textSize ·) +
    textSize turn.state.asStr + textSize turn.prompt + numberSize turn.createdAtMs +
    turn.endedAtMs.elim 0 (15 + numberSize ·) +
    turn.lastAssistantMessage.elim 0 (26 + textSize ·)

def AgentActionRow.weight (action : AgentActionRow) : Nat :=
  79 + textSize action.id + textSize action.turnId + textSize action.providerActionId +
    textSize action.toolName + textSize action.state.asStr +
    action.executionId.elim 0 (16 + textSize ·) + numberSize action.createdAtMs +
    action.endedAtMs.elim 0 (15 + numberSize ·)

/-- Output weighs a third more than its bytes. -/
def ExecutionEventPayload.weight : ExecutionEventPayload → Nat
  | .started pid pgid => 32 + naturalSize pid + numberSize pgid
  | .output stream data => 43 + textSize stream.asStr + Base64.size data.length
  | .captureTruncated limitBytes => 42 + naturalSize limitBytes
  | .finished outcome => 29 + outcome.weight

def ExecutionEvent.weight (event : ExecutionEvent) : Nat :=
  40 + textSize event.executionId + naturalSize event.seq + numberSize event.timestampMs +
    event.payload.weight

def ReadOutputResponse.weight (response : ReadOutputResponse) : Nat :=
  48 + response.execution.displayed.weight + listSize (response.events.map ExecutionEvent.weight) +
    naturalSize response.nextSeq + boolSize response.hasMore

def AgentSessionDetail.weight (detail : AgentSessionDetail) : Nat :=
  46 + (agentSessionFromRow detail.session).weight +
    listSize (detail.executions.map fun execution => execution.displayed.weight) +
    listSize (detail.turns.map AgentTurnRow.weight) +
    listSize (detail.actions.map AgentActionRow.weight)

/-! ## What a request reads -/

namespace Database

/-- The rows that a list shows. -/
def listed (db : Database) (workspace : Option String) (limit : Nat) : List ExecutionRow :=
  let rows : List ExecutionRow := match workspace with
    | some identifier => db.executions.rows.filter fun row =>
        db.workspaces.rows.any fun w =>
          w.id = row.workspaceId && (row.workspaceId = identifier || w.name = identifier)
    | none => db.executions.rows
  (rows.insertionSort fun left right => right.createdAtMs ≤ left.createdAtMs).take limit

def listedSessions (db : Database) (workspace : Option String) (limit : Nat) :
    List AgentSessionRow :=
  let rows : List AgentSessionRow := match workspace with
    | some identifier => db.agentSessions.rows.filter fun row =>
        db.workspaces.rows.any fun w =>
          w.id = row.workspaceId && (row.workspaceId = identifier || w.name = identifier)
    | none => db.agentSessions.rows
  (rows.insertionSort fun left right => right.createdAtMs ≤ left.createdAtMs).take limit

/-- What a session shows. -/
def sessionDetail (db : Database) (now : ExecutionId → Int) (session : AgentSessionRow) :
    AgentSessionDetail where
  session := session
  executions := (db.sessionExecutions session.id).map fun row => executionFromRow (now row.id) row
  turns := (db.agentTurns.rows.filter fun turn => turn.sessionId = session.id).insertionSort
    fun left right => left.createdAtMs ≤ right.createdAtMs
  actions := (db.agentActions.rows.filter fun action =>
    db.agentTurns.rows.any fun turn => turn.id = action.turnId && turn.sessionId = session.id)
      |>.insertionSort fun left right => left.createdAtMs ≤ right.createdAtMs

end Database

namespace Query

/-- The statements behind the first one. -/
def furtherStatements : Query → Nat
  | .sessionGet _ => 3
  | .readOutput _ _ _ | .wait _ _ _ _ => 1
  | .get _ | .list _ _ | .sessionList _ _ | .subscribe _ _ => 0

/-- Why the rows do not answer a query. -/
def missing (db : Database) : Query → Option Error
  | .get id | .readOutput id _ _ | .wait id _ _ _ =>
      if db.executions.find? id = none then some (.executionNotFound id) else none
  | .list _ _ | .sessionList _ _ => none
  | .sessionGet id =>
      match db.agentSessions.find? id with
      | some _ => none
      | none => some (.agentSessionNotFound id)
  | .subscribe id afterSeq =>
      match db.executions.find? id with
      | some row => if row.lastSeq < afterSeq then some (cursorError afterSeq row.lastSeq) else none
      | none => some (.executionNotFound id)

def statements (db : Database) (query : Query) : Nat :=
  if (query.missing db).isSome then 1 else 1 + query.furtherStatements

/-- The error that a query meets. -/
def refusal (db : Database) (conditions : Conditions) (query : Query) : Option Error :=
  (conditions.unavailable.map .storageUnavailable).or
    (((Sql.firstFault (query.statements db) conditions.faults).map .database).or (query.missing db))

/-- What the answer of a query weighs. -/
def weight (now : ExecutionId → Int) (timedOut : Bool) (db : Database) : Query → Nat
  | .get id => 11 + (db.executions.find? id).elim 0 fun row =>
      (Database.executionFromRow (now id) row).displayed.weight
  | .list workspace limit => 12 + listSize ((db.listed workspace (max 1 (min limit 1000))).map
      fun row => (Database.executionFromRow (now row.id) row).displayed.weight)
  | .sessionGet id => 22 + (db.agentSessions.find? id).elim 0 fun session =>
      (db.sessionDetail now session).weight
  | .sessionList workspace limit =>
      16 + listSize ((db.listedSessions workspace (max 1 (min limit 1000))).map
        fun row => (agentSessionFromRow row).weight)
  | .readOutput id afterSeq maxBytes => 8 + (db.executions.find? id).elim 0 fun row =>
      (db.page (now id) row afterSeq (max 1 (min maxBytes (8 * 1024 * 1024)))).weight
  | .wait id afterSeq _ maxBytes => 19 + boolSize timedOut +
      (db.executions.find? id).elim 0 fun row =>
        (db.page (now id) row afterSeq (max 1 (min maxBytes (8 * 1024 * 1024)))).weight
  | .subscribe id afterSeq => 40 + naturalSize afterSeq +
      (db.executions.find? id).elim 0 fun row =>
        (Database.executionFromRow (now id) row).displayed.weight

end Query

/-- An error fits by its text, and an answer by its rows. -/
def Answer.Fits (db : Database) (answer : Answer) : Prop :=
  match answer.before.or (answer.query.refusal db answer.conditions) with
  | some e =>
      91 + textSize answer.requestId + textSize e.code + textSize e.toString ≤ maxFrameBytes
  | none =>
      87 + textSize answer.requestId + answer.query.weight answer.now answer.timedOut db ≤
        maxFrameBytes

instance (db : Database) (answer : Answer) : Decidable (answer.Fits db) := by
  unfold Answer.Fits
  split <;> infer_instance

def ExecutionEvent.Fits (subscriptionId : String) (event : ExecutionEvent) : Prop :=
  56 + textSize subscriptionId + event.weight ≤ maxFrameBytes

/-- The condition on a step of the daemon. -/
def Fits (s : Service) : ServiceStep → Prop
  | .command _ _ => True
  | .answer asked => asked.Fits s.db
  | .replay subscriptionId id cursor _ conditions =>
      (Query.readOutput id cursor (1024 * 1024)).refusal s.db conditions = none →
        ∀ event ∈ replayPage cursor
            (Database.pageEvents (1024 * 1024) (s.db.selectEvents id cursor)),
          event.Fits subscriptionId
  | .event subscriptionId received => received.Fits subscriptionId

section

variable (float : UInt64 → String)

theorem size_command (command : CommandSpec) : size float command.toJson = command.weight := by
  cases command with
  | argv program args =>
    have tag : textSize "argv" = 6 := by decide
    rw [CommandSpec.toJson, size_object float (by simp),
      fieldsSize_keyed float ["kind", "program", "args"] 27 rfl (by decide)]
    simp only [List.map_cons, List.map_nil, List.sum_cons, List.sum_nil, size_string,
      size_strings, tag, CommandSpec.weight]
    omega
  | shell command path =>
    have tag : textSize "shell" = 7 := by decide
    have optional : ∀ size, fieldSize "shell" size = 9 + size := by
      intro size
      simp only [fieldSize, tag]
      omega
    rw [CommandSpec.toJson, size_object float (by simp), fieldsSize_append,
      fieldsSize_keyed float ["kind", "command"] 19 rfl (by decide), fieldsSize_optionField]
    simp only [List.map_cons, List.map_nil, List.sum_cons, List.sum_nil, size_string, tag,
      optional, CommandSpec.weight]
    omega

/-- An object of a tag and one more field. -/
theorem size_tagged (tag key : String) (value : Json) (bytes : Nat)
    (weighed : 1 + fieldSize "kind" (textSize tag) + fieldSize key 0 = bytes) :
    size float (.object [("kind", .string tag), (key, value)]) = bytes + size float value := by
  rw [size_object float (by simp), ← weighed]
  simp only [fieldsSize, fieldSize, List.map_cons, List.map_nil, List.sum_cons, List.sum_nil,
    size_string]
  omega

theorem size_outcome (outcome : ExecutionOutcome) :
    size float outcome.toJson = outcome.weight := by
  cases outcome with
  | exited code => simp [ExecutionOutcome.toJson, ExecutionOutcome.weight,
      size_tagged float "exited" "code" _ 25 (by decide)]
  | signaled signal => simp [ExecutionOutcome.toJson, ExecutionOutcome.weight,
      size_tagged float "signaled" "signal" _ 29 (by decide)]
  | spawnError message => simp [ExecutionOutcome.toJson, ExecutionOutcome.weight,
      size_tagged float "spawn_error" "message" _ 33 (by decide)]
  | cancelled signal => simp [ExecutionOutcome.toJson, ExecutionOutcome.weight,
      size_ofOption float (size_number float),
      size_tagged float "cancelled" "signal" _ 30 (by decide)]
  | interrupted reason => simp [ExecutionOutcome.toJson, ExecutionOutcome.weight,
      size_tagged float "interrupted" "reason" _ 32 (by decide)]

theorem size_initiator (initiator : Initiator) :
    size float initiator.toJson = initiator.weight := by
  have name : textSize "name" = 6 := by decide
  have sessionId : textSize "session_id" = 12 := by decide
  rw [Initiator.toJson, size_object float (by simp), fieldsSize_append, fieldsSize_append,
    fieldsSize_keyed float ["kind"] 8 rfl (by decide), fieldsSize_optionField,
    fieldsSize_optionField]
  simp only [List.map_cons, List.map_nil, List.sum_cons, List.sum_nil, size_string,
    Initiator.weight, fieldSize, name, sessionId]
  cases initiator.name <;> cases initiator.sessionId <;> simp only [Option.elim] <;> omega

theorem size_execution (execution : DisplayedExecution) :
    size float execution.toJson = execution.weight := by
  rw [DisplayedExecution.toJson, size_object float (by simp [DisplayedExecution.fields]),
    fieldsSize_keyed float ["id", "workspace_id", "state", "command", "command_display", "cwd",
      "env_keys", "initiator", "created_at_ms", "started_at_ms", "ended_at_ms", "duration_ms",
      "pid", "pgid", "outcome", "captured_bytes", "output_truncated", "last_seq"] 233 rfl (by decide)]
  simp only [DisplayedExecution.fields, List.map_cons, List.map_nil, List.sum_cons, List.sum_nil,
    size_string, size_strings, size_number, size_natural, size_bool, size_command,
    size_initiator, size_ofOption float (size_number float),
    size_ofOption float (size_natural float), size_ofOption float (size_outcome float),
    DisplayedExecution.weight]
  omega

theorem size_session (session : AgentSession) : size float session.toJson = session.weight := by
  rw [AgentSession.toJson, size_object float (by simp [AgentSession.fields]),
    fieldsSize_keyed float ["id", "workspace_id", "state", "agent_kind", "name", "command",
      "command_display", "cwd", "created_at_ms", "ended_at_ms", "duration_ms", "recorder_pid",
      "outcome", "captured_bytes", "output_truncated", "initial_cols", "initial_rows", "cast_path",
      "html_path"] 260 rfl (by decide)]
  simp only [AgentSession.fields, List.map_cons, List.map_nil, List.sum_cons, List.sum_nil,
    size_string, size_number, size_natural, size_bool, size_command,
    size_ofOption float (size_string float), size_ofOption float (size_number float),
    size_ofOption float (size_natural float), size_ofOption float (size_outcome float),
    AgentSession.weight]
  omega

theorem size_turn (turn : AgentTurnRow) : size float turn.toJson = turn.weight := by
  have providerTurnId : textSize "provider_turn_id" = 18 := by decide
  have endedAtMs : textSize "ended_at_ms" = 13 := by decide
  have lastAssistantMessage : textSize "last_assistant_message" = 24 := by decide
  rw [AgentTurnRow.toJson, size_object float (by simp [AgentTurnRow.fields]), AgentTurnRow.fields,
    fieldsSize_append, fieldsSize_append, fieldsSize_append, fieldsSize_append,
    fieldsSize_optionField, fieldsSize_optionField, fieldsSize_optionField,
    fieldsSize_keyed float ["id", "session_id", "provider", "provider_session_id"] 55 rfl
      (by decide),
    fieldsSize_keyed float ["state", "prompt", "created_at_ms"] 36 rfl (by decide)]
  simp only [List.map_cons, List.map_nil, List.sum_cons, List.sum_nil, size_string, size_number,
    AgentTurnRow.weight, fieldSize, providerTurnId, endedAtMs, lastAssistantMessage]
  cases turn.providerTurnId <;> cases turn.endedAtMs <;> cases turn.lastAssistantMessage <;>
    simp only [Option.elim] <;> omega

theorem size_action (action : AgentActionRow) : size float action.toJson = action.weight := by
  have executionId : textSize "execution_id" = 14 := by decide
  have endedAtMs : textSize "ended_at_ms" = 13 := by decide
  rw [AgentActionRow.toJson, size_object float (by simp [AgentActionRow.fields]),
    AgentActionRow.fields, fieldsSize_append, fieldsSize_append, fieldsSize_append,
    fieldsSize_optionField, fieldsSize_optionField,
    fieldsSize_keyed float ["id", "turn_id", "provider_action_id", "tool_name", "state"] 61 rfl
      (by decide),
    fieldsSize_keyed float ["created_at_ms"] 17 rfl (by decide)]
  simp only [List.map_cons, List.map_nil, List.sum_cons, List.sum_nil, size_string, size_number,
    AgentActionRow.weight, fieldSize, executionId, endedAtMs]
  cases action.executionId <;> cases action.endedAtMs <;> simp only [Option.elim] <;> omega

theorem fieldsSize_payload (payload : ExecutionEventPayload) :
    fieldsSize float payload.fields = payload.weight := by
  cases payload with
  | started pid pgid =>
    have tag : textSize "started" = 9 := by decide
    rw [ExecutionEventPayload.fields,
      fieldsSize_keyed float ["kind", "pid", "pgid"] 23 rfl (by decide)]
    simp only [List.map_cons, List.map_nil, List.sum_cons, List.sum_nil, size_string, size_number,
      size_natural, tag, ExecutionEventPayload.weight]
    omega
  | output stream data =>
    have tag : textSize "output" = 8 := by decide
    rw [ExecutionEventPayload.fields,
      fieldsSize_keyed float ["kind", "stream", "data_base64"] 33 rfl (by decide)]
    simp only [List.map_cons, List.map_nil, List.sum_cons, List.sum_nil, size_string,
      Base64.textSize_encode, tag, ExecutionEventPayload.weight]
    omega
  | captureTruncated limitBytes =>
    have tag : textSize "capture_truncated" = 19 := by decide
    rw [ExecutionEventPayload.fields,
      fieldsSize_keyed float ["kind", "limit_bytes"] 23 rfl (by decide)]
    simp only [List.map_cons, List.map_nil, List.sum_cons, List.sum_nil, size_string, size_natural,
      tag, ExecutionEventPayload.weight]
    omega
  | finished outcome =>
    have tag : textSize "finished" = 10 := by decide
    rw [ExecutionEventPayload.fields,
      fieldsSize_keyed float ["kind", "outcome"] 19 rfl (by decide)]
    simp only [List.map_cons, List.map_nil, List.sum_cons, List.sum_nil, size_string, size_outcome,
      tag, ExecutionEventPayload.weight]
    omega

theorem size_event (event : ExecutionEvent) : size float event.toJson = event.weight := by
  rw [ExecutionEvent.toJson, size_object float (by simp), fieldsSize_append, fieldsSize_payload,
    fieldsSize_keyed float ["execution_id", "seq", "timestamp_ms"] 39 rfl (by decide)]
  simp only [List.map_cons, List.map_nil, List.sum_cons, List.sum_nil, size_string, size_number,
    size_natural, ExecutionEvent.weight]
  omega

theorem size_page (response : ReadOutputResponse) :
    fieldsSize float response.fields + 1 = response.weight := by
  rw [ReadOutputResponse.fields,
    fieldsSize_keyed float ["execution", "events", "next_seq", "has_more"] 47 rfl (by decide)]
  simp only [List.map_cons, List.map_nil, List.sum_cons, List.sum_nil, size_execution, size_natural,
    size_bool, size_array_map float (size_event float), ReadOutputResponse.weight]
  omega

theorem size_detail (detail : AgentSessionDetail) :
    size float detail.displayed.toJson = detail.weight := by
  rw [ReplayDetail.toJson, size_object float (by simp),
    fieldsSize_keyed float ["session", "executions", "turns", "actions"] 45 rfl (by decide)]
  simp only [List.map_cons, List.map_nil, List.sum_cons, List.sum_nil, size_session,
    size_array_map float (size_execution float), size_array_map float (size_turn float),
    size_array_map float (size_action float), AgentSessionDetail.displayed,
    AgentSessionDetail.weight]
  have shown : (detail.executions.map Execution.displayed).map DisplayedExecution.weight =
      detail.executions.map fun execution => execution.displayed.weight := by
    rw [List.map_map]
    rfl
  rw [shown]
  omega

end

/-! ## What the daemon answers -/

namespace Database

variable {db : Database}

theorem readsAs_getExecution (now : Int) (id : ExecutionId) :
    Sql.ReadsAs (getExecution now id) db 1 (match db.executions.find? id with
      | some row => .ok (executionFromRow now row)
      | none => .error (.executionNotFound id)) :=
  Sql.readsAs_select _

theorem readsAs_getExecution_some {id : ExecutionId} {row : ExecutionRow} (now : Int)
    (found : db.executions.find? id = some row) :
    Sql.ReadsAs (getExecution now id) db 1 (.ok (executionFromRow now row)) := by
  have read := @readsAs_getExecution db now id
  rw [found] at read
  exact read

theorem readsAs_getExecution_none {id : ExecutionId} (now : Int)
    (absent : db.executions.find? id = none) :
    Sql.ReadsAs (getExecution now id) db 1 (.error (.executionNotFound id)) := by
  have read := @readsAs_getExecution db now id
  rw [absent] at read
  exact read

theorem readsAs_readOutput_some {id : ExecutionId} {row : ExecutionRow} (now : Int)
    (afterSeq maxBytes : Nat) (found : db.executions.find? id = some row) :
    Sql.ReadsAs (readOutput now id afterSeq maxBytes) db 2
      (.ok (db.page now row afterSeq maxBytes)) := by
  have selected : Sql.ReadsAs (Sql.select fun db : Database => (.ok (db.selectEvents id afterSeq) :
      Except Error (List ExecutionEvent))) db 1 (.ok (db.selectEvents id afterSeq)) :=
    Sql.readsAs_select _
  refine (readsAs_getExecution_some now found).bind (n := 1) (selected.bind (n := 0) ?_)
  simp only [takePage_eq]
  rw [page, Table.find?_key found]
  exact Sql.readsAs_pure _

theorem readsAs_readOutput_none {id : ExecutionId} (now : Int) (afterSeq maxBytes : Nat)
    (absent : db.executions.find? id = none) :
    Sql.ReadsAs (readOutput now id afterSeq maxBytes) db 1 (.error (.executionNotFound id)) :=
  (readsAs_getExecution_none now absent).bind_error

theorem readsAs_getAgentSessionRecord (db : Database) (id : SessionId) :
    Sql.ReadsAs (getAgentSessionRecord id) db 1
      (match db.agentSessions.find? id with
        | some row => .ok row
        | none => .error (.agentSessionNotFound id)) :=
  Sql.readsAs_select _

theorem readsAs_getAgentSession_some {id : SessionId} {session : AgentSessionRow}
    (now : ExecutionId → Int) (found : db.agentSessions.find? id = some session) :
    Sql.ReadsAs (getAgentSession now id) db 4 (.ok (db.sessionDetail now session)) := by
  have read := readsAs_getAgentSessionRecord db id
  rw [found] at read
  refine read.bind (n := 3) ?_
  refine Sql.ReadsAs.bind (m := 1) (n := 2) (Sql.readsAs_select _) ?_
  refine Sql.ReadsAs.bind (m := 1) (n := 1) (Sql.readsAs_select _) ?_
  refine Sql.ReadsAs.bind (m := 1) (n := 0) (Sql.readsAs_select _) ?_
  rw [sessionDetail, Table.find?_key found]
  exact Sql.readsAs_pure _

end Database

namespace Query

variable (float : UInt64 → String) (now : ExecutionId → Int) (timedOut : Bool) (db : Database)

/-- What a query reads of the rows, and what that weighs. -/
def Answers (query : Query) : Prop :=
  ∃ r, Sql.ReadsAs (query.dispatch now timedOut) db (query.statements db) r ∧
    match query.missing db with
    | some e => r = .error e
    | none => ∃ result, r = .ok result ∧
        textSize result.type + size float result.value = query.weight now timedOut db

variable {float now timedOut db} {query : Query}

theorem Answers.of_missing {e : Error} (missing : query.missing db = some e)
    (read : Sql.ReadsAs (query.dispatch now timedOut) db 1 (.error e)) :
    query.Answers float now timedOut db := by
  refine ⟨.error e, ?_, by rw [missing]⟩
  rw [statements, missing]
  exact read

theorem Answers.of_result {result : ProtocolResult} {n : Nat} (there : query.missing db = none)
    (read : Sql.ReadsAs (query.dispatch now timedOut) db n (.ok result))
    (count : n = 1 + query.furtherStatements)
    (weighed : textSize result.type + size float result.value = query.weight now timedOut db) :
    query.Answers float now timedOut db := by
  refine ⟨.ok result, ?_, by rw [there]; exact ⟨result, rfl, weighed⟩⟩
  rw [statements, there]
  exact count ▸ read

theorem answers_get (id : ExecutionId) : (Query.get id).Answers float now timedOut db := by
  have tag : textSize "execution" = 11 := by decide
  cases found : db.executions.find? id with
  | none =>
    exact .of_missing (by simp [missing, found])
      (Database.readsAs_getExecution_none _ found).bind_error
  | some row =>
    refine .of_result (by simp [missing, found])
      ((Database.readsAs_getExecution_some (now id) found).bind (Sql.readsAs_pure _)) rfl ?_
    simp only [ProtocolResult.type, ProtocolResult.value, tag, size_execution, weight, found,
      Option.elim]

theorem answers_list (workspace : Option String) (limit : Nat) :
    (Query.list workspace limit).Answers float now timedOut db := by
  have tag : textSize "executions" = 12 := by decide
  have read : Sql.ReadsAs (daemonList now workspace limit) db 1
      (.ok ((db.listed workspace (max 1 (min limit 1000))).map
        fun row => Database.executionFromRow (now row.id) row)) := Sql.readsAs_select _
  refine .of_result rfl (read.bind (Sql.readsAs_pure _)) rfl ?_
  simp only [ProtocolResult.type, ProtocolResult.value, tag, weight]
  rw [size_array_map float fun execution : Execution => size_execution float execution.displayed,
    List.map_map]
  rfl

theorem answers_sessionGet (id : SessionId) :
    (Query.sessionGet id).Answers float now timedOut db := by
  have tag : textSize "agent_session_detail" = 22 := by decide
  cases found : db.agentSessions.find? id with
  | none =>
    have read := Database.readsAs_getAgentSessionRecord db id
    rw [found] at read
    exact .of_missing (by simp [missing, found]) read.bind_error.bind_error
  | some session =>
    refine .of_result (by simp [missing, found])
      ((Database.readsAs_getAgentSession_some now found).bind (Sql.readsAs_pure _)) rfl ?_
    simp only [ProtocolResult.type, ProtocolResult.value, tag, weight, size_detail, found,
      Option.elim]

theorem answers_sessionList (workspace : Option String) (limit : Nat) :
    (Query.sessionList workspace limit).Answers float now timedOut db := by
  have tag : textSize "agent_sessions" = 16 := by decide
  have read : Sql.ReadsAs (Database.listAgentSessions workspace (max 1 (min limit 1000))) db 1
      (.ok (db.listedSessions workspace (max 1 (min limit 1000)))) := Sql.readsAs_select _
  refine .of_result rfl (read.bind (Sql.readsAs_pure _)) rfl ?_
  simp only [ProtocolResult.type, ProtocolResult.value, tag, weight]
  rw [size_array_map float fun row : AgentSessionRow =>
    size_session float (agentSessionFromRow row)]

theorem answers_readOutput (id : ExecutionId) (afterSeq maxBytes : Nat) :
    (Query.readOutput id afterSeq maxBytes).Answers float now timedOut db := by
  have tag : textSize "output" = 8 := by decide
  cases found : db.executions.find? id with
  | none =>
    exact .of_missing (by simp [missing, found])
      (Database.readsAs_readOutput_none _ _ _ found).bind_error
  | some row =>
    have read : Sql.ReadsAs (daemonReadOutput id afterSeq maxBytes (now id)) db 2
        (.ok (db.page (now id) row afterSeq (max 1 (min maxBytes (8 * 1024 * 1024))))) :=
      Database.readsAs_readOutput_some (now id) afterSeq _ found
    refine .of_result (by simp [missing, found]) (read.bind (Sql.readsAs_pure _)) rfl ?_
    have page := size_page float
      (db.page (now id) row afterSeq (max 1 (min maxBytes (8 * 1024 * 1024))))
    simp only [ProtocolResult.type, ProtocolResult.value, tag, weight, found, Option.elim]
    rw [size_object float (by simp [ReadOutputResponse.fields])]
    omega

theorem answers_wait (id : ExecutionId) (afterSeq timeoutMs maxBytes : Nat) :
    (Query.wait id afterSeq timeoutMs maxBytes).Answers float now timedOut db := by
  have tag : textSize "wait" = 6 := by decide
  cases found : db.executions.find? id with
  | none =>
    exact .of_missing (by simp [missing, found])
      (Database.readsAs_readOutput_none _ _ _ found).bind_error
  | some row =>
    have read : Sql.ReadsAs
        (WaitCall.read ⟨id, afterSeq, some (max 1 (min maxBytes (8 * 1024 * 1024)))⟩ (now id)) db 2
        (.ok (db.page (now id) row afterSeq (max 1 (min maxBytes (8 * 1024 * 1024))))) :=
      Database.readsAs_readOutput_some (now id) afterSeq _ found
    refine .of_result (by simp [missing, found]) (read.bind (Sql.readsAs_pure _)) rfl ?_
    have page := size_page float
      (db.page (now id) row afterSeq (max 1 (min maxBytes (8 * 1024 * 1024))))
    simp only [ProtocolResult.type, ProtocolResult.value, tag, weight, found, Option.elim]
    have flag : fieldsSize float [("timed_out", .bool timedOut)] = 13 + boolSize timedOut := by
      rw [fieldsSize_keyed float ["timed_out"] 13 rfl (by decide)]
      simp only [List.map_cons, List.map_nil, List.sum_cons, List.sum_nil, size_bool]
      omega
    rw [size_object float (by simp), fieldsSize_append, flag]
    omega

theorem answers_subscribe (id : ExecutionId) (afterSeq : Nat) :
    (Query.subscribe id afterSeq).Answers float now timedOut db := by
  have tag : textSize "subscription" = 14 := by decide
  cases found : db.executions.find? id with
  | none =>
    exact .of_missing (by simp [missing, found])
      (Database.readsAs_getExecution_none _ found).bind_error
  | some row =>
    have read := Database.readsAs_getExecution_some (now id) found
    by_cases beyond : (Database.executionFromRow (now id) row).lastSeq < afterSeq
    · have refused : (Query.subscribe id afterSeq).missing db =
          some (cursorError afterSeq row.lastSeq) := by
        rw [missing, found]
        exact if_pos beyond
      refine .of_missing refused (read.bind (n := 0) ?_)
      rw [if_pos beyond]
      exact Sql.readsAs_fail _
    · have there : (Query.subscribe id afterSeq).missing db = none := by
        rw [missing, found]
        exact if_neg beyond
      have all : Sql.ReadsAs ((Query.subscribe id afterSeq).dispatch now timedOut) db 1
          (.ok (.subscription (Database.executionFromRow (now id) row) afterSeq)) := by
        refine read.bind (n := 0) ?_
        rw [if_neg beyond]
        exact Sql.readsAs_pure _
      refine .of_result there all rfl ?_
      simp only [ProtocolResult.type, ProtocolResult.value, tag, weight, found, Option.elim]
      rw [size_object float (by simp),
        fieldsSize_keyed float ["execution", "next_seq"] 25 rfl (by decide)]
      simp only [List.map_cons, List.map_nil, List.sum_cons, List.sum_nil, size_execution,
        size_natural]
      omega

/-- Every query reads what its weight says. -/
theorem answers (query : Query) : query.Answers float now timedOut db := by
  cases query with
  | get id => exact answers_get id
  | list workspace limit => exact answers_list workspace limit
  | sessionGet id => exact answers_sessionGet id
  | sessionList workspace limit => exact answers_sessionList workspace limit
  | readOutput id afterSeq maxBytes => exact answers_readOutput id afterSeq maxBytes
  | wait id afterSeq timeoutMs maxBytes => exact answers_wait id afterSeq timeoutMs maxBytes
  | subscribe id afterSeq => exact answers_subscribe id afterSeq

end Query

/-! ## Frames -/

namespace WireMessage

variable (float : UInt64 → String)

theorem frameBytes_ok (requestId : String) (result : ProtocolResult) :
    (ok requestId result).frameBytes float =
      87 + textSize requestId + (textSize result.type + size float result.value) := by
  have kind : textSize "response" = 10 := by decide
  have status : textSize "ok" = 4 := by decide
  have version : naturalSize protocolVersion = 1 := by decide
  have inner : size float (.object [("type", .string result.type), ("value", result.value)]) =
      18 + (textSize result.type + size float result.value) := by
    rw [size_object float (by simp), fieldsSize_keyed float ["type", "value"] 17 rfl (by decide)]
    simp only [List.map_cons, List.map_nil, List.sum_cons, List.sum_nil, size_string]
    omega
  rw [frameBytes, toJson, size_object float (by simp), fieldsSize_keyed float
    ["kind", "version", "request_id", "status", "result"] 53 rfl (by decide)]
  simp only [List.map_cons, List.map_nil, List.sum_cons, List.sum_nil, size_string, size_natural,
    inner, kind, status, version]
  omega

theorem frameBytes_error (requestId : String) (e : Error) :
    (error requestId e).frameBytes float =
      91 + textSize requestId + textSize e.code + textSize e.toString := by
  have kind : textSize "response" = 10 := by decide
  have status : textSize "error" = 7 := by decide
  have version : naturalSize protocolVersion = 1 := by decide
  have inner : size float (.object [("code", .string e.code), ("message", .string e.toString)]) =
      20 + textSize e.code + textSize e.toString := by
    rw [size_object float (by simp), fieldsSize_keyed float ["code", "message"] 19 rfl (by decide)]
    simp only [List.map_cons, List.map_nil, List.sum_cons, List.sum_nil, size_string]
    omega
  rw [frameBytes, toJson, size_object float (by simp), fieldsSize_keyed float
    ["kind", "version", "request_id", "status", "error"] 52 rfl (by decide)]
  simp only [List.map_cons, List.map_nil, List.sum_cons, List.sum_nil, size_string, size_natural,
    inner, kind, status, version]
  omega

theorem frameBytes_event (subscriptionId : String) (sent : ExecutionEvent) :
    (event subscriptionId sent).frameBytes float =
      56 + textSize subscriptionId + sent.weight := by
  have kind : textSize "event" = 7 := by decide
  have version : naturalSize protocolVersion = 1 := by decide
  rw [frameBytes, toJson, size_object float (by simp), fieldsSize_keyed float
    ["kind", "version", "subscription_id", "event"] 47 rfl (by decide)]
  simp only [List.map_cons, List.map_nil, List.sum_cons, List.sum_nil, size_string, size_natural,
    size_event, kind, version]
  omega

end WireMessage

/-- What a request for reads answers: an error of the conditions, or what it reads. -/
theorem request_of_readsAs {α : Type} {program : Store α} {db : Database} {n : Nat}
    {r : Except Error α} (reads : Sql.ReadsAs program db n r) (conditions : Conditions) :
    (Store.request program conditions db).1 =
      match (conditions.unavailable.map Error.storageUnavailable).or
          ((Sql.firstFault n conditions.faults).map .database) with
      | some e => .error e
      | none => r := by
  have ran := reads.result (conditions.faults.map (Option.map Error.database))
  rw [Sql.firstFault_map] at ran
  unfold Store.request
  cases conditions.unavailable with
  | some message => rfl
  | none =>
    simp only [Option.map_none, Option.none_or, Store.run]
    rw [ran]
    cases Sql.firstFault n conditions.faults <;> rfl

/-- What the reads of a query meet is what `refusal` says. -/
theorem Query.request_dispatch (float : UInt64 → String) (query : Query)
    (now : ExecutionId → Int) (timedOut : Bool) (conditions : Conditions) (db : Database) :
    match query.refusal db conditions with
    | some e => (Store.request (query.dispatch now timedOut) conditions db).1 = .error e
    | none => ∃ result,
        (Store.request (query.dispatch now timedOut) conditions db).1 = .ok result ∧
          textSize result.type + size float result.value = query.weight now timedOut db := by
  obtain ⟨r, reads, answered⟩ := @query.answers float now timedOut db
  rw [request_of_readsAs reads, Query.refusal, ← Option.or_assoc]
  cases (conditions.unavailable.map Error.storageUnavailable).or
      ((Sql.firstFault (query.statements db) conditions.faults).map .database) with
  | some e => rfl
  | none =>
    simp only [Option.none_or]
    cases missing : query.missing db with
    | some e =>
      rw [missing] at answered
      exact answered
    | none =>
      rw [missing] at answered
      exact answered

theorem Answer.frameBytes_response_le (float : UInt64 → String) (answer : Answer)
    (db : Database) :
    (answer.response db).frameBytes float ≤ maxFrameBytes ↔ answer.Fits db := by
  have dispatched := answer.query.request_dispatch float answer.now answer.timedOut
    answer.conditions db
  unfold Answer.response Answer.Fits
  cases answer.before with
  | some e =>
    simp only [Option.some_or]
    rw [WireMessage.frameBytes_error]
  | none =>
    simp only [Option.none_or]
    cases refused : answer.query.refusal db answer.conditions with
    | some e =>
      rw [refused] at dispatched
      simp only [dispatched]
      rw [WireMessage.frameBytes_error]
    | none =>
      rw [refused] at dispatched
      obtain ⟨result, ran, weighed⟩ := dispatched
      simp only [ran]
      rw [WireMessage.frameBytes_ok, weighed]

/-- A replayed page sends the events that its cursor is behind of, if it was read. -/
theorem replay_messages (db : Database) (subscriptionId : String) (id : ExecutionId)
    (cursor : Nat) (now : Int) (conditions : Conditions) :
    (ServiceStep.replay subscriptionId id cursor now conditions).messages db =
      if (Query.readOutput id cursor (1024 * 1024)).refusal db conditions = none then
        (replayPage cursor (Database.pageEvents (1024 * 1024) (db.selectEvents id cursor))).map
          (.event subscriptionId)
      else [] := by
  unfold ServiceStep.messages
  cases found : db.executions.find? id with
  | none =>
    have missing : (Query.readOutput id cursor (1024 * 1024)).missing db =
        some (.executionNotFound id) := if_pos found
    simp only [request_of_readsAs (Database.readsAs_readOutput_none now cursor _ found)]
    rw [Query.refusal, missing, if_neg (by simp)]
    cases (conditions.unavailable.map Error.storageUnavailable).or
      ((Sql.firstFault 1 conditions.faults).map .database) <;> rfl
  | some row =>
    have key : row.id = id := Table.find?_key found
    have there : (Query.readOutput id cursor (1024 * 1024)).missing db = none :=
      if_neg (by simp [found])
    simp only [request_of_readsAs (Database.readsAs_readOutput_some now cursor _ found)]
    rw [Query.refusal, Query.statements, there, Option.or_none]
    show _ = if (conditions.unavailable.map Error.storageUnavailable).or
      ((Sql.firstFault 2 conditions.faults).map .database) = none then _ else _
    cases (conditions.unavailable.map Error.storageUnavailable).or
      ((Sql.firstFault 2 conditions.faults).map .database) with
    | some e => rfl
    | none =>
      rw [if_pos rfl, ← key]
      rfl

theorem ServiceStep.messages_fit_iff (float : UInt64 → String) (s : Service)
    (step : ServiceStep) :
    (∀ message ∈ step.messages s.db, message.frameBytes float ≤ maxFrameBytes) ↔
      Fits s step := by
  cases step with
  | command command faults => simp [messages, Fits]
  | answer asked =>
    simp only [messages, List.mem_singleton, forall_eq]
    exact asked.frameBytes_response_le float s.db
  | replay subscriptionId id cursor now conditions =>
    rw [replay_messages]
    unfold Fits
    by_cases refused : (Query.readOutput id cursor (1024 * 1024)).refusal s.db conditions = none
    · rw [if_pos refused]
      simp only [refused, forall_const, List.forall_mem_map, WireMessage.frameBytes_event,
        ExecutionEvent.Fits]
    · rw [if_neg refused]
      simp [refused]
  | event subscriptionId received =>
    simp only [messages, List.mem_singleton, forall_eq]
    rw [WireMessage.frameBytes_event]
    rfl

/-- Every frame fits that was to be sent. -/
def Service.AllFit (float : UInt64 → String) (s : Service) : Prop :=
  ∀ message ∈ s.sent, message.frameBytes float ≤ maxFrameBytes

theorem allFit_step {float : UInt64 → String} {s s' : Service} {step : ServiceStep}
    (enabled : service.step s step = some s') :
    s'.AllFit float ↔ s.AllFit float ∧ Fits s step := by
  cases enabled
  unfold Service.AllFit
  rw [List.forall_mem_append, ServiceStep.messages_fit_iff]

/-- Every frame of the daemon fits just when the rows behind it weigh little enough: at any
point of any run, for any request, replay or event, and so for whole runs. -/
theorem frames_fit_iff (float : UInt64 → String) {s : Service} (reached : service.Reachable s) :
    (∀ step : ServiceStep,
      (∀ message ∈ step.messages s.db, message.frameBytes float ≤ maxFrameBytes) ↔ Fits s step) ∧
    (s.AllFit float ↔ service.ReachableVia Fits s) := by
  refine ⟨ServiceStep.messages_fit_iff float s, ?_, ?_⟩
  · intro fit
    induction reached with
    | start first => exact .start first
    | step before _ enabled ih =>
      have both := (allFit_step enabled).mp fit
      exact .step (ih both.1) both.2 enabled
  · intro via
    refine via.invariant (Service.AllFit float) ?_ ?_
    · intro t first
      cases first
      simp [Service.AllFit]
    · intro t step t' _ fit met enabled
      exact (allFit_step enabled).mpr ⟨fit, met⟩

/-- An execution request of one shell command. -/
def shellRequest (command : String) : ExecutionRequest :=
  { workspaceId := "w", command := .shell command none }

/-- The requests that register a workspace and run a command in it. -/
def shellRequests (command : String) : List WireMessage := [
    .request "1" "workspace_add" [("name", .string "demo"), ("root", .string "/demo")],
    .request "2" "execute" [("request", (shellRequest command).toJson none)],
    .request "3" "get" [("execution_id", .string "x")]]

/-- What becomes of them. -/
def shellSteps (command : String) : List ServiceStep := [
    .command (.addWorkspace 1 "w" "demo" (.ok ("/demo", true))) [],
    .command (.createExecution 2 "x" (shellRequest command) "/demo") [],
    .answer { requestId := "3", query := .get "x" }]

/-- The row of the command. -/
def shellRow (command : String) : ExecutionRow :=
  Database.queuedRow 2 "x" (shellRequest command) "/demo"

theorem shellSteps_sent {command : String} (nonempty : command ≠ "") :
    (service.run { db := newDatabase } (shellSteps command)).map Service.sent =
      some [.ok "3" (.execution (Database.executionFromRow 0 (shellRow command)))] := by
  have valid : (shellRequest command).validate = .ok () := by
    simp [ExecutionRequest.validate, shellRequest, CommandSpec.validate, nonempty]
  simp only [shellSteps, System.run, service, StoreCommand.program, Database.createExecution, valid]
  rfl

theorem frameBytes_shellRequests (float : UInt64 → String) (command : String) :
    (shellRequests command).map (WireMessage.frameBytes float) =
      [104, 178 + textSize command, 84] := by
  have version : naturalSize protocolVersion = 1 := by decide
  have texts : textSize "request" = 9 ∧ textSize "execute" = 9 ∧ textSize "2" = 3 ∧
      textSize "w" = 3 ∧ textSize "unknown" = 9 := by decide
  have empty : size float (.object []) = 2 := rfl
  have request : size float ((shellRequest command).toJson none) = 98 + textSize command := by
    show size float (.object [("workspace_id", .string "w"),
      ("command", (shellRequest command).command.toJson), ("env", .object []),
      ("initiator", (shellRequest command).initiator.toJson)]) = _
    rw [size_object float (by simp), fieldsSize_keyed float
      ["workspace_id", "command", "env", "initiator"] 47 rfl (by decide)]
    simp only [List.map_cons, List.map_nil, List.sum_cons, List.sum_nil, size_string,
      size_initiator, size_command, shellRequest, CommandSpec.weight, Initiator.weight,
      Option.elim, texts, empty]
    omega
  have execute : (WireMessage.request "2" "execute"
      [("request", (shellRequest command).toJson none)]).frameBytes float =
        178 + textSize command := by
    rw [WireMessage.frameBytes, WireMessage.toJson, size_object float (by simp),
      fieldsSize_keyed float ["kind", "version", "request_id", "operation", "request"] 57 rfl
        (by decide)]
    simp only [List.map_cons, List.map_nil, List.map_append, List.sum_append, List.sum_cons,
      List.sum_nil, size_string, size_natural, request, version, texts]
    omega
  rw [shellRequests, List.map_cons, List.map_cons, execute]
  rfl

/-- The response has the command twice. -/
theorem frameBytes_shellRow (float : UInt64 → String) (command : String) :
    2 * textSize command <
      (WireMessage.ok "3" (.execution
        (Database.executionFromRow 0 (shellRow command)))).frameBytes float := by
  rw [WireMessage.frameBytes_ok]
  show _ < 87 + textSize "3" + (textSize "execution" + size float (DisplayedExecution.toJson _))
  rw [size_execution]
  have commands : (Database.executionFromRow 0 (shellRow command)).displayed.command.weight =
      27 + textSize command := rfl
  have shown : (Database.executionFromRow 0 (shellRow command)).displayed.commandDisplay =
      command := rfl
  rw [DisplayedExecution.weight, commands, shown]
  omega

theorem textSize_replicate {c : Char} (plain : charSize c = 1) (n : Nat) :
    textSize (.ofList (List.replicate n c)) = n + 2 := by
  rw [textSize, String.toList_ofList, List.map_replicate, plain, List.sum_replicate_nat]
  omega

/-- A command of nine million characters is accepted, and cannot be read any more. -/
theorem accepted_record_unreadable :
    ∃ command : String, ∃ s, service.run { db := newDatabase } (shellSteps command) = some s ∧
      (∀ message ∈ shellRequests command,
        message.frameBytes (fun _ => "0.0") ≤ maxFrameBytes) ∧
      ∃ message ∈ s.sent, maxFrameBytes < message.frameBytes fun _ => "0.0" := by
  have plain : charSize 'a' = 1 := by decide
  have long : ∃ command : String, textSize command = 9000000 + 2 :=
    ⟨_, textSize_replicate plain 9000000⟩
  obtain ⟨command, long⟩ := long
  have nonempty : command ≠ "" := by
    rintro rfl
    exact absurd long (by decide)
  obtain ⟨s, ran, sent⟩ := Option.map_eq_some_iff.mp (shellSteps_sent nonempty)
  refine ⟨command, s, ran, ?_, _, by rw [sent]; exact List.mem_singleton_self _, ?_⟩
  · intro message member
    have size := List.mem_map_of_mem (f := WireMessage.frameBytes fun _ => "0.0") member
    rw [frameBytes_shellRequests, long] at size
    simp only [List.mem_cons, List.not_mem_nil, or_false] at size
    unfold maxFrameBytes
    omega
  · have twice := frameBytes_shellRow (fun _ => "0.0") command
    rw [long] at twice
    unfold maxFrameBytes
    omega

/-- The command `make` is accepted, and can be read. -/
theorem frames_fit_iff_sample :
    ∃ s, service.run { db := newDatabase } (shellSteps "make") = some s ∧
      ∀ message ∈ (ServiceStep.answer { requestId := "3", query := .get "x" }).messages s.db,
        message.frameBytes (fun _ => "0.0") ≤ maxFrameBytes := by
  have fits : (service.run { db := newDatabase } (shellSteps "make")).map (fun s =>
      decide (Answer.Fits s.db { requestId := "3", query := .get "x" })) = some true := by
    decide +kernel
  obtain ⟨s, ran, fits⟩ := Option.map_eq_some_iff.mp fits
  have reached : service.Reachable s := System.run_reachable rfl ran
  have answered : Answer.Fits s.db { requestId := "3", query := .get "x" } :=
    of_decide_eq_true fits
  exact ⟨s, ran, ((frames_fit_iff (fun _ => "0.0") reached).1 _).mpr answered⟩

end Loomterm
