/-!
# Records of the runtime

The records of `src/model.rs` and the errors of `src/error.rs` that the modelled
functions read, build or return. Values that travel as JSON or base64 are kept decoded: a
value that does not decode is a case of its own where the code handles it. Sequence
numbers, byte counts and sizes are natural numbers, since SQLite bounds a database at
`2 ^ 48` bytes and the `i64` and `u64` counters over its rows therefore never wrap;
clock values are integers.
-/

namespace Loomterm

abbrev ExecutionId := String
abbrev WorkspaceId := String
abbrev SessionId := String
abbrev Bytes := List UInt8

/-- `Error` (`src/error.rs:3`); a database, JSON or I/O error is its message. -/
inductive Error where
  | io (message : String)
  | database (message : String)
  | storageUnavailable (message : String)
  | json (message : String)
  | config (message : String)
  | workspaceNotFound (identifier : String)
  | executionNotFound (id : ExecutionId)
  | agentSessionNotFound (id : SessionId)
  | outsideWorkspace (path workspace : String)
  | invalidRequest (message : String)
  | protocol (message : String)
  | daemonDraining
  | timeout
  | alreadyTerminal (id : ExecutionId)
  deriving DecidableEq, Repr

/-- The display text of an error (`src/error.rs:5-42`). -/
def Error.toString : Error → String
  | .io message => "I/O error: " ++ message
  | .database message => "database error: " ++ message
  | .storageUnavailable message => "storage unavailable: " ++ message
  | .json message => "serialization error: " ++ message
  | .config message => "configuration error: " ++ message
  | .workspaceNotFound identifier => "workspace not found: " ++ identifier
  | .executionNotFound id => "execution not found: " ++ id
  | .agentSessionNotFound id => "agent session not found: " ++ id
  | .outsideWorkspace path workspace =>
      "path \"" ++ path ++ "\" is outside workspace \"" ++ workspace ++ "\""
  | .invalidRequest message => "invalid request: " ++ message
  | .protocol message => "protocol error: " ++ message
  | .daemonDraining => "daemon is draining and cannot accept new executions"
  | .timeout => "operation timed out"
  | .alreadyTerminal id => "execution is already terminal: " ++ id

/-- `char::is_whitespace`, the Unicode property White_Space. -/
def isWhitespace (c : Char) : Bool :=
  let code := c.toNat
  (9 ≤ code && code ≤ 13) || code == 32 || code == 0x85 || code == 0xA0 || code == 0x1680 ||
    (0x2000 ≤ code && code ≤ 0x200A) || code == 0x2028 || code == 0x2029 || code == 0x202F ||
    code == 0x205F || code == 0x3000

/-- `text.trim().is_empty()`. -/
def isBlank (text : String) : Bool := text.toList.all isWhitespace

/-- `CommandSpec` (`src/model.rs:27`). -/
inductive CommandSpec where
  | argv (program : String) (args : List String)
  | shell (command : String) (shell : Option String)
  deriving DecidableEq, Repr

/-- `CommandSpec::validate` (`src/model.rs:41`). -/
def CommandSpec.validate : CommandSpec → Except Error Unit
  | .argv program _ =>
      if program = "" then .error (.invalidRequest "program must not be empty") else .ok ()
  | .shell command _ =>
      if command = "" then .error (.invalidRequest "shell command must not be empty") else .ok ()

/-- `Initiator` (`src/model.rs:77`). -/
structure Initiator where
  kind : String := "unknown"
  name : Option String := none
  sessionId : Option SessionId := none
  deriving DecidableEq, Repr

/-- `ExecutionRequest` (`src/model.rs:101`); `stdinBase64` is what the text decodes to,
or the decoder's error. -/
structure ExecutionRequest where
  workspaceId : WorkspaceId
  cwd : Option String := none
  command : CommandSpec
  env : List (String × String) := []
  stdinBase64 : Option (Except String Bytes) := none
  initiator : Initiator := {}
  captureLimitBytes : Option Nat := none

/-- `ExecutionRequest::validate` (`src/model.rs:117`). -/
def ExecutionRequest.validate (request : ExecutionRequest) : Except Error Unit := do
  if request.workspaceId = "" then
    throw (.invalidRequest "workspace_id must not be empty")
  request.command.validate
  match request.stdinBase64 with
  | some (.error e) => throw (.invalidRequest ("invalid stdin_base64: " ++ e))
  | _ => pure ()
  if request.env.any fun entry => entry.1 = "" || entry.1.toList.contains '=' then
    throw (.invalidRequest "environment keys must be non-empty and must not contain '='")

/-- `ExecutionState` (`src/model.rs:155`). -/
inductive ExecutionState where
  | queued
  | running
  | finished
  | cancelled
  | interrupted
  deriving DecidableEq, Repr

/-- `ExecutionState::is_terminal` (`src/model.rs:164`). -/
def ExecutionState.isTerminal : ExecutionState → Bool
  | .finished | .cancelled | .interrupted => true
  | .queued | .running => false

/-- `ExecutionOutcome` (`src/model.rs:181`). -/
inductive ExecutionOutcome where
  | exited (code : Int)
  | signaled (signal : Int)
  | spawnError (message : String)
  | cancelled (signal : Option Int)
  | interrupted (reason : String)
  deriving DecidableEq, Repr

/-- `OutputStream` (`src/model.rs:518`). -/
inductive OutputStream where
  | stdout
  | stderr
  deriving DecidableEq, Repr

/-- `ExecutionEventPayload` (`src/model.rs:534`), with the output bytes decoded. -/
inductive ExecutionEventPayload where
  | started (pid : Nat) (pgid : Int)
  | output (stream : OutputStream) (data : Bytes)
  | captureTruncated (limitBytes : Nat)
  | finished (outcome : ExecutionOutcome)
  deriving DecidableEq, Repr

/-- `ExecutionEvent` (`src/model.rs:552`), which is also a row of the table `events`. -/
structure ExecutionEvent where
  executionId : ExecutionId
  seq : Nat
  timestampMs : Int
  payload : ExecutionEventPayload
  deriving DecidableEq, Repr

/-- `Execution` (`src/model.rs:190`), without `command_display`, a text made from its
command. -/
structure Execution where
  id : ExecutionId
  workspaceId : WorkspaceId
  state : ExecutionState
  command : CommandSpec
  cwd : String
  envKeys : List String
  initiator : Initiator
  createdAtMs : Int
  startedAtMs : Option Int
  endedAtMs : Option Int
  durationMs : Option Nat
  pid : Option Nat
  pgid : Option Int
  outcome : Option ExecutionOutcome
  capturedBytes : Nat
  outputTruncated : Bool
  lastSeq : Nat
  deriving DecidableEq, Repr

/-- `AgentSessionState` (`src/model.rs:213`). -/
inductive AgentSessionState where
  | recording
  | finished
  | interrupted
  deriving DecidableEq, Repr

/-- `AgentSessionState::is_terminal` (`src/model.rs:220`). -/
def AgentSessionState.isTerminal (state : AgentSessionState) : Bool := state ≠ .recording

/-- `AgentSessionRequest` (`src/model.rs:257`). -/
structure AgentSessionRequest where
  id : SessionId
  workspaceId : WorkspaceId
  agentKind : String
  name : Option String
  command : CommandSpec
  cwd : String
  recorderPid : Nat
  initialCols : Nat
  initialRows : Nat
  castPath : String
  htmlPath : String

/-- `AgentSessionRequest::validate` (`src/model.rs:271`). -/
def AgentSessionRequest.validate (request : AgentSessionRequest) : Except Error Unit := do
  if request.id = "" || request.workspaceId = "" || isBlank request.agentKind then
    throw (.invalidRequest "id, workspace_id, and agent_kind must not be empty")
  if request.initialCols = 0 || request.initialRows = 0 then
    throw (.invalidRequest "terminal dimensions must be greater than zero")
  request.command.validate

/-- `AgentSessionFinish` (`src/model.rs:288`). -/
structure AgentSessionFinish where
  state : AgentSessionState
  outcome : ExecutionOutcome
  capturedBytes : Nat
  outputTruncated : Bool
  deriving DecidableEq

/-- `AgentTurnState` (`src/model.rs:307`). -/
inductive AgentTurnState where
  | active
  | completed
  | failed
  | interrupted
  deriving DecidableEq, Repr

/-- `AgentActionState` (`src/model.rs:344`). -/
inductive AgentActionState where
  | running
  | completed
  | failed
  deriving DecidableEq, Repr

/-- `AgentEvent` (`src/model.rs:426`). -/
inductive AgentEvent where
  | promptSubmitted (prompt : String)
  | toolStarted (actionId toolName : String)
  | toolFinished (actionId toolName : String) (failed : Bool)
      (executionId : Option ExecutionId)
  | turnFinished (failed : Bool) (lastAssistantMessage : Option String)
  deriving DecidableEq

/-- `AgentEventRequest` (`src/model.rs:375`). -/
structure AgentEventRequest where
  sessionId : SessionId
  provider : String
  providerSessionId : String
  providerTurnId : Option String
  event : AgentEvent

/-- The check of an event's own fields in `AgentEventRequest::validate`. -/
def AgentEvent.validate : AgentEvent → Except Error Unit
  | .promptSubmitted prompt =>
      if prompt = "" then .error (.invalidRequest "agent prompt must not be empty") else .ok ()
  | .toolStarted actionId toolName | .toolFinished actionId toolName _ _ =>
      if isBlank actionId || isBlank toolName then
        .error (.invalidRequest "action_id and tool_name must not be empty")
      else .ok ()
  | .turnFinished _ _ => .ok ()

/-- `AgentEventRequest::validate` (`src/model.rs:386`). -/
def AgentEventRequest.validate (request : AgentEventRequest) : Except Error Unit := do
  if isBlank request.sessionId || isBlank request.provider || isBlank request.providerSessionId then
    throw (.invalidRequest "session_id, provider, and provider_session_id must not be empty")
  if request.providerTurnId.any isBlank then
    throw (.invalidRequest "provider_turn_id must not be empty when present")
  request.event.validate

/-- `Workspace` (`src/model.rs:485`). -/
structure Workspace where
  id : WorkspaceId
  name : String
  root : String
  createdAtMs : Int
  deriving DecidableEq, Repr

/-- `ReadOutputResponse` (`src/model.rs:561`). -/
structure ReadOutputResponse where
  execution : Execution
  events : List ExecutionEvent
  nextSeq : Nat
  hasMore : Bool
  deriving DecidableEq, Repr

end Loomterm
