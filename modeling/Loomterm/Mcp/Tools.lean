import Loomterm.Misc.Utf8
import Loomterm.Store.Paging
import Loomterm.Store.Workspaces

/-!
# The tools of the MCP server

The reading tools of `src/mcp.rs`: what they ask the daemon for, and how they turn a page
of events into their response. Output bytes travel as base64 and are kept decoded here.
-/

namespace Loomterm

/-! ## Calls to the daemon -/

/-- The code of an error on the wire (`src/protocol.rs:214`). -/
def Error.code : Error → String
  | .workspaceNotFound _ => "workspace_not_found"
  | .executionNotFound _ => "execution_not_found"
  | .agentSessionNotFound _ => "agent_session_not_found"
  | .outsideWorkspace _ _ => "outside_workspace"
  | .invalidRequest _ => "invalid_request"
  | .alreadyTerminal _ => "already_terminal"
  | .daemonDraining => "daemon_draining"
  | .timeout => "timeout"
  | .config _ => "configuration_error"
  | .storageUnavailable _ => "storage_unavailable"
  | .io _ | .database _ | .json _ | .protocol _ => "internal_error"

/-- `ProtocolError::from` and `ProtocolError::into_error` (`src/protocol.rs:206`). -/
def Error.overWire (error : Error) : Error := .protocol (error.code ++ ": " ++ error.toString)

/-- The moment at which the daemon serves a call: its clock and its database, and what the
call meets, on the way or in the store. -/
structure Moment where
  now : Int
  db : Database
  transport : Option Error := none
  conditions : Conditions := {}

/-- `DaemonClient::call`, followed by `tool_error` as every tool does. -/
def Moment.call {α : Type} (moment : Moment) (program : Int → Store α) : Except String α :=
  match moment.transport with
  | some error => .error error.toString
  | none => (Store.request (program moment.now) moment.conditions moment.db).1.mapError
      fun error => error.overWire.toString

/-- `Operation::ReadOutput` in the daemon (`src/daemon.rs:405`). -/
def daemonReadOutput (id : ExecutionId) (afterSeq maxBytes : Nat) (now : Int) :
    Store ReadOutputResponse :=
  Database.readOutput now id afterSeq (max 1 (min maxBytes (8 * 1024 * 1024)))

/-- `Operation::List` in the daemon (`src/daemon.rs:350`). -/
def daemonList (clock : ExecutionId → Int) (workspace : Option String) (limit : Nat) :
    Store (List Execution) :=
  Database.listExecutions clock workspace (max 1 (min limit 1000))

/-! ## Responses -/

/-- `OutputFormat` (`src/mcp.rs:58`). -/
inductive OutputFormat where
  | text
  | base64
  deriving DecidableEq, Repr

/-- `ToolEventPayload` (`src/mcp.rs:173`). -/
inductive ToolEventPayload where
  | started (pid : Nat) (pgid : Int)
  | output (stream : OutputStream) (rawBytes : Nat) (text : Option String)
      (dataBase64 : Option Bytes) (lossy : Option Bool)
  | captureTruncated (limitBytes : Nat)
  | finished (outcome : ExecutionOutcome)
  deriving DecidableEq, Repr

/-- `ToolEvent` (`src/mcp.rs:163`). -/
structure ToolEvent where
  executionId : ExecutionId
  seq : Nat
  timestampMs : Int
  payload : ToolEventPayload
  deriving DecidableEq, Repr

/-- `ToolOutputResponse` (`src/mcp.rs:146`), which `RunResult` repeats. -/
structure ToolOutputResponse where
  execution : Execution
  events : List ToolEvent
  nextSeq : Nat
  hasMore : Bool
  deriving DecidableEq, Repr

/-- `ToolWaitResponse` (`src/mcp.rs:154`). -/
structure ToolWaitResponse extends ToolOutputResponse where
  timedOut : Bool
  deriving DecidableEq, Repr

/-- `normalized_max` (`src/mcp.rs:430`). -/
def normalizedMax (value : Option Nat) : Nat := max 1 (min (value.getD (256 * 1024)) (1024 * 1024))

/-- `event_raw_bytes` (`src/mcp.rs:476`). -/
def eventRawBytes (event : ExecutionEvent) : Nat :=
  match event.payload with
  | .output _ data => data.length
  | _ => 0

/-- `convert_event` (`src/mcp.rs:488`). -/
def convertEvent (format : OutputFormat) (event : ExecutionEvent) : ToolEvent where
  executionId := event.executionId
  seq := event.seq
  timestampMs := event.timestampMs
  payload :=
    match event.payload with
    | .started pid pgid => .started pid pgid
    | .output stream data =>
        match format with
        | .text =>
            match Utf8.fromUtf8 data with
            | some text => .output stream data.length (some text) none none
            | none => .output stream data.length (some (Utf8.fromUtf8Lossy data)) none (some true)
        | .base64 => .output stream data.length none (some data) none
    | .captureTruncated limitBytes => .captureTruncated limitBytes
    | .finished outcome => .finished outcome

/-- What `convert_events` returns, and what it leaves in `remaining` and `cursor`. -/
structure Converted where
  events : List ToolEvent
  more : Bool
  remaining : Nat
  cursor : Nat
  deriving DecidableEq, Repr

/-- `convert_events` (`src/mcp.rs:457`). -/
def convertEvents (format : OutputFormat) (remaining cursor : Nat) :
    List ExecutionEvent → Converted
  | [] => ⟨[], false, remaining, cursor⟩
  | event :: rest =>
      let rawBytes := eventRawBytes event
      if remaining < rawBytes then ⟨[], true, remaining, cursor⟩
      else
        let later := convertEvents format (remaining - rawBytes) event.seq rest
        { later with events := convertEvent format event :: later.events }

/-! ## Tools -/

/-- `LoomMcpServer` (`src/mcp.rs:21`), as far as the tools here read it. -/
structure LoomMcpServer where
  workspace : Workspace

/-- `ensure_workspace_match` (`src/mcp.rs:446`). -/
def ensureWorkspaceMatch (execution : Execution) (workspaceId : WorkspaceId) :
    Except String Execution :=
  if execution.workspaceId = workspaceId then .ok execution
  else .error "execution is outside the MCP server's project workspace"

/-- `ReadInput` (`src/mcp.rs:108`). -/
structure ReadInput where
  executionId : ExecutionId
  afterSeq : Nat := 0
  outputFormat : OutputFormat := .text
  maxBytes : Option Nat := none

/-- What a tool makes of a page that the daemon returned for `after_seq`. -/
def respond (format : OutputFormat) (maxBytes afterSeq : Nat) (response : ReadOutputResponse) :
    ToolOutputResponse :=
  let converted := convertEvents format maxBytes afterSeq response.events
  { execution := response.execution
    events := converted.events
    nextSeq := converted.cursor
    hasMore := response.hasMore || converted.more ||
      decide (converted.cursor < response.nextSeq) }

/-- What `loom_wait` makes of a page. -/
def respondWait (format : OutputFormat) (maxBytes afterSeq : Nat) (response : ReadOutputResponse)
    (timedOut : Bool) : ToolWaitResponse :=
  { respond format maxBytes afterSeq response with timedOut }

namespace LoomMcpServer

/-- `LoomMcpServer::allowed_execution` (`src/mcp.rs:51`). -/
def allowedExecution (server : LoomMcpServer) (id : ExecutionId) (moment : Moment) :
    Except String Execution := do
  let execution ← moment.call fun now => Database.getExecution now id
  ensureWorkspaceMatch execution server.workspace.id

/-- `LoomMcpServer::read` (`src/mcp.rs:302`); it calls the daemon at two moments. -/
def read (server : LoomMcpServer) (input : ReadInput) (first second : Moment) :
    Except String ToolOutputResponse := do
  let _ ← server.allowedExecution input.executionId first
  let maxBytes := normalizedMax input.maxBytes
  let response ← second.call (daemonReadOutput input.executionId input.afterSeq maxBytes)
  pure (respond input.outputFormat maxBytes input.afterSeq response)

/-- `LoomMcpServer::list` (`src/mcp.rs:395`), with the `limit` of `ListInput`; `clock` is what
the clock shows while the daemon reads each row. -/
def list (server : LoomMcpServer) (limit : Option Nat) (moment : Moment)
    (clock : ExecutionId → Int) : Except String (List Execution) :=
  moment.call fun _ => daemonList clock (some server.workspace.id) (min (limit.getD 100) 1000)

end LoomMcpServer

/-! ## What a response contains -/

/-- What a successful call returned is what its program returns. -/
theorem Moment.call_ok {α : Type} {moment : Moment} {program : Int → Store α} {a : α}
    (ok : moment.call program = .ok a) :
    ∃ faults, (Store.run (program moment.now) faults moment.db).1 = .ok a := by
  unfold Moment.call at ok
  cases lost : moment.transport with
  | some error =>
    rw [lost] at ok
    cases ok
  | none =>
    rw [lost] at ok
    simp only [Store.request] at ok
    cases gone : moment.conditions.unavailable with
    | some message =>
      rw [gone] at ok
      cases ok
    | none =>
      rw [gone] at ok
      simp only at ok
      refine ⟨moment.conditions.faults, ?_⟩
      cases ran : (Store.run (program moment.now) moment.conditions.faults moment.db).1 with
      | error e =>
        rw [ran] at ok
        cases ok
      | ok a' =>
        rw [ran] at ok
        cases ok
        rfl

/-- What a call of `read_output` returned is a page of the database at that moment. -/
theorem Moment.page_of_call {moment : Moment} {id : ExecutionId} {afterSeq maxBytes : Nat}
    {page : ReadOutputResponse} (called : moment.call (daemonReadOutput id afterSeq maxBytes) =
      .ok page) :
    ∃ row, moment.db.executions.find? id = some row ∧
      page = moment.db.page moment.now row afterSeq (max 1 (min maxBytes (8 * 1024 * 1024))) := by
  obtain ⟨faults, ran⟩ := Moment.call_ok called
  have returned := Database.run_of_post (Database.post_readOutput moment.db moment.now id afterSeq
    (max 1 (min maxBytes (8 * 1024 * 1024)))) faults
  unfold daemonReadOutput at ran
  rw [ran] at returned
  exact returned.2

theorem eventRawBytes_eq : eventRawBytes = ExecutionEvent.bytes := by
  funext event
  cases payload : event.payload <;>
    simp [eventRawBytes, ExecutionEvent.bytes, ExecutionEventPayload.bytes, payload]

/-- The conversion keeps what fits into the budget, and says whether that is all. -/
theorem convertEvents_eq (format : OutputFormat) (remaining cursor : Nat)
    (events : List ExecutionEvent) :
    convertEvents format remaining cursor events =
      { events := (fitting ExecutionEvent.bytes remaining events).map (convertEvent format)
        more := decide ((fitting ExecutionEvent.bytes remaining events).length < events.length)
        remaining := remaining -
          ((fitting ExecutionEvent.bytes remaining events).map ExecutionEvent.bytes).sum
        cursor := ((fitting ExecutionEvent.bytes remaining events).getLast?.map
          ExecutionEvent.seq).getD cursor } := by
  induction events generalizing remaining cursor with
  | nil => simp [convertEvents, fitting]
  | cons event rest ih =>
    simp only [convertEvents, eventRawBytes_eq]
    by_cases fits : event.bytes ≤ remaining
    · rw [if_neg (by omega), ih, fitting_cons fits]
      simp only [List.map_cons, List.length_cons, List.sum_cons, Nat.sub_sub,
        Nat.add_lt_add_iff_right, List.getLast?_cons]
      cases (fitting ExecutionEvent.bytes (remaining - event.bytes) rest).getLast? <;> rfl
    · rw [if_pos (by omega), fitting_cons_of_lt (by omega)]
      simp

theorem normalizedMax_bounds (value : Option Nat) :
    1 ≤ normalizedMax value ∧ normalizedMax value ≤ 1024 * 1024 := by
  unfold normalizedMax
  omega

/-- The daemon's own limits on a page are wider than those of the tools. -/
theorem normalizedMax_clamp (value : Option Nat) :
    max 1 (min (normalizedMax value) (8 * 1024 * 1024)) = normalizedMax value := by
  have bounds := normalizedMax_bounds value
  omega

theorem daemonReadOutput_eq (id : ExecutionId) (afterSeq : Nat) (value : Option Nat) (now : Int) :
    daemonReadOutput id afterSeq (normalizedMax value) now =
      Database.readOutput now id afterSeq (normalizedMax value) := by
  unfold daemonReadOutput
  rw [normalizedMax_clamp]

/-- What a page has room for twice over is what it has room for. -/
theorem fitting_pageEvents (maxBytes : Nat) (selected : List ExecutionEvent) :
    fitting ExecutionEvent.bytes maxBytes (Database.pageEvents maxBytes selected) =
      fitting ExecutionEvent.bytes maxBytes selected := by
  cases selected with
  | nil => rfl
  | cons event rest =>
    by_cases fits : event.bytes ≤ maxBytes
    · rw [Database.pageEvents_of_le fits, fitting_fitting]
    · rw [Database.pageEvents_of_lt (by omega), fitting_cons_of_lt (by omega),
        fitting_cons_of_lt (by omega)]

end Loomterm
