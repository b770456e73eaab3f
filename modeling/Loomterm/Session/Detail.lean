import Loomterm.Misc.Codec
import Loomterm.Session.Redaction
import Loomterm.Store.Sessions

/-!
# The session detail of a replay

`redact_detail` of `src/session.rs` turns a detail into JSON, rewrites every text of it and
reads it back; where that fails, the detail stays as it was. The JSON of a record and its
reader are those that `serde` derives in `src/model.rs`, and an integer that its type does not
hold is refused. The arrays that `serde` also takes for a record are left out, since no record is
written as one.
-/

namespace Loomterm

open Json

/-- `Execution` (`src/model.rs:190`), with the command as it is displayed. -/
structure DisplayedExecution extends Execution where
  commandDisplay : String

/-- `AgentSession` (`src/model.rs:233`). -/
structure AgentSession extends AgentSessionRow where
  commandDisplay : String
  durationMs : Option Nat

/-- `AgentSessionDetail` (`src/model.rs:295`) as `write_replay_html` is given it. -/
structure ReplayDetail where
  session : AgentSession
  executions : List DisplayedExecution
  turns : List AgentTurnRow
  actions : List AgentActionRow

/-! ## Tags -/

def ExecutionState.names : List (String × ExecutionState) :=
  [("queued", .queued), ("running", .running), ("finished", .finished),
    ("cancelled", .cancelled), ("interrupted", .interrupted)]

def AgentSessionState.names : List (String × AgentSessionState) :=
  [("recording", .recording), ("finished", .finished), ("interrupted", .interrupted)]

def AgentTurnState.names : List (String × AgentTurnState) :=
  [("active", .active), ("completed", .completed), ("failed", .failed),
    ("interrupted", .interrupted)]

def AgentActionState.names : List (String × AgentActionState) :=
  [("running", .running), ("completed", .completed), ("failed", .failed)]

/-- `ExecutionState::as_str` (`src/model.rs:168`). -/
def ExecutionState.asStr : ExecutionState → String
  | .queued => "queued"
  | .running => "running"
  | .finished => "finished"
  | .cancelled => "cancelled"
  | .interrupted => "interrupted"

/-- `AgentSessionState::as_str` (`src/model.rs:224`). -/
def AgentSessionState.asStr : AgentSessionState → String
  | .recording => "recording"
  | .finished => "finished"
  | .interrupted => "interrupted"

/-- `AgentTurnState::as_str` (`src/model.rs:315`). -/
def AgentTurnState.asStr : AgentTurnState → String
  | .active => "active"
  | .completed => "completed"
  | .failed => "failed"
  | .interrupted => "interrupted"

/-- `AgentActionState::as_str` (`src/model.rs:351`). -/
def AgentActionState.asStr : AgentActionState → String
  | .running => "running"
  | .completed => "completed"
  | .failed => "failed"

/-- The tag of a command. -/
def CommandSpec.kind : CommandSpec → String
  | .argv _ _ => "argv"
  | .shell _ _ => "shell"

/-- The tag of an outcome. -/
def ExecutionOutcome.kind : ExecutionOutcome → String
  | .exited _ => "exited"
  | .signaled _ => "signaled"
  | .spawnError _ => "spawn_error"
  | .cancelled _ => "cancelled"
  | .interrupted _ => "interrupted"

/-! ## Writing -/

def CommandSpec.toJson : CommandSpec → Json
  | .argv program args =>
      .object [("kind", .string "argv"), ("program", .string program), ("args", strings args)]
  | .shell command path =>
      .object ([("kind", .string "shell"), ("command", .string command)] ++
        optionField "shell" .string path)

def ExecutionOutcome.toJson : ExecutionOutcome → Json
  | .exited code => .object [("kind", .string "exited"), ("code", .number code)]
  | .signaled signal => .object [("kind", .string "signaled"), ("signal", .number signal)]
  | .spawnError message =>
      .object [("kind", .string "spawn_error"), ("message", .string message)]
  | .cancelled signal =>
      .object [("kind", .string "cancelled"), ("signal", ofOption .number signal)]
  | .interrupted reason =>
      .object [("kind", .string "interrupted"), ("reason", .string reason)]

def Initiator.toJson (initiator : Initiator) : Json :=
  .object ([("kind", .string initiator.kind)] ++
    optionField "name" .string initiator.name ++
    optionField "session_id" .string initiator.sessionId)

def DisplayedExecution.fields (execution : DisplayedExecution) : List (String × Json) := [
    ("id", .string execution.id),
    ("workspace_id", .string execution.workspaceId),
    ("state", .string execution.state.asStr),
    ("command", execution.command.toJson),
    ("command_display", .string execution.commandDisplay),
    ("cwd", .string execution.cwd),
    ("env_keys", strings execution.envKeys),
    ("initiator", execution.initiator.toJson),
    ("created_at_ms", .number execution.createdAtMs),
    ("started_at_ms", ofOption .number execution.startedAtMs),
    ("ended_at_ms", ofOption .number execution.endedAtMs),
    ("duration_ms", ofOption natural execution.durationMs),
    ("pid", ofOption natural execution.pid),
    ("pgid", ofOption .number execution.pgid),
    ("outcome", ofOption ExecutionOutcome.toJson execution.outcome),
    ("captured_bytes", natural execution.capturedBytes),
    ("output_truncated", .bool execution.outputTruncated),
    ("last_seq", natural execution.lastSeq)]

def DisplayedExecution.toJson (execution : DisplayedExecution) : Json := .object execution.fields

def AgentSession.fields (session : AgentSession) : List (String × Json) := [
    ("id", .string session.id),
    ("workspace_id", .string session.workspaceId),
    ("state", .string session.state.asStr),
    ("agent_kind", .string session.agentKind),
    ("name", ofOption .string session.name),
    ("command", session.command.toJson),
    ("command_display", .string session.commandDisplay),
    ("cwd", .string session.cwd),
    ("created_at_ms", .number session.createdAtMs),
    ("ended_at_ms", ofOption .number session.endedAtMs),
    ("duration_ms", ofOption natural session.durationMs),
    ("recorder_pid", natural session.recorderPid),
    ("outcome", ofOption ExecutionOutcome.toJson session.outcome),
    ("captured_bytes", natural session.capturedBytes),
    ("output_truncated", .bool session.outputTruncated),
    ("initial_cols", natural session.initialCols),
    ("initial_rows", natural session.initialRows),
    ("cast_path", .string session.castPath),
    ("html_path", .string session.htmlPath)]

def AgentSession.toJson (session : AgentSession) : Json := .object session.fields

def AgentTurnRow.fields (turn : AgentTurnRow) : List (String × Json) :=
  [
    ("id", .string turn.id),
    ("session_id", .string turn.sessionId),
    ("provider", .string turn.provider),
    ("provider_session_id", .string turn.providerSessionId)] ++
    optionField "provider_turn_id" .string turn.providerTurnId ++ [
    ("state", .string turn.state.asStr),
    ("prompt", .string turn.prompt),
    ("created_at_ms", .number turn.createdAtMs)] ++
    optionField "ended_at_ms" .number turn.endedAtMs ++
    optionField "last_assistant_message" .string turn.lastAssistantMessage

def AgentTurnRow.toJson (turn : AgentTurnRow) : Json := .object turn.fields

def AgentActionRow.fields (action : AgentActionRow) : List (String × Json) :=
  [
    ("id", .string action.id),
    ("turn_id", .string action.turnId),
    ("provider_action_id", .string action.providerActionId),
    ("tool_name", .string action.toolName),
    ("state", .string action.state.asStr)] ++
    optionField "execution_id" .string action.executionId ++ [
    ("created_at_ms", .number action.createdAtMs)] ++
    optionField "ended_at_ms" .number action.endedAtMs

def AgentActionRow.toJson (action : AgentActionRow) : Json := .object action.fields

def ReplayDetail.toJson (detail : ReplayDetail) : Json :=
  .object [
    ("session", detail.session.toJson),
    ("executions", .array (detail.executions.map DisplayedExecution.toJson)),
    ("turns", .array (detail.turns.map AgentTurnRow.toJson)),
    ("actions", .array (detail.actions.map AgentActionRow.toJson))]

/-! ## Reading -/

def CommandSpec.variants (fields : List (String × Json)) :
    List (String × Option CommandSpec) :=
  [("argv", do
      let program ← required fields "program" asStr
      let args ← defaulted fields "args" (listOf asStr) []
      some (.argv program args)),
    ("shell", do
      let command ← required fields "command" asStr
      let path ← omittable fields "shell" asStr
      some (.shell command path))]

def ExecutionOutcome.variants (fields : List (String × Json)) :
    List (String × Option ExecutionOutcome) :=
  [("exited", (required fields "code" i32.decode).map .exited),
    ("signaled", (required fields "signal" i32.decode).map .signaled),
    ("spawn_error", (required fields "message" asStr).map .spawnError),
    ("cancelled", (omittable fields "signal" i32.decode).map .cancelled),
    ("interrupted", (required fields "reason" asStr).map .interrupted)]

/-- A variant by the tag `kind` among its fields. -/
def tagged {α : Type} (variants : List (String × Json) → List (String × Option α))
    (value : Json) : Option α := do
  let fields ← value.asObject
  let kind ← required fields "kind" asStr
  let read ← oneOf (variants fields) kind
  read

def CommandSpec.fromJson : Json → Option CommandSpec := tagged CommandSpec.variants

def ExecutionOutcome.fromJson : Json → Option ExecutionOutcome :=
  tagged ExecutionOutcome.variants

def Initiator.fromJson (value : Json) : Option Initiator := do
  let fields ← value.asObject
  let kind ← defaulted fields "kind" asStr "unknown"
  let name ← omittable fields "name" asStr
  let sessionId ← omittable fields "session_id" asStr
  some { kind, name, sessionId }

def DisplayedExecution.fromJson (value : Json) : Option DisplayedExecution := do
  let fields ← value.asObject
  let id ← required fields "id" asStr
  let workspaceId ← required fields "workspace_id" asStr
  let state ← required fields "state" (named ExecutionState.names)
  let command ← required fields "command" CommandSpec.fromJson
  let commandDisplay ← required fields "command_display" asStr
  let cwd ← required fields "cwd" asStr
  let envKeys ← required fields "env_keys" (listOf asStr)
  let initiator ← required fields "initiator" Initiator.fromJson
  let createdAtMs ← required fields "created_at_ms" i64.decode
  let startedAtMs ← omittable fields "started_at_ms" i64.decode
  let endedAtMs ← omittable fields "ended_at_ms" i64.decode
  let durationMs ← omittable fields "duration_ms" u64.decode
  let pid ← omittable fields "pid" u32.decode
  let pgid ← omittable fields "pgid" i32.decode
  let outcome ← omittable fields "outcome" ExecutionOutcome.fromJson
  let capturedBytes ← required fields "captured_bytes" u64.decode
  let outputTruncated ← required fields "output_truncated" asBool
  let lastSeq ← required fields "last_seq" u64.decode
  some {
    id, workspaceId, state, command, commandDisplay, cwd, envKeys, initiator, createdAtMs,
    startedAtMs, endedAtMs, durationMs, pid, pgid, outcome, capturedBytes, outputTruncated,
    lastSeq }

def AgentSession.fromJson (value : Json) : Option AgentSession := do
  let fields ← value.asObject
  let id ← required fields "id" asStr
  let workspaceId ← required fields "workspace_id" asStr
  let state ← required fields "state" (named AgentSessionState.names)
  let agentKind ← required fields "agent_kind" asStr
  let name ← omittable fields "name" asStr
  let command ← required fields "command" CommandSpec.fromJson
  let commandDisplay ← required fields "command_display" asStr
  let cwd ← required fields "cwd" asStr
  let createdAtMs ← required fields "created_at_ms" i64.decode
  let endedAtMs ← omittable fields "ended_at_ms" i64.decode
  let durationMs ← omittable fields "duration_ms" u64.decode
  let recorderPid ← required fields "recorder_pid" u32.decode
  let outcome ← omittable fields "outcome" ExecutionOutcome.fromJson
  let capturedBytes ← required fields "captured_bytes" u64.decode
  let outputTruncated ← required fields "output_truncated" asBool
  let initialCols ← required fields "initial_cols" u16.decode
  let initialRows ← required fields "initial_rows" u16.decode
  let castPath ← required fields "cast_path" asStr
  let htmlPath ← required fields "html_path" asStr
  some {
    id, workspaceId, state, agentKind, name, command, commandDisplay, cwd, createdAtMs,
    endedAtMs, durationMs, recorderPid, outcome, capturedBytes, outputTruncated, initialCols,
    initialRows, castPath, htmlPath }

def AgentTurnRow.fromJson (value : Json) : Option AgentTurnRow := do
  let fields ← value.asObject
  let id ← required fields "id" asStr
  let sessionId ← required fields "session_id" asStr
  let provider ← required fields "provider" asStr
  let providerSessionId ← required fields "provider_session_id" asStr
  let providerTurnId ← omittable fields "provider_turn_id" asStr
  let state ← required fields "state" (named AgentTurnState.names)
  let prompt ← required fields "prompt" asStr
  let createdAtMs ← required fields "created_at_ms" i64.decode
  let endedAtMs ← omittable fields "ended_at_ms" i64.decode
  let lastAssistantMessage ← omittable fields "last_assistant_message" asStr
  some {
    id, sessionId, provider, providerSessionId, providerTurnId, state, prompt, createdAtMs,
    endedAtMs, lastAssistantMessage }

def AgentActionRow.fromJson (value : Json) : Option AgentActionRow := do
  let fields ← value.asObject
  let id ← required fields "id" asStr
  let turnId ← required fields "turn_id" asStr
  let providerActionId ← required fields "provider_action_id" asStr
  let toolName ← required fields "tool_name" asStr
  let state ← required fields "state" (named AgentActionState.names)
  let executionId ← omittable fields "execution_id" asStr
  let createdAtMs ← required fields "created_at_ms" i64.decode
  let endedAtMs ← omittable fields "ended_at_ms" i64.decode
  some { id, turnId, providerActionId, toolName, state, executionId, createdAtMs, endedAtMs }

def ReplayDetail.fromJson (value : Json) : Option ReplayDetail := do
  let fields ← value.asObject
  let session ← required fields "session" AgentSession.fromJson
  let executions ← required fields "executions" (listOf DisplayedExecution.fromJson)
  let turns ← defaulted fields "turns" (listOf AgentTurnRow.fromJson) []
  let actions ← defaulted fields "actions" (listOf AgentActionRow.fromJson) []
  some { session, executions, turns, actions }

/-! ## The ranges of the integers -/

def ExecutionOutcome.InRange : ExecutionOutcome → Prop
  | .exited code => i32.valid code
  | .signaled signal => i32.valid signal
  | .cancelled signal => ∀ number, signal = some number → i32.valid number
  | .spawnError _ | .interrupted _ => True

/-- The integers are in the range of their types. -/
structure DisplayedExecution.InRange (execution : DisplayedExecution) : Prop where
  createdAtMs : i64.valid execution.createdAtMs
  startedAtMs : ∀ ms, execution.startedAtMs = some ms → i64.valid ms
  endedAtMs : ∀ ms, execution.endedAtMs = some ms → i64.valid ms
  durationMs : ∀ ms, execution.durationMs = some ms → u64.valid ms
  pid : ∀ pid, execution.pid = some pid → u32.valid pid
  pgid : ∀ pgid, execution.pgid = some pgid → i32.valid pgid
  outcome : ∀ outcome, execution.outcome = some outcome → outcome.InRange
  capturedBytes : u64.valid execution.capturedBytes
  lastSeq : u64.valid execution.lastSeq

structure AgentSession.InRange (session : AgentSession) : Prop where
  createdAtMs : i64.valid session.createdAtMs
  endedAtMs : ∀ ms, session.endedAtMs = some ms → i64.valid ms
  durationMs : ∀ ms, session.durationMs = some ms → u64.valid ms
  recorderPid : u32.valid session.recorderPid
  outcome : ∀ outcome, session.outcome = some outcome → outcome.InRange
  capturedBytes : u64.valid session.capturedBytes
  initialCols : u16.valid session.initialCols
  initialRows : u16.valid session.initialRows

structure AgentTurnRow.InRange (turn : AgentTurnRow) : Prop where
  createdAtMs : i64.valid turn.createdAtMs
  endedAtMs : ∀ ms, turn.endedAtMs = some ms → i64.valid ms

structure AgentActionRow.InRange (action : AgentActionRow) : Prop where
  createdAtMs : i64.valid action.createdAtMs
  endedAtMs : ∀ ms, action.endedAtMs = some ms → i64.valid ms

structure ReplayDetail.InRange (detail : ReplayDetail) : Prop where
  session : detail.session.InRange
  executions : ∀ execution ∈ detail.executions, execution.InRange
  turns : ∀ turn ∈ detail.turns, turn.InRange
  actions : ∀ action ∈ detail.actions, action.InRange

/-- A detail as the types of `src/model.rs` hold it: no integer of it is out of range. -/
structure TypedDetail extends ReplayDetail where
  range : toReplayDetail.InRange

/-- `redact_detail` (`src/session.rs:656`): the detail that `write_replay_html` embeds. -/
def redactDetail (home : Option String) (redactions : List String) (detail : ReplayDetail) :
    ReplayDetail :=
  let value := redactJson (replacements home redactions) detail.toJson
  match ReplayDetail.fromJson value with
  | some redacted => redacted
  | none => detail

/-! ## Every text rewritten -/

section

variable (f : String → String)

def CommandSpec.mapTexts : CommandSpec → CommandSpec
  | .argv program args => .argv (f program) (args.map f)
  | .shell command path => .shell (f command) (path.map f)

def ExecutionOutcome.mapTexts : ExecutionOutcome → ExecutionOutcome
  | .spawnError message => .spawnError (f message)
  | .interrupted reason => .interrupted (f reason)
  | outcome => outcome

def Initiator.mapTexts (initiator : Initiator) : Initiator where
  kind := f initiator.kind
  name := initiator.name.map f
  sessionId := initiator.sessionId.map f

def DisplayedExecution.mapTexts (execution : DisplayedExecution) : DisplayedExecution :=
  { execution with
    id := f execution.id
    workspaceId := f execution.workspaceId
    command := execution.command.mapTexts f
    commandDisplay := f execution.commandDisplay
    cwd := f execution.cwd
    envKeys := execution.envKeys.map f
    initiator := execution.initiator.mapTexts f
    outcome := execution.outcome.map fun outcome => outcome.mapTexts f }

def AgentSession.mapTexts (session : AgentSession) : AgentSession :=
  { session with
    id := f session.id
    workspaceId := f session.workspaceId
    agentKind := f session.agentKind
    name := session.name.map f
    command := session.command.mapTexts f
    commandDisplay := f session.commandDisplay
    cwd := f session.cwd
    outcome := session.outcome.map fun outcome => outcome.mapTexts f
    castPath := f session.castPath
    htmlPath := f session.htmlPath }

def AgentTurnRow.mapTexts (turn : AgentTurnRow) : AgentTurnRow :=
  { turn with
    id := f turn.id
    sessionId := f turn.sessionId
    provider := f turn.provider
    providerSessionId := f turn.providerSessionId
    providerTurnId := turn.providerTurnId.map f
    prompt := f turn.prompt
    lastAssistantMessage := turn.lastAssistantMessage.map f }

def AgentActionRow.mapTexts (action : AgentActionRow) : AgentActionRow :=
  { action with
    id := f action.id
    turnId := f action.turnId
    providerActionId := f action.providerActionId
    toolName := f action.toolName
    executionId := action.executionId.map f }

def ReplayDetail.mapTexts (detail : ReplayDetail) : ReplayDetail where
  session := detail.session.mapTexts f
  executions := detail.executions.map fun execution => execution.mapTexts f
  turns := detail.turns.map fun turn => turn.mapTexts f
  actions := detail.actions.map fun action => action.mapTexts f

end

/-! ## The texts of a detail -/

def CommandSpec.texts : CommandSpec → List String
  | .argv program args => program :: args
  | .shell command path => command :: path.toList

def ExecutionOutcome.texts : ExecutionOutcome → List String
  | .spawnError message => [message]
  | .interrupted reason => [reason]
  | _ => []

def Initiator.texts (initiator : Initiator) : List String :=
  [initiator.kind] ++ initiator.name.toList ++ initiator.sessionId.toList

def DisplayedExecution.texts (execution : DisplayedExecution) : List String :=
  [execution.id, execution.workspaceId] ++ execution.command.texts ++
    [execution.commandDisplay, execution.cwd] ++ execution.envKeys ++
    execution.initiator.texts ++ execution.outcome.toList.flatMap ExecutionOutcome.texts

def AgentSession.texts (session : AgentSession) : List String :=
  [session.id, session.workspaceId, session.agentKind] ++ session.name.toList ++
    session.command.texts ++ [session.commandDisplay, session.cwd] ++
    session.outcome.toList.flatMap ExecutionOutcome.texts ++
    [session.castPath, session.htmlPath]

def AgentTurnRow.texts (turn : AgentTurnRow) : List String :=
  [turn.id, turn.sessionId, turn.provider, turn.providerSessionId] ++
    turn.providerTurnId.toList ++ [turn.prompt] ++ turn.lastAssistantMessage.toList

def AgentActionRow.texts (action : AgentActionRow) : List String :=
  [action.id, action.turnId, action.providerActionId, action.toolName] ++
    action.executionId.toList

/-- Every text of a detail. -/
def ReplayDetail.texts (detail : ReplayDetail) : List String :=
  detail.session.texts ++ detail.executions.flatMap DisplayedExecution.texts ++
    detail.turns.flatMap AgentTurnRow.texts ++ detail.actions.flatMap AgentActionRow.texts

def DisplayedExecution.tags (execution : DisplayedExecution) : List String :=
  [execution.state.asStr, execution.command.kind] ++
    execution.outcome.toList.map ExecutionOutcome.kind

def AgentSession.tags (session : AgentSession) : List String :=
  [session.state.asStr, session.command.kind] ++
    session.outcome.toList.map ExecutionOutcome.kind

/-- The names of variants in the JSON of a detail. -/
def ReplayDetail.tags (detail : ReplayDetail) : List String :=
  detail.session.tags ++ detail.executions.flatMap DisplayedExecution.tags ++
    detail.turns.map (fun turn => turn.state.asStr) ++
    detail.actions.map fun action => action.state.asStr

/-! ## The rewritten JSON, read back -/

/-- A rewriting that marks the texts it changes. -/
def Marking (f : String → String) : Prop := ∀ text, f text = text ∨ Marked (f text).toList

section

variable {f : String → String}

theorem decodes_tag {α : Type} (marking : Marking f) {names : List (String × α)}
    {name : String} {value : α} (known : oneOf names name = some value)
    (plain : ∀ entry ∈ names, ¬ Marked entry.1.toList) :
    Decodes f [name] (oneOf names (f name)) value := by
  refine decodes_oneOf known fun changed entry member same => ?_
  obtain unchanged | marked := marking name
  · exact changed unchanged
  · exact plain entry member (same ▸ marked)

theorem decodes_named {α : Type} (marking : Marking f) {names : List (String × α)}
    {name : String} {value : α} (known : oneOf names name = some value)
    (plain : ∀ entry ∈ names, ¬ Marked entry.1.toList) :
    Decodes f [name] (named names ((Json.string name).mapStrings f)) value := by
  simpa [named] using decodes_tag marking known plain

theorem ExecutionState.decodes (marking : Marking f) (state : ExecutionState) :
    Decodes f [state.asStr]
      (named ExecutionState.names ((Json.string state.asStr).mapStrings f)) state := by
  apply decodes_named marking
  · cases state <;> rfl
  · simp [ExecutionState.names, Marked]

theorem AgentSessionState.decodes (marking : Marking f) (state : AgentSessionState) :
    Decodes f [state.asStr]
      (named AgentSessionState.names ((Json.string state.asStr).mapStrings f)) state := by
  apply decodes_named marking
  · cases state <;> rfl
  · simp [AgentSessionState.names, Marked]

theorem AgentTurnState.decodes (marking : Marking f) (state : AgentTurnState) :
    Decodes f [state.asStr]
      (named AgentTurnState.names ((Json.string state.asStr).mapStrings f)) state := by
  apply decodes_named marking
  · cases state <;> rfl
  · simp [AgentTurnState.names, Marked]

theorem AgentActionState.decodes (marking : Marking f) (state : AgentActionState) :
    Decodes f [state.asStr]
      (named AgentActionState.names ((Json.string state.asStr).mapStrings f)) state := by
  apply decodes_named marking
  · cases state <;> rfl
  · simp [AgentActionState.names, Marked]

/-- A variant whose tag is its first field. -/
theorem decodes_tagged {α : Type} (marking : Marking f)
    {variants : List (String × Json) → List (String × Option α)} {kind : String}
    {rest : List (String × Json)} {record : α}
    (known : oneOf (variants (("kind", .string (f kind)) :: mapFields f rest)) kind =
      some (some record))
    (plain : ∀ entry ∈ variants (("kind", .string (f kind)) :: mapFields f rest),
      ¬ Marked entry.1.toList) :
    Decodes f [kind]
      (tagged variants ((Json.object (("kind", .string kind) :: rest)).mapStrings f)) record := by
  have whole : tagged variants ((Json.object (("kind", .string kind) :: rest)).mapStrings f) =
      (oneOf (variants (("kind", .string (f kind)) :: mapFields f rest)) (f kind) >>=
        fun read => read) := by
    simp [tagged, mapStrings, mapFields, asObject, required, field, asStr]
  have variant := decodes_tag marking known plain
  rw [whole]
  exact (variant.bind (decodes_some record)).of_tags (by simp)

theorem CommandSpec.decodes (marking : Marking f) (command : CommandSpec) :
    Decodes f [command.kind] (CommandSpec.fromJson (command.toJson.mapStrings f))
      (command.mapTexts f) := by
  have plain : ∀ fields, ∀ entry ∈ CommandSpec.variants fields, ¬ Marked entry.1.toList := by
    intro fields
    simp [CommandSpec.variants, Marked]
  cases command with
  | argv program args =>
    have read := (decodes_strings (f := f) args).eq_some
    apply decodes_tagged marking _ (plain _)
    simp [CommandSpec.variants, oneOf, mapFields, required, defaulted, field,
      CommandSpec.kind, CommandSpec.mapTexts, read]
  | shell command path =>
    apply decodes_tagged marking _ (plain _)
    cases path with
    | none => simp [CommandSpec.variants, oneOf, mapFields, required, omittable, field,
        CommandSpec.kind, CommandSpec.mapTexts, optionField]
    | some path => simp [CommandSpec.variants, oneOf, mapFields, required, omittable, field,
        CommandSpec.kind, CommandSpec.mapTexts, optionField, nullable, asStr]

theorem ExecutionOutcome.decodes (marking : Marking f) {outcome : ExecutionOutcome}
    (range : outcome.InRange) :
    Decodes f [outcome.kind] (ExecutionOutcome.fromJson (outcome.toJson.mapStrings f))
      (outcome.mapTexts f) := by
  have plain : ∀ fields, ∀ entry ∈ ExecutionOutcome.variants fields, ¬ Marked entry.1.toList := by
    intro fields
    simp [ExecutionOutcome.variants, Marked]
  cases outcome with
  | exited code | signaled code =>
    have read : i32.decode (.number code) = some code := i32.read_back code range
    apply decodes_tagged marking _ (plain _)
    simp [ExecutionOutcome.variants, oneOf, mapFields, required, field, ExecutionOutcome.kind,
      ExecutionOutcome.mapTexts, read]
  | cancelled signal =>
    have read : nullable i32.decode ((ofOption .number signal).mapStrings f) = some signal :=
      (Codec.decodes_nullable_within range).eq_some
    apply decodes_tagged marking _ (plain _)
    simp [ExecutionOutcome.variants, oneOf, mapFields, omittable, field, ExecutionOutcome.kind,
      ExecutionOutcome.mapTexts, read]
  | spawnError message | interrupted message =>
    apply decodes_tagged marking _ (plain _)
    simp [ExecutionOutcome.variants, oneOf, mapFields, required, field, ExecutionOutcome.kind,
      ExecutionOutcome.mapTexts]

theorem ExecutionOutcome.decodes_nullable (marking : Marking f)
    {outcome : Option ExecutionOutcome}
    (range : ∀ value, outcome = some value → value.InRange) :
    Decodes f (outcome.toList.map ExecutionOutcome.kind)
      (nullable ExecutionOutcome.fromJson
        ((ofOption ExecutionOutcome.toJson outcome).mapStrings f))
      (outcome.map fun outcome => outcome.mapTexts f) := by
  have present : ∀ outcome : ExecutionOutcome, outcome.toJson.mapStrings f ≠ .null := by
    intro outcome
    cases outcome <;> simp [ExecutionOutcome.toJson, mapStrings]
  have read := Json.decodes_nullable outcome present fun value there =>
    ExecutionOutcome.decodes marking (range value there)
  exact read.of_tags (by simp [eq_comm])

theorem Initiator.decodes (initiator : Initiator) :
    Decodes f [] (Initiator.fromJson (initiator.toJson.mapStrings f))
      (initiator.mapTexts f) := by
  have read : Initiator.fromJson (initiator.toJson.mapStrings f) =
      some (initiator.mapTexts f) := by
    obtain ⟨kind, name, sessionId⟩ := initiator
    cases name <;> cases sessionId <;>
      simp [Initiator.toJson, Initiator.fromJson, mapStrings, mapFields, optionField, asObject,
        defaulted, omittable, field, nullable, asStr, Initiator.mapTexts]
  rw [read]
  exact decodes_some _

theorem DisplayedExecution.decodes (marking : Marking f) {execution : DisplayedExecution}
    (range : execution.InRange) :
    Decodes f execution.tags
      (DisplayedExecution.fromJson (execution.toJson.mapStrings f))
      (execution.mapTexts f) := by
  have read : Decodes f ([execution.state.asStr] ++ ([execution.command.kind] ++
      (execution.outcome.toList.map ExecutionOutcome.kind ++ [])))
      (DisplayedExecution.fromJson (execution.toJson.mapStrings f))
      (execution.mapTexts f) := by
    refine Decodes.object ?_
    refine Decodes.required rfl (decodes_string _) ?_
    refine Decodes.required rfl (decodes_string _) ?_
    refine Decodes.required_tags rfl (ExecutionState.decodes marking _) ?_
    refine Decodes.required_tags rfl (CommandSpec.decodes marking _) ?_
    refine Decodes.required rfl (decodes_string _) ?_
    refine Decodes.required rfl (decodes_string _) ?_
    refine Decodes.required rfl (decodes_strings _) ?_
    refine Decodes.required rfl (Initiator.decodes _) ?_
    refine Decodes.required rfl (Codec.decodes_within range.createdAtMs) ?_
    refine Decodes.omittable rfl (Codec.decodes_nullable_within range.startedAtMs) ?_
    refine Decodes.omittable rfl (Codec.decodes_nullable_within range.endedAtMs) ?_
    refine Decodes.omittable rfl (Codec.decodes_nullable_below range.durationMs) ?_
    refine Decodes.omittable rfl (Codec.decodes_nullable_below range.pid) ?_
    refine Decodes.omittable rfl (Codec.decodes_nullable_within range.pgid) ?_
    refine Decodes.omittable_tags rfl (ExecutionOutcome.decodes_nullable marking range.outcome) ?_
    refine Decodes.required rfl (Codec.decodes_below range.capturedBytes) ?_
    refine Decodes.required rfl (decodes_bool _) ?_
    refine Decodes.required rfl (Codec.decodes_below range.lastSeq) ?_
    exact decodes_some _
  exact read.of_tags (by simp [DisplayedExecution.tags])

theorem AgentSession.decodes (marking : Marking f) {session : AgentSession}
    (range : session.InRange) :
    Decodes f session.tags (AgentSession.fromJson (session.toJson.mapStrings f))
      (session.mapTexts f) := by
  have read : Decodes f ([session.state.asStr] ++ ([session.command.kind] ++
      (session.outcome.toList.map ExecutionOutcome.kind ++ [])))
      (AgentSession.fromJson (session.toJson.mapStrings f)) (session.mapTexts f) := by
    refine Decodes.object ?_
    refine Decodes.required rfl (decodes_string _) ?_
    refine Decodes.required rfl (decodes_string _) ?_
    refine Decodes.required_tags rfl (AgentSessionState.decodes marking _) ?_
    refine Decodes.required rfl (decodes_string _) ?_
    refine Decodes.omittable rfl (decodes_nullable_string _) ?_
    refine Decodes.required_tags rfl (CommandSpec.decodes marking _) ?_
    refine Decodes.required rfl (decodes_string _) ?_
    refine Decodes.required rfl (decodes_string _) ?_
    refine Decodes.required rfl (Codec.decodes_within range.createdAtMs) ?_
    refine Decodes.omittable rfl (Codec.decodes_nullable_within range.endedAtMs) ?_
    refine Decodes.omittable rfl (Codec.decodes_nullable_below range.durationMs) ?_
    refine Decodes.required rfl (Codec.decodes_below range.recorderPid) ?_
    refine Decodes.omittable_tags rfl (ExecutionOutcome.decodes_nullable marking range.outcome) ?_
    refine Decodes.required rfl (Codec.decodes_below range.capturedBytes) ?_
    refine Decodes.required rfl (decodes_bool _) ?_
    refine Decodes.required rfl (Codec.decodes_below range.initialCols) ?_
    refine Decodes.required rfl (Codec.decodes_below range.initialRows) ?_
    refine Decodes.required rfl (decodes_string _) ?_
    refine Decodes.required rfl (decodes_string _) ?_
    exact decodes_some _
  exact read.of_tags (by simp [AgentSession.tags])

theorem AgentTurnRow.field_fields (turn : AgentTurnRow) :
    field "id" turn.fields = some (.string turn.id) ∧
    field "session_id" turn.fields = some (.string turn.sessionId) ∧
    field "provider" turn.fields = some (.string turn.provider) ∧
    field "provider_session_id" turn.fields = some (.string turn.providerSessionId) ∧
    field "provider_turn_id" turn.fields = turn.providerTurnId.map .string ∧
    field "state" turn.fields = some (.string turn.state.asStr) ∧
    field "prompt" turn.fields = some (.string turn.prompt) ∧
    field "created_at_ms" turn.fields = some (.number turn.createdAtMs) ∧
    field "ended_at_ms" turn.fields = turn.endedAtMs.map .number ∧
    field "last_assistant_message" turn.fields = turn.lastAssistantMessage.map .string := by
  obtain ⟨id, sessionId, provider, providerSessionId, turnId, state, prompt, createdAt, endedAt,
    message⟩ := turn
  cases turnId <;> cases endedAt <;> cases message <;>
    simp [AgentTurnRow.fields, field, optionField]

theorem AgentTurnRow.decodes (marking : Marking f) {turn : AgentTurnRow}
    (range : turn.InRange) :
    Decodes f [turn.state.asStr] (AgentTurnRow.fromJson (turn.toJson.mapStrings f))
      (turn.mapTexts f) := by
  obtain ⟨id, sessionId, provider, providerSessionId, turnId, state, prompt, createdAt, endedAt,
    message⟩ := turn.field_fields
  have read : Decodes f ([turn.state.asStr] ++ [])
      (AgentTurnRow.fromJson (turn.toJson.mapStrings f)) (turn.mapTexts f) := by
    refine Decodes.object ?_
    refine Decodes.required id (decodes_string _) ?_
    refine Decodes.required sessionId (decodes_string _) ?_
    refine Decodes.required provider (decodes_string _) ?_
    refine Decodes.required providerSessionId (decodes_string _) ?_
    refine Decodes.omitted turnId (by simp) (fun value _ => decodes_string value) ?_
    refine Decodes.required_tags state (AgentTurnState.decodes marking _) ?_
    refine Decodes.required prompt (decodes_string _) ?_
    refine Decodes.required createdAt (Codec.decodes_within range.createdAtMs) ?_
    refine Decodes.omitted endedAt (by simp)
      (fun value there => Codec.decodes_within (range.endedAtMs value there)) ?_
    refine Decodes.omitted message (by simp) (fun value _ => decodes_string value) ?_
    rw [Option.map_id']
    exact decodes_some _
  simpa using read

theorem AgentActionRow.field_fields (action : AgentActionRow) :
    field "id" action.fields = some (.string action.id) ∧
    field "turn_id" action.fields = some (.string action.turnId) ∧
    field "provider_action_id" action.fields = some (.string action.providerActionId) ∧
    field "tool_name" action.fields = some (.string action.toolName) ∧
    field "state" action.fields = some (.string action.state.asStr) ∧
    field "execution_id" action.fields = action.executionId.map .string ∧
    field "created_at_ms" action.fields = some (.number action.createdAtMs) ∧
    field "ended_at_ms" action.fields = action.endedAtMs.map .number := by
  obtain ⟨id, turnId, providerActionId, toolName, state, executionId, createdAt, endedAt⟩ :=
    action
  cases executionId <;> cases endedAt <;> simp [AgentActionRow.fields, field, optionField]

theorem AgentActionRow.decodes (marking : Marking f) {action : AgentActionRow}
    (range : action.InRange) :
    Decodes f [action.state.asStr] (AgentActionRow.fromJson (action.toJson.mapStrings f))
      (action.mapTexts f) := by
  obtain ⟨id, turnId, providerActionId, toolName, state, executionId, createdAt, endedAt⟩ :=
    action.field_fields
  have read : Decodes f ([action.state.asStr] ++ [])
      (AgentActionRow.fromJson (action.toJson.mapStrings f)) (action.mapTexts f) := by
    refine Decodes.object ?_
    refine Decodes.required id (decodes_string _) ?_
    refine Decodes.required turnId (decodes_string _) ?_
    refine Decodes.required providerActionId (decodes_string _) ?_
    refine Decodes.required toolName (decodes_string _) ?_
    refine Decodes.required_tags state (AgentActionState.decodes marking _) ?_
    refine Decodes.omitted executionId (by simp) (fun value _ => decodes_string value) ?_
    refine Decodes.required createdAt (Codec.decodes_within range.createdAtMs) ?_
    refine Decodes.omitted endedAt (by simp)
      (fun value there => Codec.decodes_within (range.endedAtMs value there)) ?_
    rw [Option.map_id']
    exact decodes_some _
  simpa using read

/-- The rewritten JSON of a detail is read back, with every text rewritten, unless the name
of a variant was rewritten as well. -/
theorem ReplayDetail.decodes (marking : Marking f) {detail : ReplayDetail}
    (range : detail.InRange) :
    Decodes f detail.tags (ReplayDetail.fromJson (detail.toJson.mapStrings f))
      (detail.mapTexts f) := by
  have executions := decodes_listOf fun execution (member : execution ∈ detail.executions) =>
    DisplayedExecution.decodes marking (range.executions execution member)
  have turns := decodes_listOf fun turn (member : turn ∈ detail.turns) =>
    AgentTurnRow.decodes marking (range.turns turn member)
  have actions := decodes_listOf fun action (member : action ∈ detail.actions) =>
    AgentActionRow.decodes marking (range.actions action member)
  have read : Decodes f (detail.session.tags ++
      (detail.executions.flatMap DisplayedExecution.tags ++
        (detail.turns.flatMap (fun turn => [turn.state.asStr]) ++
          (detail.actions.flatMap (fun action => [action.state.asStr]) ++ []))))
      (ReplayDetail.fromJson (detail.toJson.mapStrings f)) (detail.mapTexts f) := by
    refine Decodes.object ?_
    refine Decodes.required_tags rfl (AgentSession.decodes marking range.session) ?_
    refine Decodes.required_tags rfl executions ?_
    refine Decodes.defaulted rfl turns ?_
    refine Decodes.defaulted rfl actions ?_
    exact decodes_some _
  exact read.of_tags (by simp [ReplayDetail.tags, eq_comm])

/-! ## Texts that stay -/

theorem map_eq_self_iff {α : Type} {g : α → α} {values : List α} :
    values.map g = values ↔ ∀ value ∈ values, g value = value := by
  simpa using List.map_inj_left (f := g) (g := id) (l := values)

theorem option_map_eq_self_iff {α : Type} {g : α → α} {value : Option α} :
    value.map g = value ↔ ∀ inner ∈ value, g inner = inner := by
  cases value <;> simp

theorem CommandSpec.mapTexts_eq_self_iff (command : CommandSpec) :
    command.mapTexts f = command ↔ ∀ text ∈ command.texts, f text = text := by
  cases command <;>
    simp [CommandSpec.mapTexts, CommandSpec.texts, map_eq_self_iff, option_map_eq_self_iff]

theorem ExecutionOutcome.mapTexts_eq_self_iff (outcome : ExecutionOutcome) :
    outcome.mapTexts f = outcome ↔ ∀ text ∈ outcome.texts, f text = text := by
  cases outcome <;> simp [ExecutionOutcome.mapTexts, ExecutionOutcome.texts]

theorem Initiator.mapTexts_eq_self_iff (initiator : Initiator) :
    initiator.mapTexts f = initiator ↔ ∀ text ∈ initiator.texts, f text = text := by
  obtain ⟨kind, name, sessionId⟩ := initiator
  simp [Initiator.mapTexts, Initiator.texts, option_map_eq_self_iff, or_imp, forall_and]

theorem DisplayedExecution.mapTexts_eq_self_iff (execution : DisplayedExecution) :
    execution.mapTexts f = execution ↔ ∀ text ∈ execution.texts, f text = text := by
  obtain ⟨record, display⟩ := execution
  obtain ⟨⟩ := record
  simp [DisplayedExecution.mapTexts, DisplayedExecution.texts, option_map_eq_self_iff,
    map_eq_self_iff, CommandSpec.mapTexts_eq_self_iff, ExecutionOutcome.mapTexts_eq_self_iff,
    Initiator.mapTexts_eq_self_iff, or_imp, forall_and]
  grind

theorem AgentSession.mapTexts_eq_self_iff (session : AgentSession) :
    session.mapTexts f = session ↔ ∀ text ∈ session.texts, f text = text := by
  obtain ⟨row, display, duration⟩ := session
  obtain ⟨⟩ := row
  simp [AgentSession.mapTexts, AgentSession.texts, option_map_eq_self_iff,
    CommandSpec.mapTexts_eq_self_iff, ExecutionOutcome.mapTexts_eq_self_iff, or_imp, forall_and]
  grind

theorem AgentTurnRow.mapTexts_eq_self_iff (turn : AgentTurnRow) :
    turn.mapTexts f = turn ↔ ∀ text ∈ turn.texts, f text = text := by
  obtain ⟨⟩ := turn
  simp [AgentTurnRow.mapTexts, AgentTurnRow.texts, option_map_eq_self_iff, or_imp, forall_and]

theorem AgentActionRow.mapTexts_eq_self_iff (action : AgentActionRow) :
    action.mapTexts f = action ↔ ∀ text ∈ action.texts, f text = text := by
  obtain ⟨⟩ := action
  simp [AgentActionRow.mapTexts, AgentActionRow.texts, option_map_eq_self_iff, or_imp,
    forall_and]

theorem ReplayDetail.mapTexts_eq_self_iff (detail : ReplayDetail) :
    detail.mapTexts f = detail ↔ ∀ text ∈ detail.texts, f text = text := by
  obtain ⟨session, executions, turns, actions⟩ := detail
  simp [ReplayDetail.mapTexts, ReplayDetail.texts, map_eq_self_iff,
    AgentSession.mapTexts_eq_self_iff, DisplayedExecution.mapTexts_eq_self_iff,
    AgentTurnRow.mapTexts_eq_self_iff, AgentActionRow.mapTexts_eq_self_iff, or_imp, forall_and]
  grind

/-! ## Redaction of a detail -/

theorem CommandSpec.kind_plain (command : CommandSpec) : ¬ Marked command.kind.toList := by
  cases command <;> simp [CommandSpec.kind, Marked]

theorem ExecutionOutcome.kind_plain (outcome : ExecutionOutcome) :
    ¬ Marked outcome.kind.toList := by
  cases outcome <;> simp [ExecutionOutcome.kind, Marked]

theorem ExecutionState.asStr_plain (state : ExecutionState) : ¬ Marked state.asStr.toList := by
  cases state <;> simp [ExecutionState.asStr, Marked]

theorem AgentSessionState.asStr_plain (state : AgentSessionState) :
    ¬ Marked state.asStr.toList := by
  cases state <;> simp [AgentSessionState.asStr, Marked]

theorem AgentTurnState.asStr_plain (state : AgentTurnState) : ¬ Marked state.asStr.toList := by
  cases state <;> simp [AgentTurnState.asStr, Marked]

theorem AgentActionState.asStr_plain (state : AgentActionState) :
    ¬ Marked state.asStr.toList := by
  cases state <;> simp [AgentActionState.asStr, Marked]

/-- No name of a variant has a marker in it. -/
theorem ReplayDetail.tags_plain (detail : ReplayDetail) :
    ∀ tag ∈ detail.tags, ¬ Marked tag.toList := by
  intro tag member
  simp only [ReplayDetail.tags, AgentSession.tags, DisplayedExecution.tags, List.mem_append,
    List.mem_flatMap, List.mem_map, List.mem_cons, List.not_mem_nil, or_false] at member
  obtain ((((rfl | rfl) | ⟨outcome, -, rfl⟩) | ⟨execution, -, (rfl | rfl) | ⟨outcome, -, rfl⟩⟩) |
    ⟨turn, -, rfl⟩) | ⟨action, -, rfl⟩ := member
  · exact AgentSessionState.asStr_plain _
  · exact CommandSpec.kind_plain _
  · exact ExecutionOutcome.kind_plain _
  · exact ExecutionState.asStr_plain _
  · exact CommandSpec.kind_plain _
  · exact ExecutionOutcome.kind_plain _
  · exact AgentTurnState.asStr_plain _
  · exact AgentActionState.asStr_plain _

end

/-- The redacted detail is read back unless a pattern stands in the name of a variant. -/
theorem redactDetail_cases (home : Option String) (redactions : List String)
    {detail : ReplayDetail} (range : detail.InRange) :
    (∀ tag ∈ detail.tags, ∀ rule ∈ replacements home redactions,
        ¬ rule.pattern <:+: tag.toList) ∧
      redactDetail home redactions detail =
        detail.mapTexts (redactText (replacements home redactions)) ∨
    (¬ ∀ tag ∈ detail.tags, ∀ rule ∈ replacements home redactions,
        ¬ rule.pattern <:+: tag.toList) ∧
      redactDetail home redactions detail = detail := by
  have marking : Marking (redactText (replacements home redactions)) :=
    redactText_marks home redactions
  have read := ReplayDetail.decodes marking range
  have kept : (∀ tag ∈ detail.tags, redactText (replacements home redactions) tag = tag) ↔
      ∀ tag ∈ detail.tags, ∀ rule ∈ replacements home redactions,
        ¬ rule.pattern <:+: tag.toList :=
    forall₂_congr fun tag member => redactText_eq_self_iff (detail.tags_plain tag member)
  unfold Decodes at read
  simp only [redactDetail, redactJson, read, ← kept]
  by_cases same : ∀ tag ∈ detail.tags, redactText (replacements home redactions) tag = tag
  · exact Or.inl ⟨same, by rw [if_pos same]⟩
  · exact Or.inr ⟨same, by rw [if_neg same]⟩

/-- Every text of the embedded detail is redacted exactly if no pattern stands in the name
of a variant of the detail, or redaction changes none of its texts. -/
theorem redactDetail_redacts_iff (home : Option String) (redactions : List String)
    (detail : TypedDetail) :
    redactDetail home redactions detail.toReplayDetail =
        detail.mapTexts (redactText (replacements home redactions)) ↔
      (∀ tag ∈ detail.tags, ∀ rule ∈ replacements home redactions,
        ¬ rule.pattern <:+: tag.toList) ∨
      ∀ text ∈ detail.texts, redactText (replacements home redactions) text = text := by
  rw [← ReplayDetail.mapTexts_eq_self_iff]
  obtain ⟨absent, read⟩ | ⟨present, kept⟩ := redactDetail_cases home redactions detail.range
  · exact iff_of_true read (Or.inl absent)
  · rw [kept]
    simp only [present, false_or, eq_comm]

/-- A finished session with one prompt. -/
def sampleDetail : ReplayDetail where
  session :=
    { id := "s", workspaceId := "w", state := .finished, agentKind := "codex", name := none
      command := .argv "codex" [], cwd := "/w", createdAtMs := 0, recorderPid := 1
      initialCols := 80, initialRows := 24, castPath := "c", htmlPath := "h"
      commandDisplay := "codex", durationMs := none }
  executions := []
  turns :=
    [{ id := "t", sessionId := "s", provider := "codex", providerSessionId := "p"
       providerTurnId := none, prompt := "use k3y", createdAtMs := 0 }]
  actions := []

/-- A running execution. -/
def sampleExecution (id : ExecutionId) : DisplayedExecution where
  id := id
  workspaceId := "w"
  state := .running
  command := .argv "make" []
  cwd := "/w"
  envKeys := []
  initiator := {}
  createdAtMs := 0
  startedAtMs := some 1
  endedAtMs := none
  durationMs := none
  pid := some 10
  pgid := some 10
  outcome := none
  capturedBytes := 0
  outputTruncated := false
  lastSeq := 1
  commandDisplay := "make"

/-- A literal that stands in the name of a state switches the redaction of the others off. -/
theorem redactDetail_fails_open :
    redactDetail none ["k3y", "finish"] sampleDetail ≠
      sampleDetail.mapTexts (redactText (replacements none ["k3y", "finish"])) ∧
      (redactDetail none ["k3y", "finish"] sampleDetail).turns.map (fun turn => turn.prompt) =
        ["use k3y"] := by
  have shown : (redactDetail none ["k3y", "finish"] sampleDetail).turns.map
      (fun turn => turn.prompt) = ["use k3y"] := by
    decide +kernel
  have due : (sampleDetail.mapTexts
      (redactText (replacements none ["k3y", "finish"]))).turns.map (fun turn => turn.prompt) =
      ["use [REDACTED]"] := by
    decide +kernel
  refine ⟨fun same => ?_, shown⟩
  rw [same, due] at shown
  exact absurd shown (by decide)

end Loomterm
