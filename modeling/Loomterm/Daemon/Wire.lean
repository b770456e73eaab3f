import Loomterm.Daemon.Responses
import Loomterm.Misc.Codec
import Loomterm.Store.Statistics
import Mathlib.Tactic.FinCases

/-!
# What goes over the wire

The messages of `src/protocol.rs` with all that they carry, and how serde writes and reads them: a
codec for each type, put together from those of its fields, with the defaults of the fields that
may be left out. That the fields of one record are not taken for those of another that is written
among them is checked where they are put together.
-/

namespace Loomterm

open Json
open Json.FieldCodec (required defaulted optional omitted Variant Chosen)

/-! ## The messages -/

/-- `ExecutionRequest` (`src/model.rs:101`) as it is sent, with the text of `stdin_base64`. -/
structure SentRequest where
  workspaceId : WorkspaceId
  cwd : Option String
  command : CommandSpec
  env : List (String × String)
  stdinBase64 : Option String
  initiator : Initiator
  captureLimitBytes : Option Nat

/-- `Operation` (`src/protocol.rs:78`). -/
inductive WireOperation where
  | health
  | workspaceAdd (name root : String)
  | workspaceRemove (workspace : String)
  | workspaceList
  | execute (request : SentRequest)
  | get (executionId : ExecutionId)
  | list (workspace : Option String) (limit : Nat)
  | stats (workspace : String) (sinceMs : Int)
  | sessionCreate (request : AgentSessionRequest)
  | sessionFinish (sessionId : SessionId) (finish : AgentSessionFinish)
  | sessionGet (sessionId : SessionId)
  | sessionList (workspace : Option String) (limit : Nat)
  | sessionDelete (sessionId : SessionId)
  | agentEvent (request : AgentEventRequest)
  | readOutput (executionId : ExecutionId) (afterSeq maxBytes : Nat)
  | wait (executionId : ExecutionId) (afterSeq timeoutMs maxBytes : Nat)
  | subscribe (executionId : ExecutionId) (afterSeq : Nat)
  | cancel (executionId : ExecutionId)
  | shutdown (force : Bool)

/-- `Health` (`src/model.rs:578`). -/
structure Health where
  protocolVersion : Nat
  daemonPid : Nat
  databasePath : String
  socketPath : String
  serverVersion : Option String
  capabilities : List String
  activeExecutions : Option Nat
  activeSessions : Option Nat

/-- `ExecutionEventPayload` (`src/model.rs:532`) as it is sent, with the text of `data_base64`. -/
inductive SentPayload where
  | started (pid : Nat) (pgid : Int)
  | output (stream : OutputStream) (dataBase64 : String)
  | captureTruncated (limitBytes : Nat)
  | finished (outcome : ExecutionOutcome)

/-- `ExecutionEvent` (`src/model.rs:551`). -/
structure SentEvent where
  executionId : ExecutionId
  seq : Nat
  timestampMs : Int
  payload : SentPayload

/-- `ReadOutputResponse` (`src/model.rs:561`). -/
structure SentOutput where
  execution : DisplayedExecution
  events : List SentEvent
  nextSeq : Nat
  hasMore : Bool

/-- `ProtocolResult` (`src/protocol.rs:177`), as the client has it. -/
inductive WireResult where
  | empty
  | health (health : Health)
  | workspace (workspace : Workspace)
  | workspaces (workspaces : List Workspace)
  | execution (execution : DisplayedExecution)
  | executions (executions : List DisplayedExecution)
  | stats (stats : ExecutionStats)
  | agentSession (session : AgentSession)
  | agentSessions (sessions : List AgentSession)
  | agentSessionDetail (detail : ReplayDetail)
  | agentTurn (turn : AgentTurnRow)
  | output (response : SentOutput)
  | wait (response : SentOutput) (timedOut : Bool)
  | subscription (execution : DisplayedExecution) (nextSeq : Nat)

/-- `ProtocolError` (`src/protocol.rs:201`). -/
structure ProtocolError where
  code : String
  message : String

/-- `ResponseBody` (`src/protocol.rs:170`). -/
inductive ResponseBody where
  | ok (result : WireResult)
  | error (error : ProtocolError)

/-- `WireMessage` (`src/protocol.rs:18`), with its version. -/
inductive Wire where
  | request (version : Nat) (requestId : String) (operation : WireOperation)
  | response (version : Nat) (requestId : String) (body : ResponseBody)
  | event (version : Nat) (subscriptionId : String) (event : SentEvent)

/-! ## Records that are read elsewhere -/

namespace Json

mutual

theorem mapStrings_id : ∀ value : Json, mapStrings id value = value
  | .null => mapStrings_null id
  | .bool value => mapStrings_bool id value
  | .number value => mapStrings_number id value
  | .float bits => by rw [mapStrings] <;> simp
  | .string text => mapStrings_string id text
  | .array values => by rw [mapStrings, mapValues_id values]
  | .object fields => by rw [mapStrings, mapFields_id fields]

theorem mapValues_id : ∀ values : List Json, mapValues id values = values
  | [] => rfl
  | value :: rest => by rw [mapValues, mapStrings_id value, mapValues_id rest]

theorem mapFields_id : ∀ fields : List (String × Json), mapFields id fields = fields
  | [] => rfl
  | (key, value) :: rest => by rw [mapFields, mapStrings_id value, mapFields_id rest]

end

/-- What decodes with its texts rewritten decodes as it is. -/
theorem Decodes.plain {α : Type} {tags : List String} {decode : Json → Option α} {value : Json}
    {rewritten record : α} (read : Decodes id tags (decode (value.mapStrings id)) rewritten)
    (same : rewritten = record) : decode value = some record := by
  rw [mapStrings_id, same] at read
  simpa [Decodes] using read

end Json

theorem marking_id : Marking id := fun _ => .inl rfl

theorem CommandSpec.toJson_ne_null (command : CommandSpec) : command.toJson ≠ .null := by
  cases command <;> exact Json.noConfusion

theorem ExecutionOutcome.toJson_ne_null (outcome : ExecutionOutcome) : outcome.toJson ≠ .null := by
  cases outcome <;> exact Json.noConfusion

def CommandSpec.codec : Codec CommandSpec :=
  .total CommandSpec.toJson CommandSpec.fromJson CommandSpec.toJson_ne_null fun command =>
    (CommandSpec.decodes marking_id command).plain
      ((CommandSpec.mapTexts_eq_self_iff command).mpr fun _ _ => rfl)

theorem ExecutionOutcome.accepted (value : Json) (outcome : ExecutionOutcome)
    (read : ExecutionOutcome.fromJson value = some outcome) : outcome.InRange := by
  simp only [ExecutionOutcome.fromJson, tagged, Option.bind_eq_bind, Option.bind_eq_some_iff]
    at read
  obtain ⟨fields, -, kind, -, decoded, named, rfl⟩ := read
  obtain ⟨entry, found, same⟩ := Option.map_eq_some_iff.mp named
  have member := List.mem_of_find?_eq_some found
  simp only [ExecutionOutcome.variants, List.mem_cons, List.not_mem_nil, or_false] at member
  rcases member with rfl | rfl | rfl | rfl | rfl <;>
    obtain ⟨payload, here, rfl⟩ := Option.map_eq_some_iff.mp same
  · exact FieldCodec.required_accepted "code" i32 fields payload here
  · exact FieldCodec.required_accepted "signal" i32 fields payload here
  · exact trivial
  · exact FieldCodec.omittable_accepted "signal" i32 fields payload here
  · exact trivial

def ExecutionOutcome.codec : Codec ExecutionOutcome where
  valid := ExecutionOutcome.InRange
  encode := ExecutionOutcome.toJson
  decode := ExecutionOutcome.fromJson
  present := ExecutionOutcome.toJson_ne_null
  read_back outcome range := (ExecutionOutcome.decodes marking_id range).plain
    ((ExecutionOutcome.mapTexts_eq_self_iff outcome).mpr fun _ _ => rfl)
  accepted := ExecutionOutcome.accepted

def Initiator.codec : Codec Initiator :=
  .total Initiator.toJson Initiator.fromJson (fun _ => Json.noConfusion) fun initiator =>
    (Initiator.decodes initiator).plain
      ((Initiator.mapTexts_eq_self_iff initiator).mpr fun _ _ => rfl)

theorem DisplayedExecution.accepted (value : Json) (execution : DisplayedExecution)
    (read : DisplayedExecution.fromJson value = some execution) : execution.InRange := by
  obtain ⟨fields, -, read⟩ := Option.bind_eq_some_iff.mp read
  obtain ⟨id, -, read⟩ := Option.bind_eq_some_iff.mp read
  obtain ⟨workspaceId, -, read⟩ := Option.bind_eq_some_iff.mp read
  obtain ⟨state, -, read⟩ := Option.bind_eq_some_iff.mp read
  obtain ⟨command, -, read⟩ := Option.bind_eq_some_iff.mp read
  obtain ⟨display, -, read⟩ := Option.bind_eq_some_iff.mp read
  obtain ⟨cwd, -, read⟩ := Option.bind_eq_some_iff.mp read
  obtain ⟨envKeys, -, read⟩ := Option.bind_eq_some_iff.mp read
  obtain ⟨initiator, -, read⟩ := Option.bind_eq_some_iff.mp read
  obtain ⟨createdAtMs, created, read⟩ := Option.bind_eq_some_iff.mp read
  obtain ⟨startedAtMs, started, read⟩ := Option.bind_eq_some_iff.mp read
  obtain ⟨endedAtMs, ended, read⟩ := Option.bind_eq_some_iff.mp read
  obtain ⟨durationMs, lasted, read⟩ := Option.bind_eq_some_iff.mp read
  obtain ⟨pid, process, read⟩ := Option.bind_eq_some_iff.mp read
  obtain ⟨pgid, group, read⟩ := Option.bind_eq_some_iff.mp read
  obtain ⟨outcome, result, read⟩ := Option.bind_eq_some_iff.mp read
  obtain ⟨capturedBytes, captured, read⟩ := Option.bind_eq_some_iff.mp read
  obtain ⟨truncated, -, read⟩ := Option.bind_eq_some_iff.mp read
  obtain ⟨lastSeq, last, read⟩ := Option.bind_eq_some_iff.mp read
  cases read
  exact {
    createdAtMs := FieldCodec.required_accepted "created_at_ms" i64 fields createdAtMs created
    startedAtMs := FieldCodec.omittable_accepted "started_at_ms" i64 fields startedAtMs started
    endedAtMs := FieldCodec.omittable_accepted "ended_at_ms" i64 fields endedAtMs ended
    durationMs := FieldCodec.omittable_accepted "duration_ms" u64 fields durationMs lasted
    pid := FieldCodec.omittable_accepted "pid" u32 fields pid process
    pgid := FieldCodec.omittable_accepted "pgid" i32 fields pgid group
    outcome := FieldCodec.omittable_accepted "outcome" ExecutionOutcome.codec fields outcome result
    capturedBytes := FieldCodec.required_accepted "captured_bytes" u64 fields capturedBytes captured
    lastSeq := FieldCodec.required_accepted "last_seq" u64 fields lastSeq last }

def DisplayedExecution.codec : Codec DisplayedExecution where
  valid := DisplayedExecution.InRange
  encode := DisplayedExecution.toJson
  decode := DisplayedExecution.fromJson
  present _ := Json.noConfusion
  read_back execution range := (DisplayedExecution.decodes marking_id range).plain
    ((DisplayedExecution.mapTexts_eq_self_iff execution).mpr fun _ _ => rfl)
  accepted := DisplayedExecution.accepted

theorem AgentSession.accepted (value : Json) (session : AgentSession)
    (read : AgentSession.fromJson value = some session) : session.InRange := by
  obtain ⟨fields, -, read⟩ := Option.bind_eq_some_iff.mp read
  obtain ⟨id, -, read⟩ := Option.bind_eq_some_iff.mp read
  obtain ⟨workspaceId, -, read⟩ := Option.bind_eq_some_iff.mp read
  obtain ⟨state, -, read⟩ := Option.bind_eq_some_iff.mp read
  obtain ⟨agentKind, -, read⟩ := Option.bind_eq_some_iff.mp read
  obtain ⟨name, -, read⟩ := Option.bind_eq_some_iff.mp read
  obtain ⟨command, -, read⟩ := Option.bind_eq_some_iff.mp read
  obtain ⟨display, -, read⟩ := Option.bind_eq_some_iff.mp read
  obtain ⟨cwd, -, read⟩ := Option.bind_eq_some_iff.mp read
  obtain ⟨createdAtMs, created, read⟩ := Option.bind_eq_some_iff.mp read
  obtain ⟨endedAtMs, ended, read⟩ := Option.bind_eq_some_iff.mp read
  obtain ⟨durationMs, lasted, read⟩ := Option.bind_eq_some_iff.mp read
  obtain ⟨recorderPid, recorder, read⟩ := Option.bind_eq_some_iff.mp read
  obtain ⟨outcome, result, read⟩ := Option.bind_eq_some_iff.mp read
  obtain ⟨capturedBytes, captured, read⟩ := Option.bind_eq_some_iff.mp read
  obtain ⟨truncated, -, read⟩ := Option.bind_eq_some_iff.mp read
  obtain ⟨initialCols, cols, read⟩ := Option.bind_eq_some_iff.mp read
  obtain ⟨initialRows, rows, read⟩ := Option.bind_eq_some_iff.mp read
  obtain ⟨castPath, -, read⟩ := Option.bind_eq_some_iff.mp read
  obtain ⟨htmlPath, -, read⟩ := Option.bind_eq_some_iff.mp read
  cases read
  exact {
    createdAtMs := FieldCodec.required_accepted "created_at_ms" i64 fields createdAtMs created
    endedAtMs := FieldCodec.omittable_accepted "ended_at_ms" i64 fields endedAtMs ended
    durationMs := FieldCodec.omittable_accepted "duration_ms" u64 fields durationMs lasted
    recorderPid := FieldCodec.required_accepted "recorder_pid" u32 fields recorderPid recorder
    outcome := FieldCodec.omittable_accepted "outcome" ExecutionOutcome.codec fields outcome result
    capturedBytes := FieldCodec.required_accepted "captured_bytes" u64 fields capturedBytes captured
    initialCols := FieldCodec.required_accepted "initial_cols" u16 fields initialCols cols
    initialRows := FieldCodec.required_accepted "initial_rows" u16 fields initialRows rows }

def AgentSession.codec : Codec AgentSession where
  valid := AgentSession.InRange
  encode := AgentSession.toJson
  decode := AgentSession.fromJson
  present _ := Json.noConfusion
  read_back session range := (AgentSession.decodes marking_id range).plain
    ((AgentSession.mapTexts_eq_self_iff session).mpr fun _ _ => rfl)
  accepted := AgentSession.accepted

theorem AgentTurnRow.accepted (value : Json) (turn : AgentTurnRow)
    (read : AgentTurnRow.fromJson value = some turn) : turn.InRange := by
  simp only [AgentTurnRow.fromJson, Option.bind_eq_bind, Option.bind_eq_some_iff,
    Option.some.injEq] at read
  obtain ⟨fields, -, id, -, sessionId, -, provider, -, providerSessionId, -, providerTurnId, -,
    state, -, prompt, -, createdAtMs, created, endedAtMs, ended, message, -, rfl⟩ := read
  exact {
    createdAtMs := FieldCodec.required_accepted "created_at_ms" i64 fields createdAtMs created
    endedAtMs := FieldCodec.omittable_accepted "ended_at_ms" i64 fields endedAtMs ended }

def AgentTurnRow.codec : Codec AgentTurnRow where
  valid := AgentTurnRow.InRange
  encode := AgentTurnRow.toJson
  decode := AgentTurnRow.fromJson
  present _ := Json.noConfusion
  read_back turn range := (AgentTurnRow.decodes marking_id range).plain
    ((AgentTurnRow.mapTexts_eq_self_iff turn).mpr fun _ _ => rfl)
  accepted := AgentTurnRow.accepted

theorem AgentActionRow.accepted (value : Json) (action : AgentActionRow)
    (read : AgentActionRow.fromJson value = some action) : action.InRange := by
  simp only [AgentActionRow.fromJson, Option.bind_eq_bind, Option.bind_eq_some_iff,
    Option.some.injEq] at read
  obtain ⟨fields, -, id, -, turnId, -, providerActionId, -, toolName, -, state, -, executionId, -,
    createdAtMs, created, endedAtMs, ended, rfl⟩ := read
  exact {
    createdAtMs := FieldCodec.required_accepted "created_at_ms" i64 fields createdAtMs created
    endedAtMs := FieldCodec.omittable_accepted "ended_at_ms" i64 fields endedAtMs ended }

def AgentActionRow.codec : Codec AgentActionRow where
  valid := AgentActionRow.InRange
  encode := AgentActionRow.toJson
  decode := AgentActionRow.fromJson
  present _ := Json.noConfusion
  read_back action range := (AgentActionRow.decodes marking_id range).plain
    ((AgentActionRow.mapTexts_eq_self_iff action).mpr fun _ _ => rfl)
  accepted := AgentActionRow.accepted

theorem ReplayDetail.accepted (value : Json) (detail : ReplayDetail)
    (read : ReplayDetail.fromJson value = some detail) : detail.InRange := by
  simp only [ReplayDetail.fromJson, Option.bind_eq_bind, Option.bind_eq_some_iff,
    Option.some.injEq] at read
  obtain ⟨fields, -, session, owner, executions, owned, turns, prompted, actions, called, rfl⟩ :=
    read
  exact {
    session := FieldCodec.required_accepted "session" AgentSession.codec fields session owner
    executions := FieldCodec.required_accepted "executions" (.list DisplayedExecution.codec) fields
      executions owned
    turns := FieldCodec.defaulted_accepted "turns" (.list AgentTurnRow.codec) []
      (List.forall_mem_nil _) fields turns prompted
    actions := FieldCodec.defaulted_accepted "actions" (.list AgentActionRow.codec) []
      (List.forall_mem_nil _) fields actions called }

def ReplayDetail.codec : Codec ReplayDetail where
  valid := ReplayDetail.InRange
  encode := ReplayDetail.toJson
  decode := ReplayDetail.fromJson
  present _ := Json.noConfusion
  read_back detail range := (ReplayDetail.decodes marking_id range).plain
    ((ReplayDetail.mapTexts_eq_self_iff detail).mpr fun _ _ => rfl)
  accepted := ReplayDetail.accepted

theorem AgentSessionState.known (state : AgentSessionState) :
    oneOf AgentSessionState.names state.asStr = some state := by
  cases state <;> rfl

def AgentSessionState.codec : Codec AgentSessionState :=
  .enumeration AgentSessionState.names AgentSessionState.asStr AgentSessionState.known

/-! ## Requests -/

/-- `BTreeMap::insert`. -/
def insertEnv (entry : String × String) : List (String × String) → List (String × String)
  | [] => [entry]
  | first :: rest =>
      if entry.1 < first.1 then entry :: first :: rest
      else if entry.1 = first.1 then entry :: rest
      else first :: insertEnv entry rest

/-- `BTreeMap<String, String>`: the entries are inserted as they are read. -/
def envFromJson (value : Json) : Option (List (String × String)) := do
  let fields ← value.asObject
  let entries ← fields.mapM fun field => field.2.asStr.map fun text => (field.1, text)
  some (entries.foldl (fun env entry => insertEnv entry env) [])

def envToJson (env : List (String × String)) : Json :=
  .object (env.map fun entry => (entry.1, .string entry.2))

/-- The keys of a map are in order. -/
def SortedKeys (env : List (String × String)) : Prop := (env.map Prod.fst).Pairwise (· < ·)

instance (env : List (String × String)) : Decidable (SortedKeys env) :=
  inferInstanceAs (Decidable (List.Pairwise _ _))

theorem insertEnv_last {entry : String × String} {env : List (String × String)}
    (above : ∀ key ∈ env.map Prod.fst, key < entry.1) : insertEnv entry env = env ++ [entry] := by
  induction env with
  | nil => rfl
  | cons first rest ih =>
    have before : first.1 < entry.1 := above first.1 (by simp)
    rw [insertEnv, if_neg before.not_gt, if_neg before.ne', List.cons_append,
      ih fun key member => above key (by simp [member])]

theorem foldl_insertEnv {start entries : List (String × String)}
    (ordered : SortedKeys (start ++ entries)) :
    entries.foldl (fun env entry => insertEnv entry env) start = start ++ entries := by
  induction entries generalizing start with
  | nil => simp
  | cons entry rest ih =>
    have above : ∀ key ∈ start.map Prod.fst, key < entry.1 := by
      intro key member
      unfold SortedKeys at ordered
      rw [List.map_append, List.pairwise_append] at ordered
      exact ordered.2.2 key member entry.1 (by simp)
    rw [List.foldl_cons, insertEnv_last above, ih (by simpa using ordered), List.append_assoc,
      List.singleton_append]

theorem envFromJson_envToJson (env : List (String × String)) (ordered : SortedKeys env) :
    envFromJson (envToJson env) = some env := by
  have entries : (env.map fun entry : String × String => (entry.1, Json.string entry.2)).mapM
      (fun field : String × Json => field.2.asStr.map fun text => (field.1, text)) = some env := by
    induction env with
    | nil => rfl
    | cons entry rest ih =>
      rw [List.map_cons, List.mapM_cons, ih (List.Pairwise.of_cons ordered)]
      rfl
  have read : envFromJson (envToJson env) = some (env.foldl
      (fun env entry => insertEnv entry env) []) := by
    show ((env.map fun entry : String × String => (entry.1, Json.string entry.2)).mapM
      (fun field : String × Json => field.2.asStr.map fun text => (field.1, text))).bind _ = _
    rw [entries]
    rfl
  rw [read, foldl_insertEnv (by simpa using ordered), List.nil_append]

theorem mem_keys_insertEnv {entry : String × String} {env : List (String × String)} {key : String}
    (member : key ∈ (insertEnv entry env).map Prod.fst) :
    key = entry.1 ∨ key ∈ env.map Prod.fst := by
  induction env with
  | nil => exact .inl (by simpa [insertEnv] using member)
  | cons first rest ih =>
    unfold insertEnv at member
    split at member
    · simpa using member
    split at member
    · rw [List.map_cons, List.mem_cons] at member
      exact member.imp_right fun later => by simp [later]
    · rw [List.map_cons, List.mem_cons] at member
      rcases member with rfl | later
      · exact .inr (by simp)
      · exact (ih later).imp_right fun old => by simp [old]

theorem insertEnv_ordered (entry : String × String) {env : List (String × String)}
    (ordered : SortedKeys env) : SortedKeys (insertEnv entry env) := by
  unfold SortedKeys at ordered ⊢
  induction env with
  | nil => simp [insertEnv]
  | cons first rest ih =>
    rw [List.map_cons, List.pairwise_cons] at ordered
    unfold insertEnv
    split
    · rename_i before
      rw [List.map_cons, List.map_cons, List.pairwise_cons, List.pairwise_cons]
      refine ⟨fun key member => ?_, ordered⟩
      rcases List.mem_cons.mp member with rfl | later
      · exact before
      · exact before.trans (ordered.1 key later)
    split
    · rename_i same
      rw [List.map_cons, same, List.pairwise_cons]
      exact ordered
    · rename_i after different
      rw [List.map_cons, List.pairwise_cons]
      refine ⟨fun key member => ?_, ih ordered.2⟩
      rcases mem_keys_insertEnv member with rfl | old
      · exact lt_of_le_of_ne (not_lt.mp after) (Ne.symm different)
      · exact ordered.1 key old

theorem foldl_insertEnv_ordered (entries : List (String × String)) {start : List (String × String)}
    (ordered : SortedKeys start) :
    SortedKeys (entries.foldl (fun env entry => insertEnv entry env) start) := by
  induction entries generalizing start with
  | nil => exact ordered
  | cons entry rest ih => exact ih (insertEnv_ordered entry ordered)

theorem envFromJson_ordered (value : Json) (env : List (String × String))
    (read : envFromJson value = some env) : SortedKeys env := by
  obtain ⟨fields, _, rest⟩ := Option.bind_eq_some_iff.mp read
  obtain ⟨entries, _, whole⟩ := Option.bind_eq_some_iff.mp rest
  cases whole
  exact foldl_insertEnv_ordered entries List.Pairwise.nil

def envCodec : Codec (List (String × String)) where
  valid := SortedKeys
  encode := envToJson
  decode := envFromJson
  present _ := Json.noConfusion
  read_back := envFromJson_envToJson
  accepted := envFromJson_ordered

def SentRequest.fields : FieldCodec SentRequest :=
  ((required "workspace_id" .string).and ((omitted "cwd" .string).and
    ((required "command" CommandSpec.codec).and ((defaulted "env" envCodec [] List.Pairwise.nil).and
      ((omitted "stdin_base64" .string).and ((defaulted "initiator" Initiator.codec {} trivial).and
        (omitted "capture_limit_bytes" u64) rfl) rfl) rfl) rfl) rfl) rfl).map
    (fun (workspaceId, cwd, command, env, stdinBase64, initiator, captureLimitBytes) =>
      { workspaceId, cwd, command, env, stdinBase64, initiator, captureLimitBytes })
    (fun r => (r.workspaceId, r.cwd, r.command, r.env, r.stdinBase64, r.initiator,
      r.captureLimitBytes))
    (fun _ => rfl) fun _ => rfl

def AgentSessionRequest.fields : FieldCodec AgentSessionRequest :=
  ((required "id" .string).and ((required "workspace_id" .string).and
    ((required "agent_kind" .string).and ((optional "name" .string).and
      ((required "command" CommandSpec.codec).and ((required "cwd" .string).and
        ((required "recorder_pid" u32).and ((required "initial_cols" u16).and
          ((required "initial_rows" u16).and ((required "cast_path" .string).and
            (required "html_path" .string) rfl) rfl) rfl) rfl) rfl) rfl) rfl) rfl) rfl) rfl).map
    (fun (id, workspaceId, agentKind, name, command, cwd, recorderPid, initialCols, initialRows,
      castPath, htmlPath) =>
      { id, workspaceId, agentKind, name, command, cwd, recorderPid, initialCols, initialRows,
        castPath, htmlPath })
    (fun r => (r.id, r.workspaceId, r.agentKind, r.name, r.command, r.cwd, r.recorderPid,
      r.initialCols, r.initialRows, r.castPath, r.htmlPath))
    (fun _ => rfl) fun _ => rfl

def AgentSessionFinish.fields : FieldCodec AgentSessionFinish :=
  ((required "state" AgentSessionState.codec).and
    ((required "outcome" ExecutionOutcome.codec).and ((required "captured_bytes" u64).and
      (required "output_truncated" .bool) rfl) rfl) rfl).map
    (fun (state, outcome, capturedBytes, outputTruncated) =>
      { state, outcome, capturedBytes, outputTruncated })
    (fun f => (f.state, f.outcome, f.capturedBytes, f.outputTruncated))
    (fun _ => rfl) fun _ => rfl

namespace AgentEvent

def promptSubmittedVariant : Variant AgentEvent :=
  ⟨"prompt_submitted", _, required "prompt" .string, promptSubmitted⟩

def toolStartedVariant : Variant AgentEvent :=
  ⟨"tool_started", _, (required "action_id" .string).and (required "tool_name" .string) rfl,
    fun (actionId, toolName) => toolStarted actionId toolName⟩

def toolFinishedVariant : Variant AgentEvent :=
  ⟨"tool_finished", _,
    (required "action_id" .string).and ((required "tool_name" .string).and
      ((defaulted "failed" .bool false trivial).and (omitted "execution_id" .string) rfl) rfl) rfl,
    fun (actionId, toolName, failed, executionId) =>
      toolFinished actionId toolName failed executionId⟩

def turnFinishedVariant : Variant AgentEvent :=
  ⟨"turn_finished", _,
    (defaulted "failed" .bool false trivial).and (omitted "last_assistant_message" .string) rfl,
    fun (failed, lastAssistantMessage) => turnFinished failed lastAssistantMessage⟩

def variants : List (Variant AgentEvent) :=
  [promptSubmittedVariant, toolStartedVariant, toolFinishedVariant, turnFinishedVariant]

def chosen : AgentEvent → Chosen AgentEvent
  | promptSubmitted prompt => ⟨promptSubmittedVariant, prompt⟩
  | toolStarted actionId toolName => ⟨toolStartedVariant, actionId, toolName⟩
  | toolFinished actionId toolName failed executionId =>
      ⟨toolFinishedVariant, actionId, toolName, failed, executionId⟩
  | turnFinished failed lastAssistantMessage => ⟨turnFinishedVariant, failed, lastAssistantMessage⟩

theorem chosen_variant (event : AgentEvent) : event.chosen.variant ∈ variants := by
  cases event <;> simp [chosen, variants]

theorem chosen_value (event : AgentEvent) : event.chosen.value = event := by
  cases event <;> rfl

theorem chosen_make : ∀ variant ∈ variants, ∀ payload,
    (variant.make payload).chosen = ⟨variant, payload⟩ := by
  intro variant member
  fin_cases member <;> exact fun _ => rfl

def fields : FieldCodec AgentEvent :=
  .union "event" variants chosen rfl chosen_variant chosen_value chosen_make

end AgentEvent

def AgentEventRequest.fields : FieldCodec AgentEventRequest :=
  ((required "session_id" .string).and ((required "provider" .string).and
    ((required "provider_session_id" .string).and ((omitted "provider_turn_id" .string).and
      AgentEvent.fields rfl) rfl) rfl) rfl).map
    (fun (sessionId, provider, providerSessionId, providerTurnId, event) =>
      { sessionId, provider, providerSessionId, providerTurnId, event })
    (fun r => (r.sessionId, r.provider, r.providerSessionId, r.providerTurnId, r.event))
    (fun _ => rfl) fun _ => rfl

namespace WireOperation

/-- `default_list_limit` (`src/protocol.rs:156`). -/
def defaultListLimit : Nat := 100

/-- `default_read_bytes` (`src/protocol.rs:160`). -/
def defaultReadBytes : Nat := 1024 * 1024

/-- `default_wait_ms` (`src/protocol.rs:164`). -/
def defaultWaitMs : Nat := 30000

theorem defaultListLimit_valid : u32.valid defaultListLimit :=
  Nat.lt_of_sub_pos (Nat.succ_pos _)

theorem defaultReadBytes_valid : u64.valid defaultReadBytes :=
  Nat.lt_of_sub_pos (Nat.succ_pos _)

theorem defaultWaitMs_valid : u64.valid defaultWaitMs :=
  Nat.lt_of_sub_pos (Nat.succ_pos _)

def healthVariant : Variant WireOperation :=
  ⟨"health", _, .none, fun _ => health⟩

def workspaceAddVariant : Variant WireOperation :=
  ⟨"workspace_add", _, (required "name" .string).and (required "root" .string) rfl,
    fun (name, root) => workspaceAdd name root⟩

def workspaceRemoveVariant : Variant WireOperation :=
  ⟨"workspace_remove", _, required "workspace" .string, workspaceRemove⟩

def workspaceListVariant : Variant WireOperation :=
  ⟨"workspace_list", _, .none, fun _ => workspaceList⟩

def executeVariant : Variant WireOperation :=
  ⟨"execute", _, required "request" SentRequest.fields.object, execute⟩

def getVariant : Variant WireOperation :=
  ⟨"get", _, required "execution_id" .string, get⟩

def listVariant : Variant WireOperation :=
  ⟨"list", _,
    (omitted "workspace" .string).and
      (defaulted "limit" u32 defaultListLimit defaultListLimit_valid) rfl,
    fun (workspace, limit) => list workspace limit⟩

def statsVariant : Variant WireOperation :=
  ⟨"stats", _, (required "workspace" .string).and (required "since_ms" i64) rfl,
    fun (workspace, sinceMs) => stats workspace sinceMs⟩

def sessionCreateVariant : Variant WireOperation :=
  ⟨"session_create", _, required "request" AgentSessionRequest.fields.object, sessionCreate⟩

def sessionFinishVariant : Variant WireOperation :=
  ⟨"session_finish", _,
    (required "session_id" .string).and (required "finish" AgentSessionFinish.fields.object) rfl,
    fun (sessionId, finish) => sessionFinish sessionId finish⟩

def sessionGetVariant : Variant WireOperation :=
  ⟨"session_get", _, required "session_id" .string, sessionGet⟩

def sessionListVariant : Variant WireOperation :=
  ⟨"session_list", _,
    (omitted "workspace" .string).and
      (defaulted "limit" u32 defaultListLimit defaultListLimit_valid) rfl,
    fun (workspace, limit) => sessionList workspace limit⟩

def sessionDeleteVariant : Variant WireOperation :=
  ⟨"session_delete", _, required "session_id" .string, sessionDelete⟩

def agentEventVariant : Variant WireOperation :=
  ⟨"agent_event", _, required "request" AgentEventRequest.fields.object, agentEvent⟩

def readOutputVariant : Variant WireOperation :=
  ⟨"read_output", _,
    (required "execution_id" .string).and ((defaulted "after_seq" u64 0 u64_zero).and
      (defaulted "max_bytes" u64 defaultReadBytes defaultReadBytes_valid) rfl) rfl,
    fun (executionId, afterSeq, maxBytes) => readOutput executionId afterSeq maxBytes⟩

def waitVariant : Variant WireOperation :=
  ⟨"wait", _,
    (required "execution_id" .string).and ((defaulted "after_seq" u64 0 u64_zero).and
      ((defaulted "timeout_ms" u64 defaultWaitMs defaultWaitMs_valid).and
        (defaulted "max_bytes" u64 defaultReadBytes defaultReadBytes_valid) rfl) rfl) rfl,
    fun (executionId, afterSeq, timeoutMs, maxBytes) =>
      wait executionId afterSeq timeoutMs maxBytes⟩

def subscribeVariant : Variant WireOperation :=
  ⟨"subscribe", _, (required "execution_id" .string).and (defaulted "after_seq" u64 0 u64_zero) rfl,
    fun (executionId, afterSeq) => subscribe executionId afterSeq⟩

def cancelVariant : Variant WireOperation :=
  ⟨"cancel", _, required "execution_id" .string, cancel⟩

def shutdownVariant : Variant WireOperation :=
  ⟨"shutdown", _, defaulted "force" .bool false trivial, shutdown⟩

def variants : List (Variant WireOperation) := [
  healthVariant, workspaceAddVariant, workspaceRemoveVariant, workspaceListVariant,
  executeVariant, getVariant, listVariant, statsVariant, sessionCreateVariant,
  sessionFinishVariant, sessionGetVariant, sessionListVariant, sessionDeleteVariant,
  agentEventVariant, readOutputVariant, waitVariant, subscribeVariant, cancelVariant,
  shutdownVariant]

def chosen : WireOperation → Chosen WireOperation
  | health => ⟨healthVariant, ()⟩
  | workspaceAdd name root => ⟨workspaceAddVariant, name, root⟩
  | workspaceRemove workspace => ⟨workspaceRemoveVariant, workspace⟩
  | workspaceList => ⟨workspaceListVariant, ()⟩
  | execute request => ⟨executeVariant, request⟩
  | get executionId => ⟨getVariant, executionId⟩
  | list workspace limit => ⟨listVariant, workspace, limit⟩
  | stats workspace sinceMs => ⟨statsVariant, workspace, sinceMs⟩
  | sessionCreate request => ⟨sessionCreateVariant, request⟩
  | sessionFinish sessionId finish => ⟨sessionFinishVariant, sessionId, finish⟩
  | sessionGet sessionId => ⟨sessionGetVariant, sessionId⟩
  | sessionList workspace limit => ⟨sessionListVariant, workspace, limit⟩
  | sessionDelete sessionId => ⟨sessionDeleteVariant, sessionId⟩
  | agentEvent request => ⟨agentEventVariant, request⟩
  | readOutput executionId afterSeq maxBytes => ⟨readOutputVariant, executionId, afterSeq, maxBytes⟩
  | wait executionId afterSeq timeoutMs maxBytes =>
      ⟨waitVariant, executionId, afterSeq, timeoutMs, maxBytes⟩
  | subscribe executionId afterSeq => ⟨subscribeVariant, executionId, afterSeq⟩
  | cancel executionId => ⟨cancelVariant, executionId⟩
  | shutdown force => ⟨shutdownVariant, force⟩

theorem chosen_variant (operation : WireOperation) : operation.chosen.variant ∈ variants := by
  cases operation <;> simp [chosen, variants]

theorem chosen_value (operation : WireOperation) : operation.chosen.value = operation := by
  cases operation <;> rfl

theorem chosen_make : ∀ variant ∈ variants, ∀ payload,
    (variant.make payload).chosen = ⟨variant, payload⟩ := by
  intro variant member
  fin_cases member <;> exact fun _ => rfl

def fields : FieldCodec WireOperation :=
  .union "operation" variants chosen rfl chosen_variant chosen_value chosen_make

end WireOperation

/-! ## Responses and events -/

def Workspace.fields : FieldCodec Workspace :=
  ((required "id" .string).and ((required "name" .string).and ((required "root" .string).and
    (required "created_at_ms" i64) rfl) rfl) rfl).map
    (fun (id, name, root, createdAtMs) => { id, name, root, createdAtMs })
    (fun w => (w.id, w.name, w.root, w.createdAtMs))
    (fun _ => rfl) fun _ => rfl

def Health.fields : FieldCodec Health :=
  ((required "protocol_version" u32).and ((required "daemon_pid" u32).and
    ((required "database_path" .string).and ((required "socket_path" .string).and
      ((omitted "server_version" .string).and
        ((defaulted "capabilities" (.list .string) [] (List.forall_mem_nil _)).and
          ((omitted "active_executions" u64).and
            (omitted "active_sessions" u64) rfl) rfl) rfl) rfl) rfl) rfl) rfl).map
    (fun (protocolVersion, daemonPid, databasePath, socketPath, serverVersion, capabilities,
      activeExecutions, activeSessions) =>
      { protocolVersion, daemonPid, databasePath, socketPath, serverVersion, capabilities,
        activeExecutions, activeSessions })
    (fun h => (h.protocolVersion, h.daemonPid, h.databasePath, h.socketPath, h.serverVersion,
      h.capabilities, h.activeExecutions, h.activeSessions))
    (fun _ => rfl) fun _ => rfl

def ExecutionStatusCounts.fields : FieldCodec ExecutionStatusCounts :=
  ((required "queued" u64).and ((required "running" u64).and ((required "exited_zero" u64).and
    ((required "exited_nonzero" u64).and ((required "signaled" u64).and
      ((required "spawn_error" u64).and ((required "cancelled" u64).and
        ((required "interrupted" u64).and
          (required "unknown_terminal" u64) rfl) rfl) rfl) rfl) rfl) rfl) rfl) rfl).map
    (fun (queued, running, exitedZero, exitedNonzero, signaled, spawnError, cancelled,
      interrupted, unknownTerminal) =>
      { queued, running, exitedZero, exitedNonzero, signaled, spawnError, cancelled,
        interrupted, unknownTerminal })
    (fun c => (c.queued, c.running, c.exitedZero, c.exitedNonzero, c.signaled, c.spawnError,
      c.cancelled, c.interrupted, c.unknownTerminal))
    (fun _ => rfl) fun _ => rfl

def InitiatorStats.fields : FieldCodec InitiatorStats :=
  ((required "kind" .string).and (required "count" u64) rfl).map
    (fun (kind, count) => { kind, count })
    (fun s => (s.kind, s.count))
    (fun _ => rfl) fun _ => rfl

def ExecutionStats.fields : FieldCodec ExecutionStats :=
  ((required "workspace" Workspace.fields.object).and ((required "since_ms" i64).and
    ((required "until_ms" i64).and ((required "total" u64).and
      ((required "status" ExecutionStatusCounts.fields.object).and
        ((required "by_initiator" (.list InitiatorStats.fields.object)).and
          ((required "captured_bytes" u64).and ((required "truncated_executions" u64).and
            ((required "duration_samples" u64).and ((optional "duration_p50_ms" u64).and
              (optional "duration_p95_ms" u64) rfl) rfl) rfl) rfl) rfl) rfl) rfl) rfl) rfl) rfl).map
    (fun (workspace, sinceMs, untilMs, total, status, byInitiator, capturedBytes,
      truncatedExecutions, durationSamples, durationP50Ms, durationP95Ms) =>
      { workspace, sinceMs, untilMs, total, status, byInitiator, capturedBytes,
        truncatedExecutions, durationSamples, durationP50Ms, durationP95Ms })
    (fun s => (s.workspace, s.sinceMs, s.untilMs, s.total, s.status, s.byInitiator,
      s.capturedBytes, s.truncatedExecutions, s.durationSamples, s.durationP50Ms, s.durationP95Ms))
    (fun _ => rfl) fun _ => rfl

def OutputStream.names : List (String × OutputStream) :=
  [("stdout", .stdout), ("stderr", .stderr)]

theorem OutputStream.known (stream : OutputStream) :
    oneOf OutputStream.names stream.asStr = some stream := by
  cases stream <;> rfl

namespace SentPayload

def startedVariant : Variant SentPayload :=
  ⟨"started", _, (required "pid" u32).and (required "pgid" i32) rfl,
    fun (pid, pgid) => started pid pgid⟩

def outputVariant : Variant SentPayload :=
  ⟨"output", _,
    (required "stream" (.enumeration OutputStream.names _ OutputStream.known)).and
      (required "data_base64" .string) rfl,
    fun (stream, dataBase64) => output stream dataBase64⟩

def captureTruncatedVariant : Variant SentPayload :=
  ⟨"capture_truncated", _, required "limit_bytes" u64, captureTruncated⟩

def finishedVariant : Variant SentPayload :=
  ⟨"finished", _, required "outcome" ExecutionOutcome.codec, finished⟩

def variants : List (Variant SentPayload) :=
  [startedVariant, outputVariant, captureTruncatedVariant, finishedVariant]

def chosen : SentPayload → Chosen SentPayload
  | started pid pgid => ⟨startedVariant, pid, pgid⟩
  | output stream dataBase64 => ⟨outputVariant, stream, dataBase64⟩
  | captureTruncated limitBytes => ⟨captureTruncatedVariant, limitBytes⟩
  | finished outcome => ⟨finishedVariant, outcome⟩

theorem chosen_variant (payload : SentPayload) : payload.chosen.variant ∈ variants := by
  cases payload <;> simp [chosen, variants]

theorem chosen_value (payload : SentPayload) : payload.chosen.value = payload := by
  cases payload <;> rfl

theorem chosen_make : ∀ variant ∈ variants, ∀ payload,
    (variant.make payload).chosen = ⟨variant, payload⟩ := by
  intro variant member
  fin_cases member <;> exact fun _ => rfl

def fields : FieldCodec SentPayload :=
  .union "kind" variants chosen rfl chosen_variant chosen_value chosen_make

end SentPayload

def SentEvent.fields : FieldCodec SentEvent :=
  ((required "execution_id" .string).and ((required "seq" u64).and
    ((required "timestamp_ms" i64).and SentPayload.fields rfl) rfl) rfl).map
    (fun (executionId, seq, timestampMs, payload) => { executionId, seq, timestampMs, payload })
    (fun e => (e.executionId, e.seq, e.timestampMs, e.payload))
    (fun _ => rfl) fun _ => rfl

def SentOutput.fields : FieldCodec SentOutput :=
  ((required "execution" DisplayedExecution.codec).and
    ((required "events" (.list SentEvent.fields.object)).and ((required "next_seq" u64).and
      (required "has_more" .bool) rfl) rfl) rfl).map
    (fun (execution, events, nextSeq, hasMore) => { execution, events, nextSeq, hasMore })
    (fun r => (r.execution, r.events, r.nextSeq, r.hasMore))
    (fun _ => rfl) fun _ => rfl

namespace WireResult

def emptyVariant : Variant WireResult :=
  ⟨"empty", _, .none, fun _ => empty⟩

def healthVariant : Variant WireResult :=
  ⟨"health", _, required "value" Health.fields.object, health⟩

def workspaceVariant : Variant WireResult :=
  ⟨"workspace", _, required "value" Workspace.fields.object, workspace⟩

def workspacesVariant : Variant WireResult :=
  ⟨"workspaces", _, required "value" (.list Workspace.fields.object), workspaces⟩

def executionVariant : Variant WireResult :=
  ⟨"execution", _, required "value" DisplayedExecution.codec, execution⟩

def executionsVariant : Variant WireResult :=
  ⟨"executions", _, required "value" (.list DisplayedExecution.codec), executions⟩

def statsVariant : Variant WireResult :=
  ⟨"stats", _, required "value" ExecutionStats.fields.object, stats⟩

def agentSessionVariant : Variant WireResult :=
  ⟨"agent_session", _, required "value" AgentSession.codec, agentSession⟩

def agentSessionsVariant : Variant WireResult :=
  ⟨"agent_sessions", _, required "value" (.list AgentSession.codec), agentSessions⟩

def agentSessionDetailVariant : Variant WireResult :=
  ⟨"agent_session_detail", _, required "value" ReplayDetail.codec, agentSessionDetail⟩

def agentTurnVariant : Variant WireResult :=
  ⟨"agent_turn", _, required "value" AgentTurnRow.codec, agentTurn⟩

def outputVariant : Variant WireResult :=
  ⟨"output", _, required "value" SentOutput.fields.object, output⟩

def waitVariant : Variant WireResult :=
  ⟨"wait", _,
    required "value" (SentOutput.fields.and (required "timed_out" .bool) rfl).object,
    fun (response, timedOut) => wait response timedOut⟩

def subscriptionVariant : Variant WireResult :=
  ⟨"subscription", _,
    required "value"
      ((required "execution" DisplayedExecution.codec).and (required "next_seq" u64) rfl).object,
    fun (record, nextSeq) => subscription record nextSeq⟩

def variants : List (Variant WireResult) := [
  emptyVariant, healthVariant, workspaceVariant, workspacesVariant, executionVariant,
  executionsVariant, statsVariant, agentSessionVariant, agentSessionsVariant,
  agentSessionDetailVariant, agentTurnVariant, outputVariant, waitVariant, subscriptionVariant]

def chosen : WireResult → Chosen WireResult
  | empty => ⟨emptyVariant, ()⟩
  | health value => ⟨healthVariant, value⟩
  | workspace value => ⟨workspaceVariant, value⟩
  | workspaces values => ⟨workspacesVariant, values⟩
  | execution value => ⟨executionVariant, value⟩
  | executions values => ⟨executionsVariant, values⟩
  | stats value => ⟨statsVariant, value⟩
  | agentSession value => ⟨agentSessionVariant, value⟩
  | agentSessions values => ⟨agentSessionsVariant, values⟩
  | agentSessionDetail value => ⟨agentSessionDetailVariant, value⟩
  | agentTurn value => ⟨agentTurnVariant, value⟩
  | output response => ⟨outputVariant, response⟩
  | wait response timedOut => ⟨waitVariant, response, timedOut⟩
  | subscription record nextSeq => ⟨subscriptionVariant, record, nextSeq⟩

theorem chosen_variant (result : WireResult) : result.chosen.variant ∈ variants := by
  cases result <;> simp [chosen, variants]

theorem chosen_value (result : WireResult) : result.chosen.value = result := by
  cases result <;> rfl

theorem chosen_make : ∀ variant ∈ variants, ∀ payload,
    (variant.make payload).chosen = ⟨variant, payload⟩ := by
  intro variant member
  fin_cases member <;> exact fun _ => rfl

/-- The content of a result is in a field beside its tag. -/
def fields : FieldCodec WireResult :=
  .union "type" variants chosen rfl chosen_variant chosen_value chosen_make

end WireResult

def ProtocolError.fields : FieldCodec ProtocolError :=
  ((required "code" .string).and (required "message" .string) rfl).map
    (fun (code, message) => { code, message })
    (fun e => (e.code, e.message))
    (fun _ => rfl) fun _ => rfl

namespace ResponseBody

def okVariant : Variant ResponseBody :=
  ⟨"ok", _, required "result" WireResult.fields.object, ok⟩

def errorVariant : Variant ResponseBody :=
  ⟨"error", _, required "error" ProtocolError.fields.object, error⟩

def chosen : ResponseBody → Chosen ResponseBody
  | ok result => ⟨okVariant, result⟩
  | error e => ⟨errorVariant, e⟩

theorem chosen_variant (body : ResponseBody) : body.chosen.variant ∈ [okVariant, errorVariant] := by
  cases body <;> simp [chosen]

theorem chosen_value (body : ResponseBody) : body.chosen.value = body := by
  cases body <;> rfl

theorem chosen_make : ∀ variant ∈ [okVariant, errorVariant], ∀ payload,
    (variant.make payload).chosen = ⟨variant, payload⟩ := by
  intro variant member
  fin_cases member <;> exact fun _ => rfl

def fields : FieldCodec ResponseBody :=
  .union "status" [okVariant, errorVariant] chosen rfl chosen_variant chosen_value chosen_make

end ResponseBody

/-! ## Messages -/

namespace Wire

def requestVariant : Variant Wire :=
  ⟨"request", _,
    (required "version" u32).and ((required "request_id" .string).and WireOperation.fields rfl) rfl,
    fun (version, requestId, operation) => request version requestId operation⟩

def responseVariant : Variant Wire :=
  ⟨"response", _,
    (required "version" u32).and ((required "request_id" .string).and ResponseBody.fields rfl) rfl,
    fun (version, requestId, body) => response version requestId body⟩

def eventVariant : Variant Wire :=
  ⟨"event", _,
    (required "version" u32).and ((required "subscription_id" .string).and
      (required "event" SentEvent.fields.object) rfl) rfl,
    fun (version, subscriptionId, sent) => event version subscriptionId sent⟩

def chosen : Wire → Chosen Wire
  | request version requestId operation => ⟨requestVariant, version, requestId, operation⟩
  | response version requestId body => ⟨responseVariant, version, requestId, body⟩
  | event version subscriptionId sent => ⟨eventVariant, version, subscriptionId, sent⟩

theorem chosen_variant (message : Wire) :
    message.chosen.variant ∈ [requestVariant, responseVariant, eventVariant] := by
  cases message <;> simp [chosen]

theorem chosen_value (message : Wire) : message.chosen.value = message := by
  cases message <;> rfl

theorem chosen_make : ∀ variant ∈ [requestVariant, responseVariant, eventVariant], ∀ payload,
    (variant.make payload).chosen = ⟨variant, payload⟩ := by
  intro variant member
  fin_cases member <;> exact fun _ => rfl

def codec : Codec Wire :=
  (FieldCodec.union "kind" [requestVariant, responseVariant, eventVariant] chosen rfl
    chosen_variant chosen_value chosen_make).object

end Wire

end Loomterm
