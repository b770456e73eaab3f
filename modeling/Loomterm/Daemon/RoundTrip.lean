import Loomterm.Daemon.Wire
import Loomterm.Misc.Base64

/-!
# Reading what was written

`wire_round_trip` says which messages are read as they were written, and `daemon_messages_read`
that a client reads those of the daemon, down to the bytes of the events.
-/

namespace Loomterm

open Json

/-! ## The numbers of a message -/

/-- The numbers are in the range of their types, and the environment is in order. -/
def SentRequest.InRange (request : SentRequest) : Prop :=
  SortedKeys request.env ∧ ∀ limit, request.captureLimitBytes = some limit → limit < 2 ^ 64

def AgentSessionRequest.InRange (request : AgentSessionRequest) : Prop :=
  request.recorderPid < 2 ^ 32 ∧ request.initialCols < 2 ^ 16 ∧ request.initialRows < 2 ^ 16

def AgentSessionFinish.InRange (finish : AgentSessionFinish) : Prop :=
  finish.outcome.InRange ∧ finish.capturedBytes < 2 ^ 64

def WireOperation.InRange : WireOperation → Prop
  | .execute request => request.InRange
  | .list _ limit | .sessionList _ limit => limit < 2 ^ 32
  | .stats _ sinceMs => -2 ^ 63 ≤ sinceMs ∧ sinceMs < 2 ^ 63
  | .sessionCreate request => request.InRange
  | .sessionFinish _ finish => finish.InRange
  | .readOutput _ afterSeq maxBytes => afterSeq < 2 ^ 64 ∧ maxBytes < 2 ^ 64
  | .wait _ afterSeq timeoutMs maxBytes =>
      afterSeq < 2 ^ 64 ∧ timeoutMs < 2 ^ 64 ∧ maxBytes < 2 ^ 64
  | .subscribe _ afterSeq => afterSeq < 2 ^ 64
  | _ => True

def Health.InRange (health : Health) : Prop :=
  health.protocolVersion < 2 ^ 32 ∧ health.daemonPid < 2 ^ 32 ∧
    (∀ n, health.activeExecutions = some n → n < 2 ^ 64) ∧
    ∀ n, health.activeSessions = some n → n < 2 ^ 64

def Workspace.InRange (workspace : Workspace) : Prop :=
  -2 ^ 63 ≤ workspace.createdAtMs ∧ workspace.createdAtMs < 2 ^ 63

def ExecutionStatusCounts.InRange (counts : ExecutionStatusCounts) : Prop :=
  counts.queued < 2 ^ 64 ∧ counts.running < 2 ^ 64 ∧ counts.exitedZero < 2 ^ 64 ∧
    counts.exitedNonzero < 2 ^ 64 ∧ counts.signaled < 2 ^ 64 ∧ counts.spawnError < 2 ^ 64 ∧
    counts.cancelled < 2 ^ 64 ∧ counts.interrupted < 2 ^ 64 ∧ counts.unknownTerminal < 2 ^ 64

def ExecutionStats.InRange (stats : ExecutionStats) : Prop :=
  stats.workspace.InRange ∧ (-2 ^ 63 ≤ stats.sinceMs ∧ stats.sinceMs < 2 ^ 63) ∧
    (-2 ^ 63 ≤ stats.untilMs ∧ stats.untilMs < 2 ^ 63) ∧ stats.total < 2 ^ 64 ∧
    stats.status.InRange ∧ (∀ counted ∈ stats.byInitiator, counted.count < 2 ^ 64) ∧
    stats.capturedBytes < 2 ^ 64 ∧ stats.truncatedExecutions < 2 ^ 64 ∧
    stats.durationSamples < 2 ^ 64 ∧ (∀ n, stats.durationP50Ms = some n → n < 2 ^ 64) ∧
    ∀ n, stats.durationP95Ms = some n → n < 2 ^ 64

def SentPayload.InRange : SentPayload → Prop
  | .started pid pgid => pid < 2 ^ 32 ∧ -2 ^ 31 ≤ pgid ∧ pgid < 2 ^ 31
  | .captureTruncated limitBytes => limitBytes < 2 ^ 64
  | .finished outcome => outcome.InRange
  | .output _ _ => True

def SentEvent.InRange (event : SentEvent) : Prop :=
  event.seq < 2 ^ 64 ∧ (-2 ^ 63 ≤ event.timestampMs ∧ event.timestampMs < 2 ^ 63) ∧
    event.payload.InRange

def SentOutput.InRange (response : SentOutput) : Prop :=
  response.execution.InRange ∧ (∀ event ∈ response.events, event.InRange) ∧
    response.nextSeq < 2 ^ 64

def WireResult.InRange : WireResult → Prop
  | .health value => value.InRange
  | .workspace value => value.InRange
  | .workspaces values => ∀ value ∈ values, value.InRange
  | .execution record => record.InRange
  | .executions records => ∀ record ∈ records, record.InRange
  | .stats value => value.InRange
  | .agentSession session => session.InRange
  | .agentSessions sessions => ∀ session ∈ sessions, session.InRange
  | .agentSessionDetail detail => detail.InRange
  | .agentTurn turn => turn.InRange
  | .output response | .wait response _ => response.InRange
  | .subscription record nextSeq => record.InRange ∧ nextSeq < 2 ^ 64
  | .empty => True

def Wire.InRange : Wire → Prop
  | .request version _ operation => version < 2 ^ 32 ∧ operation.InRange
  | .response version _ (.ok result) => version < 2 ^ 32 ∧ result.InRange
  | .response version _ (.error _) => version < 2 ^ 32
  | .event version _ sent => version < 2 ^ 32 ∧ sent.InRange

theorem SentRequest.valid_iff (request : SentRequest) :
    SentRequest.fields.valid request ↔ request.InRange := by
  constructor
  · rintro ⟨-, -, -, ordered, -, -, limit⟩
    exact ⟨ordered, limit⟩
  · rintro ⟨ordered, limit⟩
    exact ⟨trivial, fun _ _ => trivial, trivial, ordered, fun _ _ => trivial, trivial, limit⟩

theorem AgentSessionRequest.valid_iff (request : AgentSessionRequest) :
    AgentSessionRequest.fields.valid request ↔ request.InRange := by
  constructor
  · rintro ⟨-, -, -, -, -, -, pid, cols, rows, -, -⟩
    exact ⟨pid, cols, rows⟩
  · rintro ⟨pid, cols, rows⟩
    exact ⟨trivial, trivial, trivial, fun _ _ => trivial, trivial, trivial, pid, cols, rows,
      trivial, trivial⟩

theorem AgentSessionFinish.valid_iff (finish : AgentSessionFinish) :
    AgentSessionFinish.fields.valid finish ↔ finish.InRange := by
  constructor
  · rintro ⟨-, outcome, captured, -⟩
    exact ⟨outcome, captured⟩
  · rintro ⟨outcome, captured⟩
    exact ⟨trivial, outcome, captured, trivial⟩

theorem AgentEvent.all_valid (event : AgentEvent) : AgentEvent.fields.valid event := by
  cases event with
  | promptSubmitted prompt => exact trivial
  | toolStarted actionId toolName => exact ⟨trivial, trivial⟩
  | toolFinished actionId toolName failed executionId =>
    exact ⟨trivial, trivial, trivial, fun _ _ => trivial⟩
  | turnFinished failed lastAssistantMessage => exact ⟨trivial, fun _ _ => trivial⟩

theorem AgentEventRequest.all_valid (request : AgentEventRequest) :
    AgentEventRequest.fields.valid request :=
  ⟨trivial, trivial, trivial, fun _ _ => trivial, request.event.all_valid⟩

theorem WireOperation.valid_iff (operation : WireOperation) :
    WireOperation.fields.valid operation ↔ operation.InRange := by
  cases operation with
  | execute request => exact request.valid_iff
  | list workspace limit | sessionList workspace limit => exact and_iff_right fun _ _ => trivial
  | stats workspace sinceMs => exact and_iff_right trivial
  | sessionCreate request => exact request.valid_iff
  | sessionFinish sessionId finish => exact (and_iff_right trivial).trans finish.valid_iff
  | agentEvent request => exact iff_of_true request.all_valid trivial
  | readOutput executionId afterSeq maxBytes => exact and_iff_right trivial
  | wait executionId afterSeq timeoutMs maxBytes => exact and_iff_right trivial
  | subscribe executionId afterSeq => exact and_iff_right trivial
  | workspaceAdd name root => exact and_iff_right trivial
  | workspaceRemove workspace => exact Iff.rfl
  | get executionId | cancel executionId => exact Iff.rfl
  | sessionGet sessionId | sessionDelete sessionId => exact Iff.rfl
  | shutdown force => exact Iff.rfl
  | health | workspaceList => exact Iff.rfl

theorem Health.valid_iff (health : Health) : Health.fields.valid health ↔ health.InRange := by
  constructor
  · rintro ⟨version, pid, -, -, -, -, executions, sessions⟩
    exact ⟨version, pid, executions, sessions⟩
  · rintro ⟨version, pid, executions, sessions⟩
    exact ⟨version, pid, trivial, trivial, fun _ _ => trivial, fun _ _ => trivial, executions,
      sessions⟩

theorem Workspace.valid_iff (workspace : Workspace) :
    Workspace.fields.valid workspace ↔ workspace.InRange := by
  constructor
  · rintro ⟨-, -, -, created⟩
    exact created
  · intro created
    exact ⟨trivial, trivial, trivial, created⟩

theorem ExecutionStats.valid_iff (stats : ExecutionStats) :
    ExecutionStats.fields.valid stats ↔ stats.InRange := by
  have counted : (∀ entry ∈ stats.byInitiator, InitiatorStats.fields.valid entry) ↔
      ∀ entry ∈ stats.byInitiator, entry.count < 2 ^ 64 :=
    forall₂_congr fun _ _ => and_iff_right trivial
  constructor
  · rintro ⟨workspace, since, till, total, status, initiators, rest⟩
    exact ⟨stats.workspace.valid_iff.mp workspace, since, till, total, status,
      counted.mp initiators, rest⟩
  · rintro ⟨workspace, since, till, total, status, initiators, rest⟩
    exact ⟨stats.workspace.valid_iff.mpr workspace, since, till, total, status,
      counted.mpr initiators, rest⟩

theorem SentPayload.valid_iff (payload : SentPayload) :
    SentPayload.fields.valid payload ↔ payload.InRange := by
  cases payload with
  | started pid pgid => exact Iff.rfl
  | output stream dataBase64 => exact and_iff_right trivial
  | captureTruncated limitBytes => exact Iff.rfl
  | finished outcome => exact Iff.rfl

theorem SentEvent.valid_iff (event : SentEvent) :
    SentEvent.fields.valid event ↔ event.InRange :=
  (and_iff_right trivial).trans
    (and_congr_right' (and_congr_right' event.payload.valid_iff))

theorem SentOutput.valid_iff (response : SentOutput) :
    SentOutput.fields.valid response ↔ response.InRange := by
  have events : (∀ event ∈ response.events, SentEvent.fields.valid event) ↔
      ∀ event ∈ response.events, event.InRange :=
    forall₂_congr fun event _ => event.valid_iff
  constructor
  · rintro ⟨execution, valid, next, -⟩
    exact ⟨execution, events.mp valid, next⟩
  · rintro ⟨execution, range, next⟩
    exact ⟨execution, events.mpr range, next, trivial⟩

theorem WireResult.valid_iff (result : WireResult) :
    WireResult.fields.valid result ↔ result.InRange := by
  cases result with
  | health value => exact value.valid_iff
  | workspace value => exact value.valid_iff
  | workspaces values => exact forall₂_congr fun value _ => value.valid_iff
  | stats value => exact value.valid_iff
  | output response => exact response.valid_iff
  | wait response timedOut => exact (and_iff_left trivial).trans response.valid_iff
  | subscription record nextSeq => exact Iff.rfl
  | executions values => exact Iff.rfl
  | agentSessions values => exact Iff.rfl
  | empty => exact Iff.rfl
  | execution value => exact Iff.rfl
  | agentSession value => exact Iff.rfl
  | agentSessionDetail value => exact Iff.rfl
  | agentTurn value => exact Iff.rfl

theorem Wire.valid_iff (message : Wire) : Wire.codec.valid message ↔ message.InRange := by
  cases message with
  | request version requestId operation =>
    exact and_congr_right' ((and_iff_right trivial).trans operation.valid_iff)
  | response version requestId body =>
    cases body with
    | ok result => exact and_congr_right' ((and_iff_right trivial).trans result.valid_iff)
    | error e => exact and_iff_left ⟨trivial, trivial, trivial⟩
  | event version subscriptionId sent =>
    exact and_congr_right' ((and_iff_right trivial).trans sent.valid_iff)

/-- A message is read as it was written exactly if its numbers are in the range of their types,
and nothing else is read. -/
theorem wire_round_trip (message : Wire) :
    (Wire.codec.decode (Wire.codec.encode message) = some message ↔ message.InRange) ∧
      ∀ value, Wire.codec.decode value = some message → message.InRange := by
  rw [← Wire.valid_iff]
  have accepted (value : Json) := Wire.codec.accepted value message
  exact ⟨⟨accepted _, Wire.codec.read_back message⟩, accepted⟩

/-! ## The messages of the daemon -/

def ExecutionEventPayload.sent : ExecutionEventPayload → SentPayload
  | .started pid pgid => .started pid pgid
  | .output stream data => .output stream (Base64.encode data)
  | .captureTruncated limitBytes => .captureTruncated limitBytes
  | .finished outcome => .finished outcome

def ExecutionEvent.sent (event : ExecutionEvent) : SentEvent :=
  { event with payload := event.payload.sent }

def ReadOutputResponse.sent (response : ReadOutputResponse) : SentOutput :=
  { response with
    execution := response.execution.displayed
    events := response.events.map ExecutionEvent.sent }

def ProtocolResult.sent : ProtocolResult → WireResult
  | .execution record => .execution record.displayed
  | .executions records => .executions (records.map Execution.displayed)
  | .agentSessions rows => .agentSessions (rows.map agentSessionFromRow)
  | .agentSessionDetail detail => .agentSessionDetail detail.displayed
  | .output response => .output response.sent
  | .wait response => .wait response.sent response.timedOut
  | .subscription record nextSeq => .subscription record.displayed nextSeq

/-- `From<&Error> for ProtocolError` (`src/protocol.rs:213`). -/
def ProtocolError.ofError (e : Error) : ProtocolError := ⟨e.code, e.toString⟩

/-- What the daemon writes: no requests. -/
def WireMessage.sent : WireMessage → Option Wire
  | .request _ _ _ => none
  | .ok requestId result => some (.response protocolVersion requestId (.ok result.sent))
  | .error requestId e => some (.response protocolVersion requestId (.error (.ofError e)))
  | .event subscriptionId received =>
      some (.event protocolVersion subscriptionId received.sent)

/-- What the client makes of a payload. -/
def SentPayload.received : SentPayload → Option ExecutionEventPayload
  | .started pid pgid => some (.started pid pgid)
  | .output stream dataBase64 => (Base64.decode dataBase64).map (.output stream)
  | .captureTruncated limitBytes => some (.captureTruncated limitBytes)
  | .finished outcome => some (.finished outcome)

def SentEvent.received (event : SentEvent) : Option ExecutionEvent :=
  event.payload.received.map fun payload => { event with payload := payload }

/-- The events in a message, with their bytes. -/
def Wire.events : Wire → Option (List ExecutionEvent)
  | .response _ _ (.ok (.output page)) | .response _ _ (.ok (.wait page _)) =>
      page.events.mapM SentEvent.received
  | .event _ _ sent => sent.received.map fun received => [received]
  | _ => some []

def WireMessage.events : WireMessage → List ExecutionEvent
  | .ok _ (.output page) => page.events
  | .ok _ (.wait page) => page.events
  | .event _ received => [received]
  | _ => []

theorem encode_event (event : ExecutionEvent) :
    SentEvent.fields.object.encode event.sent = event.toJson := by
  obtain ⟨executionId, seq, timestampMs, payload⟩ := event
  cases payload <;> rfl

theorem encode_output (response : ReadOutputResponse) :
    SentOutput.fields.encode response.sent = response.fields := by
  have events : (response.events.map ExecutionEvent.sent).map SentEvent.fields.object.encode =
      response.events.map ExecutionEvent.toJson := by
    rw [List.map_map]
    exact List.map_congr_left fun event _ => encode_event event
  show [("execution", response.execution.displayed.toJson),
    ("events", .array ((response.events.map ExecutionEvent.sent).map
      SentEvent.fields.object.encode)),
    ("next_seq", natural response.nextSeq), ("has_more", .bool response.hasMore)] = _
  rw [events]
  rfl

theorem encode_result (result : ProtocolResult) :
    WireResult.fields.encode result.sent =
      [("type", .string result.type), ("value", result.value)] := by
  cases result with
  | execution record => rfl
  | executions records =>
    show [("type", Json.string "executions"), ("value",
      .array ((records.map Execution.displayed).map DisplayedExecution.codec.encode))] = _
    rw [List.map_map]
    rfl
  | agentSessions rows =>
    show [("type", Json.string "agent_sessions"), ("value",
      .array ((rows.map agentSessionFromRow).map AgentSession.codec.encode))] = _
    rw [List.map_map]
    rfl
  | agentSessionDetail detail => rfl
  | output response =>
    show [("type", Json.string "output"), ("value",
      .object (SentOutput.fields.encode response.sent))] = _
    rw [encode_output]
    rfl
  | wait response =>
    show [("type", Json.string "wait"), ("value",
      .object (SentOutput.fields.encode response.sent ++
        [("timed_out", .bool response.timedOut)]))] = _
    rw [encode_output]
    rfl
  | subscription record nextSeq => rfl

/-- The two accounts of what is written agree. -/
theorem encode_sent {message : WireMessage} {wire : Wire} (sent : message.sent = some wire) :
    Wire.codec.encode wire = message.toJson := by
  cases message with
  | request requestId operation fields => cases sent
  | ok requestId result =>
    cases sent
    show Json.object [("kind", .string "response"), ("version", natural protocolVersion),
      ("request_id", .string requestId), ("status", .string "ok"),
      ("result", .object (WireResult.fields.encode result.sent))] = _
    rw [encode_result]
    rfl
  | error requestId e =>
    cases sent
    rfl
  | event subscriptionId received =>
    cases sent
    show Json.object [("kind", .string "event"), ("version", natural protocolVersion),
      ("subscription_id", .string subscriptionId),
      ("event", SentEvent.fields.object.encode received.sent)] = _
    rw [encode_event]
    rfl

theorem received_sent (event : ExecutionEvent) : event.sent.received = some event := by
  have payload : event.payload.sent.received = some event.payload := by
    cases event.payload with
    | output stream data =>
      show (Base64.decode (Base64.encode data)).map _ = _
      rw [Base64.decode_encode]
      rfl
    | _ => rfl
  show event.payload.sent.received.map _ = _
  rw [payload]
  rfl

theorem received_events (events : List ExecutionEvent) :
    (events.map ExecutionEvent.sent).mapM SentEvent.received = some events := by
  induction events with
  | nil => rfl
  | cons event rest ih =>
    rw [List.map_cons, List.mapM_cons, received_sent, ih]
    rfl

theorem events_sent {message : WireMessage} {wire : Wire} (sent : message.sent = some wire) :
    wire.events = some message.events := by
  cases message with
  | request requestId operation fields => cases sent
  | ok requestId result =>
    cases sent
    cases result with
    | output response => exact received_events response.events
    | wait response => exact received_events response.events
    | _ => rfl
  | error requestId e =>
    cases sent
    rfl
  | event subscriptionId received =>
    cases sent
    show received.sent.received.map _ = _
    rw [received_sent]
    rfl

/-- What the daemon writes is read by its clients as the message that it is exactly if its integers
are in the range of their types, and the bytes of its events are those that were captured. -/
theorem daemon_messages_read {message : WireMessage} {wire : Wire}
    (sent : message.sent = some wire) :
    (Wire.codec.decode message.toJson = some wire ↔ wire.InRange) ∧
      wire.events = some message.events := by
  rw [← encode_sent sent, ← Wire.valid_iff]
  exact ⟨⟨Wire.codec.accepted _ wire, Wire.codec.read_back wire⟩, events_sent sent⟩

def outputEvent : ExecutionEvent := ⟨"e", 2, 5, .output .stdout [104, 105]⟩

theorem encode_hi : Base64.encode [104, 105] = "aGk=" := by decide

theorem sent_output : (WireMessage.event "s" outputEvent).sent =
    some (.event 2 "s" ⟨"e", 2, 5, .output .stdout "aGk="⟩) := by
  rw [← encode_hi]
  rfl

theorem daemon_messages_read_output :
    Wire.codec.decode (WireMessage.event "s" outputEvent).toJson =
        some (.event 2 "s" ⟨"e", 2, 5, .output .stdout "aGk="⟩) ∧
      (Wire.event 2 "s" ⟨"e", 2, 5, .output .stdout "aGk="⟩).events = some [outputEvent] := by
  have range : (Wire.event 2 "s" ⟨"e", 2, 5, .output .stdout "aGk="⟩).InRange :=
    ⟨by decide, by decide, by decide, trivial⟩
  obtain ⟨read, events⟩ := daemon_messages_read sent_output
  exact ⟨read.mpr range, events⟩

end Loomterm
