import Loomterm.Mcp.Paging

/-!
# A client of the tools

One client that gets the output of an execution with `loom_run`, `loom_wait` and
`loom_read`, each call from where the last one ended, while other commands run. A waiting
call reads the log when it arrives and, if that returned nothing, once more when it is
notified or runs out of time.
-/

namespace Loomterm

open Database

/-- The test of `ExecutionEngine::wait` on its first read (`src/executor.rs:471`). -/
def returnsAtOnce (page : ReadOutputResponse) : Bool :=
  page.execution.state.isTerminal || !page.events.isEmpty

/-- The variables of the loop of `LoomMcpServer::run` (`src/mcp.rs:240`). -/
structure RunLoop where
  current : Execution
  events : List ToolEvent := []
  cursor : Nat := 0
  remaining : Nat
  hasMore : Bool := false
  broken : Bool := false

namespace RunLoop

/-- The condition of the loop, apart from its deadline. -/
def goesOn (loop : RunLoop) : Bool :=
  !loop.current.state.isTerminal && decide (0 < loop.remaining) && !loop.broken

/-- The body of the loop behind the call to the daemon (`src/mcp.rs:257`). -/
def take (loop : RunLoop) (format : OutputFormat) (page : ReadOutputResponse) (timedOut : Bool) :
    RunLoop :=
  let converted := convertEvents format loop.remaining loop.cursor page.events
  { current := page.execution
    events := loop.events ++ converted.events
    cursor := converted.cursor
    remaining := converted.remaining
    hasMore := page.hasMore || converted.more || decide (converted.cursor < page.nextSeq)
    broken := timedOut || converted.more }

/-- What `LoomMcpServer::run` returns behind the loop. -/
def result (loop : RunLoop) : ToolOutputResponse where
  execution := loop.current
  events := loop.events
  nextSeq := loop.cursor
  hasMore := loop.hasMore || (!loop.current.state.isTerminal && decide (loop.remaining = 0))

end RunLoop

/-- What a client is doing. -/
inductive Doing where
  | idle
  | waiting (maxBytes : Option Nat)
  | running (loop : RunLoop)
  | polling (loop : RunLoop)

/-- A client: the cursor that it goes on from, and the events it was given. -/
structure ToolClient where
  db : Database
  cursor : Nat := 0
  received : List ToolEvent := []
  doing : Doing := .idle

/-- What a call meets when it reaches the daemon. -/
structure Weather where
  now : Int
  transport : Option Error := none
  conditions : Conditions := {}

/-- What happens to a client. A read and a wait check the execution at an earlier moment. -/
inductive ClientStep where
  | command (op : StoreOp) (faults : List (Option String))
  | read (maxBytes : Option Nat) (checked : Moment) (weather : Weather)
  | wait (maxBytes : Option Nat) (checked : Moment) (weather : Weather)
  | waited (weather : Weather) (timedOut : Bool)
  | poll (weather : Weather)
  | polled (weather : Weather) (timedOut : Bool)
  | returned

namespace ToolClient

def moment (client : ToolClient) (weather : Weather) : Moment :=
  ⟨weather.now, client.db, weather.transport, weather.conditions⟩

/-- The client goes on from a response. -/
def receive (client : ToolClient) (reply : ToolOutputResponse) : ToolClient :=
  { client with
    cursor := reply.nextSeq
    received := client.received ++ reply.events
    doing := .idle }

/-- `loom_read`; an error leaves the client where it was. -/
def read (client : ToolClient) (server : LoomMcpServer) (id : ExecutionId)
    (format : OutputFormat) (maxBytes : Option Nat) (checked : Moment) (weather : Weather) :
    ToolClient :=
  match server.read ⟨id, client.cursor, format, maxBytes⟩ checked (client.moment weather) with
  | .ok reply => client.receive reply
  | .error _ => client

/-- `loom_wait` up to its first read of the log (`src/mcp.rs:335`). -/
def wait (client : ToolClient) (server : LoomMcpServer) (id : ExecutionId)
    (format : OutputFormat) (maxBytes : Option Nat) (checked : Moment) (weather : Weather) :
    ToolClient :=
  let limit := normalizedMax maxBytes
  match server.allowedExecution id checked,
      (client.moment weather).call (daemonReadOutput id client.cursor limit) with
  | .ok _, .ok page =>
      if returnsAtOnce page then
        client.receive (respondWait format limit client.cursor page false).toToolOutputResponse
      else { client with doing := .waiting maxBytes }
  | _, _ => client

/-- The second read of a `loom_wait`. -/
def waited (client : ToolClient) (id : ExecutionId) (format : OutputFormat)
    (maxBytes : Option Nat) (weather : Weather) (timedOut : Bool) : ToolClient :=
  let limit := normalizedMax maxBytes
  match (client.moment weather).call (daemonReadOutput id client.cursor limit) with
  | .ok page =>
      client.receive (respondWait format limit client.cursor page timedOut).toToolOutputResponse
  | .error _ => { client with doing := .idle }

/-- A round of the loop of `loom_run` up to its first read of the log. An error ends the
call, and its events are lost with it. -/
def poll (client : ToolClient) (id : ExecutionId) (format : OutputFormat) (loop : RunLoop)
    (weather : Weather) : ToolClient :=
  match (client.moment weather).call (daemonReadOutput id loop.cursor loop.remaining) with
  | .ok page =>
      if returnsAtOnce page then { client with doing := .running (loop.take format page false) }
      else { client with doing := .polling loop }
  | .error _ => { client with doing := .idle }

/-- The second read of a round. -/
def polled (client : ToolClient) (id : ExecutionId) (format : OutputFormat) (loop : RunLoop)
    (weather : Weather) (timedOut : Bool) : ToolClient :=
  match (client.moment weather).call (daemonReadOutput id loop.cursor loop.remaining) with
  | .ok page => { client with doing := .running (loop.take format page timedOut) }
  | .error _ => { client with doing := .idle }

end ToolClient

/-- A client of one execution. It starts with the `loom_run` that created it, or without. -/
def toolClient (server : LoomMcpServer) (id : ExecutionId) (format : OutputFormat) :
    System ToolClient ClientStep where
  start client := client.db.Sound ∧ (client.db.executions.find? id).isSome = true ∧
    client.cursor = 0 ∧ client.received = [] ∧
    (client.doing = .idle ∨ ∃ current maxBytes,
      client.doing = .running { current, remaining := normalizedMax maxBytes })
  step client
    | .command op faults => some { client with db := (Store.run op.program faults client.db).2 }
    | .read maxBytes checked weather =>
        match client.doing with
        | .idle => some (client.read server id format maxBytes checked weather)
        | _ => none
    | .wait maxBytes checked weather =>
        match client.doing with
        | .idle => some (client.wait server id format maxBytes checked weather)
        | _ => none
    | .waited weather timedOut =>
        match client.doing with
        | .waiting maxBytes => some (client.waited id format maxBytes weather timedOut)
        | _ => none
    | .poll weather =>
        match client.doing with
        | .running loop =>
            if loop.goesOn then some (client.poll id format loop weather) else none
        | _ => none
    | .polled weather timedOut =>
        match client.doing with
        | .polling loop => some (client.polled id format loop weather timedOut)
        | _ => none
    | .returned =>
        match client.doing with
        | .running loop => some (client.receive loop.result)
        | _ => none

/-- The execution is still there after a command. -/
def ClientKeeps (id : ExecutionId) (client : ToolClient) : ClientStep → Prop
  | .command op faults =>
      ((Store.run op.program faults client.db).2.executions.find? id).isSome = true
  | _ => True

instance (id : ExecutionId) (client : ToolClient) (step : ClientStep) :
    Decidable (ClientKeeps id client step) := by
  unfold ClientKeeps
  split <;> infer_instance

/-! ## What a client has been given -/

/-- Events are those of the log up to a cursor. -/
structure UpTo (format : OutputFormat) (log : List ExecutionEvent) (cursor : Nat)
    (events : List ToolEvent) : Prop where
  within : cursor ≤ log.length
  events : events = (log.take cursor).map (convertEvent format)

/-- Events of a log are those of a longer one. -/
theorem UpTo.grow {format : OutputFormat} {log log' : List ExecutionEvent} {cursor : Nat}
    {events : List ToolEvent} (valid : UpTo format log cursor events) (grown : log <+: log') :
    UpTo format log' cursor events := by
  obtain ⟨within, same⟩ := valid
  have longer := grown.length_le
  obtain ⟨added, rfl⟩ := grown
  refine ⟨within.trans longer, ?_⟩
  rw [same, List.take_append_of_le_length within]

/-- A reply adds the events between two cursors. -/
theorem UpTo.reply {format : OutputFormat} {limit cursor lastSeq : Nat}
    {log : List ExecutionEvent} {events : List ToolEvent} {reply : ToolOutputResponse}
    (valid : UpTo format log cursor events)
    (spec : IsReply format limit cursor log lastSeq reply) :
    UpTo format log reply.nextSeq (events ++ reply.events) := by
  have within := valid.within
  have sizes := congrArg List.length spec.drop_eq
  have count := congrArg List.length spec.events
  have next := spec.nextSeq
  simp only [List.length_append, List.length_drop, List.length_map] at sizes count
  refine ⟨by omega, ?_⟩
  have taken := List.prefix_iff_eq_take.mp (IsReply.start limit cursor log)
  rw [← count] at taken
  rw [next, List.take_add, List.map_append, ← valid.events, ← taken, ← spec.events]

/-- What a client knows at any moment. -/
structure Served (id : ExecutionId) (format : OutputFormat) (client : ToolClient) : Prop where
  sound : client.db.Sound
  row : ∃ row, client.db.executions.find? id = some row
  received : UpTo format (client.db.log id) client.cursor client.received
  looping : ∀ loop, client.doing = .running loop ∨ client.doing = .polling loop →
    client.received = [] ∧ UpTo format (client.db.log id) loop.cursor loop.events ∧
      loop.remaining ≤ 1024 * 1024
  polling : ∀ loop, client.doing = .polling loop → 0 < loop.remaining

namespace Served

variable {id : ExecutionId} {format : OutputFormat} {client : ToolClient}

/-- A command that keeps the execution only adds to its log. -/
theorem command (valid : Served id format client) {op : StoreOp} {faults : List (Option String)}
    (kept : ClientKeeps id client (.command op faults)) :
    Served id format { client with db := (Store.run op.program faults client.db).2 } := by
  have touched := op.touched valid.sound.linked faults
  obtain ⟨row, found⟩ := valid.row
  obtain ⟨row', found'⟩ := Option.isSome_iff_exists.mp kept
  have grown := touched.grown (record_of_find? found) (record_of_find? found')
  obtain ⟨_, effect, _⟩ := touched
  refine ⟨effect.sound valid.sound, ⟨row', found'⟩, valid.received.grow grown, ?_, valid.polling⟩
  intro loop doing
  obtain ⟨nothing, upTo, small⟩ := valid.looping loop doing
  exact ⟨nothing, upTo.grow grown, small⟩

/-- A client that is not in a loop may stop waiting, or start to. -/
theorem rest (valid : Served id format client) {doing : Doing}
    (calm : doing = .idle ∨ ∃ maxBytes, doing = .waiting maxBytes) :
    Served id format { client with doing } := by
  refine ⟨valid.sound, valid.row, valid.received, ?_, ?_⟩
  · intro loop busy
    rcases calm with same | ⟨_, same⟩ <;> simp [same] at busy
  · intro loop busy
    rcases calm with same | ⟨_, same⟩ <;> simp [same] at busy

theorem receive (valid : Served id format client) {reply : ToolOutputResponse}
    (upTo : UpTo format (client.db.log id) reply.nextSeq (client.received ++ reply.events)) :
    Served id format (client.receive reply) := by
  refine ⟨valid.sound, valid.row, upTo, ?_, ?_⟩
  · intro loop busy
    simp [ToolClient.receive] at busy
  · intro loop busy
    simp [ToolClient.receive] at busy

/-- A response to a call behind the client's cursor. -/
theorem respond (valid : Served id format client) {maxBytes : Option Nat} {weather : Weather}
    {page : ReadOutputResponse}
    (called : (client.moment weather).call
      (daemonReadOutput id client.cursor (normalizedMax maxBytes)) = .ok page) :
    Served id format
      (client.receive (respond format (normalizedMax maxBytes) client.cursor page)) := by
  obtain ⟨row, found⟩ := valid.row
  have bounds := normalizedMax_bounds maxBytes
  obtain ⟨spec, _⟩ := Moment.reply_of_call (client.moment weather) (valid.sound.numbered found)
    valid.received.within bounds.1 bounds.2 called format
  exact valid.receive (valid.received.reply spec)

theorem read (valid : Served id format client) (server : LoomMcpServer) (maxBytes : Option Nat)
    (checked : Moment) (weather : Weather) :
    Served id format (client.read server id format maxBytes checked weather) := by
  unfold ToolClient.read LoomMcpServer.read
  cases server.allowedExecution id checked with
  | error e => exact valid
  | ok execution =>
    cases called : (client.moment weather).call
        (daemonReadOutput id client.cursor (normalizedMax maxBytes)) with
    | error e =>
      simp only [bind, Except.bind, called]
      exact valid
    | ok page =>
      simp only [bind, Except.bind, called, pure, Except.pure]
      exact valid.respond called

theorem wait (valid : Served id format client) (server : LoomMcpServer) (maxBytes : Option Nat)
    (checked : Moment) (weather : Weather) :
    Served id format (client.wait server id format maxBytes checked weather) := by
  unfold ToolClient.wait
  cases server.allowedExecution id checked with
  | error e => exact valid
  | ok execution =>
    cases called : (client.moment weather).call
        (daemonReadOutput id client.cursor (normalizedMax maxBytes)) with
    | error e =>
      simp only [called]
      exact valid
    | ok page =>
      simp only [called]
      split
      · exact valid.respond called
      · exact valid.rest (.inr ⟨maxBytes, rfl⟩)

theorem waited (valid : Served id format client) (maxBytes : Option Nat) (weather : Weather)
    (timedOut : Bool) : Served id format (client.waited id format maxBytes weather timedOut) := by
  unfold ToolClient.waited
  cases called : (client.moment weather).call
      (daemonReadOutput id client.cursor (normalizedMax maxBytes)) with
  | error e =>
    simp only [called]
    exact valid.rest (.inl rfl)
  | ok page =>
    simp only [called]
    exact valid.respond called

/-- A round of `loom_run` adds the page it got to the events of the call. -/
theorem take (valid : Served id format client) {loop : RunLoop}
    (busy : client.doing = .running loop ∨ client.doing = .polling loop)
    (positive : 0 < loop.remaining) {weather : Weather} {page : ReadOutputResponse}
    (called : (client.moment weather).call
      (daemonReadOutput id loop.cursor loop.remaining) = .ok page) (timedOut : Bool) :
    Served id format { client with doing := .running (loop.take format page timedOut) } := by
  obtain ⟨row, found⟩ := valid.row
  obtain ⟨nothing, upTo, small⟩ := valid.looping loop busy
  obtain ⟨spec, _⟩ := Moment.reply_of_call (client.moment weather) (valid.sound.numbered found)
    upTo.within positive small called format
  refine ⟨valid.sound, valid.row, valid.received, ?_, by simp⟩
  intro later same
  have same : later = loop.take format page timedOut := by simpa [eq_comm] using same
  subst same
  refine ⟨nothing, upTo.reply spec, ?_⟩
  show (convertEvents format loop.remaining loop.cursor page.events).remaining ≤ _
  rw [convertEvents_eq]
  exact (Nat.sub_le _ _).trans small

theorem poll (valid : Served id format client) {loop : RunLoop}
    (busy : client.doing = .running loop) (goesOn : loop.goesOn = true) (weather : Weather) :
    Served id format (client.poll id format loop weather) := by
  have positive : 0 < loop.remaining := by
    simp only [RunLoop.goesOn, Bool.and_eq_true, decide_eq_true_eq] at goesOn
    exact goesOn.1.2
  unfold ToolClient.poll
  cases called : (client.moment weather).call
      (daemonReadOutput id loop.cursor loop.remaining) with
  | error e =>
    simp only
    exact valid.rest (.inl rfl)
  | ok page =>
    simp only
    split
    · exact valid.take (.inl busy) positive called false
    · refine ⟨valid.sound, valid.row, valid.received, ?_, ?_⟩
      · intro later same
        have same : later = loop := by simpa [eq_comm] using same
        exact same ▸ valid.looping loop (.inl busy)
      · intro later same
        have same : loop = later := by simpa using same
        exact same ▸ positive

theorem polled (valid : Served id format client) {loop : RunLoop}
    (busy : client.doing = .polling loop) (weather : Weather) (timedOut : Bool) :
    Served id format (client.polled id format loop weather timedOut) := by
  unfold ToolClient.polled
  cases called : (client.moment weather).call
      (daemonReadOutput id loop.cursor loop.remaining) with
  | error e =>
    simp only
    exact valid.rest (.inl rfl)
  | ok page =>
    simp only
    exact valid.take (.inr busy) (valid.polling loop busy) called timedOut

end Served

/-- At any moment a client has been given the events up to its cursor, each once and in
order, whatever calls it made. -/
theorem toolClient_served {server : LoomMcpServer} {id : ExecutionId} {format : OutputFormat}
    {client : ToolClient}
    (reached : (toolClient server id format).ReachableVia (ClientKeeps id) client) :
    Served id format client := by
  refine reached.invariant (Served id format) ?_ ?_
  · intro client first
    obtain ⟨sound, present, cursor, received, doing⟩ := first
    refine ⟨sound, Option.isSome_iff_exists.mp present, ?_, ?_, ?_⟩
    · rw [cursor, received]
      exact ⟨Nat.zero_le _, by simp⟩
    · intro loop busy
      rcases doing with idle | ⟨current, maxBytes, same⟩
      · simp [idle] at busy
      · have same : loop = { current, remaining := normalizedMax maxBytes } := by
          simpa [same, eq_comm] using busy
        subst same
        exact ⟨received, ⟨Nat.zero_le _, by simp⟩, (normalizedMax_bounds maxBytes).2⟩
    · intro loop busy
      rcases doing with idle | ⟨current, maxBytes, same⟩
      · simp [idle] at busy
      · simp [same] at busy
  · intro client step client' _ valid kept enabled
    cases step with
    | command op faults =>
      rw [← Option.some.inj enabled]
      exact valid.command kept
    | read maxBytes checked weather =>
      cases doing : client.doing <;> simp [toolClient, doing] at enabled
      rw [← enabled]
      exact valid.read server maxBytes checked weather
    | wait maxBytes checked weather =>
      cases doing : client.doing <;> simp [toolClient, doing] at enabled
      rw [← enabled]
      exact valid.wait server maxBytes checked weather
    | waited weather timedOut =>
      cases doing : client.doing <;> simp [toolClient, doing] at enabled
      rw [← enabled]
      exact valid.waited _ weather timedOut
    | poll weather =>
      cases doing : client.doing <;> simp [toolClient, doing] at enabled
      obtain ⟨goesOn, same⟩ := enabled
      rw [← same]
      exact valid.poll doing goesOn weather
    | polled weather timedOut =>
      cases doing : client.doing <;> simp [toolClient, doing] at enabled
      rw [← enabled]
      exact valid.polled doing weather timedOut
    | returned =>
      cases doing : client.doing <;> simp [toolClient, doing] at enabled
      rename_i loop
      obtain ⟨nothing, upTo, _⟩ := valid.looping loop (.inl doing)
      rw [← enabled]
      apply valid.receive
      rw [nothing]
      exact upTo

end Loomterm
