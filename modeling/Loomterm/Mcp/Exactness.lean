import Loomterm.Mcp.Client

/-!
# Exact pages

One call of `loom_run`, `loom_read` or `loom_wait`, from its arrival to its response, with
other commands before and between its reads of the log. Whatever ends the loop of `loom_run`,
the response has the events of the log between two cursors.
-/

namespace Loomterm

open Database

/-- The tools that return events. -/
inductive EventTool where
  | run
  | read
  | wait
  deriving DecidableEq, Repr

/-- The input of a call, as far as its response depends on it. `loom_run` has no `after_seq`,
and `executionId` is the one that its execution gets. -/
structure EventInput where
  tool : EventTool
  executionId : ExecutionId
  afterSeq : Nat := 0
  outputFormat : OutputFormat := .text
  maxBytes : Option Nat := none

/-- How far a call has come; a response carries `timed_out` for `loom_wait`. -/
inductive CallPhase where
  | executing
  | running (loop : RunLoop)
  | polling (loop : RunLoop)
  | checking
  | asking
  | waiting
  | returned (reply : ToolOutputResponse) (timedOut : Option Bool)
  | failed

/-- A call of a tool, and the log as the daemon last read it for the call. -/
structure EventCall where
  db : Database
  seen : List ExecutionEvent := []
  phase : CallPhase

/-- What happens during a call. -/
inductive EventStep where
  | command (op : StoreOp) (faults : List (Option String))
  | executed (now : Int) (request : ExecutionRequest) (cwd : String) (weather : Weather)
  | checked (weather : Weather)
  | asked (weather : Weather)
  | answered (weather : Weather) (timedOut : Bool)
  | ended

namespace EventCall

variable (call : EventCall)

def moment (weather : Weather) : Moment :=
  ⟨weather.now, call.db, weather.transport, weather.conditions⟩

/-- The call goes on behind a read of the log of `id`, or fails. -/
def after (id : ExecutionId) (answer : Except String ReadOutputResponse)
    (next : ReadOutputResponse → CallPhase) : EventCall :=
  match answer with
  | .ok page => { call with seen := call.db.log id, phase := next page }
  | .error _ => { call with phase := .failed }

/-- The start of the loop of `loom_run`, behind what `create_execution` returned
(`src/mcp.rs:243`). The execution is there even where the response is lost. -/
def begin (input : EventInput) (result : Except Error Execution) (db : Database)
    (lost : Option Error) : EventCall :=
  match result, lost with
  | .ok current, none =>
      { call with
        db
        phase := .running { current, remaining := normalizedMax input.maxBytes } }
  | _, _ => { call with db, phase := .failed }

/-- `Operation::Execute` in a call of `loom_run` (`src/mcp.rs:225`). -/
def execute (server : LoomMcpServer) (input : EventInput) (now : Int)
    (request : ExecutionRequest) (cwd : String) (weather : Weather) : EventCall :=
  let answer := Store.request (createExecution now input.executionId
    { request with workspaceId := server.workspace.id } cwd) weather.conditions call.db
  call.begin input answer.1 answer.2 weather.transport

/-- `allowed_execution`, which `loom_read` and `loom_wait` begin with. -/
def check (server : LoomMcpServer) (input : EventInput) (weather : Weather) : EventCall :=
  match server.allowedExecution input.executionId (call.moment weather) with
  | .ok _ => { call with phase := .asking }
  | .error _ => { call with phase := .failed }

/-- What `loom_read` and `loom_wait` return of a page. -/
def respond (input : EventInput) (page : ReadOutputResponse) : ToolOutputResponse :=
  Loomterm.respond input.outputFormat (normalizedMax input.maxBytes) input.afterSeq page

/-- The first read of `loom_read` or `loom_wait`. -/
def ask (input : EventInput) (weather : Weather) : EventCall :=
  call.after input.executionId ((call.moment weather).call
      (daemonReadOutput input.executionId input.afterSeq (normalizedMax input.maxBytes)))
    fun page =>
      match input.tool with
      | .wait =>
          if returnsAtOnce page then .returned (respond input page) (some false) else .waiting
      | _ => .returned (respond input page) none

/-- The second read of `loom_wait`. -/
def answer (input : EventInput) (weather : Weather) (timedOut : Bool) : EventCall :=
  call.after input.executionId ((call.moment weather).call
      (daemonReadOutput input.executionId input.afterSeq (normalizedMax input.maxBytes)))
    fun page => .returned (respond input page) (some timedOut)

/-- The first read in a round of the loop of `loom_run`. -/
def poll (input : EventInput) (loop : RunLoop) (weather : Weather) : EventCall :=
  call.after input.executionId ((call.moment weather).call
      (daemonReadOutput input.executionId loop.cursor loop.remaining))
    fun page =>
      if returnsAtOnce page then .running (loop.take input.outputFormat page false)
      else .polling loop

/-- The second read in a round. -/
def polled (input : EventInput) (loop : RunLoop) (weather : Weather) (timedOut : Bool) :
    EventCall :=
  call.after input.executionId ((call.moment weather).call
      (daemonReadOutput input.executionId loop.cursor loop.remaining))
    fun page => .running (loop.take input.outputFormat page timedOut)

end EventCall

/-- A call of a tool. A cursor is at most the `last_seq` of its execution, and the loop of
`loom_run` may reach its deadline at any moment. -/
def eventCall (server : LoomMcpServer) (input : EventInput) : System EventCall EventStep where
  start call := call.db.Sound ∧ call.seen = [] ∧
    match input.tool with
    | .run => call.phase = .executing ∧ input.afterSeq = 0 ∧
        call.db.executions.find? input.executionId = none
    | _ => call.phase = .checking ∧ ∀ row, call.db.executions.find? input.executionId = some row →
        input.afterSeq ≤ row.lastSeq
  step call
    | .command op faults => some { call with db := (Store.run op.program faults call.db).2 }
    | .executed now request cwd weather =>
        match call.phase with
        | .executing => some (call.execute server input now request cwd weather)
        | _ => none
    | .checked weather =>
        match call.phase with
        | .checking => some (call.check server input weather)
        | _ => none
    | .asked weather =>
        match call.phase with
        | .asking => some (call.ask input weather)
        | .running loop => if loop.goesOn then some (call.poll input loop weather) else none
        | _ => none
    | .answered weather timedOut =>
        match call.phase with
        | .waiting => some (call.answer input weather timedOut)
        | .polling loop => some (call.polled input loop weather timedOut)
        | _ => none
    | .ended =>
        match call.phase with
        | .running loop => some { call with phase := .returned loop.result none }
        | _ => none

/-- No command creates an execution under an id that is not in the table: the id of an
execution is its own. -/
def OwnId (id : ExecutionId) (call : EventCall) : EventStep → Prop
  | .command op faults => call.db.executions.find? id = none →
      (Store.run op.program faults call.db).2.executions.find? id = none
  | _ => True

instance (id : ExecutionId) (call : EventCall) : (step : EventStep) → Decidable (OwnId id call step)
  | .command op faults => inferInstanceAs (Decidable (call.db.executions.find? id = none →
      (Store.run op.program faults call.db).2.executions.find? id = none))
  | .executed _ _ _ _ => inferInstanceAs (Decidable True)
  | .checked _ => inferInstanceAs (Decidable True)
  | .asked _ => inferInstanceAs (Decidable True)
  | .answered _ _ => inferInstanceAs (Decidable True)
  | .ended => inferInstanceAs (Decidable True)

/-! ## What a response says -/

/-- The output bytes of an event of a response, before their encoding. -/
def ToolEvent.rawBytes (event : ToolEvent) : Nat :=
  match event.payload with
  | .output _ rawBytes _ _ _ => rawBytes
  | _ => 0

/-- A response has the events of a log between two cursors, within the budget; and without
`has_more` a terminal execution has no event behind them. -/
structure Exact (input : EventInput) (log : List ExecutionEvent) (reply : ToolOutputResponse) :
    Prop where
  within : input.afterSeq ≤ reply.nextSeq ∧ reply.nextSeq ≤ log.length
  events : reply.events =
    (log.filter fun event => decide (input.afterSeq < event.seq ∧ event.seq ≤ reply.nextSeq)).map
      (convertEvent input.outputFormat)
  budget : (reply.events.map ToolEvent.rawBytes).sum ≤ normalizedMax input.maxBytes
  ending : reply.hasMore = false → reply.execution.state.isTerminal = true →
    reply.nextSeq = reply.execution.lastSeq

@[simp] theorem rawBytes_convertEvent (format : OutputFormat) (event : ExecutionEvent) :
    (convertEvent format event).rawBytes = event.bytes := by
  unfold ToolEvent.rawBytes convertEvent ExecutionEvent.bytes ExecutionEventPayload.bytes
  cases event.payload with
  | output stream data =>
    cases format with
    | text =>
      simp only
      cases Utf8.fromUtf8 data <;> rfl
    | base64 => rfl
  | _ => rfl

theorem rawBytes_map_convertEvent (format : OutputFormat) (events : List ExecutionEvent) :
    (events.map (convertEvent format)).map ToolEvent.rawBytes =
      events.map ExecutionEvent.bytes := by
  rw [List.map_map]
  exact List.map_congr_left fun event _ => rawBytes_convertEvent format event

/-- Events of a log between two cursors: with those before them, they are the events up to
the second. -/
structure Between (format : OutputFormat) (log : List ExecutionEvent) (afterSeq cursor : Nat)
    (events : List ToolEvent) : Prop where
  within : afterSeq ≤ log.length
  upTo : UpTo format log cursor ((log.take afterSeq).map (convertEvent format) ++ events)

namespace Between

variable {format : OutputFormat} {log log' : List ExecutionEvent} {afterSeq cursor : Nat}
  {events : List ToolEvent}

theorem nil (within : afterSeq ≤ log.length) : Between format log afterSeq afterSeq [] :=
  ⟨within, within, by rw [List.append_nil]⟩

theorem grow (valid : Between format log afterSeq cursor events) (grown : log <+: log') :
    Between format log' afterSeq cursor events := by
  have longer := grown.length_le
  have upTo := valid.upTo.grow grown
  obtain ⟨added, rfl⟩ := grown
  refine ⟨valid.within.trans longer, ?_⟩
  rw [List.take_append_of_le_length valid.within]
  exact upTo

theorem reply {limit lastSeq : Nat} {reply : ToolOutputResponse}
    (valid : Between format log afterSeq cursor events)
    (spec : IsReply format limit cursor log lastSeq reply) :
    Between format log afterSeq reply.nextSeq (events ++ reply.events) := by
  refine ⟨valid.within, ?_⟩
  rw [← List.append_assoc]
  exact valid.upTo.reply spec

theorem cursor_le (valid : Between format log afterSeq cursor events) :
    afterSeq ≤ cursor ∧ cursor ≤ log.length := by
  have within := valid.within
  have last := valid.upTo.within
  have lengths := congrArg List.length valid.upTo.events
  simp only [List.length_append, List.length_map, List.length_take] at lengths
  exact ⟨by omega, last⟩

theorem events_eq (valid : Between format log afterSeq cursor events) :
    events = ((log.take cursor).drop afterSeq).map (convertEvent format) := by
  have start : (log.take afterSeq).length = afterSeq := by
    rw [List.length_take]
    exact Nat.min_eq_left valid.within
  have dropped := congrArg (List.drop afterSeq) valid.upTo.events
  rw [List.drop_left' (by rw [List.length_map, start]), ← List.map_drop] at dropped
  exact dropped

/-- The events of a numbered log between two cursors are found by their numbers. -/
theorem filter_eq (valid : Between format log afterSeq cursor events) {count : Nat}
    (seqs : log.map ExecutionEvent.seq = List.range' 1 count) :
    events = (log.filter fun event =>
      decide (afterSeq < event.seq ∧ event.seq ≤ cursor)).map (convertEvent format) := by
  rw [filter_number_between seqs]
  exact valid.events_eq

end Between

variable {server : LoomMcpServer} {input : EventInput} {log log' : List ExecutionEvent}
  {loop : RunLoop} {count : Nat}

/-- What the loop of `loom_run` keeps: its events lie between two cursors, their bytes are
gone from the budget, and its flag is that of its last page. -/
structure Looping (input : EventInput) (log : List ExecutionEvent) (loop : RunLoop) : Prop where
  between : Between input.outputFormat log input.afterSeq loop.cursor loop.events
  budget : (loop.events.map ToolEvent.rawBytes).sum + loop.remaining =
    normalizedMax input.maxBytes
  ending : loop.hasMore = false → loop.current.state.isTerminal = true →
    loop.cursor = loop.current.lastSeq

namespace Looping

/-- A loop begins with an execution that has not ended, and with the whole budget. -/
theorem begin (first : input.afterSeq = 0) {current : Execution}
    (active : current.state.isTerminal = false) :
    Looping input log { current, remaining := normalizedMax input.maxBytes } := by
  refine ⟨?_, ?_, ?_⟩
  · rw [first]
    exact .nil (Nat.zero_le _)
  · rw [List.map_nil, List.sum_nil, Nat.zero_add]
  · intro _ ended
    simp only at ended
    rw [active] at ended
    cases ended

theorem grow (valid : Looping input log loop) (grown : log <+: log') : Looping input log' loop :=
  ⟨valid.between.grow grown, valid.budget, valid.ending⟩

theorem remaining_le (valid : Looping input log loop) : loop.remaining ≤ 1024 * 1024 := by
  have bounds := normalizedMax_bounds input.maxBytes
  have budget := valid.budget
  omega

/-- The result of a loop is exact, wherever the loop was left. -/
theorem exact (valid : Looping input log loop)
    (seqs : log.map ExecutionEvent.seq = List.range' 1 count) :
    Exact input log loop.result := by
  refine ⟨valid.between.cursor_le, valid.between.filter_eq seqs, ?_, ?_⟩
  · have budget := valid.budget
    show (loop.events.map ToolEvent.rawBytes).sum ≤ _
    omega
  · intro more ended
    simp only [RunLoop.result, Bool.or_eq_false_iff] at more ended
    exact valid.ending more.1 ended

end Looping

/-- A response made of a numbered log leaves no event behind a cursor without saying so. -/
theorem IsReply.ending {format : OutputFormat} {limit afterSeq lastSeq : Nat}
    {reply : ToolOutputResponse} (spec : IsReply format limit afterSeq log lastSeq reply)
    (length : log.length = lastSeq) (within : afterSeq ≤ lastSeq) (last : reply.hasMore = false) :
    reply.nextSeq = lastSeq := by
  have most := spec.nextSeq_le length
  have least : ¬ reply.nextSeq < lastSeq := by
    intro behind
    rw [spec.more.mpr behind] at last
    cases last
  omega

section

variable (moment : Moment) {row : ExecutionRow} {page : ReadOutputResponse}
  (numbered : moment.db.Numbered input.executionId row)

include numbered

/-- What `loom_read` and `loom_wait` make of a page is exact. -/
theorem EventCall.respond_exact (within : input.afterSeq ≤ row.lastSeq)
    (called : moment.call (daemonReadOutput input.executionId input.afterSeq
      (normalizedMax input.maxBytes)) = .ok page) :
    Exact input (moment.db.log input.executionId) (EventCall.respond input page) := by
  have bounds := normalizedMax_bounds input.maxBytes
  have length := numbered.length
  obtain ⟨spec, execution⟩ := Moment.reply_of_call moment numbered (by omega) (by omega) bounds.2 called
    input.outputFormat
  have nothing : Between input.outputFormat (moment.db.log input.executionId) input.afterSeq
      input.afterSeq [] := .nil (by omega)
  have between := nothing.reply spec
  rw [List.nil_append] at between
  refine ⟨between.cursor_le, between.filter_eq numbered.seqs, ?_, ?_⟩
  · show ((Loomterm.respond _ _ _ page).events.map ToolEvent.rawBytes).sum ≤ _
    rw [spec.events, rawBytes_map_convertEvent]
    exact fitting_sum _ _ _
  · intro last _
    show (Loomterm.respond _ _ _ page).nextSeq = page.execution.lastSeq
    rw [spec.ending length within last, execution]
    rfl

/-- A round of the loop goes on from where the last one ended. -/
theorem Looping.take (valid : Looping input (moment.db.log input.executionId) loop)
    (positive : 0 < loop.remaining)
    (called : moment.call (daemonReadOutput input.executionId loop.cursor loop.remaining) =
      .ok page) (timedOut : Bool) :
    Looping input (moment.db.log input.executionId)
      (loop.take input.outputFormat page timedOut) := by
  have length := numbered.length
  have within := valid.between.upTo.within
  obtain ⟨spec, execution⟩ := Moment.reply_of_call moment numbered within positive
    valid.remaining_le called input.outputFormat
  have spent : (loop.take input.outputFormat page timedOut).remaining =
      loop.remaining - (((Loomterm.respond input.outputFormat loop.remaining loop.cursor
        page).events.map ToolEvent.rawBytes).sum) := by
    simp only [RunLoop.take, Loomterm.respond, convertEvents_eq, rawBytes_map_convertEvent]
  have fits : ((Loomterm.respond input.outputFormat loop.remaining loop.cursor page).events.map
      ToolEvent.rawBytes).sum ≤ loop.remaining := by
    rw [spec.events, rawBytes_map_convertEvent]
    exact fitting_sum _ _ _
  refine ⟨valid.between.reply spec, ?_, ?_⟩
  · have budget := valid.budget
    rw [spent]
    show ((loop.events ++ (Loomterm.respond _ _ _ page).events).map ToolEvent.rawBytes).sum + _ = _
    rw [List.map_append, List.sum_append]
    omega
  · intro last _
    show (Loomterm.respond _ _ _ page).nextSeq = page.execution.lastSeq
    rw [spec.ending length (by omega) last, execution]
    rfl

end

/-! ## Whole calls -/

/-- What holds of the phase of a call, of the log that it has seen. -/
def CallPhase.Holds (input : EventInput) (db : Database) (seen : List ExecutionEvent) :
    CallPhase → Prop
  | .executing =>
      input.afterSeq = 0 ∧ seen = [] ∧ db.executions.find? input.executionId = none
  | .running loop => Looping input seen loop
  | .polling loop => Looping input seen loop ∧ 0 < loop.remaining
  | .returned reply _ => Exact input seen reply
  | _ => True

/-- What holds during a call. -/
structure Watched (input : EventInput) (call : EventCall) : Prop where
  sound : call.db.Sound
  seqs : call.seen.map ExecutionEvent.seq = List.range' 1 call.seen.length
  kept : ∀ row, call.db.executions.find? input.executionId = some row →
    call.seen <+: call.db.log input.executionId ∧ input.afterSeq ≤ row.lastSeq
  phase : call.phase.Holds input call.db call.seen

namespace Watched

variable {call : EventCall}

/-- A call that got nowhere. -/
theorem fail (valid : Watched input call) : Watched input { call with phase := .failed } :=
  ⟨valid.sound, valid.seqs, valid.kept, trivial⟩

theorem command (valid : Watched input call) {op : StoreOp} {faults : List (Option String)}
    (own : OwnId input.executionId call (.command op faults)) :
    Watched input { call with db := (Store.run op.program faults call.db).2 } := by
  have touched := op.touched valid.sound.linked faults
  obtain ⟨_, effect, _⟩ := op.touched valid.sound.linked faults
  have sound := effect.sound valid.sound
  refine ⟨sound, valid.seqs, ?_, ?_⟩
  · intro row' found'
    cases found : call.db.executions.find? input.executionId with
    | none =>
      have absent := own found
      rw [found'] at absent
      cases absent
    | some row =>
      obtain ⟨start, within⟩ := valid.kept row found
      have longer := touched.grown (record_of_find? found) (record_of_find? found')
      have before := (valid.sound.numbered found).length
      have after := (sound.numbered found').length
      have lengths := longer.length_le
      exact ⟨start.trans longer, by simp only at lengths; omega⟩
  · cases phase : call.phase with
    | executing =>
      have holds := valid.phase
      rw [phase] at holds
      exact ⟨holds.1, holds.2.1, own holds.2.2⟩
    | _ =>
      have holds := valid.phase
      rw [phase] at holds
      exact holds

/-- `create_execution` as a request to the store. -/
theorem created_of_request {db : Database} (linked : db.Linked) (now : Int) (id : ExecutionId)
    (request : ExecutionRequest) (cwd : String) (conditions : Conditions) :
    Created db now id request cwd
      (Store.request (createExecution now id request cwd) conditions db).1
      (Store.request (createExecution now id request cwd) conditions db).2 := by
  unfold Store.request
  cases conditions.unavailable with
  | some message => exact .inl rfl
  | none => exact run_of_post (post_createExecution linked) conditions.faults

/-- An execution begins with an empty log. -/
theorem begin (valid : Watched input call) (first : input.afterSeq = 0) (nothing : call.seen = [])
    {now : Int} {request : ExecutionRequest} {cwd : String} {result : Except Error Execution}
    {db : Database} (created : Created call.db now input.executionId request cwd result db)
    (lost : Option Error) : Watched input (call.begin input result db lost) := by
  have kept : ∀ row, db.executions.find? input.executionId = some row →
      call.seen <+: db.log input.executionId ∧ input.afterSeq ≤ row.lastSeq := by
    intro row _
    rw [nothing, first]
    exact ⟨List.nil_prefix, Nat.zero_le _⟩
  unfold EventCall.begin
  cases result with
  | error e =>
    have sound : db.Sound := by
      rcases created with rfl | ⟨_, effect⟩
      · exact valid.sound
      · exact effect.sound valid.sound
    exact ⟨sound, valid.seqs, kept, trivial⟩
  | ok current =>
    obtain ⟨effect, _, same⟩ := created
    have sound := effect.sound valid.sound
    cases lost with
    | some error => exact ⟨sound, valid.seqs, kept, trivial⟩
    | none =>
      refine ⟨sound, valid.seqs, kept, ?_⟩
      exact Looping.begin first (by rw [same]; rfl)

theorem execute (valid : Watched input call) (executing : call.phase = .executing) (now : Int)
    (request : ExecutionRequest) (cwd : String) (weather : Weather) :
    Watched input (call.execute server input now request cwd weather) := by
  have holds := valid.phase
  rw [executing] at holds
  obtain ⟨first, nothing, _⟩ := holds
  exact valid.begin first nothing (created_of_request valid.sound.linked _ _ _ _ _) _

/-- A read of the log is a later look at it. -/
theorem after (valid : Watched input call) {row : ExecutionRow}
    (found : call.db.executions.find? input.executionId = some row) {phase : CallPhase}
    (holds : phase.Holds input call.db (call.db.log input.executionId)) :
    Watched input { call with seen := call.db.log input.executionId, phase } := by
  have numbered := valid.sound.numbered found
  refine ⟨valid.sound, ?_, ?_, holds⟩
  · rw [numbered.length]
    exact numbered.seqs
  · intro row' found'
    exact ⟨List.prefix_rfl, (valid.kept row' found').2⟩

/-- What a read of the log makes of a call, when what the call goes on with holds. -/
theorem read (valid : Watched input call) {weather : Weather} {cursor limit : Nat}
    {next : ReadOutputResponse → CallPhase}
    (holds : ∀ row page, call.db.executions.find? input.executionId = some row →
      (call.moment weather).call (daemonReadOutput input.executionId cursor limit) = .ok page →
      (next page).Holds input call.db (call.db.log input.executionId)) :
    Watched input (call.after input.executionId
      ((call.moment weather).call (daemonReadOutput input.executionId cursor limit)) next) := by
  unfold EventCall.after
  cases called : (call.moment weather).call
      (daemonReadOutput input.executionId cursor limit) with
  | error e => exact valid.fail
  | ok page =>
    obtain ⟨row, found, _⟩ := Moment.page_of_call called
    exact valid.after found (holds row page found called)

theorem check (valid : Watched input call) (weather : Weather) :
    Watched input (call.check server input weather) := by
  unfold EventCall.check
  cases server.allowedExecution input.executionId (call.moment weather) with
  | error e => exact valid.fail
  | ok execution => exact ⟨valid.sound, valid.seqs, valid.kept, trivial⟩

theorem ask (valid : Watched input call) (weather : Weather) :
    Watched input (call.ask input weather) := by
  apply valid.read
  intro row page found called
  have exact := EventCall.respond_exact (call.moment weather)
    (valid.sound.numbered found) (valid.kept row found).2 called
  cases input.tool with
  | wait =>
    simp only
    split
    · exact exact
    · exact trivial
  | _ => exact exact

theorem answer (valid : Watched input call) (weather : Weather) (timedOut : Bool) :
    Watched input (call.answer input weather timedOut) := by
  apply valid.read
  intro row page found called
  exact EventCall.respond_exact (call.moment weather)
    (valid.sound.numbered found) (valid.kept row found).2 called

/-- The loop of a call, over the log that is there now. -/
theorem looping (valid : Watched input call) (looping : Looping input call.seen loop)
    {row : ExecutionRow} (found : call.db.executions.find? input.executionId = some row) :
    Looping input (call.db.log input.executionId) loop :=
  looping.grow (valid.kept row found).1

theorem poll (valid : Watched input call) (running : call.phase = .running loop)
    (goesOn : loop.goesOn = true) (weather : Weather) :
    Watched input (call.poll input loop weather) := by
  have holds := valid.phase
  rw [running] at holds
  have positive : 0 < loop.remaining := by
    simp only [RunLoop.goesOn, Bool.and_eq_true, decide_eq_true_eq] at goesOn
    exact goesOn.1.2
  apply valid.read
  intro row page found called
  have looping := valid.looping holds found
  split
  · exact looping.take (call.moment weather) (valid.sound.numbered found) positive called false
  · exact ⟨looping, positive⟩

theorem polled (valid : Watched input call) (polling : call.phase = .polling loop)
    (weather : Weather) (timedOut : Bool) :
    Watched input (call.polled input loop weather timedOut) := by
  have holds := valid.phase
  rw [polling] at holds
  apply valid.read
  intro row page found called
  exact (valid.looping holds.1 found).take (call.moment weather)
    (valid.sound.numbered found) holds.2 called timedOut

end Watched

theorem eventCall_watched {call : EventCall}
    (reached : (eventCall server input).ReachableVia (OwnId input.executionId) call) :
    Watched input call := by
  refine reached.invariant (Watched input) ?_ ?_
  · intro call first
    obtain ⟨sound, nothing, first⟩ := first
    have seqs : call.seen.map ExecutionEvent.seq = List.range' 1 call.seen.length := by
      rw [nothing]
      rfl
    cases tool : input.tool with
    | run =>
      rw [tool] at first
      obtain ⟨executing, zero, absent⟩ := first
      refine ⟨sound, seqs, ?_, ?_⟩
      · intro row found
        rw [absent] at found
        cases found
      · rw [executing]
        exact ⟨zero, nothing, absent⟩
    | _ =>
      rw [tool] at first
      obtain ⟨checking, within⟩ := first
      refine ⟨sound, seqs, ?_, ?_⟩
      · intro row found
        rw [nothing]
        exact ⟨List.nil_prefix, within row found⟩
      · rw [checking]
        exact trivial
  · intro call step call' _ valid own enabled
    cases step with
    | command op faults =>
      rw [← Option.some.inj enabled]
      exact valid.command own
    | executed now request cwd weather =>
      cases phase : call.phase <;> simp [eventCall, phase] at enabled
      rw [← enabled]
      exact valid.execute phase now request cwd weather
    | checked weather =>
      cases phase : call.phase <;> simp [eventCall, phase] at enabled
      rw [← enabled]
      exact valid.check weather
    | asked weather =>
      cases phase : call.phase with
      | asking =>
        simp only [eventCall, phase, Option.some.injEq] at enabled
        rw [← enabled]
        exact valid.ask weather
      | running loop =>
        simp only [eventCall, phase, Option.ite_none_right_eq_some, Option.some.injEq] at enabled
        obtain ⟨goesOn, same⟩ := enabled
        rw [← same]
        exact valid.poll phase goesOn weather
      | _ => simp [eventCall, phase] at enabled
    | answered weather timedOut =>
      cases phase : call.phase with
      | waiting =>
        simp only [eventCall, phase, Option.some.injEq] at enabled
        rw [← enabled]
        exact valid.answer weather timedOut
      | polling loop =>
        simp only [eventCall, phase, Option.some.injEq] at enabled
        rw [← enabled]
        exact valid.polled phase weather timedOut
      | _ => simp [eventCall, phase] at enabled
    | ended =>
      cases phase : call.phase <;> simp [eventCall, phase] at enabled
      have holds := valid.phase
      rw [phase] at holds
      rw [← enabled]
      exact ⟨valid.sound, valid.seqs, valid.kept, holds.exact valid.seqs⟩

/-- A response that is exact over a log is exact over what the log becomes. -/
theorem Exact.grow {reply : ToolOutputResponse} (exact : Exact input log reply)
    (seqs : log'.map ExecutionEvent.seq = List.range' 1 count) (grown : log <+: log') :
    Exact input log' reply := by
  have length := grown.length_le
  obtain ⟨moved, last⟩ := exact.within
  refine ⟨⟨moved, last.trans length⟩, ?_, exact.budget, exact.ending⟩
  have seen := numbered_prefix seqs grown
  rw [exact.events, filter_number_between seen, filter_number_between seqs]
  obtain ⟨added, rfl⟩ := grown
  rw [List.take_append_of_le_length last]

/-- Whenever a call of `loom_run`, `loom_read` or `loom_wait` returns, its response is exact
over the log as the daemon last read it, and over what the log is by then unless the
execution is gone. -/
theorem tool_pages_exact {call : EventCall}
    (reached : (eventCall server input).ReachableVia (OwnId input.executionId) call)
    {reply : ToolOutputResponse} {timedOut : Option Bool}
    (returned : call.phase = .returned reply timedOut) :
    Exact input call.seen reply ∧
      ∀ row, call.db.executions.find? input.executionId = some row →
        Exact input (call.db.log input.executionId) reply := by
  have valid := eventCall_watched reached
  have exact := valid.phase
  rw [returned] at exact
  refine ⟨exact, ?_⟩
  intro row found
  exact Exact.grow exact (valid.sound.numbered found).seqs (valid.kept row found).1

/-- The response of a call that has returned. -/
def EventCall.reply (call : EventCall) : Option ToolOutputResponse :=
  match call.phase with
  | .returned reply _ => some reply
  | _ => none

/-- A `loom_run` with a budget of three bytes. -/
def sampleInput : EventInput where
  tool := .run
  executionId := "a"
  maxBytes := some 3

/-- It waits for its command to start, which then writes two bytes twice and ends. -/
def sampleEvents : List EventStep :=
  [.executed 1 { workspaceId := "w", command := .argv "printf" [] } "/demo" ⟨1, none, {}⟩,
   .asked ⟨2, none, {}⟩,
   .command (.markRunning 3 "a" 10 10) [],
   .answered ⟨4, none, {}⟩ false,
   .command (.appendCaptureBatch
     [.output "a" 5 .stdout [0x68, 0x69], .output "a" 5 .stdout [0x68, 0x6F]]) [],
   .command (.finish 6 "a" .finished (.exited 0)) [],
   .asked ⟨7, none, {}⟩,
   .ended]

theorem tool_pages_exact_sample : ∃ call reply,
    (eventCall sampleServer sampleInput).runIf (OwnId "a")
      { db := sampleDatabase, phase := .executing } sampleEvents = some call ∧
    call.reply = some reply ∧ (reply.nextSeq, reply.hasMore) = (2, true) ∧
    Exact sampleInput (call.db.log "a") reply := by
  have facts : ((eventCall sampleServer sampleInput).runIf (OwnId "a")
      { db := sampleDatabase, phase := .executing } sampleEvents).bind (fun call =>
        (call.db.executions.find? "a").bind fun _ => call.reply.map fun reply =>
          (reply.nextSeq, reply.hasMore)) = some (2, true) := by decide +kernel
  obtain ⟨call, ran, facts⟩ := Option.bind_eq_some_iff.mp facts
  obtain ⟨row, found, facts⟩ := Option.bind_eq_some_iff.mp facts
  obtain ⟨reply, replied, values⟩ := Option.map_eq_some_iff.mp facts
  have first : (eventCall sampleServer sampleInput).start
      { db := sampleDatabase, phase := .executing } :=
    ⟨Database.Fresh.sound ⟨rfl, rfl⟩, rfl, rfl, rfl, rfl⟩
  have reached := (System.ReachableVia.start first).run (System.runIf_runVia ran)
  refine ⟨call, reply, ran, replied, values, ?_⟩
  unfold EventCall.reply at replied
  split at replied
  · rename_i same _ phase
    cases replied
    exact (tool_pages_exact reached phase).2 row found
  · cases replied

end Loomterm
