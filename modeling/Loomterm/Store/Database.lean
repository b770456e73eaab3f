import Loomterm.Misc.Sql
import Loomterm.Misc.Table
import Loomterm.Model
import Mathlib.Algebra.Order.Ring.Int
import Mathlib.Data.List.Sort

/-!
# The database

The tables of `src/store.rs` and the operations of `Database` on executions and their
events, statement by statement. The store actor runs one command at a time
(`run_store_actor`), so an operation is one program; the clock (`now_ms`) and the fresh id
(`new_id`) it draws are its arguments. SQLite's part is what `Sql` and `Table` say:
statements and commits may fail, a transaction that does not commit rolls back, primary
keys are unique, and the declared foreign-key actions run with a delete.
-/

namespace Loomterm

/-- A row of `workspaces` (`src/store.rs:502`). -/
structure WorkspaceRow extends Workspace where
  active : Bool := true

/-- A row of `agent_sessions` (`src/store.rs:509`). -/
structure AgentSessionRow where
  id : SessionId
  workspaceId : WorkspaceId
  state : AgentSessionState
  agentKind : String
  name : Option String
  command : CommandSpec
  cwd : String
  createdAtMs : Int
  endedAtMs : Option Int := none
  recorderPid : Nat
  outcome : Option ExecutionOutcome := none
  capturedBytes : Nat := 0
  outputTruncated : Bool := false
  initialCols : Nat
  initialRows : Nat
  castPath : String
  htmlPath : String

/-- A row of `executions` (`src/store.rs:532`). -/
structure ExecutionRow where
  id : ExecutionId
  workspaceId : WorkspaceId
  state : ExecutionState := .queued
  command : CommandSpec
  cwd : String
  envKeys : List String
  initiator : Initiator
  createdAtMs : Int
  startedAtMs : Option Int := none
  endedAtMs : Option Int := none
  pid : Option Nat := none
  pgid : Option Int := none
  outcome : Option ExecutionOutcome := none
  capturedBytes : Nat := 0
  outputTruncated : Bool := false
  lastSeq : Nat := 0
  sessionId : Option SessionId := none
  deriving DecidableEq, Repr

/-- A row of `agent_turns` (`src/store.rs:567`), which is also an `AgentTurn`. -/
structure AgentTurnRow where
  id : String
  sessionId : SessionId
  provider : String
  providerSessionId : String
  providerTurnId : Option String
  state : AgentTurnState := .active
  prompt : String
  createdAtMs : Int
  endedAtMs : Option Int := none
  lastAssistantMessage : Option String := none

/-- A row of `agent_actions` (`src/store.rs:584`), which is also an `AgentAction`. -/
structure AgentActionRow where
  id : String
  turnId : String
  providerActionId : String
  toolName : String
  state : AgentActionState
  executionId : Option ExecutionId := none
  createdAtMs : Int
  endedAtMs : Option Int := none

/-- The primary key of `events` (`src/store.rs:557`). -/
def ExecutionEvent.key (event : ExecutionEvent) : ExecutionId × Nat :=
  (event.executionId, event.seq)

/-- The tables. -/
structure Database where
  workspaces : Table fun row : WorkspaceRow => row.id
  agentSessions : Table AgentSessionRow.id
  executions : Table ExecutionRow.id
  events : Table ExecutionEvent.key
  agentTurns : Table AgentTurnRow.id
  agentActions : Table AgentActionRow.id

/-- The tables of a new database. -/
def newDatabase : Database where
  workspaces := .empty
  agentSessions := .empty
  executions := .empty
  events := .empty
  agentTurns := .empty
  agentActions := .empty

/-- What `CaptureRecord` (`src/store.rs:20`) asks to be appended. -/
inductive CaptureRecord where
  | output (executionId : ExecutionId) (timestampMs : Int) (stream : OutputStream)
      (data : Bytes)
  | truncated (executionId : ExecutionId) (timestampMs : Int) (limitBytes : Nat)
  deriving DecidableEq, Repr

/-- The execution a record is for. -/
def CaptureRecord.executionId : CaptureRecord → ExecutionId
  | .output id _ _ _ => id
  | .truncated id _ _ => id

/-- A program over the database. -/
abbrev Store (α : Type) := Sql Database Error α

/-- The errors of the database itself, against those that the operations raise. -/
def Error.isStorage : Error → Bool
  | .database _ | .storageUnavailable _ => true
  | _ => false

/-- Runs a program under a schedule of SQLite errors, each given by its message. -/
def Store.run {α : Type} (program : Store α) (faults : List (Option String)) (db : Database) :
    Except Error α × Database :=
  let outcome := program db (faults.map (Option.map Error.database))
  (outcome.result, outcome.state)

/-- What a request to the store actor may meet: the actor is gone, or statements fail. -/
structure Conditions where
  unavailable : Option String := none
  faults : List (Option String) := []

/-- `Store::request` (`src/store.rs:178`). -/
def Store.request {α : Type} (program : Store α) (conditions : Conditions) (db : Database) :
    Except Error α × Database :=
  match conditions.unavailable with
  | some message => (.error (.storageUnavailable message), db)
  | none => Store.run program conditions.faults db

namespace Database

/-- The events of one execution in the order of their insertion. -/
def log (db : Database) (id : ExecutionId) : List ExecutionEvent :=
  db.events.rows.filter fun event => event.executionId = id

/-! ## Statements -/

/-- `INSERT INTO events`: the key must be free and the execution must exist. -/
def insertEvent (event : ExecutionEvent) : Store Unit :=
  Sql.statement fun db =>
    match db.executions.find? event.executionId with
    | none => .error (.database "FOREIGN KEY constraint failed")
    | some _ =>
      match db.events.insert? event with
      | none => .error (.database "UNIQUE constraint failed: events.execution_id, events.seq")
      | some events => .ok ((), { db with events })

/-- `UPDATE executions SET .. WHERE id = ?1`. -/
def updateExecution (id : ExecutionId) (set : ExecutionRow → ExecutionRow)
    (keeps : ∀ row, (set row).id = row.id := by intros; rfl) : Store Unit :=
  Sql.statement fun db =>
    .ok ((), { db with executions := db.executions.update (fun row => row.id = id) set keeps })

/-- The foreign-key actions of removing the executions that `p` selects: their events go,
and actions lose their link to them. -/
def withoutExecutions (db : Database) (p : ExecutionRow → Bool) : Database :=
  let gone (id : ExecutionId) : Bool := db.executions.rows.any fun row => row.id = id && p row
  { db with
    executions := db.executions.delete p
    events := db.events.delete fun event => gone event.executionId
    agentActions := db.agentActions.update (fun action => action.executionId.any gone)
      (fun action => { action with executionId := none }) (by intros; rfl) }

/-- `DELETE FROM executions WHERE ..`, which reports the number of rows it removed. -/
def deleteExecutions (p : ExecutionRow → Bool) : Store Nat :=
  Sql.statement fun db =>
    .ok ((db.executions.rows.filter p).length, db.withoutExecutions p)

/-- `next_seq` (`src/store.rs:1792`). SQLite turns a sum past the `i64` range into a real
number, which does not convert back. -/
def nextSeq (id : ExecutionId) : Store Nat :=
  Sql.select fun db =>
    match db.executions.find? id with
    | none => .error (.executionNotFound id)
    | some row =>
      if row.lastSeq + 1 < 2 ^ 63 then .ok (row.lastSeq + 1)
      else .error (.database "Invalid column type Real at index: 0, name: last_seq + 1")

/-- `SELECT state FROM executions WHERE id = ?1`. -/
def selectState (id : ExecutionId) : Store ExecutionState :=
  Sql.select fun db =>
    match db.executions.find? id with
    | some row => .ok row.state
    | none => .error (.executionNotFound id)

/-- A number as the `i64` with the same low 64 bits, the arithmetic of the release build. -/
def toI64 (value : Int) : Int := Int.bmod value (2 ^ 64)

/-- The values of an `i64`. -/
def IsI64 (value : Int) : Prop := -2 ^ 63 ≤ value ∧ value < 2 ^ 63

theorem toI64_isI64 (value : Int) : IsI64 (toI64 value) := by
  have low := Int.le_bmod (x := value) (m := 2 ^ 64) (by decide)
  have high := Int.bmod_lt (x := value) (m := 2 ^ 64) (by decide)
  simp only [IsI64, toI64]
  omega

/-- A cast keeps a value up to a multiple of `2 ^ 64`. -/
theorem toI64_emod (value : Int) : toI64 value % 2 ^ 64 = value % 2 ^ 64 :=
  Int.bmod_emod

/-- A cast keeps the values in range. -/
theorem toI64_of_isI64 {value : Int} (fits : IsI64 value) : toI64 value = value := by
  have range := toI64_isI64 value
  have same := toI64_emod value
  simp only [IsI64] at fits range
  omega

/-! ## Reading -/

/-- `i64::saturating_sub`. -/
def saturatingSub (left right : Int) : Int := max (-2 ^ 63) (min (left - right) (2 ^ 63 - 1))

/-- `execution_from_row` (`src/store.rs:1821`). -/
def executionFromRow (now : Int) (row : ExecutionRow) : Execution where
  id := row.id
  workspaceId := row.workspaceId
  state := row.state
  command := row.command
  cwd := row.cwd
  envKeys := row.envKeys
  initiator := row.initiator
  createdAtMs := row.createdAtMs
  startedAtMs := row.startedAtMs
  endedAtMs := row.endedAtMs
  durationMs := row.startedAtMs.map fun started =>
    (saturatingSub (row.endedAtMs.getD now) started).toNat
  pid := row.pid
  pgid := row.pgid
  outcome := row.outcome
  capturedBytes := row.capturedBytes
  outputTruncated := row.outputTruncated
  lastSeq := row.lastSeq

/-- `Database::get_execution` (`src/store.rs:989`). -/
def getExecution (now : Int) (id : ExecutionId) : Store Execution :=
  Sql.select fun db =>
    match db.executions.find? id with
    | some row => .ok (executionFromRow now row)
    | none => .error (.executionNotFound id)

/-- `WHERE id = ?1 OR name = ?1`, of which the first row is taken. The columns have an index each,
and the one of the id is looked up first. -/
def namedWorkspace (db : Database) (identifier : String) (p : WorkspaceRow → Bool) :
    Option WorkspaceRow :=
  (db.workspaces.rows.find? fun row => row.id = identifier && p row).or
    (db.workspaces.rows.find? fun row => row.name = identifier && p row)

theorem namedWorkspace_eq_some {db : Database} {identifier : String} {p : WorkspaceRow → Bool}
    {row : WorkspaceRow} (found : db.namedWorkspace identifier p = some row) :
    row ∈ db.workspaces.rows ∧ (row.id = identifier ∨ row.name = identifier) ∧ p row = true := by
  unfold namedWorkspace at found
  obtain byId | ⟨_, byName⟩ := Option.or_eq_some_iff.mp found
  · have own := List.find?_some byId
    simp only [Bool.and_eq_true, decide_eq_true_eq] at own
    exact ⟨List.mem_of_find?_eq_some byId, .inl own.1, own.2⟩
  · have own := List.find?_some byName
    simp only [Bool.and_eq_true, decide_eq_true_eq] at own
    exact ⟨List.mem_of_find?_eq_some byName, .inr own.1, own.2⟩

theorem namedWorkspace_eq_none {db : Database} {identifier : String} {p : WorkspaceRow → Bool}
    (missed : db.namedWorkspace identifier p = none) {row : WorkspaceRow}
    (member : row ∈ db.workspaces.rows) (kept : p row = true) :
    ¬ (row.id = identifier ∨ row.name = identifier) := by
  unfold namedWorkspace at missed
  obtain ⟨byId, byName⟩ := Option.or_eq_none_iff.mp missed
  rintro (same | same)
  · simpa [same, kept] using List.find?_eq_none.mp byId row member
  · simpa [same, kept] using List.find?_eq_none.mp byName row member

/-- `Database::get_workspace` (`src/store.rs:766`). -/
def getWorkspace (identifier : String) : Store Workspace :=
  Sql.select fun db =>
    match db.namedWorkspace identifier (·.active) with
    | some row => .ok row.toWorkspace
    | none => .error (.workspaceNotFound identifier)

/-- `Database::get_agent_session_record` (`src/store.rs:1441`). -/
def getAgentSessionRecord (id : SessionId) : Store AgentSessionRow :=
  Sql.select fun db =>
    match db.agentSessions.find? id with
    | some row => .ok row
    | none => .error (.agentSessionNotFound id)

/-- The loop of `read_output` over the selected rows: events are taken until one would
exceed `maxBytes`, but the first is always taken. The flag says that a row was left. -/
def takePage (maxBytes : Nat) : Nat → List ExecutionEvent → List ExecutionEvent →
    List ExecutionEvent × Bool
  | _, taken, [] => (taken, false)
  | bytes, taken, event :: rest =>
      let size := match event.payload with
        | .output _ data => data.length
        | _ => 0
      if taken ≠ [] ∧ maxBytes < bytes + size then (taken, true)
      else takePage maxBytes (bytes + size) (taken ++ [event]) rest

/-- The rows that `read_output` selects: `seq > ?2 ORDER BY seq LIMIT 4096`, where the
cursor is bound as an `i64`. -/
def selectEvents (db : Database) (id : ExecutionId) (afterSeq : Nat) : List ExecutionEvent :=
  (((db.log id).filter fun event => toI64 afterSeq < (event.seq : Int)).insertionSort
    (fun left right => left.seq ≤ right.seq)).take 4096

/-- `Database::read_output` (`src/store.rs:1456`). -/
def readOutput (now : Int) (id : ExecutionId) (afterSeq maxBytes : Nat) :
    Store ReadOutputResponse := do
  let execution ← getExecution now id
  let selected ← Sql.select fun db => .ok (db.selectEvents id afterSeq)
  let (events, left) := takePage maxBytes 0 [] selected
  let nextSeq := (events.getLast?.map ExecutionEvent.seq).getD afterSeq
  pure { execution, events, nextSeq, hasMore := left || decide (nextSeq < execution.lastSeq) }

/-! ## Writing -/

/-- The session checks of `create_execution` (`src/store.rs:799-812`). -/
def checkSession (request : ExecutionRequest) : Store Unit :=
  match request.initiator.sessionId with
  | none => pure ()
  | some sessionId => do
      let session ← getAgentSessionRecord sessionId
      if session.workspaceId ≠ request.workspaceId then
        Sql.fail (.invalidRequest
          ("agent session " ++ sessionId ++ " belongs to a different workspace"))
      else if session.state ≠ .recording then
        Sql.fail (.invalidRequest ("agent session " ++ sessionId ++ " is no longer recording"))
      else pure ()

/-- `INSERT INTO executions`, with the declared keys of the table. -/
def insertExecution (row : ExecutionRow) : Store Unit :=
  Sql.statement fun db =>
    if db.workspaces.find? row.workspaceId = none ∨
        row.sessionId.any (fun sessionId => (db.agentSessions.find? sessionId).isNone) then
      .error (.database "FOREIGN KEY constraint failed")
    else
      match db.executions.insert? row with
      | none => .error (.database "UNIQUE constraint failed: executions.id")
      | some executions => .ok ((), { db with executions })

/-- The row that `create_execution` inserts. -/
def queuedRow (now : Int) (id : ExecutionId) (request : ExecutionRequest) (cwd : String) :
    ExecutionRow where
  id := id
  workspaceId := request.workspaceId
  command := request.command
  cwd := cwd
  envKeys := request.env.map Prod.fst
  initiator := request.initiator
  createdAtMs := now
  sessionId := request.initiator.sessionId

/-- `Database::create_execution` (`src/store.rs:802`). -/
def createExecution (now : Int) (id : ExecutionId) (request : ExecutionRequest) (cwd : String) :
    Store Execution := do
  match request.validate with
  | .error e => Sql.fail e
  | .ok () =>
      checkSession request
      insertExecution (queuedRow now id request cwd)
      getExecution now id

/-- `Database::mark_running` (`src/store.rs:842`). -/
def markRunning (now : Int) (id : ExecutionId) (pid : Nat) (pgid : Int) :
    Store ExecutionEvent :=
  Sql.transaction do
    let state ← selectState id
    if state ≠ .queued then
      Sql.fail (.alreadyTerminal id)
    else
      let seq ← nextSeq id
      let event : ExecutionEvent := ⟨id, seq, now, .started pid pgid⟩
      insertEvent event
      updateExecution id fun row =>
        { row with state := .running, startedAtMs := some now, pid := some pid,
                   pgid := some pgid, lastSeq := seq }
      pure event

/-- The body of the loop of `append_capture_batch` (`src/store.rs:887-945`). -/
def appendRecord : CaptureRecord → Store ExecutionEvent
  | .output id timestampMs stream data => do
      let seq ← nextSeq id
      let event : ExecutionEvent := ⟨id, seq, timestampMs, .output stream data⟩
      insertEvent event
      updateExecution id fun row =>
        { row with lastSeq := seq, capturedBytes := row.capturedBytes + data.length }
      pure event
  | .truncated id timestampMs limitBytes => do
      let seq ← nextSeq id
      let event : ExecutionEvent := ⟨id, seq, timestampMs, .captureTruncated limitBytes⟩
      insertEvent event
      updateExecution id fun row => { row with lastSeq := seq, outputTruncated := true }
      pure event

/-- The loop of `append_capture_batch`. -/
def appendRecords : List CaptureRecord → Store (List ExecutionEvent)
  | [] => pure []
  | record :: rest => do
      let event ← appendRecord record
      let events ← appendRecords rest
      pure (event :: events)

/-- `Database::append_capture_batch` (`src/store.rs:876`). -/
def appendCaptureBatch (records : List CaptureRecord) : Store (List ExecutionEvent) :=
  match records with
  | [] => pure []
  | records => Sql.transaction (appendRecords records)

/-- `Database::finish` (`src/store.rs:951`). -/
def finish (now : Int) (id : ExecutionId) (state : ExecutionState)
    (outcome : ExecutionOutcome) : Store ExecutionEvent :=
  Sql.transaction do
    let current ← selectState id
    if current.isTerminal then
      Sql.fail (.alreadyTerminal id)
    else
      let seq ← nextSeq id
      let event : ExecutionEvent := ⟨id, seq, now, .finished outcome⟩
      insertEvent event
      updateExecution id fun row =>
        { row with state := state, endedAtMs := some now, outcome := some outcome,
                   lastSeq := seq }
      pure event

/-- Calls `finish` on each id in turn and stops at the first error; the executions
finished before it stay finished. Each call reads the clock anew. -/
def finishEach (now : ExecutionId → Int) (state : ExecutionState) (outcome : ExecutionOutcome) :
    List ExecutionId → Store (List ExecutionEvent)
  | [] => pure []
  | id :: rest => do
      let event ← finish (now id) id state outcome
      let events ← finishEach now state outcome rest
      pure (event :: events)

/-- `SELECT id FROM executions WHERE state ..`. -/
def selectIds (p : ExecutionState → Bool) : Store (List ExecutionId) :=
  Sql.select fun db => .ok ((db.executions.rows.filter fun row => p row.state).map (·.id))

/-- `Database::reconcile_incomplete` (`src/store.rs:1492`). -/
def reconcileIncomplete (now : ExecutionId → Int) : Store Nat := do
  let ids ← selectIds fun state => !state.isTerminal
  let events ← finishEach now .interrupted
    (.interrupted "daemon restarted before the execution completed") ids
  pure events.length

/-- `Database::cancel_queued` (`src/store.rs:1514`). -/
def cancelQueued (now : ExecutionId → Int) : Store (List ExecutionEvent) := do
  let ids ← selectIds fun state => state = .queued
  finishEach now .cancelled (.cancelled none) ids

/-- The cutoff of `prune`: `now_ms() - (retention_days as i64 * 24 * 60 * 60 * 1000)`. -/
def pruneCutoff (now : Int) (retentionDays : Nat) : Int :=
  toI64 (now - toI64 (toI64 retentionDays * 24 * 60 * 60 * 1000))

/-- `ended_at_ms < ?1`, which is not true of a `NULL`. -/
def endedBefore (cutoff : Int) (row : ExecutionRow) : Bool :=
  row.endedAtMs.any (· < cutoff)

/-- `ORDER BY ended_at_ms ASC`, where a `NULL` sorts first. -/
def endedNoLater (left right : ExecutionRow) : Prop :=
  match left.endedAtMs, right.endedAtMs with
  | none, _ => True
  | some _, none => False
  | some l, some r => l ≤ r

instance : DecidableRel endedNoLater := fun left right => by
  unfold endedNoLater
  split <;> infer_instance

theorem endedNoLater_total (left right : ExecutionRow) :
    endedNoLater left right ∨ endedNoLater right left := by
  unfold endedNoLater
  cases left.endedAtMs with
  | none => exact .inl trivial
  | some l =>
    cases right.endedAtMs with
    | none => exact .inr trivial
    | some r => exact le_total l r

theorem endedNoLater_trans {first second third : ExecutionRow}
    (before : endedNoLater first second) (after : endedNoLater second third) :
    endedNoLater first third := by
  unfold endedNoLater at *
  cases one : first.endedAtMs with
  | none => trivial
  | some f =>
    cases two : second.endedAtMs with
    | none =>
      rw [one, two] at before
      cases before
    | some s =>
      cases three : third.endedAtMs with
      | none =>
        rw [two, three] at after
        cases after
      | some t =>
        rw [one, two] at before
        rw [two, three] at after
        exact le_trans before after

instance : Std.Total endedNoLater := ⟨endedNoLater_total⟩

instance : IsTrans ExecutionRow endedNoLater := ⟨fun _ _ _ => endedNoLater_trans⟩

/-- The answers to `ORDER BY ended_at_ms ASC`, which says nothing of executions that ended at
the same time. -/
abbrev EndOrder := Sql.OrderBy endedNoLater

/-- `COALESCE(SUM(..), 0)` over integers, which fails past the `i64` range. -/
def sumColumn (values : List Nat) : Except Error Nat :=
  if values.sum < 2 ^ 63 then .ok values.sum else .error (.database "integer overflow")

theorem sumColumn_cases (values : List Nat) :
    sumColumn values = .ok values.sum ∨ ∃ e, e.isStorage = true ∧ sumColumn values = .error e := by
  unfold sumColumn
  split
  · exact .inl rfl
  · exact .inr ⟨_, rfl, rfl⟩

/-- The loop of the size pass of `prune` (`src/store.rs:1560-1566`). -/
def pruneCandidates : Nat → List ExecutionRow → Store Nat
  | _, [] => pure 0
  | excess, row :: rest =>
      if excess = 0 then pure 0
      else do
        let removed ← deleteExecutions fun other => other.id = row.id
        let more ← pruneCandidates (excess - row.capturedBytes) rest
        pure (removed + more)

/-- `Database::prune` (`src/store.rs:1533`). -/
def prune (order : EndOrder) (now : Int) (retentionDays retentionBytes : Nat) : Store Nat :=
  Sql.transaction do
    let removed ← deleteExecutions fun row =>
      row.state.isTerminal && endedBefore (pruneCutoff now retentionDays) row
    let total ← Sql.select fun db => sumColumn (db.executions.rows.map (·.capturedBytes))
    if retentionBytes < total then
      let candidates ← Sql.select fun db =>
        .ok (order.rows (db.executions.rows.filter fun row => row.state.isTerminal))
      let more ← pruneCandidates (total - retentionBytes) candidates
      pure (removed + more)
    else pure removed

/-- `Database::delete_agent_session` (`src/store.rs:1421`). -/
def deleteAgentSession (id : SessionId) : Store Unit := do
  let session ← getAgentSessionRecord id
  if !session.state.isTerminal then
    Sql.fail (.invalidRequest ("agent session " ++ id ++ " is still recording"))
  else
    Sql.transaction do
      Sql.statement fun db =>
        .ok ((), { db with
          executions := db.executions.update (fun row => row.sessionId = some id)
            (fun row => { row with sessionId := none,
                                   initiator := { row.initiator with sessionId := none } })
            (by intros; rfl) })
      Sql.statement fun db =>
        let gone (turnId : String) : Bool :=
          db.agentTurns.rows.any fun turn => turn.id = turnId && turn.sessionId = id
        .ok ((), { db with
          agentSessions := db.agentSessions.delete fun session => session.id = id
          agentTurns := db.agentTurns.delete fun turn => turn.sessionId = id
          agentActions := db.agentActions.delete fun action => gone action.turnId })

end Database

end Loomterm
