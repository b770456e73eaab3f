import Loomterm.Executor.Task
import Mathlib.Algebra.Order.Ring.Int
import Mathlib.Logic.Function.Basic

/-!
# The execution engine

`ExecutionEngine` (`src/executor.rs`) as a state machine: any number of `execute`, `cancel`
and `drain` calls, one task for each execution, the capture writer, the control writer of
each supervisor, and the store. Every step runs one of them from an await to the next, so
every interleaving at the awaits is a run. `Engine.serve` says what a request does to the
shared state; locks and permits are given back as soon as the code leaves the scope that
holds them. A crash may come at any moment, and a new daemon then reconciles.
-/

namespace Loomterm

/-! ## Calls -/

/-- A client's call, or the shutdown of the daemon. -/
inductive Operation where
  | execute (request : ExecutionRequest)
  | cancel (id : ExecutionId)
  | drain

/-- The awaits of `execute` (`src/executor.rs:118`), `cancel` (`src/executor.rs:401`) and
`drain` (`src/executor.rs:501`). -/
inductive CallPoint where
  | executeLock (request : ExecutionRequest)
  | executeWorkspace (request : ExecutionRequest)
  | executeResolve (request : ExecutionRequest)
  | executeCreate (request : ExecutionRequest) (cwd : String)
  | executeSpawn (execution : Execution) (request : ExecutionRequest) (cwd : String)
  | executeInsert (execution : Execution)
  | cancelLock (id : ExecutionId)
  | cancelGet (id : ExecutionId)
  | cancelFind (id : ExecutionId) (state : ExecutionState)
  | cancelFinish (id : ExecutionId) (control : Bool)
  | cancelSend (id : ExecutionId)
  | cancelRunning (id : ExecutionId)
  | cancelWait (id : ExecutionId)
  | cancelRead (id : ExecutionId)
  | drainBegin
  | drainClose
  | drainLock
  | drainCancelQueued
  | drainList
  | drainSend (id : ExecutionId) (rest : List ExecutionId)
  | drainWait
  | drainClear
  | drainAbort
  | drainSettle
  | drainStop
  | returned (result : Except Error (Option Execution))

namespace CallPoint

/-- Whether the code at this point holds the lock `lifecycle`. -/
def holdsLifecycle : CallPoint → Bool
  | .executeWorkspace _ | .executeResolve _ | .executeCreate .. | .executeSpawn ..
  | .executeInsert _ => true
  | _ => false

/-- Whether the code at this point holds the lock `transitions`. -/
def holdsTransitions : CallPoint → Bool
  | .cancelGet _ | .cancelFind .. | .cancelFinish .. | .cancelSend _ | .cancelRunning _
  | .drainCancelQueued | .drainList | .drainSend .. => true
  | _ => false

/-- The first await of a call; `execute` validates its request before it. -/
def first : Operation → CallPoint
  | .execute request =>
      match request.validate with
      | .ok () => .executeLock request
      | .error e => .returned (.error e)
  | .cancel id => .cancelLock id
  | .drain => .drainBegin

/-- The next handle of the loop that cancels all processes, or the end of the section. -/
def sendAll : List ExecutionId → CallPoint
  | [] => .drainWait
  | id :: rest => .drainSend id rest

/-- What a call waits for. -/
def request? : CallPoint → Option Request
  | .executeLock _ => some .lockLifecycle
  | .executeWorkspace request => some (.store (.getWorkspace request.workspaceId))
  | .executeResolve _ => some .input
  | .executeCreate request cwd => some (.store (.createExecution request cwd))
  | .executeSpawn execution request cwd => some (.spawnTask execution.id request cwd)
  | .executeInsert execution => some (.insertTask execution.id)
  | .cancelLock _ => some .lockTransitions
  | .cancelGet id => some (.store (.getExecution id))
  | .cancelFind id _ => some (.findProcess id)
  | .cancelFinish id _ => some (.store (.finish id .cancelled (.cancelled none)))
  | .cancelSend id => some (.send id .cancel)
  | .cancelRunning id => some (.send id .cancel)
  | .cancelWait _ => some .input
  | .cancelRead id => some (.store (.getExecution id))
  | .drainBegin => some .beginDrain
  | .drainClose => some .closeSlots
  | .drainLock => some .lockTransitions
  | .drainCancelQueued => some (.store .cancelQueued)
  | .drainList => some .listProcesses
  | .drainSend id _ => some (.send id .cancel)
  | .drainWait => some .waitForIdle
  | .drainClear => some .clearProcesses
  | .drainAbort => some .abortTasks
  | .drainSettle => some .waitForIdle
  | .drainStop => some .stop
  | .returned _ => none

/-- What the code does with the reply, up to the next await. -/
def next (point : CallPoint) (reply : Reply) : Option CallPoint :=
  match point with
  | .executeLock request =>
      match reply with
      | .lifecycle .accepting => some (.executeWorkspace request)
      | .lifecycle _ => some (.returned (.error .daemonDraining))
      | _ => none
  | .executeWorkspace request =>
      match reply with
      | .stored (.ok (.workspace workspace)) =>
          some (.executeResolve { request with workspaceId := workspace.id })
      | .stored (.error e) => some (.returned (.error e))
      | _ => none
  | .executeResolve request => reply.onInput fun
      | .resolved (.ok cwd) => some (.executeCreate request cwd)
      | .resolved (.error e) => some (.returned (.error e))
      | _ => none
  | .executeCreate request cwd => reply.onExecution
      (fun execution => .executeSpawn execution request cwd) fun e => .returned (.error e)
  | .executeSpawn execution _ _ => reply.onDone (.executeInsert execution)
  | .executeInsert execution => reply.onDone (.returned (.ok (some execution)))
  | .cancelLock id => reply.onDone (.cancelGet id)
  | .cancelGet id => reply.onExecution (fun execution => .cancelFind id execution.state)
      fun e => .returned (.error e)
  | .cancelFind id state =>
      match reply with
      | .found control =>
          match state with
          | .queued => some (.cancelFinish id control)
          | .running =>
              if control then some (.cancelRunning id)
              else some (.returned (.error (.protocol
                ("execution " ++ id ++ " is running but has no supervisor handle"))))
          | _ => some (.returned (.error (.alreadyTerminal id)))
      | _ => none
  | .cancelFinish id control => reply.onStored
      (fun _ => if control then .cancelSend id else .cancelWait id)
      fun e => .returned (.error e)
  | .cancelSend id => reply.onSent (.cancelWait id) (.cancelWait id)
  | .cancelRunning id => reply.onSent (.cancelWait id)
      (.returned (.error (.protocol "supervisor control writer stopped")))
  | .cancelWait id => reply.onInput fun
      | .ready => some (.cancelRead id)
      | .timeout => some (.returned (.error .timeout))
      | _ => none
  | .cancelRead id => reply.onExecution
      (fun execution =>
        if execution.state.isTerminal then .returned (.ok (some execution)) else .cancelWait id)
      fun e => .returned (.error e)
  | .drainBegin =>
      match reply with
      | .lifecycle .stopped => some (.returned (.ok none))
      | .lifecycle _ => some .drainClose
      | _ => none
  | .drainClose => reply.onDone .drainLock
  | .drainLock => reply.onDone .drainCancelQueued
  | .drainCancelQueued => reply.onStored (fun _ => .drainList) fun e => .returned (.error e)
  | .drainList =>
      match reply with
      | .ids ids => some (sendAll ids)
      | _ => none
  | .drainSend _ rest => reply.onSent (sendAll rest) (sendAll rest)
  | .drainWait => reply.onInput fun
      | .ready => some .drainStop
      | .timeout => some .drainClear
      | _ => none
  | .drainClear => reply.onDone .drainAbort
  | .drainAbort => reply.onDone .drainSettle
  | .drainSettle => reply.onInput fun
      | .ready => some .drainStop
      | .timeout => some .drainStop
      | _ => none
  | .drainStop => reply.onDone (.returned (.ok none))
  | .returned _ => none

end CallPoint

/-! ## The shared state -/

/-- `CONTROL` channel depth (`src/executor.rs:216`). -/
def controlDepth : Nat := 8

/-- The control channel of a supervisor: what waits in it, whether its writer has failed,
and, for statements about runs, all that was ever sent and what reached the supervisor. -/
structure ControlChannel where
  queue : List SupervisorCommand := []
  closed : Bool := false
  sent : List SupervisorCommand := []
  delivered : List SupervisorCommand := []

/-- The engine, its calls and tasks, and the store. `issued` are the ids ever given out,
`cancelledQueued` the executions that `cancel` and `cancel_queued` have finished, and
`drained` says that a drain has left its critical section; the source has no such fields.
A daemon is `down` when it could not reconcile at its start. -/
structure Engine where
  settings : Settings
  db : Database
  lifecycle : Lifecycle := .accepting
  lifecycleHolder : Option FiberId := none
  transitions : Option FiberId := none
  slots : Nat
  slotsClosed : Bool := false
  processes : List ExecutionId := []
  handles : List ExecutionId := []
  active : Nat := 0
  tasks : ExecutionId → Option Task := fun _ => none
  calls : Nat → Option CallPoint := fun _ => none
  controls : ExecutionId → ControlChannel := fun _ => {}
  queue : List CaptureMessage := []
  writer : Writer := {}
  answers : ExecutionId → Option (Except Error Unit) := fun _ => none
  broadcast : List ExecutionEvent := []
  fatal : Option String := none
  doomed : List ExecutionId := []
  orphans : List StoreCall := []
  issued : List ExecutionId := []
  cancelledQueued : List ExecutionId := []
  drained : Bool := false
  down : Bool := false

namespace Engine

/-- `ExecutionEngine::new` (`src/executor.rs:75`). -/
def new (settings : Settings) (db : Database) : Engine where
  settings := settings
  db := db
  slots := settings.maxConcurrentExecutions

/-- Asks the store, and hands the events of the reply to `notify`. A created execution gets
an id that was never used. -/
def serveStore (e : Engine) (call : StoreCall) (c : Choice) : Option (Engine × Reply) :=
  let (result, db) := Store.request (call.program c) c.conditions e.db
  let broadcast := e.broadcast ++ match result with
    | .ok reply => reply.notified
    | .error _ => []
  match call with
  | .createExecution _ _ =>
      if c.id ∈ e.issued then none
      else some ({ e with db, broadcast, issued := c.id :: e.issued }, .stored result)
  | _ => some ({ e with db, broadcast }, .stored result)

/-- Sends on a bounded channel; a channel whose writer has failed is closed. -/
def serveSend (e : Engine) (id : ExecutionId) (command : SupervisorCommand) :
    Option (Engine × Reply) :=
  let control := e.controls id
  if control.closed then some (e, .closed)
  else if control.queue.length < controlDepth then
    let control :=
      { control with queue := control.queue ++ [command], sent := control.sent ++ [command] }
    some ({ e with controls := Function.update e.controls id control }, .done)
  else none

/-- What a request does to the shared state; `none` while it has to wait. A supervisor
sends frames only once it has its Spawn. -/
def serve (e : Engine) (f : FiberId) (c : Choice) : Request → Option (Engine × Reply)
  | .store call => e.serveStore call c
  | .input => some (e, .input c.input)
  | .frame id =>
      match c.input with
      | .frame (some (.ok _)) =>
          if (e.controls id).delivered.any SupervisorCommand.isSpawn then some (e, .input c.input)
          else none
      | input => some (e, .input input)
  | .started id =>
      if (e.tasks id).any (·.released) then some (e, .done) else none
  | .acquire =>
      if e.slotsClosed then some (e, .closed)
      else if 0 < e.slots then some ({ e with slots := e.slots - 1 }, .done)
      else none
  | .lockLifecycle =>
      if e.lifecycleHolder = none then
        some ({ e with lifecycleHolder := some f }, .lifecycle e.lifecycle)
      else none
  | .lockTransitions =>
      if e.transitions = none then some ({ e with transitions := some f }, .done) else none
  | .insertProcess id => some ({ e with processes := e.processes ++ [id] }, .done)
  | .findProcess id => some (e, .found (e.processes.contains id))
  | .removeProcess id =>
      some ({ e with processes := e.processes.filter fun other => other ≠ id }, .done)
  | .listProcesses => some (e, .ids e.processes)
  | .clearProcesses => some ({ e with processes := [] }, .done)
  | .send id command => e.serveSend id command
  | .capture message =>
      if e.queue.length < captureQueueDepth then
        some ({ e with queue := e.queue ++ [message] }, .done)
      else none
  | .flushed id => (e.answers id).map fun result => (e, .flushed result)
  | .reportFatal none => some (e, .done)
  | .reportFatal (some message) => some ({ e with fatal := some message }, .done)
  | .spawnTask id request cwd =>
      some ({ e with active := e.active + 1,
                     tasks := Function.update e.tasks id (some { request, cwd }) }, .done)
  | .insertTask id =>
      some ({ e with handles := e.handles ++ [id],
                     tasks := Function.update e.tasks id
                       ((e.tasks id).map fun t => { t with released := true }) }, .done)
  | .removeTask id =>
      some ({ e with handles := e.handles.filter fun other => other ≠ id }, .done)
  | .abortTasks => some ({ e with doomed := e.doomed ++ e.handles }, .done)
  | .beginDrain =>
      if e.lifecycleHolder = none then
        some ({ e with lifecycle := if e.lifecycle = .stopped then .stopped else .draining },
          .lifecycle e.lifecycle)
      else none
  | .closeSlots => some ({ e with slotsClosed := true }, .done)
  | .waitForIdle =>
      match c.input with
      | .ready => if e.active = 0 then some (e, .input .ready) else none
      | .timeout => some (e, .input .timeout)
      | _ => none
  | .stop =>
      if e.lifecycleHolder = none then some ({ e with lifecycle := .stopped }, .done) else none

/-- Gives back the lock `transitions` when its holder has left the scope. -/
def unlock (e : Engine) (f : FiberId) (holds : Bool) : Engine :=
  { e with transitions :=
      if e.transitions = some f ∧ holds = false then none else e.transitions }

/-! ## Steps -/

/-- Leaves the task at its next await, without what it no longer holds. -/
def settleTask (e : Engine) (id : ExecutionId) (t t' : Task) : Engine :=
  { e.unlock (.task id) t'.point.holdsTransitions with
    slots := if t.point.holdsPermit && !t'.point.holdsPermit then e.slots + 1 else e.slots
    active := match t'.point with
      | .done => e.active - 1
      | _ => e.active
    tasks := Function.update e.tasks id (some t') }

/-- One step of a task, from an await to the next. -/
def runTask (e : Engine) (id : ExecutionId) (c : Choice) : Option Engine := do
  let t ← e.tasks id
  let request ← t.request? e.settings id
  let (served, reply) ← e.serve (.task id) c request
  let t' ← t.next e.settings id c reply
  some (served.settleTask id t t')

/-- The queued executions that a call has just made cancelled. -/
def cancelledBy : CallPoint → Reply → List ExecutionId
  | .cancelFinish id _, .stored (.ok _) => [id]
  | .drainCancelQueued, .stored (.ok (.events events)) => events.map (·.executionId)
  | _, _ => []

/-- Leaves the call at its next await, without what it no longer holds. -/
def settleCall (e : Engine) (n : Nat) (reply : Reply) (point point' : CallPoint) : Engine :=
  { e.unlock (.call n) point'.holdsTransitions with
    lifecycleHolder :=
      if e.lifecycleHolder = some (.call n) ∧ point'.holdsLifecycle = false then none
      else e.lifecycleHolder
    cancelledQueued := cancelledBy point reply ++ e.cancelledQueued
    drained := match point' with
      | .drainWait => true
      | _ => e.drained
    calls := Function.update e.calls n (some point') }

/-- One step of a call. -/
def runCall (e : Engine) (n : Nat) (c : Choice) : Option Engine := do
  let point ← e.calls n
  let request ← point.request?
  let (served, reply) ← e.serve (.call n) c request
  let point' ← point.next reply
  some (served.settleCall n reply point point')

/-- One step of `capture_writer`, which broadcasts what it wrote and raises the fatal
signal when a write fails. -/
def runWriter (e : Engine) (conditions : Conditions) : Option Engine :=
  match e.writer.point with
  | .flush cause =>
      let (writer, db, result) := e.writer.flush cause conditions e.db
      match result with
      | none => some { e with writer, db }
      | some (.ok events) => some { e with writer, db, broadcast := e.broadcast ++ events }
      | some (.error error) => some { e with writer, db, fatal := some error.toString }
  | .answer owner =>
      let (writer, result) := e.writer.takeError
      some { e with writer, answers := Function.update e.answers owner (some result) }
  | .recv => (e.writer.receive e.queue).map fun (writer, queue) => { e with writer, queue }
  | .poll => (e.writer.receive e.queue).map fun (writer, queue) => { e with writer, queue }

/-- `write_supervisor_commands` (`src/executor.rs:559`): a command that cannot be written
ends the writer, and with it the channel. -/
def writeControl (e : Engine) (id : ExecutionId) (written : Bool) : Option Engine :=
  let control := e.controls id
  match control.queue with
  | [] => none
  | command :: rest =>
      let control :=
        if written then
          { control with queue := rest, delivered := control.delivered ++ [command] }
        else { control with queue := [], closed := true }
      some { e with controls := Function.update e.controls id control }

/-- Drops the task at its await, with what it holds. A request that it has already sent to
the store may still be carried out. -/
def dropTask (e : Engine) (id : ExecutionId) (t : Task) (request : Request) : Engine :=
  { e.unlock (.task id) false with
    slots := if t.point.holdsPermit then e.slots + 1 else e.slots
    active := e.active - 1
    orphans := match request with
      | .store call => e.orphans ++ [call]
      | _ => e.orphans
    tasks := Function.update e.tasks id (some (t.goto .aborted)) }

/-- A task whose handle was aborted ends at some later await. -/
def abortTask (e : Engine) (id : ExecutionId) : Option Engine := do
  let t ← e.tasks id
  let request ← t.request? e.settings id
  if id ∈ e.doomed then some (e.dropTask id t request) else none

/-- Carries out a request that nobody waits for any more. -/
def runOrphan (e : Engine) (i : Nat) (c : Choice) : Option Engine := do
  let call ← e.orphans[i]?
  let (served, _) ← e.serveStore call c
  some { served with broadcast := e.broadcast, orphans := e.orphans.eraseIdx i }

/-- The daemon dies and a new one starts (`src/daemon.rs:37`): it reconciles before it
accepts requests, and does not start when that fails. -/
def restart (e : Engine) (c : Choice) : Engine :=
  let (result, db) := Store.request (Database.reconcileIncomplete c.clock) c.conditions e.db
  { new e.settings db with
    issued := e.issued
    down := match result with
      | .ok _ => false
      | .error _ => true }

end Engine

/-- The steps of the engine. -/
inductive Action where
  | begin (n : Nat) (operation : Operation)
  | call (n : Nat) (c : Choice)
  | task (id : ExecutionId) (c : Choice)
  | writer (conditions : Conditions)
  | control (id : ExecutionId) (written : Bool)
  | abort (id : ExecutionId)
  | orphan (i : Nat) (c : Choice)
  | restart (c : Choice)

namespace Engine

/-- Nothing but a restart happens while the daemon is down. -/
def step (e : Engine) (action : Action) : Option Engine :=
  match action with
  | .restart c => some (e.restart c)
  | _ =>
    if e.down then none
    else match action with
      | .begin n operation =>
          match e.calls n with
          | none => some { e with calls := Function.update e.calls n (some (.first operation)) }
          | some _ => none
      | .call n c => e.runCall n c
      | .task id c => e.runTask id c
      | .writer conditions => e.runWriter conditions
      | .control id written => e.writeControl id written
      | .abort id => e.abortTask id
      | .orphan i c => e.runOrphan i c
      | .restart _ => none

end Engine

/-- The engine of a daemon over a store without executions. -/
def engine : System Engine Action where
  start e := e.db.Fresh ∧ e = .new e.settings e.db
  step := Engine.step

end Loomterm
