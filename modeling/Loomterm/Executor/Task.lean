import Loomterm.Executor.Capture

/-!
# The task of an execution

`run_execution` and the block that spawns it (`src/executor.rs:133-352`), from one `.await`
to the next. A task stands at a point, asks one thing of what it shares with the others
(`Request`), and goes on with the reply: `Task.request?` says what is asked at each point,
and `Task.next` what the code does with the reply up to its next await. What a request
does to the shared state is the engine's part.
-/

namespace Loomterm

/-- The settings that the engine reads (`src/config.rs:76`). -/
structure Settings where
  maxConcurrentExecutions : Nat := 8
  captureLimitBytes : Nat := 268435456
  retentionDays : Nat := 7
  retentionBytes : Nat := 1073741824
  cancelGraceMs : Nat := 2000
  shell : String := "/bin/sh"

/-- `SupervisorCommand` (`src/supervisor.rs:26`). -/
inductive SupervisorCommand where
  | spawn (command : CommandSpec) (cwd : String) (env : List (String × String))
      (stdinBase64 : Option (Except String Bytes)) (shell : String) (cancelGraceMs : Nat)
  | cancel

def SupervisorCommand.isSpawn : SupervisorCommand → Bool
  | .spawn .. => true
  | .cancel => false

/-- `SupervisorEvent` (`src/supervisor.rs:40`); output that is not base64 is the decoder's
error. -/
inductive SupervisorEvent where
  | started (pid : Nat) (pgid : Int)
  | output (stream : OutputStream) (data : Except String Bytes)
  | finished (outcome : ExecutionOutcome)
  deriving DecidableEq

/-- `Lifecycle` (`src/executor.rs:40`). -/
inductive Lifecycle where
  | accepting
  | draining
  | stopped
  deriving DecidableEq, Repr

/-- Who runs: a call of a client, or the task of an execution. -/
inductive FiberId where
  | call (n : Nat)
  | task (id : ExecutionId)
  deriving DecidableEq, Repr

/-- `capture_output` (`src/executor.rs:354`): the records that a chunk becomes, given the
bytes seen before it and whether the truncation was noted. -/
def captureOutput (id : ExecutionId) (now later : Int) (stream : OutputStream) (data : Bytes)
    (captureLimit captured : Nat) (truncated : Bool) : List CaptureRecord :=
  let persist := min (captureLimit - captured) data.length
  (if 0 < persist then [.output id now stream (data.take persist)] else []) ++
    if persist < data.length ∧ truncated = false then [.truncated id later captureLimit] else []

/-! ## The store, as the engine uses it -/

/-- The requests to the store that tasks and calls make. -/
inductive StoreCall where
  | getWorkspace (identifier : String)
  | createExecution (request : ExecutionRequest) (cwd : String)
  | getExecution (id : ExecutionId)
  | markRunning (id : ExecutionId) (pid : Nat) (pgid : Int)
  | finish (id : ExecutionId) (state : ExecutionState) (outcome : ExecutionOutcome)
  | cancelQueued
  | prune (retentionDays retentionBytes : Nat)

inductive StoreReply where
  | workspace (workspace : Workspace)
  | execution (execution : Execution)
  | event (event : ExecutionEvent)
  | events (events : List ExecutionEvent)
  | count (count : Nat)

/-- The events that every caller of the store hands to `notify` after such a reply. -/
def StoreReply.notified : StoreReply → List ExecutionEvent
  | .event written => [written]
  | .events written => written
  | _ => []

/-- What comes from outside the engine. -/
inductive Input where
  | launched (result : Except String Unit)
  | frame (frame : Option (Except Error SupervisorEvent))
  | joined (result : Except Error Unit)
  | joinFailed (message : String)
  | waited (result : Except Error String)
  | resolved (cwd : Except Error String)
  | ready
  | timeout

/-- What a step leaves open: the clock, the fresh id, how the store fares and how it sorts, and
the input. -/
structure Choice where
  now : Int := 0
  later : Int := 0
  clock : ExecutionId → Int := fun _ => 0
  id : ExecutionId := ""
  conditions : Conditions := {}
  order : Database.EndOrder := .stable _
  input : Input := .ready

def StoreCall.program (c : Choice) : StoreCall → Store StoreReply
  | .getWorkspace identifier => do return .workspace (← Database.getWorkspace identifier)
  | .createExecution request cwd => do
      return .execution (← Database.createExecution c.now c.id request cwd)
  | .getExecution id => do return .execution (← Database.getExecution c.now id)
  | .markRunning id pid pgid => do return .event (← Database.markRunning c.now id pid pgid)
  | .finish id state outcome => do return .event (← Database.finish c.now id state outcome)
  | .cancelQueued => do return .events (← Database.cancelQueued c.clock)
  | .prune retentionDays retentionBytes => do
      return .count (← Database.prune c.order c.now retentionDays retentionBytes)

/-! ## Requests -/

/-- What a task or a call asks for at an await. -/
inductive Request where
  | store (call : StoreCall)
  | input
  | frame (id : ExecutionId)
  | started (id : ExecutionId)
  | acquire
  | lockLifecycle
  | lockTransitions
  | insertProcess (id : ExecutionId)
  | findProcess (id : ExecutionId)
  | removeProcess (id : ExecutionId)
  | listProcesses
  | clearProcesses
  | send (id : ExecutionId) (command : SupervisorCommand)
  | capture (message : CaptureMessage)
  | flushed (id : ExecutionId)
  | reportFatal (message : Option String)
  | spawnTask (id : ExecutionId) (request : ExecutionRequest) (cwd : String)
  | insertTask (id : ExecutionId)
  | removeTask (id : ExecutionId)
  | abortTasks
  | beginDrain
  | closeSlots
  | waitForIdle
  | stop

/-- The answer to a request; `closed` is a closed channel or semaphore. -/
inductive Reply where
  | stored (result : Except Error StoreReply)
  | input (input : Input)
  | done
  | closed
  | lifecycle (lifecycle : Lifecycle)
  | found (found : Bool)
  | ids (ids : List ExecutionId)
  | flushed (result : Except Error Unit)

namespace Reply

variable {α : Type}

def onDone (next : α) : Reply → Option α
  | .done => some next
  | _ => none

def onSent (sent closed : α) : Reply → Option α
  | .done => some sent
  | .closed => some closed
  | _ => none

def onStored (ok : StoreReply → α) (failed : Error → α) : Reply → Option α
  | .stored (.ok value) => some (ok value)
  | .stored (.error e) => some (failed e)
  | _ => none

def onExecution (ok : Execution → α) (failed : Error → α) : Reply → Option α
  | .stored (.ok (.execution current)) => some (ok current)
  | .stored (.error e) => some (failed e)
  | _ => none

def onInput (next : Input → Option α) : Reply → Option α
  | .input given => next given
  | _ => none

end Reply

/-! ## Tasks -/

/-- Why the last part of `run_execution` writes a terminal state: a Finished event, or its
absence with the supervisor's exit status. -/
inductive Ending where
  | received (outcome : ExecutionOutcome)
  | missing (status : String)
  deriving DecidableEq, Repr

/-- The outcome that is written (`src/executor.rs:281`, `src/executor.rs:318`). -/
def Ending.outcome : Ending → ExecutionOutcome
  | .received outcome => outcome
  | .missing status =>
      .interrupted ("loom-supervisor exited without a terminal event: " ++ status)

/-- The awaits of the task of an execution: those of `run_execution`
(`src/executor.rs:170`), then those of the block around it (`src/executor.rs:133`). -/
inductive TaskPoint where
  | starting
  | acquire
  | check
  | launch
  | launchFailed (message : String)
  | sendSpawn
  | registerLock
  | registerCheck
  | registerCancel
  | registerInsert
  | reading
  | startedLock (pid : Nat) (pgid : Int)
  | startedCheck (pid : Nat) (pgid : Int)
  | startedCancel
  | markRunning (pid : Nat) (pgid : Int)
  | capturing (record : CaptureRecord) (rest : List CaptureRecord)
  | barrier (ending : Ending)
  | flushed (ending : Ending)
  | finalCheck (ending : Ending)
  | finalFinish (ending : Ending)
  | removeProcess (receivedFinished : Bool)
  | joinControl (receivedFinished : Bool)
  | waitChild (receivedFinished : Bool)
  | prune
  | failed (error : Error)
  | failedCheck (error : Error)
  | failedFinish (error : Error)
  | cleanupProcess
  | cleanupTask
  | done
  | aborted

/-- The state of a task. The last three fields are not in the source: the frames read so
far, whether its Started event has been handled, and whether its stream has ended. -/
structure Task where
  request : ExecutionRequest
  cwd : String
  released : Bool := false
  point : TaskPoint := .starting
  captured : Nat := 0
  truncated : Bool := false
  received : List SupervisorEvent := []
  startedHandled : Bool := false
  streamEnded : Bool := false

/-- Where the code goes once the terminal state is written: a Finished event ends the loop. -/
def Ending.after : Ending → TaskPoint
  | .received _ => .removeProcess true
  | .missing _ => .prune

namespace TaskPoint

/-- Whether the code at this point holds the permit of `slots`. -/
def holdsPermit : TaskPoint → Bool
  | .starting | .acquire | .failed _ | .failedCheck _ | .failedFinish _ | .cleanupProcess
  | .cleanupTask | .done | .aborted => false
  | _ => true

/-- Whether the code at this point holds the lock `transitions`. -/
def holdsTransitions : TaskPoint → Bool
  | .registerCheck | .registerCancel | .registerInsert | .startedCheck .. | .startedCancel
  | .markRunning .. => true
  | _ => false

end TaskPoint

namespace Task

/-- What the task of `id` waits for. -/
def request? (settings : Settings) (id : ExecutionId) (t : Task) : Option Request :=
  match t.point with
  | .starting => some (.started id)
  | .acquire => some .acquire
  | .check => some (.store (.getExecution id))
  | .launch => some .input
  | .launchFailed message => some (.store (.finish id .finished
      (.spawnError ("could not start loom-supervisor: " ++ message))))
  | .sendSpawn => some (.send id (.spawn t.request.command t.cwd t.request.env
      t.request.stdinBase64 settings.shell settings.cancelGraceMs))
  | .registerLock => some .lockTransitions
  | .registerCheck => some (.store (.getExecution id))
  | .registerCancel => some (.send id .cancel)
  | .registerInsert => some (.insertProcess id)
  | .reading => some (.frame id)
  | .startedLock _ _ => some .lockTransitions
  | .startedCheck _ _ => some (.store (.getExecution id))
  | .startedCancel => some (.send id .cancel)
  | .markRunning pid pgid => some (.store (.markRunning id pid pgid))
  | .capturing record _ => some (.capture (.record record))
  | .barrier _ => some (.capture (.barrier id))
  | .flushed _ => some (.flushed id)
  | .finalCheck _ => some (.store (.getExecution id))
  | .finalFinish ending =>
      some (.store (.finish id ending.outcome.terminalState ending.outcome))
  | .removeProcess _ => some (.removeProcess id)
  | .joinControl _ => some .input
  | .waitChild _ => some .input
  | .prune => some (.store (.prune settings.retentionDays settings.retentionBytes))
  | .failed error => some (.reportFatal (match error with
      | .storageUnavailable _ => some error.toString
      | _ => none))
  | .failedCheck _ => some (.store (.getExecution id))
  | .failedFinish error =>
      some (.store (.finish id .interrupted (.interrupted error.toString)))
  | .cleanupProcess => some (.removeProcess id)
  | .cleanupTask => some (.removeTask id)
  | .done => none
  | .aborted => none

/-- Goes to a point. -/
def goto (t : Task) (point : TaskPoint) : Task := { t with point }

/-- The next record to send, or the next frame to read. -/
def capture (t : Task) : List CaptureRecord → Task
  | [] => t.goto .reading
  | record :: rest => t.goto (.capturing record rest)

/-- The body of the loop over the frames (`src/executor.rs:256`). -/
def receive (settings : Settings) (id : ExecutionId) (c : Choice) (t : Task) :
    Option (Except Error SupervisorEvent) → Task
  | none => { t with point := .removeProcess false, streamEnded := true }
  | some (.error e) => t.goto (.failed e)
  | some (.ok frame) =>
      let t := { t with received := t.received ++ [frame] }
      match frame with
      | .started pid pgid => t.goto (.startedLock pid pgid)
      | .output _ (.error e) => t.goto (.failed (.protocol ("invalid supervisor output: " ++ e)))
      | .output stream (.ok data) =>
          let captureLimit := t.request.captureLimitBytes.getD settings.captureLimitBytes
          let records :=
            captureOutput id c.now c.later stream data captureLimit t.captured t.truncated
          { t with captured := t.captured + data.length,
                   truncated := t.truncated ||
                     decide (min (captureLimit - t.captured) data.length < data.length)
            : Task }.capture records
      | .finished outcome => { t with point := .barrier (.received outcome), streamEnded := true }

/-- What the code does with the reply, up to the next await. -/
def next (settings : Settings) (id : ExecutionId) (c : Choice) (t : Task) (reply : Reply) :
    Option Task :=
  match t.point with
  | .starting => reply.onDone (t.goto .acquire)
  | .acquire => reply.onSent (t.goto .check) (t.goto .cleanupProcess)
  | .check => reply.onExecution
      (fun current => t.goto (if current.state.isTerminal then .cleanupProcess else .launch))
      (fun e => t.goto (.failed e))
  | .launch => reply.onInput fun
      | .launched (.ok ()) => some (t.goto .sendSpawn)
      | .launched (.error e) => some (t.goto (.launchFailed e))
      | _ => none
  | .launchFailed _ => reply.onStored (fun _ => t.goto .cleanupProcess) fun e => t.goto (.failed e)
  | .sendSpawn => reply.onSent (t.goto .registerLock)
      (t.goto (.failed (.protocol "supervisor control writer stopped")))
  | .registerLock => reply.onDone (t.goto .registerCheck)
  | .registerCheck => reply.onExecution
      (fun current =>
        t.goto (if current.state.isTerminal then .registerCancel else .registerInsert))
      (fun e => t.goto (.failed e))
  | .registerCancel => reply.onSent (t.goto .reading) (t.goto .reading)
  | .registerInsert => reply.onDone (t.goto .reading)
  | .reading => reply.onInput fun
      | .frame frame => some (t.receive settings id c frame)
      | _ => none
  | .startedLock pid pgid => reply.onDone (t.goto (.startedCheck pid pgid))
  | .startedCheck pid pgid => reply.onExecution
      (fun current =>
        t.goto (if current.state.isTerminal then .startedCancel else .markRunning pid pgid))
      (fun e => t.goto (.failed e))
  | .startedCancel => reply.onSent { t with point := .reading, startedHandled := true }
      { t with point := .reading, startedHandled := true }
  | .markRunning _ _ => reply.onStored
      (fun _ => { t with point := .reading, startedHandled := true })
      (fun e => t.goto (.failed e))
  | .capturing _ rest => reply.onDone (t.capture rest)
  | .barrier ending => reply.onDone (t.goto (.flushed ending))
  | .flushed ending =>
      match reply with
      | .flushed (.ok ()) => some (t.goto (.finalCheck ending))
      | .flushed (.error e) => some (t.goto (.failed e))
      | _ => none
  | .finalCheck ending => reply.onExecution
      (fun current =>
        t.goto (if current.state.isTerminal then ending.after else .finalFinish ending))
      (fun e => t.goto (.failed e))
  | .finalFinish ending => reply.onStored (fun _ => t.goto ending.after)
      (fun e => t.goto (.failed e))
  | .removeProcess receivedFinished => reply.onDone (t.goto (.joinControl receivedFinished))
  | .joinControl receivedFinished => reply.onInput fun
      | .joined (.ok ()) => some (t.goto (.waitChild receivedFinished))
      | .joined (.error e) =>
          some (t.goto (if receivedFinished then .waitChild true else .failed e))
      | .joinFailed e =>
          some (t.goto (.failed (.protocol ("supervisor control task failed: " ++ e))))
      | _ => none
  | .waitChild receivedFinished => reply.onInput fun
      | .waited (.ok status) =>
          some (t.goto (if receivedFinished then .prune else .barrier (.missing status)))
      | .waited (.error e) => some (t.goto (.failed e))
      | _ => none
  | .prune => reply.onStored (fun _ => t.goto .cleanupProcess) fun _ => t.goto .cleanupProcess
  | .failed e => reply.onDone (t.goto (.failedCheck e))
  | .failedCheck e => reply.onExecution
      (fun current =>
        t.goto (if current.state.isTerminal then .cleanupProcess else .failedFinish e))
      (fun _ => t.goto .cleanupProcess)
  | .failedFinish _ => reply.onStored (fun _ => t.goto .cleanupProcess)
      fun _ => t.goto .cleanupProcess
  | .cleanupProcess => reply.onDone (t.goto .cleanupTask)
  | .cleanupTask => reply.onDone (t.goto .done)
  | .done => none
  | .aborted => none

end Task

end Loomterm
