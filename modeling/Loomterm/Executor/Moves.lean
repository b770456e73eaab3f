import Loomterm.Executor.Steps

/-!
# The moves of tasks and calls

`Task.next` and `CallPoint.next` as relations: one constructor for each way in which the
code gets from one await to the next. The invariants of the engine go through these cases,
and read the guards and the replies from them.
-/

namespace Loomterm

namespace Reply

variable {α : Type} {value : α} {reply : Reply}

theorem onDone_eq_some {next : α} :
    reply.onDone next = some value ↔ reply = .done ∧ next = value := by
  cases reply <;> simp [onDone]

theorem onSent_eq_some {sent closed : α} : reply.onSent sent closed = some value ↔
    (reply = .done ∧ sent = value) ∨ (reply = .closed ∧ closed = value) := by
  cases reply <;> simp [onSent]

theorem onStored_eq_some {ok : StoreReply → α} {failed : Error → α} :
    reply.onStored ok failed = some value ↔
      (∃ stored, reply = .stored (.ok stored) ∧ ok stored = value) ∨
        ∃ e, reply = .stored (.error e) ∧ failed e = value := by
  unfold onStored
  split <;> simp_all

theorem onExecution_eq_some {ok : Execution → α} {failed : Error → α} :
    reply.onExecution ok failed = some value ↔
      (∃ current, reply = .stored (.ok (.execution current)) ∧ ok current = value) ∨
        ∃ e, reply = .stored (.error e) ∧ failed e = value := by
  unfold onExecution
  split <;> simp_all

theorem onInput_eq_some {next : Input → Option α} :
    reply.onInput next = some value ↔ ∃ input, reply = .input input ∧ next input = some value := by
  unfold onInput
  split <;> simp_all

end Reply

/-! ## Tasks -/

/-- The points at which an error of the store ends `run_execution`. -/
def TaskPoint.fallible : TaskPoint → Bool
  | .check | .launchFailed _ | .registerCheck | .startedCheck .. | .markRunning .. | .finalCheck _
  | .finalFinish _ => true
  | _ => false

/-- The points at which another error ends it. -/
def TaskPoint.breakable : TaskPoint → Bool
  | .sendSpawn | .flushed _ | .joinControl _ | .waitChild _ => true
  | _ => false

/-- How the code of the task of `id` goes on. -/
inductive TaskMove (settings : Settings) (id : ExecutionId) (c : Choice) (t : Task) :
    Reply → Task → Prop
  | begun : t.point = .starting → TaskMove settings id c t .done (t.goto .acquire)
  | acquired : t.point = .acquire → TaskMove settings id c t .done (t.goto .check)
  | refused : t.point = .acquire → TaskMove settings id c t .closed (t.goto .cleanupProcess)
  | checked {current : Execution} : t.point = .check → current.state.isTerminal = false →
      TaskMove settings id c t (.stored (.ok (.execution current))) (t.goto .launch)
  | skipped {current : Execution} : t.point = .check → current.state.isTerminal = true →
      TaskMove settings id c t (.stored (.ok (.execution current))) (t.goto .cleanupProcess)
  | launched : t.point = .launch →
      TaskMove settings id c t (.input (.launched (.ok ()))) (t.goto .sendSpawn)
  | notLaunched {e : String} : t.point = .launch →
      TaskMove settings id c t (.input (.launched (.error e))) (t.goto (.launchFailed e))
  | launchReported {e : String} {stored : StoreReply} : t.point = .launchFailed e →
      TaskMove settings id c t (.stored (.ok stored)) (t.goto .cleanupProcess)
  | spawned : t.point = .sendSpawn → TaskMove settings id c t .done (t.goto .registerLock)
  | registering : t.point = .registerLock →
      TaskMove settings id c t .done (t.goto .registerCheck)
  | registerLive {current : Execution} : t.point = .registerCheck →
      current.state.isTerminal = false →
      TaskMove settings id c t (.stored (.ok (.execution current))) (t.goto .registerInsert)
  | registerOver {current : Execution} : t.point = .registerCheck →
      current.state.isTerminal = true →
      TaskMove settings id c t (.stored (.ok (.execution current))) (t.goto .registerCancel)
  | registerCancelled {reply : Reply} : t.point = .registerCancel →
      reply = .done ∨ reply = .closed → TaskMove settings id c t reply (t.goto .reading)
  | registered : t.point = .registerInsert → TaskMove settings id c t .done (t.goto .reading)
  | frame {frame : Option (Except Error SupervisorEvent)} : t.point = .reading →
      TaskMove settings id c t (.input (.frame frame)) (t.receive settings id c frame)
  | starting {pid : Nat} {pgid : Int} : t.point = .startedLock pid pgid →
      TaskMove settings id c t .done (t.goto (.startedCheck pid pgid))
  | startedLive {pid : Nat} {pgid : Int} {current : Execution} : t.point = .startedCheck pid pgid →
      current.state.isTerminal = false →
      TaskMove settings id c t (.stored (.ok (.execution current))) (t.goto (.markRunning pid pgid))
  | startedOver {pid : Nat} {pgid : Int} {current : Execution} : t.point = .startedCheck pid pgid →
      current.state.isTerminal = true →
      TaskMove settings id c t (.stored (.ok (.execution current))) (t.goto .startedCancel)
  | startedCancelled {reply : Reply} : t.point = .startedCancel →
      reply = .done ∨ reply = .closed →
      TaskMove settings id c t reply { t with point := .reading, startedHandled := true }
  | running {pid : Nat} {pgid : Int} {stored : StoreReply} : t.point = .markRunning pid pgid →
      TaskMove settings id c t (.stored (.ok stored))
        { t with point := .reading, startedHandled := true }
  | captured {record : CaptureRecord} {rest : List CaptureRecord} :
      t.point = .capturing record rest → TaskMove settings id c t .done (t.capture rest)
  | flushing {ending : Ending} : t.point = .barrier ending →
      TaskMove settings id c t .done (t.goto (.flushed ending))
  | flushed {ending : Ending} : t.point = .flushed ending →
      TaskMove settings id c t (.flushed (.ok ())) (t.goto (.finalCheck ending))
  | finalLive {ending : Ending} {current : Execution} : t.point = .finalCheck ending →
      current.state.isTerminal = false →
      TaskMove settings id c t (.stored (.ok (.execution current))) (t.goto (.finalFinish ending))
  | finalOver {ending : Ending} {current : Execution} : t.point = .finalCheck ending →
      current.state.isTerminal = true →
      TaskMove settings id c t (.stored (.ok (.execution current))) (t.goto ending.after)
  | finished {ending : Ending} {stored : StoreReply} : t.point = .finalFinish ending →
      TaskMove settings id c t (.stored (.ok stored)) (t.goto ending.after)
  | removed {receivedFinished : Bool} : t.point = .removeProcess receivedFinished →
      TaskMove settings id c t .done (t.goto (.joinControl receivedFinished))
  | joined {receivedFinished : Bool} {reply : Reply} : t.point = .joinControl receivedFinished →
      TaskMove settings id c t reply (t.goto (.waitChild receivedFinished))
  | reaped {reply : Reply} : t.point = .waitChild true →
      TaskMove settings id c t reply (t.goto .prune)
  | missing {status : String} : t.point = .waitChild false →
      TaskMove settings id c t (.input (.waited (.ok status)))
        (t.goto (.barrier (.missing status)))
  | pruned {result : Except Error StoreReply} : t.point = .prune →
      TaskMove settings id c t (.stored result) (t.goto .cleanupProcess)
  | storeFailed {e : Error} : t.point.fallible = true →
      TaskMove settings id c t (.stored (.error e)) (t.goto (.failed e))
  | broke {reply : Reply} {e : Error} : t.point.breakable = true →
      TaskMove settings id c t reply (t.goto (.failed e))
  | reported {e : Error} : t.point = .failed e →
      TaskMove settings id c t .done (t.goto (.failedCheck e))
  | failedLive {e : Error} {current : Execution} : t.point = .failedCheck e →
      current.state.isTerminal = false →
      TaskMove settings id c t (.stored (.ok (.execution current))) (t.goto (.failedFinish e))
  | failedOver {e : Error} {current : Execution} : t.point = .failedCheck e →
      current.state.isTerminal = true →
      TaskMove settings id c t (.stored (.ok (.execution current))) (t.goto .cleanupProcess)
  | failedUnread {e e' : Error} : t.point = .failedCheck e →
      TaskMove settings id c t (.stored (.error e')) (t.goto .cleanupProcess)
  | failedFinished {e : Error} {result : Except Error StoreReply} : t.point = .failedFinish e →
      TaskMove settings id c t (.stored result) (t.goto .cleanupProcess)
  | cleaned : t.point = .cleanupProcess → TaskMove settings id c t .done (t.goto .cleanupTask)
  | ended : t.point = .cleanupTask → TaskMove settings id c t .done (t.goto .done)

/-- The points that the code can get to from a frame. -/
def TaskPoint.afterFrame : TaskPoint → Bool
  | .removeProcess false | .failed _ | .startedLock .. | .barrier (.received _) | .reading
  | .capturing .. => true
  | _ => false

theorem Task.capture_afterFrame (t : Task) (records : List CaptureRecord) :
    (t.capture records).point.afterFrame = true := by
  cases records <;> rfl

theorem Task.receive_afterFrame (settings : Settings) (id : ExecutionId) (c : Choice) (t : Task)
    (frame : Option (Except Error SupervisorEvent)) :
    (t.receive settings id c frame).point.afterFrame = true := by
  cases frame with
  | none => rfl
  | some frame =>
    cases frame with
    | error e => rfl
    | ok event =>
      cases event with
      | started pid pgid => rfl
      | finished outcome => rfl
      | output stream data =>
        cases data with
        | error e => rfl
        | ok data => exact Task.capture_afterFrame _ _

/-- Where a task goes depends on whether its execution is over. -/
theorem TaskMove.of_state {settings : Settings} {id : ExecutionId} {c : Choice} {t : Task}
    {past onward : TaskPoint} {current : Execution}
    (isOver : current.state.isTerminal = true →
      TaskMove settings id c t (.stored (.ok (.execution current))) (t.goto past))
    (live : current.state.isTerminal = false →
      TaskMove settings id c t (.stored (.ok (.execution current))) (t.goto onward)) :
    TaskMove settings id c t (.stored (.ok (.execution current)))
      (t.goto (if current.state.isTerminal then past else onward)) := by
  by_cases terminal : current.state.isTerminal = true
  · rw [if_pos terminal]
    exact isOver terminal
  · rw [if_neg terminal]
    exact live (Bool.eq_false_iff.mpr terminal)

section

variable {settings : Settings} {id : ExecutionId} {c : Choice} {t t' : Task} {reply : Reply}

theorem Task.launch_move (point : t.point = .launch)
    (next : t.next settings id c reply = some t') : TaskMove settings id c t reply t' := by
  simp only [Task.next, point, Reply.onInput_eq_some] at next
  obtain ⟨input, rfl, next⟩ := next
  split at next
  · cases next
    exact .launched point
  · cases next
    exact .notLaunched point
  · cases next

theorem Task.flushed_move {ending : Ending} (point : t.point = .flushed ending)
    (next : t.next settings id c reply = some t') : TaskMove settings id c t reply t' := by
  simp only [Task.next, point] at next
  split at next
  · cases next
    exact .flushed point
  · cases next
    exact .broke (by rw [point]; rfl)
  · cases next

/-- An error of the reader counts only where no Finished event was received. -/
theorem Task.joinControl_move {receivedFinished : Bool}
    (point : t.point = .joinControl receivedFinished)
    (next : t.next settings id c reply = some t') : TaskMove settings id c t reply t' := by
  simp only [Task.next, point, Reply.onInput_eq_some] at next
  obtain ⟨input, rfl, next⟩ := next
  split at next
  · cases next
    exact .joined point
  · cases next
    by_cases received : receivedFinished = true
    · subst received
      exact .joined point
    · rw [if_neg received]
      exact .broke (by rw [point]; rfl)
  · cases next
    exact .broke (by rw [point]; rfl)
  · cases next

theorem Task.waitChild_move {receivedFinished : Bool}
    (point : t.point = .waitChild receivedFinished)
    (next : t.next settings id c reply = some t') : TaskMove settings id c t reply t' := by
  simp only [Task.next, point, Reply.onInput_eq_some] at next
  obtain ⟨input, rfl, next⟩ := next
  split at next
  · cases next
    cases receivedFinished with
    | true => exact .reaped point
    | false => exact .missing point
  · cases next
    exact .broke (by rw [point]; rfl)
  · cases next

/-- The relation has every move of the code. -/
theorem Task.next_move (next : t.next settings id c reply = some t') :
    TaskMove settings id c t reply t' := by
  cases point : t.point
  case launch => exact launch_move point next
  case flushed ending => exact flushed_move point next
  case joinControl receivedFinished => exact joinControl_move point next
  case waitChild receivedFinished => exact waitChild_move point next
  all_goals
    simp only [Task.next, point, Reply.onDone_eq_some, Reply.onSent_eq_some,
      Reply.onStored_eq_some, Reply.onExecution_eq_some, Reply.onInput_eq_some] at next
  case starting =>
    obtain ⟨rfl, rfl⟩ := next
    exact .begun point
  case acquire =>
    rcases next with ⟨rfl, rfl⟩ | ⟨rfl, rfl⟩
    · exact .acquired point
    · exact .refused point
  case check =>
    rcases next with ⟨current, rfl, rfl⟩ | ⟨e, rfl, rfl⟩
    · exact .of_state (.skipped point) (.checked point)
    · exact .storeFailed (by rw [point]; rfl)
  case launchFailed message =>
    rcases next with ⟨stored, rfl, rfl⟩ | ⟨e, rfl, rfl⟩
    · exact .launchReported point
    · exact .storeFailed (by rw [point]; rfl)
  case sendSpawn =>
    rcases next with ⟨rfl, rfl⟩ | ⟨rfl, rfl⟩
    · exact .spawned point
    · exact .broke (by rw [point]; rfl)
  case registerLock =>
    obtain ⟨rfl, rfl⟩ := next
    exact .registering point
  case registerCheck =>
    rcases next with ⟨current, rfl, rfl⟩ | ⟨e, rfl, rfl⟩
    · exact .of_state (.registerOver point) (.registerLive point)
    · exact .storeFailed (by rw [point]; rfl)
  case registerCancel =>
    rcases next with ⟨rfl, rfl⟩ | ⟨rfl, rfl⟩
    · exact .registerCancelled point (.inl rfl)
    · exact .registerCancelled point (.inr rfl)
  case registerInsert =>
    obtain ⟨rfl, rfl⟩ := next
    exact .registered point
  case reading =>
    obtain ⟨input, rfl, next⟩ := next
    split at next
    · cases next
      exact .frame point
    · cases next
  case startedLock pid pgid =>
    obtain ⟨rfl, rfl⟩ := next
    exact .starting point
  case startedCheck pid pgid =>
    rcases next with ⟨current, rfl, rfl⟩ | ⟨e, rfl, rfl⟩
    · exact .of_state (.startedOver point) (.startedLive point)
    · exact .storeFailed (by rw [point]; rfl)
  case startedCancel =>
    rcases next with ⟨rfl, rfl⟩ | ⟨rfl, rfl⟩
    · exact .startedCancelled point (.inl rfl)
    · exact .startedCancelled point (.inr rfl)
  case markRunning pid pgid =>
    rcases next with ⟨stored, rfl, rfl⟩ | ⟨e, rfl, rfl⟩
    · exact .running point
    · exact .storeFailed (by rw [point]; rfl)
  case capturing record rest =>
    obtain ⟨rfl, rfl⟩ := next
    exact .captured point
  case barrier ending =>
    obtain ⟨rfl, rfl⟩ := next
    exact .flushing point
  case finalCheck ending =>
    rcases next with ⟨current, rfl, rfl⟩ | ⟨e, rfl, rfl⟩
    · exact .of_state (.finalOver point) (.finalLive point)
    · exact .storeFailed (by rw [point]; rfl)
  case finalFinish ending =>
    rcases next with ⟨stored, rfl, rfl⟩ | ⟨e, rfl, rfl⟩
    · exact .finished point
    · exact .storeFailed (by rw [point]; rfl)
  case removeProcess receivedFinished =>
    obtain ⟨rfl, rfl⟩ := next
    exact .removed point
  case prune =>
    rcases next with ⟨stored, rfl, rfl⟩ | ⟨e, rfl, rfl⟩
    · exact .pruned point
    · exact .pruned point
  case failed e =>
    obtain ⟨rfl, rfl⟩ := next
    exact .reported point
  case failedCheck e =>
    rcases next with ⟨current, rfl, rfl⟩ | ⟨e', rfl, rfl⟩
    · exact .of_state (.failedOver point) (.failedLive point)
    · exact .failedUnread point
  case failedFinish e =>
    rcases next with ⟨stored, rfl, rfl⟩ | ⟨e', rfl, rfl⟩
    · exact .failedFinished point
    · exact .failedFinished point
  case cleanupProcess =>
    obtain ⟨rfl, rfl⟩ := next
    exact .cleaned point
  case cleanupTask =>
    obtain ⟨rfl, rfl⟩ := next
    exact .ended point
  case done => cases next
  case aborted => cases next

end

/-! ## Calls -/

/-- How the code of a call goes on. A call may return from everywhere. -/
inductive CallMove : CallPoint → Reply → CallPoint → Prop
  | returned {point : CallPoint} {reply : Reply} {result : Except Error (Option Execution)} :
      CallMove point reply (.returned result)
  | accepted {request : ExecutionRequest} :
      CallMove (.executeLock request) (.lifecycle .accepting) (.executeWorkspace request)
  | workspace {request : ExecutionRequest} {workspace : Workspace} :
      CallMove (.executeWorkspace request) (.stored (.ok (.workspace workspace)))
        (.executeResolve { request with workspaceId := workspace.id })
  | resolved {request : ExecutionRequest} {cwd : String} :
      CallMove (.executeResolve request) (.input (.resolved (.ok cwd)))
        (.executeCreate request cwd)
  | created {request : ExecutionRequest} {cwd : String} {execution : Execution} :
      CallMove (.executeCreate request cwd) (.stored (.ok (.execution execution)))
        (.executeSpawn execution request cwd)
  | spawned {request : ExecutionRequest} {cwd : String} {execution : Execution} :
      CallMove (.executeSpawn execution request cwd) .done (.executeInsert execution)
  | cancelling {id : ExecutionId} : CallMove (.cancelLock id) .done (.cancelGet id)
  | got {id : ExecutionId} {execution : Execution} :
      CallMove (.cancelGet id) (.stored (.ok (.execution execution)))
        (.cancelFind id execution.state)
  | foundQueued {id : ExecutionId} {control : Bool} :
      CallMove (.cancelFind id .queued) (.found control) (.cancelFinish id control)
  | foundRunning {id : ExecutionId} :
      CallMove (.cancelFind id .running) (.found true) (.cancelRunning id)
  | finishedControlled {id : ExecutionId} {stored : StoreReply} :
      CallMove (.cancelFinish id true) (.stored (.ok stored)) (.cancelSend id)
  | finishedAlone {id : ExecutionId} {stored : StoreReply} :
      CallMove (.cancelFinish id false) (.stored (.ok stored)) (.cancelWait id)
  | told {id : ExecutionId} {reply : Reply} : CallMove (.cancelSend id) reply (.cancelWait id)
  | cancelled {id : ExecutionId} : CallMove (.cancelRunning id) .done (.cancelWait id)
  | woken {id : ExecutionId} : CallMove (.cancelWait id) (.input .ready) (.cancelRead id)
  | unfinished {id : ExecutionId} {reply : Reply} :
      CallMove (.cancelRead id) reply (.cancelWait id)
  | draining {lifecycle : Lifecycle} : lifecycle ≠ .stopped →
      CallMove .drainBegin (.lifecycle lifecycle) .drainClose
  | closed : CallMove .drainClose .done .drainLock
  | entered : CallMove .drainLock .done .drainCancelQueued
  | swept {stored : StoreReply} : CallMove .drainCancelQueued (.stored (.ok stored)) .drainList
  | listed {ids : List ExecutionId} :
      CallMove .drainList (.ids ids) (CallPoint.sendAll ids)
  | sent {id : ExecutionId} {rest : List ExecutionId} {reply : Reply} :
      reply = .done ∨ reply = .closed →
      CallMove (.drainSend id rest) reply (CallPoint.sendAll rest)
  | idle : CallMove .drainWait (.input .ready) .drainStop
  | impatient : CallMove .drainWait (.input .timeout) .drainClear
  | cleared : CallMove .drainClear .done .drainAbort
  | aborted : CallMove .drainAbort .done .drainSettle
  | settled {reply : Reply} : CallMove .drainSettle reply .drainStop

/-- The points of `drain` behind the lifecycle's change. -/
def CallPoint.drains : CallPoint → Bool
  | .drainClose | .drainLock | .drainCancelQueued | .drainList | .drainSend .. | .drainWait
  | .drainClear | .drainAbort | .drainSettle | .drainStop => true
  | _ => false

theorem CallPoint.drain_move {point point' : CallPoint} {reply : Reply}
    (draining : point.drains = true) (next : point.next reply = some point') :
    CallMove point reply point' := by
  cases point <;> first
    | cases draining; done
    | simp only [CallPoint.next, Reply.onDone_eq_some, Reply.onSent_eq_some,
        Reply.onStored_eq_some, Reply.onInput_eq_some] at next
  case drainClose =>
    obtain ⟨rfl, rfl⟩ := next
    exact .closed
  case drainLock =>
    obtain ⟨rfl, rfl⟩ := next
    exact .entered
  case drainCancelQueued =>
    rcases next with ⟨stored, rfl, rfl⟩ | ⟨e, rfl, rfl⟩
    · exact .swept
    · exact .returned
  case drainList =>
    split at next
    · cases next
      exact .listed
    · cases next
  case drainSend id rest =>
    rcases next with ⟨rfl, rfl⟩ | ⟨rfl, rfl⟩
    · exact .sent (.inl rfl)
    · exact .sent (.inr rfl)
  case drainWait =>
    obtain ⟨input, rfl, next⟩ := next
    split at next
    · cases next
      exact .idle
    · cases next
      exact .impatient
    · cases next
  case drainClear =>
    obtain ⟨rfl, rfl⟩ := next
    exact .cleared
  case drainAbort =>
    obtain ⟨rfl, rfl⟩ := next
    exact .aborted
  case drainSettle =>
    obtain ⟨input, rfl, next⟩ := next
    split at next
    · cases next
      exact .settled
    · cases next
      exact .settled
    · cases next
  case drainStop =>
    obtain ⟨rfl, rfl⟩ := next
    exact .returned

/-- An execution that is over is left alone; a running one is cancelled by its handle. -/
theorem CallPoint.cancelFind_move {id : ExecutionId} {state : ExecutionState} {point' : CallPoint}
    {reply : Reply} (next : (CallPoint.cancelFind id state).next reply = some point') :
    CallMove (.cancelFind id state) reply point' := by
  simp only [CallPoint.next] at next
  split at next
  · split at next
    · cases next
      exact .foundQueued
    · split at next
      · rename_i control present
        cases next
        rw [present]
        exact .foundRunning
      · cases next
        exact .returned
    · cases next
      exact .returned
  · cases next

/-- The relation has every move of the code. -/
theorem CallPoint.next_move {point point' : CallPoint} {reply : Reply}
    (next : point.next reply = some point') : CallMove point reply point' := by
  by_cases draining : point.drains = true
  · exact drain_move draining next
  cases point
  case cancelFind id state => exact cancelFind_move next
  all_goals
    first
      | exact absurd rfl draining
      | simp only [CallPoint.next, Reply.onDone_eq_some, Reply.onSent_eq_some,
          Reply.onStored_eq_some, Reply.onExecution_eq_some, Reply.onInput_eq_some] at next
  case executeLock request =>
    split at next
    · cases next
      exact .accepted
    · cases next
      exact .returned
    · cases next
  case executeWorkspace request =>
    split at next
    · cases next
      exact .workspace
    · cases next
      exact .returned
    · cases next
  case executeResolve request =>
    obtain ⟨input, rfl, next⟩ := next
    split at next
    · cases next
      exact .resolved
    · cases next
      exact .returned
    · cases next
  case executeCreate request cwd =>
    rcases next with ⟨execution, rfl, rfl⟩ | ⟨e, rfl, rfl⟩
    · exact .created
    · exact .returned
  case executeSpawn execution request cwd =>
    obtain ⟨rfl, rfl⟩ := next
    exact .spawned
  case executeInsert execution =>
    obtain ⟨rfl, rfl⟩ := next
    exact .returned
  case cancelLock id =>
    obtain ⟨rfl, rfl⟩ := next
    exact .cancelling
  case cancelGet id =>
    rcases next with ⟨execution, rfl, rfl⟩ | ⟨e, rfl, rfl⟩
    · exact .got
    · exact .returned
  case cancelFinish id control =>
    rcases next with ⟨stored, rfl, rfl⟩ | ⟨e, rfl, rfl⟩
    · cases control with
      | true => exact .finishedControlled
      | false => exact .finishedAlone
    · exact .returned
  case cancelSend id =>
    rcases next with ⟨rfl, rfl⟩ | ⟨rfl, rfl⟩
    · exact .told
    · exact .told
  case cancelRunning id =>
    rcases next with ⟨rfl, rfl⟩ | ⟨rfl, rfl⟩
    · exact .cancelled
    · exact .returned
  case cancelWait id =>
    obtain ⟨input, rfl, next⟩ := next
    split at next
    · cases next
      exact .woken
    · cases next
      exact .returned
    · cases next
  case cancelRead id =>
    rcases next with ⟨execution, rfl, rfl⟩ | ⟨e, rfl, rfl⟩
    · by_cases terminal : execution.state.isTerminal = true
      · rw [if_pos terminal]
        exact .returned
      · rw [if_neg terminal]
        exact .unfinished
    · exact .returned
  case drainBegin =>
    split at next
    · cases next
      exact .returned
    · rename_i different
      cases next
      exact .draining different
    · cases next
  case returned result => cases next

end Loomterm
