import Loomterm.Executor.Concurrency

/-!
# The handle of a running execution

`cancel` reaches a supervisor through the handle that its task registers in `processes`. The
task gives the handle up when the stream of events ends: behind a Finished event the record is
terminal by then, but where the event is missing it is written only after the control writer
has been joined, the supervisor waited for and the capture flushed. `running_cancellable` says
that a running execution has its handle as long as no stream ends like that, and that a cancel
then finds it, if it looks before the task gives it up.
-/

namespace Loomterm

open Database

/-- The points between registering and giving up the handle. -/
def TaskPoint.attached : TaskPoint → Bool
  | .reading | .startedLock .. | .startedCheck .. | .startedCancel | .markRunning ..
  | .capturing .. | .barrier (.received _) | .flushed (.received _) | .finalCheck (.received _)
  | .finalFinish (.received _) => true
  | _ => false

/-- The points behind giving up the handle. -/
def TaskPoint.detached : TaskPoint → Bool
  | .joinControl _ | .waitChild _ | .barrier (.missing _) | .flushed (.missing _)
  | .finalCheck (.missing _) | .finalFinish (.missing _) | .prune | .cleanupProcess
  | .cleanupTask | .done => true
  | _ => false

/-- The points of a task that has failed or was dropped, up to its clean-up. -/
def TaskPoint.lost : TaskPoint → Bool
  | .failed _ | .failedCheck _ | .failedFinish _ | .aborted => true
  | _ => false

section

variable {settings : Settings} {id : ExecutionId} {c : Choice} {t t' : Task} {reply : Reply}

theorem Task.capture_attached (t : Task) (records : List CaptureRecord) :
    (t.capture records).point.attached = true := by
  cases records <;> rfl

/-- A frame ends the stream, fails the task, or leaves it attached. -/
theorem Task.receive_attached (settings : Settings) (id : ExecutionId) (c : Choice) (t : Task)
    (frame : Option (Except Error SupervisorEvent)) :
    (t.receive settings id c frame).point.attached = true ∨
      (t.receive settings id c frame).point.isFailed = true ∨
      frame = none ∧ (t.receive settings id c frame).point = .removeProcess false := by
  cases frame with
  | none => exact .inr (.inr ⟨rfl, rfl⟩)
  | some frame =>
    cases frame with
    | error e => exact .inr (.inl rfl)
    | ok event =>
      cases event with
      | started pid pgid => exact .inl rfl
      | finished outcome => exact .inl rfl
      | output stream data =>
        cases data with
        | error e => exact .inr (.inl rfl)
        | ok data => exact .inl (Task.capture_attached _ _)

theorem TaskPoint.attached_facts {point : TaskPoint} (attached : point.attached = true) :
    point.lost = false ∧ point.isFailed = false ∧ point.detached = false ∧
      point ≠ .registerCancel := by
  cases point with
  | barrier ending | flushed ending | finalCheck ending | finalFinish ending =>
    cases ending with
    | received outcome => exact ⟨rfl, rfl, rfl, by rintro ⟨⟩⟩
    | missing status => cases attached
  | reading | startedLock | startedCheck | startedCancel | markRunning | capturing =>
    exact ⟨rfl, rfl, rfl, by rintro ⟨⟩⟩
  | _ => cases attached

/-- Only inside `run_execution` a task fails. -/
theorem TaskMove.failed_holds (move : TaskMove settings id c t reply t')
    (failed : t'.point.isFailed = true) : t.point.holdsPermit = true := by
  cases move with
  | storeFailed fallible =>
    cases point : t.point <;> rw [point] at fallible <;> first | rfl | cases fallible
  | broke breakable =>
    cases point : t.point <;> rw [point] at breakable <;> first | rfl | cases breakable
  | frame point => rw [point]; rfl
  | captured point => rw [point]; rfl
  | finalOver point => rw [point]; rfl
  | finished point => rw [point]; rfl
  | _ => cases failed

theorem TaskMove.lost (move : TaskMove settings id c t reply t') (lost : t'.point.lost = true) :
    t'.point.isFailed = true ∨ t.point.lost = true := by
  cases move with
  | storeFailed => exact .inl rfl
  | broke => exact .inl rfl
  | @frame given =>
    rcases Task.receive_attached settings id c t given with attached | failed | ⟨-, point⟩
    · rw [(TaskPoint.attached_facts attached).1] at lost
      cases lost
    · exact .inl failed
    · rw [point] at lost
      cases lost
  | @captured _ rest =>
    rw [(TaskPoint.attached_facts (Task.capture_attached t rest)).1] at lost
    cases lost
  | @finalOver ending | @finished ending => cases ending <;> cases lost
  | reported point => rw [point]; exact .inr rfl
  | failedLive point => rw [point]; exact .inr rfl
  | _ => cases lost

/-- The handle is given up by an error, at the end of the stream, or behind a terminal state. -/
theorem TaskMove.detaches (move : TaskMove settings id c t reply t')
    (attached : t.point.attached = true) (left : t'.point.attached = false) :
    t'.point.isFailed = true ∨
      (t.point = .reading ∧ reply = .input (.frame none)) ∨
      (∃ ending current, t.point = .finalCheck ending ∧
        reply = .stored (.ok (.execution current)) ∧ current.state.isTerminal = true) ∨
      ∃ ending stored, t.point = .finalFinish ending ∧ reply = .stored (.ok stored) := by
  cases move with
  | storeFailed => exact .inl rfl
  | broke => exact .inl rfl
  | @frame given point =>
    rcases Task.receive_attached settings id c t given with still | failed | ⟨rfl, -⟩
    · rw [still] at left
      cases left
    · exact .inl failed
    · exact .inr (.inl ⟨point, rfl⟩)
  | @captured _ rest =>
    rw [Task.capture_attached t rest] at left
    cases left
  | finalOver point terminal => exact .inr (.inr (.inl ⟨_, _, point, rfl, terminal⟩))
  | finished point => exact .inr (.inr (.inr ⟨_, _, point, rfl⟩))
  | @flushing ending point | @flushed ending point | @finalLive ending _ point =>
    cases ending with
    | received => cases left
    | missing =>
      rw [point] at attached
      cases attached
  | starting | startedLive | startedOver | startedCancelled | running => cases left
  | begun point | acquired point | refused point | checked point | skipped point
  | launched point | notLaunched point | launchReported point | spawned point
  | registering point | registerLive point | registerOver point | registerCancelled point
  | registered point | removed point | joined point | reaped point | missing point
  | pruned point | reported point | failedLive point | failedOver point | failedUnread point
  | failedFinished point | cleaned point | ended point =>
    rw [point] at attached
    cases attached

/-- A task becomes attached when its handle is registered, or refused with a Cancel. -/
theorem TaskMove.attaches (move : TaskMove settings id c t reply t')
    (attached : t'.point.attached = true) :
    t.point.attached = true ∨ t.point = .registerInsert ∨ t.point = .registerCancel := by
  cases move with
  | registered point => exact .inr (.inl point)
  | registerCancelled point => exact .inr (.inr point)
  | frame point | starting point | startedLive point | startedOver point
  | startedCancelled point | running point | captured point =>
    rw [point]
    exact .inl rfl
  | @flushing ending point | @flushed ending point | @finalLive ending _ point =>
    cases ending with
    | received =>
      rw [point]
      exact .inl rfl
    | missing => cases attached
  | @finalOver ending | @finished ending => cases ending <;> cases attached
  | _ => cases attached

theorem TaskMove.registerCancel (move : TaskMove settings id c t reply t')
    (point' : t'.point = .registerCancel) :
    ∃ current, t.point = .registerCheck ∧ reply = .stored (.ok (.execution current)) ∧
      current.state.isTerminal = true := by
  cases move with
  | registerOver point terminal => exact ⟨_, point, rfl, terminal⟩
  | @frame given =>
    rcases Task.receive_attached settings id c t given with attached | failed | ⟨-, point⟩
    · exact ((TaskPoint.attached_facts attached).2.2.2 point').elim
    · rw [point'] at failed
      cases failed
    · rw [point] at point'
      cases point'
  | @captured _ rest =>
    exact ((TaskPoint.attached_facts (Task.capture_attached t rest)).2.2.2 point').elim
  | @finalOver ending | @finished ending => cases ending <;> cases point'
  | _ => cases point'

/-- What is given up stays so. -/
theorem TaskMove.detached (move : TaskMove settings id c t reply t')
    (gone : t.point.detached = true ∨ ∃ received, t.point = .removeProcess received) :
    t'.point.isFailed = true ∨ t'.point.detached = true := by
  cases move with
  | storeFailed => exact .inl rfl
  | broke => exact .inl rfl
  | removed | joined | reaped | missing | pruned | cleaned | ended => exact .inr rfl
  | @flushing ending point | @flushed ending point | @finalLive ending _ point
  | @finalOver ending _ point | @finished ending _ point =>
    rw [point] at gone
    cases ending with
    | missing => exact .inr rfl
    | received => rcases gone with gone | ⟨_, gone⟩ <;> cases gone
  | begun point | acquired point | refused point | checked point | skipped point
  | launched point | notLaunched point | launchReported point | spawned point
  | registering point | registerLive point | registerOver point | registerCancelled point
  | registered point | frame point | starting point | startedLive point | startedOver point
  | startedCancelled point | running point | captured point | reported point
  | failedLive point | failedOver point | failedUnread point | failedFinished point =>
    rw [point] at gone
    rcases gone with gone | ⟨_, gone⟩ <;> cases gone

end

/-- The end of a stream. -/
def Input.endsStream : Input → Bool
  | .frame none => true
  | _ => false

def TaskPoint.isReading : TaskPoint → Bool
  | .reading => true
  | _ => false

/-- The point at which a drain that has waited long enough forgets the handles. -/
def CallPoint.forgets : CallPoint → Bool
  | .drainClear => true
  | _ => false

/-- The point at which a cancel that has read that `x` is running looks for its handle. -/
def CallPoint.seeks (x : ExecutionId) : CallPoint → Bool
  | .cancelFind id .running => id = x
  | _ => false

/-- The points at which a call may begin. -/
def CallPoint.isFirst : CallPoint → Bool
  | .executeLock _ | .cancelLock _ | .drainBegin | .returned _ => true
  | _ => false

namespace Engine

/-- The stream of `x` ends without a Finished event. -/
def breaksOff (e : Engine) (x : ExecutionId) (c : Choice) : Bool :=
  (e.tasks x).any (·.point.isReading) && c.input.endsStream

/-- The task of `x` does not fail, and its stream does not end without a Finished event while
`x` is running; a cancel that has read that `x` is running does not look for its handle after
the task has given it up; and no drain forgets the handles. -/
def Minds (x : ExecutionId) (e : Engine) : Action → Prop
  | .task y c => y = x → e.fails x c = false ∧ (e.breaksOff x c = true →
      (e.db.executions.find? x).any (fun row => row.state = .running) = false)
  | .call n _ => (e.calls n).any (·.forgets) = false ∧
      ((e.calls n).any (·.seeks x) = true → (e.tasks x).any (·.point.detached) = false)
  | _ => True

instance (x : ExecutionId) (e : Engine) : (a : Action) → Decidable (e.Minds x a)
  | .task y c => inferInstanceAs (Decidable (y = x → e.fails x c = false ∧
      (e.breaksOff x c = true →
        (e.db.executions.find? x).any (fun row => row.state = .running) = false)))
  | .call n _ => inferInstanceAs (Decidable ((e.calls n).any (·.forgets) = false ∧
      ((e.calls n).any (·.seeks x) = true → (e.tasks x).any (·.point.detached) = false)))
  | .begin .. | .writer _ | .control .. | .abort _ | .orphan .. | .restart _ =>
    inferInstanceAs (Decidable True)

variable {e e' : Engine} {a : Action} {c : Choice} {x : ExecutionId} {n : Nat}
  {request : Request}

/-! ## The map of processes -/

theorem task_changes {settings : Settings} {t : Task}
    (asked : t.request? settings x = some request) (changes : request.changesProcesses = true) :
    request = .insertProcess x ∨ request = .removeProcess x := by
  cases point : t.point <;> simp only [Task.request?, point] at asked <;> cases asked <;>
    first | exact .inl rfl | exact .inr rfl | cases changes

theorem call_changes {point : CallPoint} (asked : point.request? = some request)
    (changes : request.changesProcesses = true) : point = .drainClear := by
  cases point with
  | drainClear => rfl
  | returned result => cases asked
  | _ =>
    cases asked
    cases changes

/-- Only the task of `x`, a drain and a restart touch the handle of `x`. -/
theorem handle_kept (stepped : e.step a = some e') (notOwn : a.fiber? ≠ some (.task x))
    (notRestart : a.isRestart = false)
    (kept : ∀ n c, a = .call n c → e.calls n ≠ some .drainClear) :
    x ∈ e'.processes ↔ x ∈ e.processes := by
  rcases step_cases stepped with ⟨c, rfl, _⟩ | ⟨_, stepped⟩
  · cases notRestart
  cases a with
  | restart c => exact stepped.elim
  | begin m operation =>
    obtain ⟨_, rfl⟩ := stepped
    exact Iff.rfl
  | call m c =>
    obtain ⟨point, request, served, reply, point', found, asked, done, _, rfl⟩ :=
      runCall_eq_some stepped
    cases changes : request.changesProcesses with
    | true => exact (kept m c rfl (call_changes asked changes ▸ found)).elim
    | false =>
      show x ∈ served.processes ↔ _
      rw [(serve_served done).processes changes]
  | task id c =>
    obtain ⟨t, request, served, reply, t', found, asked, done, _, rfl⟩ := runTask_eq_some stepped
    have other : x ≠ id := by
      rintro rfl
      exact notOwn rfl
    show x ∈ served.processes ↔ _
    cases changes : request.changesProcesses with
    | true =>
      rcases task_changes asked changes with rfl | rfl
      · cases done
        simp [other]
      · cases done
        simp [other]
    | false => rw [(serve_served done).processes changes]
  | writer conditions =>
    obtain ⟨_, _, _, _, _, _, rfl⟩ := runWriter_eq_some stepped
    exact Iff.rfl
  | control id written =>
    obtain ⟨_, _, _, rfl⟩ := writeControl_eq_some stepped
    exact Iff.rfl
  | abort id =>
    obtain ⟨_, _, _, _, _, rfl⟩ := abortTask_eq_some stepped
    exact Iff.rfl
  | orphan i c =>
    obtain ⟨call, served, _, _, done, rfl⟩ := runOrphan_eq_some stepped
    have asked : e.serve (.call 0) c (.store call) = some (served, _) := done
    show x ∈ served.processes ↔ _
    rw [(serve_served asked).processes rfl]

theorem first_isFirst (operation : Operation) : (CallPoint.first operation).isFirst = true := by
  cases operation with
  | execute given =>
    simp only [CallPoint.first]
    split <;> rfl
  | cancel id => rfl
  | drain => rfl

/-- The place of a call that is not at its first await comes from its own step, or was there. -/
theorem call_cases (stepped : e.step a = some e') {point : CallPoint}
    (present : e'.calls n = some point) (inside : point.isFirst = false) :
    (∃ c p request served reply, a = .call n c ∧ e.calls n = some p ∧ p.request? = some request ∧
      e.serve (.call n) c request = some (served, reply) ∧ CallMove p reply point ∧
      e' = served.settleCall n reply p point) ∨
    a.fiber? ≠ some (.call n) ∧ a.isRestart = false ∧ e.calls n = some point := by
  cases step_call stepped n with
  | @moved c p p' request served reply acts found asked done move same =>
    rw [same, show (served.settleCall n reply p p').calls n = some p' from
      Function.update_self .., Option.some.injEq] at present
    subst present
    exact .inl ⟨c, p, request, served, reply, acts, found, asked, done, move, same⟩
  | @began operation _ same =>
    rw [same] at present
    simp only [Function.update_self, Option.some.injEq] at present
    rw [← present, first_isFirst] at inside
    cases inside
  | forgotten _ same =>
    rw [same] at present
    cases present
  | kept notOwn notRestart same => exact .inr ⟨notOwn, notRestart, same ▸ present⟩

/-! ## What keeps the handle -/

/-- Nobody drops tasks; a running execution of the daemon has a task, which has not failed and
is attached; an attached task has its handle registered, unless its execution was over before;
and a cancel that has read that `x` is running finds the handle, or comes too late. -/
structure Attended (x : ExecutionId) (e : Engine) : Prop where
  doomed : x ∉ e.doomed
  patient : ∀ n, e.calls n ≠ some .drainAbort
  known : e.down = false → Running (e.db.records x) → ∃ t, e.tasks x = some t
  sound : ∀ t, e.tasks x = some t → t.point.lost = false
  idle : ∀ t, e.tasks x = some t → t.point.attached = false → ¬ Running (e.db.records x)
  refused : ∀ t, e.tasks x = some t → t.point = .registerCancel → Over (e.db.records x)
  held : ∀ t, e.tasks x = some t → t.point.attached = true →
    x ∈ e.processes ∨ Over (e.db.records x)
  sought : ∀ n, e.calls n = some (.cancelFind x .running) →
    x ∈ e.processes ∨ ∃ t, e.tasks x = some t ∧ t.point.detached = true

namespace Attended

theorem handle (attended : e.Attended x) (up : e.down = false)
    (running : Running (e.db.records x)) : x ∈ e.processes := by
  obtain ⟨t, found⟩ := attended.known up running
  cases attached : t.point.attached with
  | false => exact (attended.idle t found attached running).elim
  | true =>
    refine (attended.held t found attached).resolve_right fun isOver => ?_
    exact over_iff_not_live.mp isOver running.live

/-- An execution becomes running by its attached task only. -/
theorem running_step (attended : e.Attended x) (grounded : e.Grounded)
    (stepped : e.step a = some e') (after : Running (e'.db.records x)) :
    Running (e.db.records x) ∨ ∃ c t pid pgid,
      a = .task x c ∧ e.tasks x = some t ∧ t.point = .markRunning pid pgid := by
  rcases Engine.running_step grounded stepped after with before | ⟨pid, pgid, calling⟩
  · exact .inl before
  · rcases grounded.marking calling with ⟨c, t, acts, found, point⟩ | ⟨t, found, aborted⟩
    · exact .inr ⟨c, t, pid, pgid, acts, found, point⟩
    · have sound := attended.sound t found
      rw [aborted] at sound
      cases sound

theorem doomed_step (attended : e.Attended x) (stepped : e.step a = some e') : x ∉ e'.doomed := by
  intro member
  rcases doomed_grown stepped member with ⟨_, old⟩ | ⟨n, c, _, found⟩
  · exact attended.doomed old
  · exact attended.patient n found

theorem known_step (attended : e.Attended x) (grounded : e.Grounded)
    (stepped : e.step a = some e') (up : e'.down = false) (running : Running (e'.db.records x)) :
    ∃ t, e'.tasks x = some t := by
  have before : (∃ c, e' = e.restart c) ∨ ∃ t, e.tasks x = some t := by
    rcases attended.running_step grounded stepped running with still | ⟨_, t, _, _, _, found, _⟩
    · rcases step_cases stepped with ⟨c, _, same⟩ | ⟨up, _⟩
      · exact .inl ⟨c, same⟩
      · exact .inr (attended.known up still)
    · exact .inr ⟨t, found⟩
  rcases before with ⟨c, rfl⟩ | ⟨t, found⟩
  · exact (over_iff_not_live.mp (restart_over grounded up) running.live).elim
  cases step_task stepped x with
  | moved _ _ _ _ _ same =>
    rw [same]
    exact ⟨_, Function.update_self ..⟩
  | dropped _ _ _ same =>
    rw [same]
    exact ⟨_, Function.update_self ..⟩
  | made _ _ _ made => exact ⟨_, made⟩
  | released _ _ _ _ after => exact ⟨_, after⟩
  | forgotten _ same =>
    rw [same] at up running
    exact (over_iff_not_live.mp (restart_over grounded up) running.live).elim
  | kept _ _ _ same => exact ⟨t, same.trans found⟩

/-- The task that a step leaves comes from the one before, unless it is new. -/
theorem task_step (attended : e.Attended x) (stepped : e.step a = some e') {t' : Task}
    (present : e'.tasks x = some t') :
    (∃ c t reply request served, a = .task x c ∧ e.tasks x = some t ∧
      t.request? e.settings x = some request ∧
      e.serve (.task x) c request = some (served, reply) ∧
      TaskMove e.settings x c t reply t' ∧ e' = served.settleTask x t t') ∨
    (∃ n c execution given cwd, a = .call n c ∧
      e.calls n = some (.executeSpawn execution given cwd) ∧ execution.id = x ∧
      t'.point = .starting) ∨
    ∃ t, e.tasks x = some t ∧ t'.point = t.point ∧ a.fiber? ≠ some (.task x) ∧
      a.isRestart = false := by
  cases step_task stepped x with
  | @moved c t u request served reply acts found asked done move same =>
    have own : e'.tasks x = some u := by
      rw [same]
      exact Function.update_self ..
    rw [present] at own
    cases own
    exact .inl ⟨c, t, reply, request, served, acts, found, asked, done, move, same⟩
  | dropped acts _ _ _ =>
    subst acts
    rcases step_cases stepped with ⟨_, ⟨⟩, _⟩ | ⟨_, aborted⟩
    obtain ⟨_, _, _, _, doomed, _⟩ := abortTask_eq_some aborted
    exact (attended.doomed doomed).elim
  | made acts found own made =>
    rw [present] at made
    cases made
    exact .inr (.inl ⟨_, _, _, _, _, acts, found, own, rfl⟩)
  | released acts _ _ found after =>
    rw [present] at after
    cases after
    exact .inr (.inr ⟨_, found, rfl, by rw [acts]; rintro ⟨⟩, by rw [acts]; rfl⟩)
  | forgotten _ same =>
    rw [same] at present
    cases present
  | kept notOwn _ notRestart same =>
    exact .inr (.inr ⟨t', same ▸ present, rfl, notOwn, notRestart⟩)

/-- The task does not fail. -/
theorem not_failed (minds : e.Minds x (.task x c)) (stepped : e.step (.task x c) = some e')
    {t t' : Task} {reply : Reply} (found : e.tasks x = some t)
    (move : TaskMove e.settings x c t reply t') (after : e'.tasks x = some t') :
    t'.point.isFailed = false := by
  rcases step_cases stepped with ⟨_, ⟨⟩, _⟩ | ⟨_, ran⟩
  by_contra failed
  have failed : t'.point.isFailed = true := Bool.not_eq_false _ ▸ failed
  have fails : e.fails x c = true := by
    simp only [Engine.fails, found, Option.any_some, move.failed_holds failed, ran, after, failed,
      Bool.and_self]
  rw [(minds rfl).1] at fails
  cases fails

theorem sound_step (attended : e.Attended x) (minds : e.Minds x a) (stepped : e.step a = some e')
    {t' : Task} (present : e'.tasks x = some t') : t'.point.lost = false := by
  rcases attended.task_step stepped present with
    ⟨c, t, reply, _, _, rfl, found, _, _, move, _⟩ | ⟨_, _, _, _, _, _, _, _, point⟩ |
    ⟨t, found, same, _⟩
  · by_contra lost
    rcases move.lost (Bool.not_eq_false _ ▸ lost) with failed | before
    · rw [not_failed minds stepped found move present] at failed
      cases failed
    · rw [attended.sound t found] at before
      cases before
  · rw [point]
    rfl
  · rw [same]
    exact attended.sound t found

/-- A task that is not attached has an execution that is not running. -/
theorem idle_step (attended : e.Attended x) (grounded : e.Grounded) (minds : e.Minds x a)
    (stepped : e.step a = some e') {t' : Task} (present : e'.tasks x = some t')
    (left : t'.point.attached = false) : ¬ Running (e'.db.records x) := by
  have quiet : ¬ Running (e.db.records x) → (∀ c t pid pgid, a = .task x c →
      e.tasks x = some t → t.point ≠ .markRunning pid pgid) → ¬ Running (e'.db.records x) := by
    intro before asks running
    rcases attended.running_step grounded stepped running with
      still | ⟨c, t, pid, pgid, acts, found, point⟩
    · exact before still
    · exact asks c t pid pgid acts found point
  rcases attended.task_step stepped present with
    ⟨c, t, reply, request, served, rfl, found, asked, done, move, same⟩ |
    ⟨n, c, execution, given, cwd, rfl, calling, rfl, _⟩ | ⟨t, found, same, notOwn, _⟩
  · have issued := grounded.tasks x t found
    have dead : Over (e'.db.records x) → ¬ Running (e'.db.records x) :=
      fun isOver running => over_iff_not_live.mp isOver running.live
    cases attached : t.point.attached with
    | false =>
      refine quiet (attended.idle t found attached) ?_
      rintro _ u pid pgid _ found' point
      rw [found] at found'
      cases found'
      rw [point] at attached
      cases attached
    | true =>
      rcases move.detaches attached left with
        failed | ⟨point, rfl⟩ | ⟨ending, current, point, rfl, terminal⟩ |
        ⟨ending, stored, point, rfl⟩
      · rw [not_failed minds stepped found move present] at failed
        cases failed
      · -- the stream ends while the execution is not running
        simp only [Task.request?, point, Option.some.injEq] at asked
        subst asked
        obtain ⟨given, _, _⟩ := serve_frame done
        have ends : e.breaksOff x c = true := by
          simp only [breaksOff, found, Option.any_some, point, TaskPoint.isReading, given,
            Input.endsStream, Bool.and_self]
        have stands := (minds rfl).2 ends
        refine quiet ?_ ?_
        · rintro ⟨record, there, running⟩
          rw [(records_eq_some.mp there).1] at stands
          simp [running] at stands
        · rintro _ u pid pgid _ found' marking
          rw [found] at found'
          cases found'
          rw [point] at marking
          cases marking
      · simp only [Task.request?, point, Option.some.injEq] at asked
        subst asked
        exact dead (grounded.isOver stepped issued (grounded.read_over done terminal))
      · simp only [Task.request?, point, Option.some.injEq] at asked
        subst asked
        rw [same] at dead ⊢
        exact dead (show Over (served.db.records x) from
          grounded.finish_over done ending.outcome.isTerminal_terminalState)
  · refine quiet ?_ (by rintro _ _ _ _ ⟨⟩)
    intro running
    rcases step_cases stepped with ⟨_, ⟨⟩, _⟩ | ⟨up, _⟩
    obtain ⟨t, found⟩ := attended.known up running
    rw [(grounded.spawning n execution given cwd calling).1] at found
    cases found
  · refine quiet (attended.idle t found (same ▸ left)) ?_
    rintro _ _ _ _ rfl
    exact (notOwn rfl).elim

theorem refused_step (attended : e.Attended x) (grounded : e.Grounded)
    (stepped : e.step a = some e') {t' : Task} (present : e'.tasks x = some t')
    (point' : t'.point = .registerCancel) : Over (e'.db.records x) := by
  rcases attended.task_step stepped present with
    ⟨c, t, reply, request, served, rfl, found, asked, done, move, same⟩ |
    ⟨_, _, _, _, _, _, _, _, starting⟩ | ⟨t, found, same, _⟩
  · obtain ⟨current, point, rfl, terminal⟩ := move.registerCancel point'
    simp only [Task.request?, point, Option.some.injEq] at asked
    subst asked
    exact grounded.isOver stepped (grounded.tasks x t found) (grounded.read_over done terminal)
  · rw [starting] at point'
    cases point'
  · exact grounded.isOver stepped (grounded.tasks x t found)
      (attended.refused t found (same ▸ point'))

/-- No drain forgets the handles. -/
theorem not_cleared (minds : e.Minds x a) : ∀ n c, a = .call n c → e.calls n ≠ some .drainClear := by
  rintro n c rfl found
  have patient := minds.1
  rw [found] at patient
  cases patient

theorem attached_keeps {settings : Settings} {t : Task} (attached : t.point.attached = true)
    (asked : t.request? settings x = some request) : request.changesProcesses = false := by
  cases point : t.point <;> rw [point] at attached <;>
    simp only [Task.request?, point] at asked <;> cases asked <;> first | rfl | cases attached

theorem removing {settings : Settings} {t : Task}
    (asked : t.request? settings x = some (.removeProcess x)) :
    t.point.detached = true ∨ ∃ received, t.point = .removeProcess received := by
  cases point : t.point <;> simp only [Task.request?, point] at asked <;> cases asked
  case removeProcess.intro received => exact .inr ⟨received, rfl⟩
  case cleanupProcess.intro => exact .inl rfl

theorem held_step (attended : e.Attended x) (grounded : e.Grounded) (minds : e.Minds x a)
    (stepped : e.step a = some e') {t' : Task} (present : e'.tasks x = some t')
    (attached : t'.point.attached = true) : x ∈ e'.processes ∨ Over (e'.db.records x) := by
  rcases attended.task_step stepped present with
    ⟨c, t, reply, request, served, rfl, found, asked, done, move, same⟩ |
    ⟨_, _, _, _, _, _, _, _, starting⟩ | ⟨t, found, same, notOwn, notRestart⟩
  · have issued := grounded.tasks x t found
    rcases move.attaches attached with before | point | point
    · refine (attended.held t found before).imp (fun member => ?_)
        (grounded.isOver stepped issued)
      rw [same]
      show x ∈ served.processes
      rw [(serve_served done).processes (attached_keeps before asked)]
      exact member
    · simp only [Task.request?, point, Option.some.injEq] at asked
      subst asked
      cases done
      rw [same]
      exact .inl (List.mem_append_right _ (List.mem_singleton_self x))
    · exact .inr (grounded.isOver stepped issued (attended.refused t found point))
  · rw [starting] at attached
    cases attached
  · refine (attended.held t found (same ▸ attached)).imp ?_
      (grounded.isOver stepped (grounded.tasks x t found))
    exact (handle_kept stepped notOwn notRestart (not_cleared minds)).mpr

/-- A handle that is there stays, or its task gives it up. -/
theorem given_up (attended : e.Attended x) (grounded : e.Grounded) (minds : e.Minds x a)
    (stepped : e.step a = some e') (notRestart : a.isRestart = false)
    (before : x ∈ e.processes ∨ ∃ t, e.tasks x = some t ∧ t.point.detached = true) :
    x ∈ e'.processes ∨ ∃ t, e'.tasks x = some t ∧ t.point.detached = true := by
  have kept : a.fiber? ≠ some (.task x) → x ∈ e.processes → x ∈ e'.processes :=
    fun notOwn => (handle_kept stepped notOwn notRestart (not_cleared minds)).mpr
  cases step_task stepped x with
  | @moved c t t' request served reply acts found asked done move same =>
    subst acts
    have after : e'.tasks x = some t' := by
      rw [same]
      exact Function.update_self ..
    have sound := not_failed minds stepped found move after
    rcases before with member | ⟨u, found', gone⟩
    · rw [same]
      cases changes : request.changesProcesses with
      | false =>
        refine .inl (show x ∈ served.processes from ?_)
        rw [(serve_served done).processes changes]
        exact member
      | true =>
        rcases task_changes asked changes with rfl | rfl
        · cases done
          exact .inl (List.mem_append_left _ member)
        · have gone := move.detached (removing asked)
          rw [sound] at gone
          exact .inr ⟨t', Function.update_self .., gone.resolve_left (by simp)⟩
    · rw [found] at found'
      cases found'
      have gone := move.detached (.inl gone)
      rw [sound] at gone
      exact .inr ⟨t', after, gone.resolve_left (by simp)⟩
  | dropped acts _ _ _ =>
    subst acts
    rcases step_cases stepped with ⟨_, ⟨⟩, _⟩ | ⟨_, aborted⟩
    obtain ⟨_, _, _, _, doomed, _⟩ := abortTask_eq_some aborted
    exact (attended.doomed doomed).elim
  | made acts found own _ =>
    refine .inl (kept (by rw [acts]; rintro ⟨⟩) (before.resolve_right ?_))
    rintro ⟨t, found', _⟩
    rw [← own, (grounded.spawning _ _ _ _ found).1] at found'
    cases found'
  | released acts _ _ found after =>
    refine before.imp (kept (by rw [acts]; rintro ⟨⟩)) ?_
    rintro ⟨t, found', gone⟩
    rw [found] at found'
    cases found'
    exact ⟨_, after, gone⟩
  | forgotten acts _ =>
    rw [acts] at notRestart
    cases notRestart
  | kept notOwn _ _ same =>
    refine before.imp (kept notOwn) ?_
    rintro ⟨t, found, gone⟩
    exact ⟨t, same.trans found, gone⟩

theorem patient_step (attended : e.Attended x) (minds : e.Minds x a)
    (stepped : e.step a = some e') : e'.calls n ≠ some .drainAbort := by
  intro present
  generalize dooming : CallPoint.drainAbort = point at present
  rcases call_cases stepped present (by rw [← dooming]; rfl) with
    ⟨c, p, request, served, reply, acts, found, _, _, move, _⟩ | ⟨_, _, before⟩
  · cases move with
    | cleared => exact not_cleared minds n c acts found
    | @listed ids => cases ids <;> cases dooming
    | @sent _ rest => cases rest <;> cases dooming
    | _ => cases dooming
  · exact attended.patient n (dooming ▸ before)

/-- A cancel that reads that `x` is running finds its handle, unless the task gives it up in
between. -/
theorem sought_step (attended : e.Attended x) (grounded : e.Grounded) (minds : e.Minds x a)
    (stepped : e.step a = some e') (present : e'.calls n = some (.cancelFind x .running)) :
    x ∈ e'.processes ∨ ∃ t, e'.tasks x = some t ∧ t.point.detached = true := by
  generalize seeking : CallPoint.cancelFind x .running = point at present
  rcases call_cases stepped present (by rw [← seeking]; rfl) with
    ⟨c, p, request, served, reply, rfl, found, asked, done, move, _⟩ | ⟨_, notRestart, before⟩
  · cases move with
    | @got id execution =>
      obtain ⟨rfl, state⟩ := CallPoint.cancelFind.inj seeking
      cases asked
      obtain ⟨record, there, read⟩ := grounded.read_state done
      rcases step_cases stepped with ⟨_, ⟨⟩, _⟩ | ⟨up, _⟩
      have member := attended.handle up ⟨record, there, read.symm.trans state.symm⟩
      exact attended.given_up grounded minds stepped rfl (.inl member)
    | @listed ids => cases ids <;> cases seeking
    | @sent _ rest => cases rest <;> cases seeking
    | _ => cases seeking
  · exact attended.given_up grounded minds stepped notRestart
      (attended.sought n (seeking ▸ before))

theorem step (attended : e.Attended x) (grounded : e.Grounded) (minds : e.Minds x a)
    (stepped : e.step a = some e') : e'.Attended x where
  doomed := attended.doomed_step stepped
  patient _ := attended.patient_step minds stepped
  known := attended.known_step grounded stepped
  sound _ := attended.sound_step minds stepped
  idle _ := attended.idle_step grounded minds stepped
  refused _ := attended.refused_step grounded stepped
  held _ := attended.held_step grounded minds stepped
  sought _ := attended.sought_step grounded minds stepped

end Attended

theorem attended_start (start : engine.start e) : e.Attended x := by
  obtain ⟨fresh, new⟩ := start
  have absent : e.db.records x = none := by rw [fresh.records]
  rw [new]
  refine ⟨by rintro ⟨⟩, by rintro n ⟨⟩, ?_, by rintro t ⟨⟩, by rintro t ⟨⟩, by rintro t ⟨⟩,
    by rintro t ⟨⟩, by rintro n ⟨⟩⟩
  rintro _ ⟨record, found, _⟩
  rw [show (Engine.new e.settings e.db).db.records x = none from absent] at found
  cases found

theorem attended (reached : engine.ReachableVia (Minds x) e) : e.Attended x := by
  apply reached.invariant (Attended x)
  · intro e start
    exact attended_start start
  · intro e a e' before held minds stepped
    exact held.step (grounded before) minds stepped

end Engine

/-- What `cancel` answers when it finds no handle. -/
def noSupervisorHandle (id : ExecutionId) : Error :=
  .protocol ("execution " ++ id ++ " is running but has no supervisor handle")

/-- In every run in which the task of `x` does not fail, its stream of events does not end
without a Finished event while `x` is running, no cancel that has read that `x` is running
looks for the handle after the task has given it up, and no drain forgets the handles: while
the daemon runs, `x` has its handle as long as it is running, and a cancel never misses it. -/
theorem running_cancellable {e : Engine} {x : ExecutionId}
    (reached : engine.ReachableVia (Engine.Minds x) e) (up : e.down = false) :
    (∀ row, e.db.executions.find? x = some row → row.state = .running → x ∈ e.processes) ∧
    ∀ n c state e', e.calls n = some (.cancelFind x state) → e.Minds x (.call n c) →
      e.step (.call n c) = some e' →
        e'.calls n ≠ some (.returned (.error (noSupervisorHandle x))) := by
  have attended := Engine.attended reached
  refine ⟨fun row found running => ?_, ?_⟩
  · exact attended.handle up ⟨_, record_of_find? found, running⟩
  · intro n c state e' found minds stepped missed
    rcases Engine.step_cases stepped with ⟨_, ⟨⟩, _⟩ | ⟨_, ran⟩
    obtain ⟨point, request, served, reply, point', found', asked, done, next, rfl⟩ :=
      Engine.runCall_eq_some ran
    rw [found] at found'
    cases found'
    cases asked
    cases done
    rw [show (e.settleCall n _ _ point').calls n = some point' from Function.update_self ..,
      Option.some.injEq] at missed
    subst missed
    cases state with
    | running =>
      have there : x ∈ e.processes := by
        refine (attended.sought n found).resolve_right ?_
        rintro ⟨t, present, gone⟩
        have early := minds.2
        rw [found, present] at early
        simp [CallPoint.seeks, gone] at early
      simp [CallPoint.next, there] at next
    | _ => simp [CallPoint.next, noSupervisorHandle] at next

/-- A client asks to cancel `id`, and its state is read. -/
def sampleSeek (n : Nat) (id : ExecutionId) : List Action :=
  [.begin n (.cancel id), .call n {}, .call n {}]

theorem running_cancellable_sample :
    ∃ e row, engine.ReachableVia (Engine.Minds "a") e ∧ e.db.executions.find? "a" = some row ∧
      row.state = .running ∧ "a" ∈ e.processes := by
  have traced : (engine.runIf (Engine.Minds "a") sampleEngine
      (sampleLaunch 0 "a" ++ sampleStart "a" ++ sampleSeek 1 "a")).map (fun e =>
        (e.down, (e.db.executions.find? "a").map (·.state))) = some (false, some .running) := by
    decide +kernel
  obtain ⟨e, ran, seen⟩ := Option.map_eq_some_iff.mp traced
  simp only [Prod.mk.injEq, Option.map_eq_some_iff] at seen
  obtain ⟨up, row, found, running⟩ := seen
  have reached : engine.ReachableVia (Engine.Minds "a") e :=
    (System.ReachableVia.start sampleEngine_start).run (System.runIf_runVia ran)
  exact ⟨e, row, reached, found, running, (running_cancellable reached up).1 row found running⟩

/-- The error of a call that has returned one. -/
def CallPoint.error? : CallPoint → Option Error
  | .returned (.error error) => some error
  | _ => none

/-- The stream of "a" ends without a Finished event: the handle is gone while "a" is running
and its task goes on, and a cancel fails. -/
theorem running_without_handle :
    ∃ e row t, engine.Reachable e ∧ e.down = false ∧ e.db.executions.find? "a" = some row ∧
      row.state = .running ∧ e.tasks "a" = some t ∧ t.point.detached = true ∧
      "a" ∉ e.processes ∧ (e.calls 1).bind CallPoint.error? = some (noSupervisorHandle "a") := by
  have traced : (engine.run sampleEngine (sampleLaunch 0 "a" ++ sampleStart "a" ++
      [.task "a" { input := .frame none }, .task "a" {}] ++ sampleSeek 1 "a" ++
      [.call 1 {}])).map (fun e => (e.down, (e.db.executions.find? "a").map (·.state),
        (e.tasks "a").map (·.point.detached), e.processes.contains "a",
        (e.calls 1).bind CallPoint.error?)) =
      some (false, some .running, some true, false, some (noSupervisorHandle "a")) := by
    decide +kernel
  obtain ⟨e, ran, seen⟩ := Option.map_eq_some_iff.mp traced
  simp only [Prod.mk.injEq, Option.map_eq_some_iff] at seen
  obtain ⟨up, ⟨row, found, running⟩, ⟨t, present, gone⟩, absent, failed⟩ := seen
  exact ⟨e, row, t, System.run_reachable sampleEngine_start ran, up, found, running, present, gone,
    by simpa using absent, failed⟩

/-- "a" ends as it should while a cancel stands between reading its state and looking for its
handle. -/
theorem handle_sought_late :
    ∃ e row, engine.Reachable e ∧ e.db.executions.find? "a" = some row ∧ row.state = .finished ∧
      (e.calls 1).bind CallPoint.error? = some (noSupervisorHandle "a") := by
  have traced : (engine.run sampleEngine (sampleLaunch 0 "a" ++ sampleStart "a" ++
      sampleSeek 1 "a" ++ sampleEnd "a" ++ [.task "a" {}, .call 1 {}])).map (fun e =>
        ((e.db.executions.find? "a").map (·.state), (e.calls 1).bind CallPoint.error?)) =
      some (some .finished, some (noSupervisorHandle "a")) := by decide +kernel
  obtain ⟨e, ran, seen⟩ := Option.map_eq_some_iff.mp traced
  simp only [Prod.mk.injEq, Option.map_eq_some_iff] at seen
  obtain ⟨⟨row, found, finished⟩, failed⟩ := seen
  exact ⟨e, row, System.run_reachable sampleEngine_start ran, found, finished, failed⟩

end Loomterm
