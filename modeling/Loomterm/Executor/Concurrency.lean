import Loomterm.Executor.Frames
import Loomterm.Executor.History
import Mathlib.Data.Finset.Card

/-!
# How many executions run at once

`slots` has `max_concurrent_executions` permits, and a task holds one of them while it is in
`run_execution`. The record of its execution is made terminal inside, but for one case: when
`run_execution` ends with an error, the permit is given back first, and the block around it
finishes the record afterwards. `concurrency_bounded` says that the bound holds as long as no
execution is running at such a moment.
-/

namespace Loomterm

open Database

/-- The points at which `run_execution` has seen or written a terminal state. -/
def TaskPoint.settled : TaskPoint → Bool
  | .removeProcess true | .joinControl true | .waitChild true | .prune => true
  | _ => false

def TaskPoint.isFailed : TaskPoint → Bool
  | .failed _ => true
  | _ => false

/-- The points of `drain` behind the closing of `slots`. -/
def CallPoint.afterClose : CallPoint → Bool
  | .drainLock | .drainCancelQueued | .drainList | .drainSend .. | .drainWait | .drainClear
  | .drainAbort | .drainSettle | .drainStop => true
  | _ => false

namespace Engine

/-- The task of `x` holds a permit. -/
def Holds (e : Engine) (x : ExecutionId) : Prop :=
  ∃ t, e.tasks x = some t ∧ t.point.holdsPermit = true

/-- The task of `x` holds a permit, or its execution is running or may still become so. -/
def Claims (e : Engine) (x : ExecutionId) : Prop :=
  e.Holds x ∨ Running (e.db.records x) ∨ ∃ pid pgid, .markRunning x pid pgid ∈ e.orphans

/-- The step ends `run_execution` of `x` with an error. -/
def fails (e : Engine) (x : ExecutionId) (c : Choice) : Bool :=
  (e.tasks x).any (·.point.holdsPermit) &&
    (e.runTask x c).any fun e' => (e'.tasks x).any (·.point.isFailed)

/-- While permits are given out, `run_execution` does not end with an error when its
execution is running. -/
def Orderly (e : Engine) : Action → Prop
  | .task x c =>
      e.slotsClosed = false → e.fails x c = true →
        (e.db.executions.find? x).any (fun row => row.state = .running) = false
  | _ => True

instance (e : Engine) (a : Action) : Decidable (e.Orderly a) := by
  unfold Orderly
  split <;> infer_instance

variable {e e' : Engine} {a : Action} {f : FiberId} {c : Choice} {x y : ExecutionId} {n : Nat}
  {request : Request} {reply : Reply}

/-! ## Slots -/

theorem serve_slots (done : e.serve f c request = some (e', reply)) :
    (request ≠ .acquire → e'.slots = e.slots) ∧
      (request ≠ .closeSlots → e'.slotsClosed = e.slotsClosed) := by
  cases request with
  | store call =>
    simp only [serve, serveStore] at done
    split at done
    · split at done
      · cases done
      · cases done
        exact ⟨fun _ => rfl, fun _ => rfl⟩
    · cases done
      exact ⟨fun _ => rfl, fun _ => rfl⟩
  | send id command =>
    simp only [serve, serveSend] at done
    split at done
    · cases done
      exact ⟨fun _ => rfl, fun _ => rfl⟩
    · split at done
      · cases done
        exact ⟨fun _ => rfl, fun _ => rfl⟩
      · cases done
  | flushed id =>
    obtain ⟨_, _, same⟩ := Option.map_eq_some_iff.mp done
    cases same
    exact ⟨fun _ => rfl, fun _ => rfl⟩
  | reportFatal message =>
    cases message <;> cases done <;> exact ⟨fun _ => rfl, fun _ => rfl⟩
  | _ =>
    simp only [serve] at done
    repeat' split at done
    all_goals cases done
    all_goals
      constructor
      · first | exact fun _ => rfl | exact fun other => absurd rfl other
      · first | exact fun _ => rfl | exact fun other => absurd rfl other

/-- A permit is taken from those that are left, while they are given out. -/
theorem serve_acquire (done : e.serve f c .acquire = some (e', reply)) :
    reply = .closed ∧ e' = e ∨
      reply = .done ∧ e.slotsClosed = false ∧ 0 < e.slots ∧
        e' = { e with slots := e.slots - 1 } := by
  simp only [serve] at done
  split at done
  · cases done
    exact .inl ⟨rfl, rfl⟩
  · rename_i accepting
    split at done
    · rename_i left
      cases done
      exact .inr ⟨rfl, Bool.eq_false_iff.mpr accepting, left, rfl⟩
    · cases done

theorem serve_closeSlots (done : e.serve f c .closeSlots = some (e', reply)) :
    e'.slotsClosed = true := by
  cases done
  rfl

end Engine

/-! ## Permits and moves -/

/-- A permit is taken by `acquire` only. -/
theorem TaskMove.holdsPermit {settings : Settings} {id : ExecutionId} {t t' : Task} {c : Choice}
    {reply : Reply} (move : TaskMove settings id c t reply t')
    (holds : t'.point.holdsPermit = true) :
    t.point.holdsPermit = true ∨ t.point = .acquire ∧ reply = .done := by
  cases move with
  | acquired point => exact .inr ⟨point, rfl⟩
  | begun | refused | skipped | launchReported | pruned | storeFailed | broke | reported
  | failedLive | failedOver | failedUnread | failedFinished | cleaned | ended => cases holds
  | checked point | launched point | notLaunched point | spawned point | registering point
  | registerLive point | registerOver point | registerCancelled point | registered point
  | frame point | starting point | startedLive point | startedOver point
  | startedCancelled point | running point | captured point | flushing point | flushed point
  | finalLive point | finalOver point | finished point | removed point | joined point
  | reaped point | missing point =>
    rw [point]
    exact .inl rfl

theorem TaskPoint.afterFrame_permit {point : TaskPoint} (after : point.afterFrame = true) :
    point.holdsPermit = true ∨ point.isFailed = true := by
  cases point <;> first | exact .inl rfl | exact .inr rfl | cases after

theorem TaskPoint.afterFrame_settled {point : TaskPoint} (after : point.afterFrame = true) :
    point.settled = false := by
  cases point with
  | removeProcess received =>
    cases received with
    | true => cases after
    | false => rfl
  | joinControl => cases after
  | waitChild => cases after
  | _ => first | rfl | cases after

/-- A permit is given back where the execution is over, or where an error ends
`run_execution`. -/
theorem TaskMove.givesBack {settings : Settings} {id : ExecutionId} {t t' : Task} {c : Choice}
    {reply : Reply} (move : TaskMove settings id c t reply t')
    (held : t.point.holdsPermit = true) (gives : t'.point.holdsPermit = false) :
    t'.point.isFailed = true ∨ t.point.settled = true ∨
      (∃ current, t.point = .check ∧ reply = .stored (.ok (.execution current)) ∧
        current.state.isTerminal = true) ∨
      ∃ message stored, t.point = .launchFailed message ∧ reply = .stored (.ok stored) := by
  cases move with
  | storeFailed => exact .inl rfl
  | broke => exact .inl rfl
  | skipped point terminal => exact .inr (.inr (.inl ⟨_, point, rfl, terminal⟩))
  | launchReported point => exact .inr (.inr (.inr ⟨_, _, point, rfl⟩))
  | pruned point =>
    rw [point]
    exact .inr (.inl rfl)
  | @frame given =>
    rcases TaskPoint.afterFrame_permit (Task.receive_afterFrame settings id c t given) with
      holds | failed
    · rw [holds] at gives
      cases gives
    · exact .inl failed
  | @captured _ rest =>
    cases rest with
    | nil => cases gives
    | cons => cases gives
  | @finalOver ending =>
    cases ending with
    | received => cases gives
    | missing => cases gives
  | @finished ending =>
    cases ending with
    | received => cases gives
    | missing => cases gives
  | begun point | refused point | reported point | failedLive point | failedOver point
  | failedUnread point | failedFinished point | cleaned point | ended point =>
    rw [point] at held
    cases held
  | _ => cases gives

/-- An error ends `run_execution` where the store fails, where something else does, or on a
frame. -/
theorem TaskMove.failing {settings : Settings} {id : ExecutionId} {t t' : Task} {c : Choice}
    {reply : Reply} (move : TaskMove settings id c t reply t')
    (failed : t'.point.isFailed = true) :
    (∃ e, reply = .stored (.error e)) ∨ t.point.breakable = true ∨ t.point = .reading := by
  cases move with
  | storeFailed => exact .inl ⟨_, rfl⟩
  | broke breakable => exact .inr (.inl breakable)
  | frame point => exact .inr (.inr point)
  | @captured _ rest =>
    cases rest with
    | nil => cases failed
    | cons => cases failed
  | @finalOver ending =>
    cases ending with
    | received => cases failed
    | missing => cases failed
  | @finished ending =>
    cases ending with
    | received => cases failed
    | missing => cases failed
  | _ => cases failed

/-- The points behind a terminal state are reached by reading it, by writing it, or from one
another. -/
theorem TaskMove.settled {settings : Settings} {id : ExecutionId} {t t' : Task} {c : Choice}
    {reply : Reply} (move : TaskMove settings id c t reply t')
    (settled : t'.point.settled = true) :
    t.point.settled = true ∨
      (∃ ending current, t.point = .finalCheck ending ∧
        reply = .stored (.ok (.execution current)) ∧ current.state.isTerminal = true) ∨
      ∃ ending stored, t.point = .finalFinish ending ∧ reply = .stored (.ok stored) := by
  cases move with
  | finalOver point terminal => exact .inr (.inl ⟨_, _, point, rfl, terminal⟩)
  | finished point => exact .inr (.inr ⟨_, _, point, rfl⟩)
  | @removed received point =>
    cases received with
    | true =>
      rw [point]
      exact .inl rfl
    | false => cases settled
  | @joined received _ point =>
    cases received with
    | true =>
      rw [point]
      exact .inl rfl
    | false => cases settled
  | reaped point =>
    rw [point]
    exact .inl rfl
  | @frame given =>
    rw [TaskPoint.afterFrame_settled (Task.receive_afterFrame settings id c t given)] at settled
    cases settled
  | @captured _ rest =>
    cases rest with
    | nil => cases settled
    | cons => cases settled
  | _ => cases settled

/-- Behind the closing of `slots` is what comes after it. -/
theorem CallMove.afterClose {point point' : CallPoint} {reply : Reply}
    (move : CallMove point reply point') (after : point'.afterClose = true) :
    point.afterClose = true ∨ point = .drainClose := by
  cases move with
  | closed => exact .inr rfl
  | entered | swept | listed | sent | idle | impatient | cleared | aborted | settled =>
    exact .inl rfl
  | _ => cases after

namespace Engine

variable {e e' : Engine} {a : Action} {f : FiberId} {c : Choice} {x y : ExecutionId} {n : Nat}
  {request : Request} {reply : Reply}

/-! ## Who holds a permit -/

theorem settleTask_slots {served : Engine} {t t' : Task} :
    (served.settleTask x t t').slots =
      if t.point.holdsPermit && !t'.point.holdsPermit then served.slots + 1 else served.slots :=
  rfl

/-- The task of `x` asks for a permit and gets one. -/
def Acquires (e : Engine) (a : Action) (e' : Engine) (x : ExecutionId) : Prop :=
  (∃ c, a = .task x c) ∧ e.slotsClosed = false ∧ e'.slots + 1 = e.slots

/-- Nobody holds a permit without having acquired it. -/
theorem holds_step (stepped : e.step a = some e') (after : e'.Holds x) :
    e.Holds x ∨ e.Acquires a e' x := by
  obtain ⟨u, present, holds⟩ := after
  cases step_task stepped x with
  | @moved c t t' request served reply acts found asked done move same =>
    rw [same, show (served.settleTask x t t').tasks x = some t' from Function.update_self ..]
      at present
    cases present
    rcases move.holdsPermit holds with held | ⟨point, rfl⟩
    · exact .inl ⟨t, found, held⟩
    · right
      simp only [Task.request?, point, Option.some.injEq] at asked
      subst asked
      rcases serve_acquire done with ⟨refused, _⟩ | ⟨_, accepting, left, taken⟩
      · cases refused
      · refine ⟨⟨c, acts⟩, accepting, ?_⟩
        rw [same, settleTask_slots, point, taken]
        show e.slots - 1 + 1 = e.slots
        omega
  | dropped _ _ _ same =>
    rw [same, show (e.dropTask x _ _).tasks x = some _ from Function.update_self ..] at present
    cases present
    cases holds
  | made _ _ _ made =>
    rw [made] at present
    cases present
    cases holds
  | released _ _ _ found after =>
    rw [after] at present
    cases present
    exact .inl ⟨_, found, holds⟩
  | forgotten _ same =>
    rw [same] at present
    cases present
  | kept _ _ _ same => exact .inl ⟨u, same ▸ present, holds⟩

/-- The step takes the task of `x` out of `run_execution`. -/
inductive GivesBack (e : Engine) (a : Action) (e' : Engine) (x : ExecutionId) : Prop
  | moved {c : Choice} {t t' : Task} {request : Request} {served : Engine} {reply : Reply} :
      a = .task x c → e.tasks x = some t → t.request? e.settings x = some request →
      e.serve (.task x) c request = some (served, reply) →
      TaskMove e.settings x c t reply t' → e' = served.settleTask x t t' →
      t.point.holdsPermit = true → t'.point.holdsPermit = false → GivesBack e a e' x
  | dropped : a = .abort x → x ∈ e.doomed → GivesBack e a e' x

namespace GivesBack

theorem not_holds (gives : e.GivesBack a e' x) (stepped : e.step a = some e') :
    ¬ e'.Holds x := by
  rintro ⟨u, present, holds⟩
  cases gives with
  | moved _ _ _ _ _ same _ left =>
    rw [same, show (settleTask _ x _ _).tasks x = some _ from Function.update_self ..] at present
    cases present
    rw [left] at holds
    cases holds
  | dropped acts _ =>
    subst acts
    rcases step_cases stepped with ⟨_, ⟨⟩, _⟩ | ⟨_, aborted⟩
    obtain ⟨_, _, _, _, _, same⟩ := abortTask_eq_some aborted
    rw [same, show (e.dropTask x _ _).tasks x = some _ from Function.update_self ..] at present
    cases present
    cases holds

theorem unique (gives : e.GivesBack a e' x) (gives' : e.GivesBack a e' y) : y = x := by
  cases gives with
  | moved acts =>
    cases gives' with
    | moved acts' =>
      rw [acts] at acts'
      cases acts'
      rfl
    | dropped acts' =>
      rw [acts] at acts'
      cases acts'
  | dropped acts =>
    cases gives' with
    | moved acts' =>
      rw [acts] at acts'
      cases acts'
    | dropped acts' =>
      rw [acts] at acts'
      cases acts'
      rfl

end GivesBack

/-- A permit is kept until the task leaves `run_execution`. -/
theorem holds_kept (grounded : e.Grounded) (stepped : e.step a = some e')
    (notRestart : a.isRestart = false) (before : e.Holds x) :
    e'.Holds x ∨ e.GivesBack a e' x := by
  obtain ⟨u, found, holds⟩ := before
  cases step_task stepped x with
  | @moved c t t' request served reply acts found' asked done move same =>
    rw [found] at found'
    cases found'
    cases held : t'.point.holdsPermit with
    | true =>
      refine .inl ⟨t', ?_, held⟩
      rw [same]
      exact Function.update_self ..
    | false => exact .inr (.moved acts found asked done move same holds held)
  | dropped acts _ _ _ =>
    subst acts
    rcases step_cases stepped with ⟨_, ⟨⟩, _⟩ | ⟨_, stepped⟩
    obtain ⟨_, _, _, _, doomed, _⟩ := abortTask_eq_some stepped
    exact .inr (.dropped rfl doomed)
  | made _ spawning own =>
    have none := (grounded.spawning _ _ _ _ spawning).1
    rw [own, found] at none
    cases none
  | released _ _ _ found' after =>
    rw [found] at found'
    cases found'
    exact .inl ⟨_, after, holds⟩
  | forgotten acts _ =>
    rw [acts] at notRestart
    cases notRestart
  | kept _ _ _ same => exact .inl ⟨u, same.trans found, holds⟩

/-! ## Slots and their closing -/

/-- What a step does to `slots`. -/
inductive SlotStep (e : Engine) (a : Action) (e' : Engine) : Prop
  | acquired {x : ExecutionId} : e.Acquires a e' x → e'.Holds x →
      e'.slotsClosed = e.slotsClosed → SlotStep e a e'
  | returned {x : ExecutionId} : e.GivesBack a e' x →
      e.slots ≤ e'.slots ∧ e'.slots ≤ e.slots + 1 →
      e'.slotsClosed = e.slotsClosed → SlotStep e a e'
  | closed : e'.slots = e.slots → e'.slotsClosed = true → SlotStep e a e'
  | forgotten {c : Choice} : a = .restart c → e' = e.restart c → SlotStep e a e'
  | kept : e'.slots = e.slots → e'.slotsClosed = e.slotsClosed →
      (∀ x, ¬ e.GivesBack a e' x) → SlotStep e a e'

theorem call_request {point : CallPoint} (asked : point.request? = some request) :
    request ≠ .acquire ∧ (request = .closeSlots → point = .drainClose) ∧
      (request = .abortTasks → point = .drainAbort) := by
  cases point with
  | returned result => cases asked
  | _ =>
    cases asked
    exact ⟨by simp, by simp, by simp⟩

theorem task_request {settings : Settings} {t : Task}
    (asked : t.request? settings x = some request) :
    request ≠ .closeSlots ∧ request ≠ .abortTasks ∧
      (request = .acquire ↔ t.point = .acquire) := by
  cases point : t.point <;> simp only [Task.request?, point] at asked <;> cases asked <;> simp

theorem runTask_slotStep (stepped : e.runTask x c = some e') : SlotStep e (.task x c) e' := by
  obtain ⟨t, request, served, reply, t', found, asked, done, next, same⟩ :=
    runTask_eq_some stepped
  have move := Task.next_move next
  obtain ⟨notClose, _, acquires⟩ := task_request asked
  have closed : e'.slotsClosed = e.slotsClosed := by
    rw [same]
    exact (serve_slots done).2 notClose
  have own : e'.tasks x = some t' := by
    rw [same]
    exact Function.update_self ..
  by_cases point : t.point = .acquire
  · have asks := acquires.mpr point
    subst asks
    have slots : e'.slots = served.slots := by
      rw [same, settleTask_slots, point]
      rfl
    rcases serve_acquire done with ⟨rfl, unchanged⟩ | ⟨rfl, accepting, left, taken⟩
    · refine .kept (by rw [slots, unchanged]) closed ?_
      rintro y (⟨acts, found', _, _, _, _, holds, _⟩ | ⟨acts, _⟩)
      · cases acts
        rw [found] at found'
        cases found'
        rw [point] at holds
        cases holds
      · cases acts
    · refine .acquired ⟨⟨c, rfl⟩, accepting, ?_⟩ ⟨t', own, ?_⟩ closed
      · rw [slots, taken]
        show e.slots - 1 + 1 = e.slots
        omega
      · simp only [Task.next, point, Reply.onSent, Option.some.injEq] at next
        rw [← next]
        rfl
  · have slots := (serve_slots done).1 (mt acquires.mp point)
    by_cases gives : t.point.holdsPermit = true ∧ t'.point.holdsPermit = false
    · refine .returned (.moved rfl found asked done move same gives.1 gives.2) ?_ closed
      rw [same, settleTask_slots, slots]
      split <;> exact ⟨by omega, by omega⟩
    · refine .kept ?_ closed ?_
      · rw [same, settleTask_slots, slots, if_neg]
        simp only [Bool.and_eq_true, Bool.not_eq_true']
        exact gives
      · rintro y (⟨acts, found', _, _, _, same', holds, left⟩ | ⟨acts, _⟩)
        · cases acts
          rw [found] at found'
          cases found'
          have own' := own
          rw [same', show (settleTask _ x _ _).tasks x = some _ from Function.update_self ..]
            at own'
          cases own'
          exact gives ⟨holds, left⟩
        · cases acts

/-- Only the steps of a task, and its abort, take it out of `run_execution`. -/
theorem not_givesBack (notTask : a.fiber? ≠ some (.task x)) (notAbort : a ≠ .abort x) :
    ¬ e.GivesBack a e' x := by
  rintro (⟨acts, _⟩ | ⟨acts, _⟩)
  · exact notTask (by rw [acts]; rfl)
  · exact notAbort acts

theorem step_slots (stepped : e.step a = some e') : SlotStep e a e' := by
  rcases step_cases stepped with ⟨c, rfl, rfl⟩ | ⟨_, stepped⟩
  · exact .forgotten rfl rfl
  cases a with
  | restart c => exact stepped.elim
  | begin m operation =>
    obtain ⟨_, rfl⟩ := stepped
    exact .kept rfl rfl fun x => not_givesBack (by simp [Action.fiber?]) (by simp)
  | call m c =>
    obtain ⟨point, request, served, reply, point', found, asked, done, _, rfl⟩ :=
      runCall_eq_some stepped
    have notAcquire := (call_request asked).1
    by_cases closing : request = .closeSlots
    · subst closing
      exact .closed ((serve_slots done).1 notAcquire)
        (show served.slotsClosed = true from serve_closeSlots done)
    · exact .kept ((serve_slots done).1 notAcquire) ((serve_slots done).2 closing)
        fun x => not_givesBack (by simp [Action.fiber?]) (by simp)
  | task id c => exact runTask_slotStep stepped
  | writer conditions =>
    obtain ⟨_, _, _, _, _, _, rfl⟩ := runWriter_eq_some stepped
    exact .kept rfl rfl fun x => not_givesBack (by simp [Action.fiber?]) (by simp)
  | control id written =>
    obtain ⟨_, _, _, rfl⟩ := writeControl_eq_some stepped
    exact .kept rfl rfl fun x => not_givesBack (by simp [Action.fiber?]) (by simp)
  | abort id =>
    obtain ⟨t, request, found, asked, doomed, rfl⟩ := abortTask_eq_some stepped
    refine .returned (.dropped rfl doomed) ?_ rfl
    show e.slots ≤ (if t.point.holdsPermit then e.slots + 1 else e.slots) ∧
      (if t.point.holdsPermit then e.slots + 1 else e.slots) ≤ e.slots + 1
    split <;> exact ⟨by omega, by omega⟩
  | orphan i c =>
    obtain ⟨call, served, reply, found, done, rfl⟩ := runOrphan_eq_some stepped
    have asked : e.serve (.call 0) c (.store call) = some (served, reply) := done
    exact .kept ((serve_slots asked).1 (by simp)) ((serve_slots asked).2 (by simp))
      fun x => not_givesBack (by simp [Action.fiber?]) (by simp)

/-! ## Running executions -/

/-- An execution becomes running by its task's request only. -/
theorem running_step (grounded : e.Grounded) (stepped : e.step a = some e')
    (after : Running (e'.db.records x)) : Running (e.db.records x) ∨
      ∃ pid pgid, e.calling a = some (.markRunning x pid pgid) := by
  refine grounded.preserves stepped (P := fun r => Running r → Running (e.db.records x) ∨
    ∃ pid pgid, e.calling a = some (.markRunning x pid pgid)) ?_ .inl after
  intro change r r' permits agrees _ step held running
  rcases step.running agrees running with before | starts
  · exact held before
  · exact .inr (permits.starting starts)

/-- Whoever has an execution marked running holds a permit, or has been dropped. -/
theorem claims_of_marking {pid : Nat} {pgid : Int}
    (calling : e.calling a = some (.markRunning x pid pgid)) : e.Claims x := by
  rcases calling_eq_some calling with
    ⟨y, c, t, _, found, asked⟩ | ⟨n, c, point, _, _, asked⟩ | ⟨i, c, _, found⟩
  · have own : x = y := Task.request_ofTask asked
    subst own
    refine .inl ⟨t, found, ?_⟩
    cases point : t.point <;> simp only [Task.request?, point] at asked <;> cases asked
    rfl
  · cases point with
    | returned result => cases asked
    | _ => cases asked
  · exact .inr (.inr ⟨pid, pgid, List.mem_of_getElem? found⟩)

/-- Only an acquired permit gives a task or an execution a new claim. -/
theorem claims_step (grounded : e.Grounded) (stepped : e.step a = some e')
    (after : e'.Claims x) : e.Claims x ∨ e.Acquires a e' x := by
  rcases after with holds | running | ⟨pid, pgid, member⟩
  · exact (holds_step stepped holds).imp_left .inl
  · rcases running_step grounded stepped running with before | ⟨_, _, calling⟩
    · exact .inl (.inr (.inl before))
    · exact .inl (claims_of_marking calling)
  · rcases orphans_step stepped member with ⟨_, old⟩ | ⟨y, t, _, found, asked, _⟩
    · exact .inl (.inr (.inr ⟨pid, pgid, old⟩))
    · have own : x = y := Task.request_ofTask asked
      subst own
      refine .inl (.inl ⟨t, found, ?_⟩)
      cases point : t.point <;> simp only [Task.request?, point] at asked <;> cases asked
      rfl

/-- A terminal state that a task reads is the state of its execution. -/
theorem Grounded.read_over (grounded : e.Grounded) {current : Execution}
    (done : e.serve f c (.store (.getExecution x)) =
      some (e', .stored (.ok (.execution current))))
    (terminal : current.state.isTerminal = true) : Over (e.db.records x) := by
  obtain ⟨record, found, same⟩ := grounded.read_state done
  intro record' found'
  rw [found] at found'
  cases found'
  rw [← same]
  exact terminal

/-- A request that fails to mark an execution running changes nothing. -/
theorem Grounded.marking_failed (grounded : e.Grounded) {pid : Nat} {pgid : Int} {error : Error}
    (done : e.serve f c (.store (.markRunning x pid pgid)) =
      some (e', .stored (.error error))) : e'.db = e.db := by
  have asked : e.serveStore (.markRunning x pid pgid) c = some (e', .stored (.error error)) := done
  obtain ⟨result, db, broadcast, issued, rfl, told, _, outcome, _⟩ :=
    serveStore_eq_some grounded.sound.linked asked
  cases told
  obtain ⟨r, named, moved⟩ := outcome
  cases r with
  | ok event => cases named
  | error error => exact moved.1

/-- An execution that was finished is over. -/
theorem Grounded.finish_over (grounded : e.Grounded) {state : ExecutionState}
    {outcome : ExecutionOutcome} {stored : StoreReply}
    (done : e.serve f c (.store (.finish x state outcome)) = some (e', .stored (.ok stored)))
    (terminal : state.isTerminal = true) : Over (e'.db.records x) := by
  have asked : e.serveStore (.finish x state outcome) c = some (e', .stored (.ok stored)) := done
  obtain ⟨result, db, broadcast, issued, rfl, told, _, outcome, _⟩ :=
    serveStore_eq_some grounded.sound.linked asked
  cases told
  obtain ⟨r, named, moved⟩ := outcome
  cases r with
  | error error => cases named
  | ok event =>
    obtain ⟨_, _, _, _, _, effect⟩ := moved
    obtain ⟨_, _, _, same⟩ := effect.finish_records
    intro record after
    rw [show db.records = _ from same, Function.update_self] at after
    cases after
    exact terminal

/-- After a restart that went well no execution is live. -/
theorem restart_over (grounded : e.Grounded) (up : (e.restart c).down = false) :
    Over ((e.restart c).db.records x) := by
  have swept := request_of_post (post_reconcileIncomplete grounded.sound.linked c.clock)
    (fun message => ⟨[], ⟨List.nodup_nil, by simp, .refl grounded.sound.linked⟩, rfl⟩)
    c.conditions
  obtain ⟨ids, swept, ended⟩ := swept
  simp only [restart] at up
  cases asked : (Store.request (Database.reconcileIncomplete c.clock) c.conditions e.db).1 with
  | error error =>
    rw [asked] at up
    cases up
  | ok count =>
    rw [asked] at ended
    have left := finish_replay rfl swept.effect.replay x
    by_cases selected : x ∈ ids
    · exact left.1 selected
    · show Over ((Store.request (Database.reconcileIncomplete c.clock) c.conditions e.db).2.records x)
      rw [left.2 selected]
      intro record found
      by_contra live
      exact selected (ended x record found (Bool.eq_false_iff.mpr live))

/-! ## The bound -/

/-- What keeps the bound. Aborts and requests left over from aborted tasks come only behind
the closing of `slots`; a task that is behind a terminal state has an execution that is over;
and there is room for whoever has a claim, where as long as permits are given out the room is
taken by those who hold one. -/
structure Bounded (e : Engine) : Prop where
  closing : ∀ n point, e.calls n = some point → point.afterClose = true → e.slotsClosed = true
  doomed : ∀ x ∈ e.doomed, e.slotsClosed = true
  orphans : ∀ call ∈ e.orphans, e.slotsClosed = true
  settled : ∀ x t, e.tasks x = some t → t.point.settled = true → Over (e.db.records x)
  room : ∃ room : Finset ExecutionId, (∀ x, e.Claims x → x ∈ room) ∧
    room.card ≤ e.settings.maxConcurrentExecutions ∧
    (e.down = false → e.slotsClosed = false →
      room.card + e.slots ≤ e.settings.maxConcurrentExecutions ∧ ∀ x ∈ room, e.Holds x)

/-- Slots stay closed while the daemon runs. -/
theorem slotsClosed_step (stepped : e.step a = some e') (notRestart : a.isRestart = false)
    (closed : e.slotsClosed = true) : e'.slotsClosed = true := by
  cases step_slots stepped with
  | acquired _ _ same => exact same.trans closed
  | returned _ _ same => exact same.trans closed
  | closed _ now => exact now
  | forgotten acts _ =>
    rw [acts] at notRestart
    cases notRestart
  | kept _ same _ => exact same.trans closed

/-- Only `drain` dooms tasks. -/
theorem doomed_grown (stepped : e.step a = some e') (member : x ∈ e'.doomed) :
    (a.isRestart = false ∧ x ∈ e.doomed) ∨
      ∃ n c, a = .call n c ∧ e.calls n = some .drainAbort := by
  rcases step_cases stepped with ⟨c, rfl, rfl⟩ | ⟨_, stepped⟩
  · cases member
  cases a with
  | restart c => exact stepped.elim
  | begin m operation =>
    obtain ⟨_, rfl⟩ := stepped
    exact .inl ⟨rfl, member⟩
  | call m c =>
    obtain ⟨point, request, served, reply, point', found, asked, done, _, rfl⟩ :=
      runCall_eq_some stepped
    by_cases aborts : request = .abortTasks
    · rw [(call_request asked).2.2 aborts] at found
      exact .inr ⟨m, c, rfl, found⟩
    · exact .inl ⟨rfl, (serve_served done).doomed aborts ▸ member⟩
  | task id c =>
    obtain ⟨_, _, _, _, _, _, asked, done, _, rfl⟩ := runTask_eq_some stepped
    exact .inl ⟨rfl, (serve_served done).doomed (task_request asked).2.1 ▸ member⟩
  | writer conditions =>
    obtain ⟨_, _, _, _, _, _, rfl⟩ := runWriter_eq_some stepped
    exact .inl ⟨rfl, member⟩
  | control id written =>
    obtain ⟨_, _, _, rfl⟩ := writeControl_eq_some stepped
    exact .inl ⟨rfl, member⟩
  | abort id =>
    obtain ⟨_, _, _, _, _, rfl⟩ := abortTask_eq_some stepped
    exact .inl ⟨rfl, member⟩
  | orphan i c =>
    obtain ⟨call, served, _, _, done, rfl⟩ := runOrphan_eq_some stepped
    have asked : e.serve (.call 0) c (.store call) = some (served, _) := done
    exact .inl ⟨rfl, (serve_served asked).doomed (by simp) ▸ member⟩

namespace Bounded

theorem closing_step (bounded : e.Bounded) (stepped : e.step a = some e') {point : CallPoint}
    (present : e'.calls n = some point) (after : point.afterClose = true) :
    e'.slotsClosed = true := by
  cases step_call stepped n with
  | @moved c p p' request served reply acts found asked done move same =>
    rw [same, show (served.settleCall n reply p p').calls n = some p' from
      Function.update_self ..] at present
    cases present
    rcases move.afterClose after with before | rfl
    · exact slotsClosed_step stepped (by rw [acts]; rfl) (bounded.closing n p found before)
    · cases asked
      rw [same]
      exact (show served.slotsClosed = true from serve_closeSlots done)
  | @began operation _ same =>
    rw [same] at present
    simp only [Function.update_self, Option.some.injEq] at present
    rw [← present] at after
    cases operation with
    | execute given =>
      simp only [CallPoint.first] at after
      split at after <;> cases after
    | cancel id => cases after
    | drain => cases after
  | forgotten _ same =>
    rw [same] at present
    cases present
  | kept _ notRestart same =>
    exact slotsClosed_step stepped notRestart (bounded.closing n point (same ▸ present) after)

theorem doomed_step (bounded : e.Bounded) (stepped : e.step a = some e')
    (member : x ∈ e'.doomed) : e'.slotsClosed = true := by
  rcases doomed_grown stepped member with ⟨notRestart, old⟩ | ⟨n, c, acts, found⟩
  · exact slotsClosed_step stepped notRestart (bounded.doomed x old)
  · exact slotsClosed_step stepped (by rw [acts]; rfl) (bounded.closing n _ found rfl)

theorem orphans_step (bounded : e.Bounded) (stepped : e.step a = some e') {call : StoreCall}
    (member : call ∈ e'.orphans) : e'.slotsClosed = true := by
  rcases Engine.orphans_step stepped member with ⟨notRestart, old⟩ | ⟨x, t, rfl, _⟩
  · exact slotsClosed_step stepped notRestart (bounded.orphans call old)
  · rcases step_cases stepped with ⟨_, ⟨⟩, _⟩ | ⟨_, aborted⟩
    obtain ⟨_, _, _, _, doomed, _⟩ := abortTask_eq_some aborted
    exact slotsClosed_step stepped rfl (bounded.doomed x doomed)

theorem settled_step (bounded : e.Bounded) (grounded : e.Grounded) (stepped : e.step a = some e')
    {t : Task} (present : e'.tasks x = some t) (settled : t.point.settled = true) :
    Over (e'.db.records x) := by
  cases step_task stepped x with
  | @moved c u u' request served reply acts found asked done move same =>
    rw [same, show (served.settleTask x u u').tasks x = some u' from Function.update_self ..]
      at present
    cases present
    have issued := grounded.tasks x u found
    rcases move.settled settled with
      before | ⟨ending, current, point, rfl, terminal⟩ | ⟨ending, stored, point, rfl⟩
    · exact grounded.isOver stepped issued (bounded.settled x u found before)
    · simp only [Task.request?, point, Option.some.injEq] at asked
      subst asked
      exact grounded.isOver stepped issued (grounded.read_over done terminal)
    · simp only [Task.request?, point, Option.some.injEq] at asked
      subst asked
      rw [same]
      exact (show Over (served.db.records x) from
        grounded.finish_over done ending.outcome.isTerminal_terminalState)
  | dropped _ _ _ same =>
    rw [same, show (e.dropTask x _ _).tasks x = some _ from Function.update_self ..] at present
    cases present
    cases settled
  | made _ _ _ made =>
    rw [made] at present
    cases present
    cases settled
  | released _ _ _ found after =>
    rw [after] at present
    cases present
    exact grounded.isOver stepped (grounded.tasks x _ found) (bounded.settled x _ found settled)
  | forgotten _ same =>
    rw [same] at present
    cases present
  | kept _ _ _ same =>
    have found := same ▸ present
    exact grounded.isOver stepped (grounded.tasks x t found) (bounded.settled x t found settled)

/-- An execution whose task leaves `run_execution` is not running, as long as permits are
given out. -/
theorem not_running (bounded : e.Bounded) (grounded : e.Grounded) (orderly : e.Orderly a)
    (stepped : e.step a = some e') (gives : e.GivesBack a e' x)
    (accepting : e.slotsClosed = false) : ¬ Running (e'.db.records x) := by
  have dead : Over (e'.db.records x) → ¬ Running (e'.db.records x) :=
    fun isOver running => over_iff_not_live.mp isOver running.live
  cases gives with
  | dropped _ doomed =>
    rw [bounded.doomed x doomed] at accepting
    cases accepting
  | @moved c t t' request served reply acts found asked done move same held left =>
    have issued := grounded.tasks x t found
    rcases move.givesBack held left with
      failed | settled | ⟨current, point, rfl, terminal⟩ | ⟨message, stored, point, rfl⟩
    · subst acts
      rcases step_cases stepped with ⟨_, ⟨⟩, _⟩ | ⟨_, ran⟩
      have own : e'.tasks x = some t' := by
        rw [same]
        exact Function.update_self ..
      have fails : e.fails x c = true := by
        simp only [Engine.fails, found, Option.any_some, held, ran, own, failed, Bool.and_self]
      have before : ¬ Running (e.db.records x) := by
        rintro ⟨record, present, running⟩
        have quiet := orderly accepting fails
        rw [(records_eq_some.mp present).1] at quiet
        simp [running] at quiet
      intro running
      rcases running_step grounded stepped running with still | ⟨pid, pgid, calling⟩
      · exact before still
      · -- the request to mark it running has failed, and changed nothing
        have marking : request = .store (.markRunning x pid pgid) := by
          simp only [Engine.calling, found, asked, Option.bind_eq_bind, Option.bind_some]
            at calling
          cases request with
          | store call =>
            cases calling
            rfl
          | _ => cases calling
        subst marking
        rcases move.failing failed with ⟨error, rfl⟩ | breakable | reading
        · rw [same] at running
          apply before
          rw [← grounded.marking_failed done]
          exact running
        · cases point : t.point <;> rw [point] at breakable <;> try cases breakable
          all_goals
            simp only [Task.request?, point] at asked
            cases asked
        · simp only [Task.request?, reading] at asked
          cases asked
    · exact dead (grounded.isOver stepped issued (bounded.settled x t found settled))
    · simp only [Task.request?, point, Option.some.injEq] at asked
      subst asked
      exact dead (grounded.isOver stepped issued (grounded.read_over done terminal))
    · simp only [Task.request?, point, Option.some.injEq] at asked
      subst asked
      rw [same]
      refine fun running => over_iff_not_live.mp ?_ running.live
      exact (show Over (served.db.records x) from grounded.finish_over done rfl)

/-- A new daemon has room for everybody, or is down. -/
theorem room_restart (bounded : e.Bounded) (grounded : e.Grounded)
    (stepped : e.step (.restart c) = some (e.restart c)) :
    ∃ room : Finset ExecutionId, (∀ x, (e.restart c).Claims x → x ∈ room) ∧
      room.card ≤ e.settings.maxConcurrentExecutions ∧
      ((e.restart c).down = false →
        room.card + e.settings.maxConcurrentExecutions ≤ e.settings.maxConcurrentExecutions ∧
          ∀ x ∈ room, (e.restart c).Holds x) := by
  -- no task is left, and nothing starts an execution
  have running : ∀ x, (e.restart c).Claims x → Running ((e.restart c).db.records x) := by
    rintro x (⟨t, found, _⟩ | running | ⟨_, _, member⟩)
    · cases found
    · exact running
    · cases member
  cases down : (e.restart c).down with
  | false =>
    refine ⟨∅, ?_, by simp, fun _ => ⟨by simp, by simp⟩⟩
    intro x claims
    exact absurd (running x claims).live (over_iff_not_live.mp (restart_over grounded down))
  | true =>
    obtain ⟨room, inside, size, _⟩ := bounded.room
    refine ⟨room, fun x claims => inside x ?_, size, by simp⟩
    rcases running_step grounded stepped (running x claims) with before | ⟨_, _, calling⟩
    · exact .inr (.inl before)
    · cases calling

theorem room_step (bounded : e.Bounded) (grounded : e.Grounded) (orderly : e.Orderly a)
    (stepped : e.step a = some e') (notRestart : a.isRestart = false)
    (orphans : e'.slotsClosed = false → e'.orphans = []) :
    ∃ room : Finset ExecutionId, (∀ x, e'.Claims x → x ∈ room) ∧
      room.card ≤ e.settings.maxConcurrentExecutions ∧
      (e'.slotsClosed = false → room.card + e'.slots ≤ e.settings.maxConcurrentExecutions ∧
        ∀ x ∈ room, e'.Holds x) := by
  obtain ⟨room, inside, size, taken⟩ := bounded.room
  have up : e.down = false := by
    rcases step_cases stepped with ⟨c, rfl, _⟩ | ⟨up, _⟩
    · cases notRestart
    · exact up
  -- whoever keeps a permit still holds it
  have held : ∀ x ∈ room, e.slotsClosed = false → ¬ e.GivesBack a e' x → e'.Holds x := by
    intro x member accepting keeps
    have before := (taken up accepting).2 x member
    exact (holds_kept grounded stepped notRestart before).resolve_right keeps
  -- without an acquired permit there is no new claim
  have claimed : e.slots ≤ e'.slots → ∀ x, e'.Claims x → x ∈ room := by
    intro slots x claims
    rcases claims_step grounded stepped claims with before | ⟨_, _, fewer⟩
    · exact inside x before
    · omega
  cases step_slots stepped with
  | @acquired x acquires holds same =>
    obtain ⟨⟨c, acts⟩, accepting, slots⟩ := acquires
    obtain ⟨fits, _⟩ := taken up accepting
    have grown := Finset.card_insert_le x room
    refine ⟨insert x room, ?_, by omega, fun _ => ⟨by omega, ?_⟩⟩
    · intro y claims
      rcases claims_step grounded stepped claims with before | ⟨⟨c', acts'⟩, _⟩
      · exact Finset.mem_insert_of_mem (inside y before)
      · rw [acts] at acts'
        cases acts'
        exact Finset.mem_insert_self ..
    · intro y member
      rcases Finset.mem_insert.mp member with rfl | old
      · exact holds
      · by_cases own : y = x
        · rw [own]
          exact holds
        · refine held y old accepting ?_
          rintro (⟨acts', _⟩ | ⟨acts', _⟩)
          · rw [acts] at acts'
            cases acts'
            exact own rfl
          · rw [acts] at acts'
            cases acts'
  | @returned x gives slots same =>
    cases accepting : e.slotsClosed with
    | true =>
      refine ⟨room, claimed slots.1, size, ?_⟩
      intro opened
      rw [same, accepting] at opened
      cases opened
    | false =>
      obtain ⟨fits, _⟩ := taken up accepting
      have quiet := bounded.not_running grounded orderly stepped gives accepting
      have member : x ∈ room := by
        cases gives with
        | moved _ found _ _ _ _ holds _ => exact inside x (.inl ⟨_, found, holds⟩)
        | dropped _ doomed =>
          rw [bounded.doomed x doomed] at accepting
          cases accepting
      have smaller := Finset.card_erase_add_one member
      refine ⟨room.erase x, ?_, by omega, fun _ => ⟨by omega, ?_⟩⟩
      · intro y claims
        refine Finset.mem_erase.mpr ⟨?_, claimed slots.1 y claims⟩
        rintro rfl
        rcases claims with holds | running | ⟨_, _, left⟩
        · exact gives.not_holds stepped holds
        · exact quiet running
        · rw [orphans (same.trans accepting)] at left
          cases left
      · intro y there
        obtain ⟨other, old⟩ := Finset.mem_erase.mp there
        exact held y old accepting fun gives' => other (gives.unique gives')
  | closed slots now =>
    refine ⟨room, claimed (le_of_eq slots.symm), size, ?_⟩
    intro opened
    rw [now] at opened
    cases opened
  | forgotten acts _ =>
    rw [acts] at notRestart
    cases notRestart
  | kept slots same keeps =>
    refine ⟨room, claimed (le_of_eq slots.symm), size, ?_⟩
    intro opened
    have accepting := same.symm.trans opened
    obtain ⟨fits, _⟩ := taken up accepting
    exact ⟨by omega, fun x member => held x member accepting (keeps x)⟩

theorem step (bounded : e.Bounded) (grounded : e.Grounded) (orderly : e.Orderly a)
    (stepped : e.step a = some e') : e'.Bounded where
  closing _ _ := bounded.closing_step stepped
  doomed _ := bounded.doomed_step stepped
  orphans _ := bounded.orphans_step stepped
  settled _ _ := bounded.settled_step grounded stepped
  room := by
    rw [step_settings stepped]
    cases restarts : a.isRestart with
    | true =>
      cases a with
      | restart c =>
        cases stepped
        obtain ⟨room, inside, size, taken⟩ := bounded.room_restart grounded rfl
        exact ⟨room, inside, size, fun up _ => taken up⟩
      | _ => cases restarts
    | false =>
      have orphans : e'.slotsClosed = false → e'.orphans = [] := by
        intro opened
        apply List.eq_nil_iff_forall_not_mem.mpr
        intro call member
        rw [bounded.orphans_step stepped member] at opened
        cases opened
      obtain ⟨room, inside, size, taken⟩ :=
        bounded.room_step grounded orderly stepped restarts orphans
      exact ⟨room, inside, size, fun _ opened => taken opened⟩

end Bounded

theorem bounded_start (start : engine.start e) : e.Bounded := by
  obtain ⟨fresh, new⟩ := start
  have absent : ∀ x, e.db.records x = none := fun x => by rw [fresh.records]
  rw [new]
  refine ⟨by rintro n point ⟨⟩, by rintro x ⟨⟩, by rintro call ⟨⟩, by rintro x t ⟨⟩,
    ∅, ?_, by simp, fun _ _ => ⟨by simp [Engine.new], by simp⟩⟩
  rintro x (⟨t, found, _⟩ | ⟨record, found, _⟩ | ⟨_, _, member⟩)
  · cases found
  · rw [show (Engine.new e.settings e.db).db.records x = none from absent x] at found
    cases found
  · cases member

theorem bounded (reached : engine.ReachableVia Orderly e) : e.Bounded := by
  apply reached.invariant Bounded
  · intro e start
    exact bounded_start start
  · intro e a e' before held orderly stepped
    exact held.step (grounded before) orderly stepped

/-- The executions whose durable state is running. -/
def running (e : Engine) : List ExecutionRow :=
  e.db.executions.rows.filter fun row => row.state = .running

/-- Their ids differ, and fit into any room for them. -/
theorem running_le {room : Finset ExecutionId}
    (inside : ∀ x, Running (e.db.records x) → x ∈ room) : e.running.length ≤ room.card := by
  have nodup : (e.running.map ExecutionRow.id).Nodup :=
    e.db.executions.nodup.sublist (List.filter_sublist.map ExecutionRow.id)
  rw [← List.length_map (f := ExecutionRow.id), ← List.toFinset_card_of_nodup nodup]
  apply Finset.card_le_card
  intro x member
  obtain ⟨row, present, rfl⟩ := List.mem_map.mp (List.mem_toFinset.mp member)
  obtain ⟨stored, state⟩ := List.mem_filter.mp present
  exact inside row.id
    ⟨_, record_of_find? (Table.mem_rows_iff.mp stored), of_decide_eq_true state⟩

end Engine

/-- In every run in which `run_execution` does not end with an error while its execution is
running and permits are given out, no more executions are running than the settings allow. -/
theorem concurrency_bounded {e : Engine} (reached : engine.ReachableVia Engine.Orderly e) :
    e.running.length ≤ e.settings.maxConcurrentExecutions := by
  obtain ⟨room, inside, size, _⟩ := (Engine.bounded reached).room
  exact le_trans (Engine.running_le fun x running => inside x (.inr (.inl running))) size

/-- A daemon that runs one execution at a time. -/
def sampleSingle : Engine := .new { maxConcurrentExecutions := 1 } sampleDatabase

/-- "a" ends, and gives its permit to "b". -/
def sampleTurns : List Action :=
  sampleLaunch 0 "a" ++ sampleStart "a" ++ sampleEnd "a" ++
  [.task "a" {}, .task "a" { input := .joined (.ok ()) },
   .task "a" { input := .waited (.ok "exit status: 0") }, .task "a" {}] ++
  sampleLaunch 1 "b" ++ sampleStart "b"

theorem concurrency_bounded_sample :
    ∃ e, engine.ReachableVia Engine.Orderly e ∧ e.running.map (·.id) = ["b"] ∧
      e.running.length ≤ e.settings.maxConcurrentExecutions := by
  have traced : (engine.runIf Engine.Orderly sampleSingle sampleTurns).map (fun e =>
      e.running.map (·.id)) = some ["b"] := by decide +kernel
  obtain ⟨e, ran, running⟩ := Option.map_eq_some_iff.mp traced
  have start : engine.start sampleSingle := ⟨⟨rfl, rfl⟩, rfl⟩
  have reached := (System.ReachableVia.start start).run (System.runIf_runVia ran)
  exact ⟨e, reached, running, concurrency_bounded reached⟩

/-- The stream of "a" ends inside a frame while it runs: its permit goes to "b" before the record of "a"
is finished. -/
def sampleBreak : List Action :=
  sampleLaunch 0 "a" ++ sampleStart "a" ++
  [.task "a" { input := .frame (some (.error (.io "bytes remaining on stream"))) }] ++
  sampleLaunch 1 "b" ++ sampleStart "b"

theorem concurrency_exceeded :
    ∃ e, engine.Reachable e ∧ e.settings.maxConcurrentExecutions = 1 ∧
      e.running.map (·.id) = ["a", "b"] := by
  have traced : (engine.run sampleSingle sampleBreak).map (fun e =>
      (e.settings.maxConcurrentExecutions, e.running.map (·.id))) = some (1, ["a", "b"]) := by
    decide +kernel
  obtain ⟨e, ran, values⟩ := Option.map_eq_some_iff.mp traced
  simp only [Prod.mk.injEq] at values
  have start : engine.start sampleSingle := ⟨⟨rfl, rfl⟩, rfl⟩
  exact ⟨e, System.run_reachable start ran, values.1, values.2⟩

end Loomterm
