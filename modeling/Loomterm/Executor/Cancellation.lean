import Loomterm.Executor.Draining

/-!
# No supervisor escapes a drain

`drain_reaches_all` says that whoever is not terminal behind the critical section of `drain`
was told to cancel, or its stream has ended. The handle of an execution is registered, looked
up and given up under another lock than its state is written, so the argument goes through all
three windows: before the handle is registered, between registering and Started, and after the
handle is given up.
-/

namespace Loomterm

open Database

/-- The place of a cancel of `x` that has read that `x` is queued. -/
def CallPoint.withdraws (x : ExecutionId) : CallPoint → Bool
  | .cancelFind id .queued => id = x
  | .cancelFinish id _ => id = x
  | _ => false

/-- The points at which a task sends a Cancel because its execution is over. -/
def TaskPoint.refuses : TaskPoint → Bool
  | .registerCancel | .startedCancel => true
  | _ => false

/-- The points of a task whose handle is registered and not given up, or that has failed. -/
def TaskPoint.tethered : TaskPoint → Bool
  | .failed _ | .failedCheck _ | .failedFinish _ => true
  | point => point.attached

theorem TaskPoint.tethered_of_attached {point : TaskPoint} (attached : point.attached = true) :
    point.tethered = true := by
  cases point <;> first | exact attached | cases attached

theorem TaskPoint.tethered_of_isFailed {point : TaskPoint} (failed : point.isFailed = true) :
    point.tethered = true := by
  cases point <;> first | rfl | cases failed

theorem Task.capture_keeps (t : Task) (records : List CaptureRecord) :
    (t.capture records).startedHandled = t.startedHandled ∧
      (t.capture records).streamEnded = t.streamEnded := by
  cases records <;> exact ⟨rfl, rfl⟩

/-- A frame is read before it is handled. -/
theorem Task.receive_keeps (settings : Settings) (id : ExecutionId) (c : Choice) (t : Task)
    (frame : Option (Except Error SupervisorEvent)) :
    (t.receive settings id c frame).startedHandled = t.startedHandled ∧
      (t.streamEnded = true → (t.receive settings id c frame).streamEnded = true) := by
  cases frame with
  | none => exact ⟨rfl, fun _ => rfl⟩
  | some frame =>
    cases frame with
    | error e => exact ⟨rfl, fun ended => ended⟩
    | ok event =>
      cases event with
      | started pid pgid => exact ⟨rfl, fun ended => ended⟩
      | finished outcome => exact ⟨rfl, fun _ => rfl⟩
      | output stream data =>
        cases data with
        | error e => exact ⟨rfl, fun ended => ended⟩
        | ok data =>
          have kept := fun own : Task => Task.capture_keeps own (captureOutput id c.now c.later
            stream data (t.request.captureLimitBytes.getD settings.captureLimitBytes) t.captured
            t.truncated)
          exact ⟨(kept _).1, fun ended => (kept _).2.trans ended⟩

namespace TaskMove

variable {settings : Settings} {id : ExecutionId} {c : Choice} {t t' : Task} {reply : Reply}

/-- An answer of the store from which a task knows that its execution is over: it reads a
terminal state, or nothing, or it has written one, or could not. -/
inductive Concludes (settings : Settings) (id : ExecutionId) (t : Task) : Reply → Prop
  | read {current : Execution} : t.request? settings id = some (.store (.getExecution id)) →
      current.state.isTerminal = true →
      Concludes settings id t (.stored (.ok (.execution current)))
  | unread {error : Error} : t.request? settings id = some (.store (.getExecution id)) →
      Concludes settings id t (.stored (.error error))
  | finish {state : ExecutionState} {outcome : ExecutionOutcome}
      {result : Except Error StoreReply} :
      t.request? settings id = some (.store (.finish id state outcome)) →
      state.isTerminal = true → Concludes settings id t (.stored result)

/-- A task leaves its handle when its stream ends, or when its execution is over. -/
theorem untethers (move : TaskMove settings id c t reply t')
    (tethered : t.point.tethered = true) (left : t'.point.tethered = false) :
    t'.streamEnded = true ∨ Concludes settings id t reply := by
  have failing : t'.point.isFailed = true → False := by
    intro failed
    rw [TaskPoint.tethered_of_isFailed failed] at left
    cases left
  have gone : t'.point.attached = false := by
    cases attached : t'.point.attached with
    | false => rfl
    | true =>
      rw [TaskPoint.tethered_of_attached attached] at left
      cases left
  cases attached : t.point.attached with
  | true =>
    rcases move.detaches attached gone with
      failed | ⟨point, rfl⟩ | ⟨ending, current, point, rfl, terminal⟩ |
      ⟨ending, stored, point, rfl⟩
    · exact (failing failed).elim
    · cases move with
      | frame => exact .inl rfl
      | joined point' | reaped point' | registerCancelled point' | startedCancelled point' =>
        rw [point] at point'
        cases point'
      | broke breakable =>
        rw [point] at breakable
        cases breakable
    · exact .inr (.read (by simp only [Task.request?, point]) terminal)
    · exact .inr (.finish (by simp only [Task.request?, point]; rfl)
        ending.outcome.isTerminal_terminalState)
  | false =>
    cases move with
    | reported | failedLive => cases left
    | failedOver point terminal =>
      exact .inr (.read (by simp only [Task.request?, point]) terminal)
    | failedUnread point => exact .inr (.unread (by simp only [Task.request?, point]))
    | failedFinished point => exact .inr (.finish (by simp only [Task.request?, point]; rfl) rfl)
    | storeFailed => exact (failing rfl).elim
    | broke => exact (failing rfl).elim
    | begun point | acquired point | refused point | checked point | skipped point
    | launched point | notLaunched point | launchReported point | spawned point
    | registering point | registerLive point | registerOver point | registerCancelled point
    | registered point | removed point | joined point | reaped point | missing point
    | pruned point | cleaned point | ended point =>
      rw [point] at tethered
      cases tethered
    | frame point | starting point | startedLive point | startedOver point
    | startedCancelled point | running point | captured point =>
      rw [point] at attached
      cases attached
    | @flushing ending point | @flushed ending point | @finalLive ending _ point
    | @finalOver ending _ point | @finished ending _ point =>
      rw [point] at attached tethered
      cases ending with
      | received => cases attached
      | missing => cases tethered

theorem handles (move : TaskMove settings id c t reply t') (handled : t'.startedHandled = true) :
    t.startedHandled = true ∨ t.point = .startedCancel ∨
      ∃ pid pgid stored, t.point = .markRunning pid pgid ∧ reply = .stored (.ok stored) := by
  cases move with
  | startedCancelled point => exact .inr (.inl point)
  | running point => exact .inr (.inr ⟨_, _, _, point, rfl⟩)
  | @frame given => exact .inl ((Task.receive_keeps settings id c t given).1.symm.trans handled)
  | @captured _ rest => cases rest <;> exact .inl handled
  | _ => exact .inl handled

/-- What a task has handled and seen end stays so. -/
theorem keeps (move : TaskMove settings id c t reply t') :
    (t.startedHandled = true → t'.startedHandled = true) ∧
      (t.streamEnded = true → t'.streamEnded = true) := by
  cases move with
  | startedCancelled => exact ⟨fun _ => rfl, fun ended => ended⟩
  | running => exact ⟨fun _ => rfl, fun ended => ended⟩
  | @frame given =>
    have kept := Task.receive_keeps settings id c t given
    exact ⟨fun handled => kept.1.trans handled, kept.2⟩
  | @captured _ rest => cases rest <;> exact ⟨fun handled => handled, fun ended => ended⟩
  | _ => exact ⟨fun handled => handled, fun ended => ended⟩

/-- A Cancel instead of a handle, or of a start, answers a terminal state. -/
theorem refuses (move : TaskMove settings id c t reply t') (refuses : t'.point.refuses = true) :
    ∃ current, t.request? settings id = some (.store (.getExecution id)) ∧
      reply = .stored (.ok (.execution current)) ∧ current.state.isTerminal = true := by
  cases move with
  | registerOver point terminal | startedOver point terminal =>
    exact ⟨_, by simp only [Task.request?, point], rfl, terminal⟩
  | @frame given =>
    have after := Task.receive_afterFrame settings id c t given
    cases point : (t.receive settings id c given).point <;> rw [point] at after refuses <;>
      first | (cases after; done) | cases refuses
  | @captured _ rest => cases rest <;> cases refuses
  | @finalOver ending | @finished ending => cases ending <;> cases refuses
  | _ => cases refuses

/-- A task that asks to have its execution marked running handles its Started frame, or fails. -/
theorem marks (move : TaskMove settings id c t reply t') {pid : Nat} {pgid : Int}
    (point : t.point = .markRunning pid pgid) :
    (t' = { t with point := .reading, startedHandled := true } ∧
      ∃ stored, reply = .stored (.ok stored)) ∨ ∃ error, reply = .stored (.error error) := by
  cases move with
  | running => exact .inl ⟨rfl, _, rfl⟩
  | storeFailed => exact .inr ⟨_, rfl⟩
  | broke breakable =>
    rw [point] at breakable
    cases breakable
  | begun own | acquired own | refused own | checked own | skipped own | launched own
  | notLaunched own | launchReported own | spawned own | registering own | registerLive own
  | registerOver own | registerCancelled own | registered own | frame own | starting own
  | startedLive own | startedOver own | startedCancelled own | captured own | flushing own
  | flushed own | finalLive own | finalOver own | finished own | removed own | joined own
  | reaped own | missing own | pruned own | reported own | failedLive own | failedOver own
  | failedUnread own | failedFinished own | cleaned own | ended own =>
    rw [point] at own
    cases own

end TaskMove

namespace Engine

variable {e e' : Engine} {a : Action} {f : FiberId} {c : Choice} {x : ExecutionId} {n : Nat}
  {request : Request} {reply : Reply}

/-! ## Where running executions are -/

/-- The request to the store that a step makes fails in the storage. -/
def storageFails (e : Engine) (a : Action) : Bool :=
  (e.calling a).any fun call =>
    match (Store.request (call.program a.choice) a.choice.conditions e.db).1 with
    | .ok _ => false
    | .error error => error.isStorage

/-- Store calls do not fail in the storage. -/
def StoreHolds (e : Engine) (a : Action) : Prop := e.storageFails a = false

instance (e : Engine) (a : Action) : Decidable (e.StoreHolds a) :=
  inferInstanceAs (Decidable (e.storageFails a = false))

theorem StoreHolds.error {call : StoreCall} {served : Engine} {error : Error} {t : Task}
    (holds : e.StoreHolds (.task x c)) (found : e.tasks x = some t)
    (asked : t.request? e.settings x = some (.store call))
    (done : e.serve f c (.store call) = some (served, .stored (.error error)))
    (linked : e.db.Linked) : error.isStorage = false := by
  have asked' : e.serveStore call c = some (served, .stored (.error error)) := done
  obtain ⟨result, db, _, _, _, told, requested, _⟩ := serveStore_eq_some linked asked'
  cases told
  have calling : e.calling (.task x c) = some call := by
    simp only [Engine.calling, found, asked, Option.bind_eq_bind, Option.bind_some, Request.call?]
  simpa only [StoreHolds, storageFails, calling, Option.any_some, Action.choice, requested]
    using holds

/-- An execution becomes running at its task's request, and was queued. -/
theorem newly_running (grounded : e.Grounded) (draining : e.Draining)
    (stepped : e.step a = some e') (before : ¬ Running (e.db.records x))
    (after : Running (e'.db.records x)) : Queued (e.db.records x) ∧ ∃ c t pid pgid,
      a = .task x c ∧ e.tasks x = some t ∧ t.point = .markRunning pid pgid := by
  obtain ⟨pid, pgid, calling⟩ := (Engine.running_step grounded stepped after).resolve_left before
  have known : ∃ t, e.tasks x = some t := by
    rcases grounded.marking calling with ⟨c, t, _, found, _⟩ | ⟨t, found, _⟩
    · exact ⟨t, found⟩
    · exact ⟨t, found⟩
  obtain ⟨own, found⟩ := known
  have queued : Queued (e.db.records x) := by
    by_contra unqueued
    have isOver : Over (e.db.records x) := over_iff_not_live.mpr fun live =>
      (live_iff.mp live).elim unqueued before
    have still := grounded.isOver stepped (grounded.tasks x own found) isOver
    exact over_iff_not_live.mp still after.live
  refine ⟨queued, ?_⟩
  rcases grounded.marking calling with ⟨c, t, acts, found, point⟩ | ⟨t, found, aborted⟩
  · exact ⟨c, t, pid, pgid, acts, found, point⟩
  · exact (draining.unqueued (draining.aborted x t found aborted) x queued).elim

/-- An execution that was marked running is running. -/
theorem Grounded.marked (grounded : e.Grounded) {pid : Nat} {pgid : Int} {stored : StoreReply}
    (done : e.serve f c (.store (.markRunning x pid pgid)) = some (e', .stored (.ok stored))) :
    Running (e'.db.records x) := by
  have asked : e.serveStore (.markRunning x pid pgid) c = some (e', .stored (.ok stored)) := done
  obtain ⟨result, db, broadcast, issued, rfl, told, _, outcome, _⟩ :=
    serveStore_eq_some grounded.sound.linked asked
  cases told
  obtain ⟨r, named, moved⟩ := outcome
  cases r with
  | error error => cases named
  | ok event =>
    obtain ⟨_, _, _, _, _, effect⟩ := moved
    obtain ⟨record, _, _, same⟩ := effect.start_records
    refine ⟨record.start c.now pid pgid, ?_, rfl⟩
    rw [show db.records = _ from same, Function.update_self]

/-- An execution that a read or a finish misses is over, when the storage holds. -/
theorem Grounded.missed (grounded : e.Grounded) {error : Error}
    (done : e.serve f c (.store (.getExecution x)) = some (e', .stored (.error error)))
    (holds : error.isStorage = false) : Over (e.db.records x) := by
  have asked : e.serveStore (.getExecution x) c = some (e', .stored (.error error)) := done
  obtain ⟨result, _, _, _, _, told, _, outcome, _⟩ :=
    serveStore_eq_some grounded.sound.linked asked
  cases told
  obtain ⟨r, named, read⟩ := outcome
  cases r with
  | ok execution => cases named
  | error own =>
    cases named
    rcases read.2 with storage | ⟨_, absent⟩
    · rw [storage] at holds
      cases holds
    · rw [absent]
      rintro _ ⟨⟩

theorem Grounded.unfinished (grounded : e.Grounded) {state : ExecutionState}
    {outcome : ExecutionOutcome} {error : Error}
    (done : e.serve f c (.store (.finish x state outcome)) = some (e', .stored (.error error)))
    (holds : error.isStorage = false) : Over (e.db.records x) := by
  have asked : e.serveStore (.finish x state outcome) c = some (e', .stored (.error error)) := done
  obtain ⟨result, _, _, _, _, told, _, outcome, _⟩ :=
    serveStore_eq_some grounded.sound.linked asked
  cases told
  obtain ⟨r, named, moved⟩ := outcome
  cases r with
  | ok event => cases named
  | error own =>
    cases named
    rcases moved.2 with storage | ⟨_, absent⟩ | ⟨_, record, there, terminal⟩
    · rw [storage] at holds
      cases holds
    · rw [absent]
      rintro _ ⟨⟩
    · intro other found
      rw [there] at found
      cases found
      exact terminal

/-- When the storage holds, an execution is over behind an answer that says so. -/
theorem Grounded.concluded (grounded : e.Grounded) (holds : e.StoreHolds (.task x c))
    (stepped : e.step (.task x c) = some e') {t t' : Task} {served : Engine}
    (found : e.tasks x = some t) (asked : t.request? e.settings x = some request)
    (done : e.serve (.task x) c request = some (served, reply))
    (same : e' = served.settleTask x t t')
    (concludes : TaskMove.Concludes e.settings x t reply) : Over (e'.db.records x) := by
  have linked := grounded.sound.linked
  have isOver := grounded.isOver stepped (grounded.tasks x t found)
  cases concludes with
  | read asks terminal =>
    rw [asked, Option.some.injEq] at asks
    subst asks
    exact isOver (grounded.read_over done terminal)
  | unread asks =>
    rw [asked, Option.some.injEq] at asks
    subst asks
    exact isOver (grounded.missed done (holds.error found asked done linked))
  | @finish _ _ result asks terminal =>
    rw [asked, Option.some.injEq] at asks
    subst asks
    cases result with
    | ok stored =>
      rw [same]
      show Over (served.db.records x)
      exact grounded.finish_over done terminal
    | error error => exact isOver (grounded.unfinished done (holds.error found asked done linked))

/-- Where `x` stands to its handle. A Started event of an execution that is over is answered
with a Cancel; an attached task has its handle registered, unless its execution is over or a
drain is through; a running execution has a task that has handled its Started event and is
tethered to its handle, unless its stream has ended or a drain is through; behind its Started
event it is not queued; who withdraws it finds it not running; and who was cancelled is over. -/
structure Tethered (x : ExecutionId) (e : Engine) : Prop where
  refused : ∀ t, e.tasks x = some t → t.point.refuses = true → Over (e.db.records x)
  held : ∀ t, e.tasks x = some t → t.point.attached = true →
    x ∈ e.processes ∨ Over (e.db.records x) ∨ e.drained = true
  running : e.down = false → Running (e.db.records x) → ∃ t, e.tasks x = some t ∧
    t.startedHandled = true ∧ (t.streamEnded = true ∨ e.drained = true ∨
      x ∈ e.processes ∧ t.point.tethered = true)
  handled : ∀ t, e.tasks x = some t → t.startedHandled = true → ¬ Queued (e.db.records x)
  withdrawn : ∀ n point, e.calls n = some point → point.withdraws x = true →
    ¬ Running (e.db.records x)
  cancelled : x ∈ e.cancelledQueued → x ∈ e.issued ∧ Over (e.db.records x)

/-- Another task, a call or a writer leaves the handle, or a drain is through. -/
theorem handle_or_drained (draining : e.Draining) (stepped : e.step a = some e')
    (notOwn : a.fiber? ≠ some (.task x)) (notRestart : a.isRestart = false)
    (member : x ∈ e.processes) : x ∈ e'.processes ∨ e'.drained = true := by
  by_cases clears : ∃ n c, a = .call n c ∧ e.calls n = some .drainClear
  · obtain ⟨n, c, acts, found⟩ := clears
    exact .inr (drained_step stepped notRestart (draining.behind n _ found rfl))
  · refine .inl ((handle_kept stepped notOwn notRestart fun n c acts found => ?_).mpr member)
    exact clears ⟨n, c, acts, found⟩

theorem tethered_keeps {settings : Settings} {t : Task} (tethered : t.point.tethered = true)
    (asked : t.request? settings x = some request) : request.changesProcesses = false := by
  cases point : t.point <;> rw [point] at tethered <;>
    simp only [Task.request?, point] at asked <;> cases asked <;> first | rfl | cases tethered

/-- The task that a step leaves, with what it had before. -/
theorem task_origin (draining : e.Draining) (stepped : e.step a = some e') {t' : Task}
    (present : e'.tasks x = some t') :
    (∃ c t reply request served, a = .task x c ∧ e.tasks x = some t ∧
      t.request? e.settings x = some request ∧
      e.serve (.task x) c request = some (served, reply) ∧
      TaskMove e.settings x c t reply t' ∧ e' = served.settleTask x t t') ∨
    (∃ n c execution given cwd, a = .call n c ∧
      e.calls n = some (.executeSpawn execution given cwd) ∧ execution.id = x ∧
      t' = { request := given, cwd }) ∨
    ∃ t, e.tasks x = some t ∧ (t'.point = t.point ∨ t'.point = .aborted ∧ e'.drained = true) ∧
      t'.startedHandled = t.startedHandled ∧ t'.streamEnded = t.streamEnded ∧
      a.fiber? ≠ some (.task x) ∧ a.isRestart = false := by
  cases step_task stepped x with
  | @moved c t u request served reply acts found asked done move same =>
    have own : e'.tasks x = some u := by
      rw [same]
      exact Function.update_self ..
    rw [present] at own
    cases own
    exact .inl ⟨c, t, reply, request, served, acts, found, asked, done, move, same⟩
  | @dropped t request acts found _ same =>
    have own : e'.tasks x = some (t.goto .aborted) := by
      rw [same]
      exact Function.update_self ..
    rw [present] at own
    cases own
    have drained := draining.aborted_step stepped present rfl
    exact .inr (.inr ⟨t, found, .inr ⟨rfl, drained⟩, rfl, rfl, by rw [acts]; rintro ⟨⟩,
      by rw [acts]; rfl⟩)
  | made acts found own made =>
    rw [present] at made
    cases made
    exact .inr (.inl ⟨_, _, _, _, _, acts, found, own, rfl⟩)
  | released acts _ _ found after =>
    rw [present] at after
    cases after
    exact .inr (.inr ⟨_, found, .inl rfl, rfl, rfl, by rw [acts]; rintro ⟨⟩, by rw [acts]; rfl⟩)
  | forgotten _ same =>
    rw [same] at present
    cases present
  | kept notOwn _ notRestart same =>
    exact .inr (.inr ⟨t', same ▸ present, .inl rfl, rfl, rfl, notOwn, notRestart⟩)

namespace Tethered

theorem refused_step (tethered : e.Tethered x) (grounded : e.Grounded) (draining : e.Draining)
    (stepped : e.step a = some e') {t' : Task} (present : e'.tasks x = some t')
    (refuses : t'.point.refuses = true) : Over (e'.db.records x) := by
  rcases task_origin draining stepped present with
    ⟨c, t, reply, request, served, rfl, found, asked, done, move, same⟩ |
    ⟨_, _, _, _, _, _, _, _, rfl⟩ | ⟨t, found, place, _⟩
  · obtain ⟨current, asks, rfl, terminal⟩ := move.refuses refuses
    rw [asked, Option.some.injEq] at asks
    subst asks
    exact grounded.isOver stepped (grounded.tasks x t found) (grounded.read_over done terminal)
  · cases refuses
  · refine grounded.isOver stepped (grounded.tasks x t found) (tethered.refused t found ?_)
    rcases place with same | ⟨aborted, _⟩
    · exact same ▸ refuses
    · rw [aborted] at refuses
      cases refuses

theorem held_step (tethered : e.Tethered x) (grounded : e.Grounded) (draining : e.Draining)
    (stepped : e.step a = some e') {t' : Task} (present : e'.tasks x = some t')
    (attached : t'.point.attached = true) :
    x ∈ e'.processes ∨ Over (e'.db.records x) ∨ e'.drained = true := by
  rcases task_origin draining stepped present with
    ⟨c, t, reply, request, served, rfl, found, asked, done, move, same⟩ |
    ⟨_, _, _, _, _, _, _, _, rfl⟩ | ⟨t, found, place, _, _, notOwn, notRestart⟩
  · have issued := grounded.tasks x t found
    have isOver := grounded.isOver stepped issued
    rcases move.attaches attached with before | point | point
    · refine (tethered.held t found before).imp (fun member => ?_)
        (Or.imp isOver (drained_step stepped rfl))
      rw [same]
      show x ∈ served.processes
      rw [(serve_served done).processes (Attended.attached_keeps before asked)]
      exact member
    · simp only [Task.request?, point, Option.some.injEq] at asked
      subst asked
      cases done
      rw [same]
      exact .inl (List.mem_append_right _ (List.mem_singleton_self x))
    · exact .inr (.inl (isOver (tethered.refused t found (by rw [point]; rfl))))
  · cases attached
  · rcases place with point | ⟨aborted, _⟩
    · rcases tethered.held t found (point ▸ attached) with member | isOver | drained
      · exact (handle_or_drained draining stepped notOwn notRestart member).imp_right .inr
      · exact .inr (.inl (grounded.isOver stepped (grounded.tasks x t found) isOver))
      · exact .inr (.inr (drained_step stepped notRestart drained))
    · rw [aborted] at attached
      cases attached

/-- What a running execution had before a step, it has behind it, or its stream has ended. -/
theorem still_running (tethered : e.Tethered x) (grounded : e.Grounded) (draining : e.Draining)
    (holds : e.StoreHolds a) (stepped : e.step a = some e') (notRestart : a.isRestart = false)
    (up : e.down = false) (before : Running (e.db.records x)) (after : Running (e'.db.records x)) :
    ∃ t, e'.tasks x = some t ∧ t.startedHandled = true ∧
      (t.streamEnded = true ∨ e'.drained = true ∨
        x ∈ e'.processes ∧ t.point.tethered = true) := by
  obtain ⟨t, found, handled, stands⟩ := tethered.running up before
  have notOver : ¬ Over (e'.db.records x) := fun isOver => over_iff_not_live.mp isOver after.live
  have kept : a.fiber? ≠ some (.task x) → ∀ {ended tied : Bool}, (ended = true ∨
      e.drained = true ∨ x ∈ e.processes ∧ tied = true) →
      ended = true ∨ e'.drained = true ∨ x ∈ e'.processes ∧ tied = true := by
    rintro notOwn ended tied (own | drained | ⟨member, own⟩)
    · exact .inl own
    · exact .inr (.inl (drained_step stepped notRestart drained))
    · rcases handle_or_drained draining stepped notOwn notRestart member with still | drained
      · exact .inr (.inr ⟨still, own⟩)
      · exact .inr (.inl drained)
  cases step_task stepped x with
  | @moved c t₀ t' request served reply acts found' asked done move same =>
    rw [found] at found'
    cases found'
    subst acts
    refine ⟨t', by rw [same]; exact Function.update_self .., move.keeps.1 handled, ?_⟩
    rcases stands with ended | drained | ⟨member, tied⟩
    · exact .inl (move.keeps.2 ended)
    · exact .inr (.inl (drained_step stepped rfl drained))
    cases tied' : t'.point.tethered with
    | true =>
      refine .inr (.inr ⟨?_, rfl⟩)
      rw [same]
      show x ∈ served.processes
      rw [(serve_served done).processes (tethered_keeps tied asked)]
      exact member
    | false =>
      rcases move.untethers tied tied' with ended | concludes
      · exact .inl ended
      · exact (notOver (grounded.concluded holds stepped found asked done same concludes)).elim
  | @dropped t₀ request acts found' _ same =>
    rw [found] at found'
    cases found'
    have present : e'.tasks x = some (t.goto .aborted) := by
      rw [same]
      exact Function.update_self ..
    exact ⟨_, present, handled, .inr (.inl (draining.aborted_step stepped present rfl))⟩
  | made _ calling own _ =>
    rw [← own, (grounded.spawning _ _ _ _ calling).1] at found
    cases found
  | released acts _ _ found' now =>
    rw [found] at found'
    cases found'
    exact ⟨_, now, handled, kept (by rw [acts]; rintro ⟨⟩) stands⟩
  | forgotten acts _ =>
    rw [acts] at notRestart
    cases notRestart
  | kept notOwn _ _ same => exact ⟨t, same.trans found, handled, kept notOwn stands⟩

theorem running_step (tethered : e.Tethered x) (grounded : e.Grounded) (draining : e.Draining)
    (holds : e.StoreHolds a) (stepped : e.step a = some e') (up : e'.down = false)
    (running : Running (e'.db.records x)) : ∃ t, e'.tasks x = some t ∧ t.startedHandled = true ∧
      (t.streamEnded = true ∨ e'.drained = true ∨ x ∈ e'.processes ∧ t.point.tethered = true) := by
  rcases step_cases stepped with ⟨c, rfl, rfl⟩ | ⟨up', after⟩
  · exact (over_iff_not_live.mp (restart_over grounded up) running.live).elim
  have notRestart : a.isRestart = false := by
    cases a with
    | restart c => exact after.elim
    | _ => rfl
  by_cases before : Running (e.db.records x)
  · exact tethered.still_running grounded draining holds stepped notRestart up' before running
  -- the task has just marked it, under its handle
  obtain ⟨queued, c, t, pid, pgid, rfl, found, point⟩ :=
    newly_running grounded draining stepped before running
  obtain ⟨t₀, request, served, reply, t', found', asked, done, next, rfl⟩ :=
    runTask_eq_some after
  rw [found] at found'
  cases found'
  simp only [Task.request?, point, Option.some.injEq] at asked
  subst asked
  rcases (Task.next_move next).marks point with ⟨rfl, _⟩ | ⟨error, rfl⟩
  · have processes : served.processes = e.processes := (serve_served done).processes rfl
    have held := tethered.held t found (by rw [point]; rfl)
    refine ⟨_, Function.update_self .., rfl, .inr (.inr ⟨?_, rfl⟩)⟩
    show x ∈ served.processes
    rw [processes]
    rcases held with member | isOver | drained
    · exact member
    · exact (over_iff_not_live.mp isOver queued.live).elim
    · exact (draining.unqueued drained x queued).elim
  · have same : served.db = e.db := grounded.marking_failed done
    have running : Running (served.db.records x) := running
    rw [same] at running
    exact (before running).elim

theorem handled_step (tethered : e.Tethered x) (grounded : e.Grounded) (draining : e.Draining)
    (stepped : e.step a = some e') {t' : Task} (present : e'.tasks x = some t')
    (handled : t'.startedHandled = true) : ¬ Queued (e'.db.records x) := by
  rcases task_origin draining stepped present with
    ⟨c, t, reply, request, served, rfl, found, asked, done, move, same⟩ |
    ⟨_, _, _, _, _, _, _, _, rfl⟩ | ⟨t, found, _, own, _⟩
  · have issued := grounded.tasks x t found
    rcases move.handles handled with before | point | ⟨pid, pgid, stored, point, rfl⟩
    · exact grounded.unqueued_issued stepped issued (tethered.handled t found before)
    · have isOver := tethered.refused t found (by rw [point]; rfl)
      intro queued
      exact over_iff_not_live.mp (grounded.isOver stepped issued isOver) queued.live
    · simp only [Task.request?, point, Option.some.injEq] at asked
      subst asked
      intro queued
      rw [same] at queued
      exact queued.not_running (show Running (served.db.records x) from grounded.marked done)
  · cases handled
  · exact grounded.unqueued_issued stepped (grounded.tasks x t found)
      (tethered.handled t found (own ▸ handled))

/-- A cancel that has read that its execution is queued holds `transitions`, so that nobody
marks it running. -/
theorem withdrawn_step (tethered : e.Tethered x) (grounded : e.Grounded) (draining : e.Draining)
    (stepped : e.step a = some e') {point : CallPoint} (present : e'.calls n = some point)
    (withdraws : point.withdraws x = true) : ¬ Running (e'.db.records x) := by
  intro running
  have inside : point.isFirst = false := by
    cases point <;> first | rfl | cases withdraws
  rcases call_cases stepped present inside with
    ⟨c, p, request, served, reply, rfl, found, asked, done, move, same⟩ | ⟨_, _, before⟩
  · have still : Running (e.db.records x) := by
      by_contra before
      obtain ⟨_, _, _, _, _, acts, _⟩ := newly_running grounded draining stepped before running
      cases acts
    cases move with
    | @got id execution =>
      cases asked
      obtain ⟨record, there, read⟩ := grounded.read_state done
      cases state : execution.state <;> rw [state] at withdraws <;> try cases withdraws
      have own : id = x := of_decide_eq_true withdraws
      subst own
      obtain ⟨record', there', state'⟩ := still
      rw [there] at there'
      cases there'
      rw [state, state'] at read
      cases read
    | foundQueued => exact tethered.withdrawn n _ found withdraws still
    | @listed ids => cases ids <;> cases withdraws
    | @sent _ rest => cases rest <;> cases withdraws
    | _ => cases withdraws
  · by_cases still : Running (e.db.records x)
    · exact tethered.withdrawn n point before withdraws still
    · obtain ⟨_, c, t, pid, pgid, rfl, found, marking⟩ :=
        newly_running grounded draining stepped still running
      have own := grounded.locked.task x t found (by rw [marking]; rfl)
      have other := grounded.locked.call n point before
        (by cases point <;> first | rfl | cases withdraws)
      rw [own] at other
      cases other

theorem cancelled_step (tethered : e.Tethered x) (grounded : e.Grounded)
    (stepped : e.step a = some e') (member : x ∈ e'.cancelledQueued) :
    x ∈ e'.issued ∧ Over (e'.db.records x) := by
  rcases grounded.cancelledQueued_step stepped member with ⟨_, old⟩ | ⟨_, _, _, _, live, isOver⟩
  · obtain ⟨issued, isOver⟩ := tethered.cancelled old
    exact ⟨grounded.issued stepped issued, grounded.isOver stepped issued isOver⟩
  · exact ⟨grounded.issued stepped (grounded.live_issued live), isOver⟩

theorem step (tethered : e.Tethered x) (grounded : e.Grounded) (draining : e.Draining)
    (holds : e.StoreHolds a) (stepped : e.step a = some e') : e'.Tethered x where
  refused _ := tethered.refused_step grounded draining stepped
  held _ := tethered.held_step grounded draining stepped
  running := tethered.running_step grounded draining holds stepped
  handled _ := tethered.handled_step grounded draining stepped
  withdrawn _ _ := tethered.withdrawn_step grounded draining stepped
  cancelled := tethered.cancelled_step grounded stepped

end Tethered

theorem tethered_start (start : engine.start e) : e.Tethered x := by
  obtain ⟨fresh, new⟩ := start
  have absent : e.db.records x = none := by rw [fresh.records]
  rw [new]
  refine ⟨by rintro t ⟨⟩, by rintro t ⟨⟩, ?_, by rintro t ⟨⟩, by rintro n point ⟨⟩, by rintro ⟨⟩⟩
  rintro _ ⟨record, found, _⟩
  rw [show (Engine.new e.settings e.db).db.records x = none from absent] at found
  cases found

theorem tethered (reached : engine.ReachableVia StoreHolds e) (x : ExecutionId) :
    e.Tethered x := by
  refine reached.invariant (Tethered x) (fun e start => tethered_start start) ?_
  intro e a e' before held holds stepped
  exact held.step (grounded before) (draining before) holds stepped

/-! ## Who was told to cancel -/

/-- Whether the task of `x` has seen the end of its stream. -/
def streamOver (e : Engine) (x : ExecutionId) : Prop :=
  ∃ t, e.tasks x = some t ∧ t.streamEnded = true

/-- The stream does not begin again. -/
theorem streamOver_step (grounded : e.Grounded) (stepped : e.step a = some e')
    (notRestart : a.isRestart = false) (ended : e.streamOver x) : e'.streamOver x := by
  obtain ⟨t, found, ended⟩ := ended
  cases step_task stepped x with
  | moved _ found' _ _ move same =>
    rw [found] at found'
    cases found'
    rw [same]
    exact ⟨_, Function.update_self .., move.keeps.2 ended⟩
  | dropped _ found' _ same =>
    rw [found] at found'
    cases found'
    rw [same]
    exact ⟨_, Function.update_self .., ended⟩
  | made _ calling own _ =>
    rw [← own, (grounded.spawning _ _ _ _ calling).1] at found
    cases found
  | released _ _ _ found' now =>
    rw [found] at found'
    cases found'
    exact ⟨_, now, ended⟩
  | forgotten acts _ =>
    rw [acts] at notRestart
    cases notRestart
  | kept _ _ _ same => exact ⟨t, same.trans found, ended⟩

/-- A task that has heard of its supervisor finds its channel closed only behind a Cancel. -/
theorem Reined.cancelled (reined : e.Reined x) {t : Task} (found : e.tasks x = some t)
    (heard : t.received ≠ []) (closed : (e.controls x).closed = true) :
    .cancel ∈ (e.controls x).sent := by
  refine (reined.broken closed).resolve_right fun silent => ?_
  rw [reined.heard t found heard] at silent
  cases silent

/-- The answer to a Cancel: it is sent, or the channel is closed. -/
theorem serve_cancel (done : e.serve f c (.send x .cancel) = some (e', reply)) :
    .cancel ∈ (e'.controls x).sent ∨ e' = e ∧ (e.controls x).closed = true := by
  have done : e.serveSend x .cancel = some (e', reply) := done
  simp only [serveSend] at done
  split at done
  · cases done
    exact .inr ⟨rfl, ‹_›⟩
  split at done
  · cases done
    refine .inl ?_
    simp only [Function.update_self]
    exact List.mem_append_right _ (List.mem_singleton_self _)
  · cases done

/-- Who has been told to cancel: whoever was cancelled while queued and has handled its Started
event; and, behind `cancel_queued`, whoever is live and not among those whose turn is yet to
come, unless its stream has ended. -/
structure Told (x : ExecutionId) (e : Engine) : Prop where
  started : ∀ t, e.tasks x = some t → t.startedHandled = true → x ∈ e.cancelledQueued →
    .cancel ∈ (e.controls x).sent
  sending : ∀ n ids, e.calls n = some (.sendAll ids) → Live (e.db.records x) →
    x ∈ ids ∨ .cancel ∈ (e.controls x).sent ∨ e.streamOver x
  drained : e.drained = true → Live (e.db.records x) →
    .cancel ∈ (e.controls x).sent ∨ e.streamOver x

namespace Told

theorem started_step (told : e.Told x) (grounded : e.Grounded) (draining : e.Draining)
    (tethered : e.Tethered x) (reined : e.Reined x)
    (paced : ∀ t, e.tasks x = some t → t.Paced e.settings) (stepped : e.step a = some e')
    {t' : Task} (present : e'.tasks x = some t') (handled : t'.startedHandled = true)
    (member : x ∈ e'.cancelledQueued) : .cancel ∈ (e'.controls x).sent := by
  have origin := task_origin draining stepped present
  rcases grounded.cancelledQueued_step stepped member with
    ⟨notRestart, old⟩ | ⟨n, c, rfl, place, live, _⟩
  · have kept : .cancel ∈ (e.controls x).sent → .cancel ∈ (e'.controls x).sent :=
      fun sent => (controls_grow stepped notRestart x).1.subset sent
    rcases origin with ⟨c, t, reply, request, served, rfl, found, asked, done, move, same⟩ |
      ⟨_, _, _, _, _, _, _, _, rfl⟩ | ⟨t, found, _, own, _⟩
    · rcases move.handles handled with before | point | ⟨pid, pgid, stored, point, rfl⟩
      · exact kept (told.started t found before old)
      · simp only [Task.request?, point, Option.some.injEq] at asked
        subst asked
        have heard := ((paced t found).handling (by simp only [Task.handles, point])).1
        rcases serve_cancel done with sent | ⟨_, closed⟩
        · rw [same]
          exact sent
        · exact kept (reined.cancelled found heard closed)
      · -- who was cancelled is not marked running
        simp only [Task.request?, point, Option.some.injEq] at asked
        subst asked
        obtain ⟨issued, isOver⟩ := tethered.cancelled old
        have still := grounded.isOver stepped issued isOver
        rw [same] at still
        have running : Running (served.db.records x) := grounded.marked done
        exact (over_iff_not_live.mp still running.live).elim
    · cases handled
    · exact kept (told.started t found (own ▸ handled) old)
  · -- who has handled its Started event is not queued, and not cancelled as queued
    rcases origin with ⟨_, _, _, _, _, acts, _⟩ | ⟨_, _, _, _, _, _, _, _, rfl⟩ |
      ⟨t, found, _, own, _⟩
    · cases acts
    · cases handled
    · have unqueued := tethered.handled t found (own ▸ handled)
      rcases place with ⟨control, finding⟩ | ⟨_, queued⟩
      · have unmarked := tethered.withdrawn n _ finding (decide_eq_true rfl)
        exact ((live_iff.mp live).elim unqueued unmarked).elim
      · exact (unqueued queued).elim

/-- What a live execution was told stays so. -/
theorem kept (grounded : e.Grounded) (stepped : e.step a = some e')
    (notRestart : a.isRestart = false)
    (told : .cancel ∈ (e.controls x).sent ∨ e.streamOver x) :
    .cancel ∈ (e'.controls x).sent ∨ e'.streamOver x :=
  told.imp (fun sent => (controls_grow stepped notRestart x).1.subset sent)
    (streamOver_step grounded stepped notRestart)

theorem sending_step (told : e.Told x) (grounded : e.Grounded) (draining : e.Draining)
    (tethered : e.Tethered x) (reined : e.Reined x)
    (paced : ∀ t, e.tasks x = some t → t.Paced e.settings) (stepped : e.step a = some e')
    {ids : List ExecutionId} (present : e'.calls n = some (.sendAll ids))
    (live : Live (e'.db.records x)) :
    x ∈ ids ∨ .cancel ∈ (e'.controls x).sent ∨ e'.streamOver x := by
  have drains := (CallPoint.sendAll_drains ids).1
  rcases call_cases stepped present (CallPoint.drains_inside drains) with
    ⟨c, p, request, served, reply, rfl, found, asked, done, move, same⟩ | ⟨_, notRestart, before⟩
  · have sweeps : p.afterSweep = true := by
      rcases move.sendAll with ⟨rfl, _⟩ | ⟨y, rfl⟩ <;> rfl
    have live := grounded.unlive stepped
      (draining.closing n p found (CallPoint.afterSweep_drains sweeps)) live
    -- nothing is queued, so `x` runs under its handle
    have running := (live_iff.mp live).resolve_left (draining.swept n p found sweeps x)
    obtain ⟨_, ⟨⟩, _⟩ | ⟨up, _⟩ := step_cases stepped
    obtain ⟨t, there, handled, stands⟩ := tethered.running up running
    rcases move.sendAll with ⟨rfl, rfl⟩ | ⟨y, rfl⟩
    · cases asked
      cases done
      rcases stands with ended | drained | ⟨member, _⟩
      · exact .inr (kept grounded stepped rfl (.inr ⟨t, there, ended⟩))
      · exact .inr (kept grounded stepped rfl (told.drained drained live))
      · exact .inl member
    · cases asked
      rcases told.sending n (y :: ids) found live with member | told
      · rcases List.mem_cons.mp member with rfl | later
        · rcases serve_cancel done with sent | ⟨_, closed⟩
          · rw [same]
            exact .inr (.inl sent)
          · have heard := (paced t there).begun handled
            exact .inr (kept grounded stepped rfl (.inl (reined.cancelled there heard closed)))
        · exact .inl later
      · exact .inr (kept grounded stepped rfl told)
  · have live := grounded.unlive stepped (draining.closing n _ before drains) live
    exact (told.sending n ids before live).imp_right (kept grounded stepped notRestart)

theorem drained_step (told : e.Told x) (grounded : e.Grounded) (draining : e.Draining)
    (tethered : e.Tethered x) (reined : e.Reined x)
    (paced : ∀ t, e.tasks x = some t → t.Paced e.settings) (stepped : e.step a = some e')
    (drained : e'.drained = true) (live : Live (e'.db.records x)) :
    .cancel ∈ (e'.controls x).sent ∨ e'.streamOver x := by
  rcases drained_cases stepped with ⟨n, _, _, present, _⟩ | ⟨_, undrained⟩ | ⟨notRestart, same⟩
  · have left : e'.calls n = some (.sendAll []) := present
    exact (told.sending_step grounded draining tethered reined paced stepped left live).resolve_left
      List.not_mem_nil
  · rw [undrained] at drained
    cases drained
  · have before := same ▸ drained
    have live := grounded.unlive stepped (draining.closed before) live
    exact kept grounded stepped notRestart (told.drained before live)

theorem step (told : e.Told x) (grounded : e.Grounded) (draining : e.Draining)
    (tethered : e.Tethered x) (reined : e.Reined x)
    (paced : ∀ t, e.tasks x = some t → t.Paced e.settings) (stepped : e.step a = some e') :
    e'.Told x where
  started _ := told.started_step grounded draining tethered reined paced stepped
  sending _ _ := told.sending_step grounded draining tethered reined paced stepped
  drained := told.drained_step grounded draining tethered reined paced stepped

end Told

theorem told (reached : engine.ReachableVia StoreHolds e) (x : ExecutionId) : e.Told x := by
  refine reached.invariant (Told x) ?_ fun e a e' before held _ stepped =>
    held.step (grounded before) (draining before) (tethered before x) (reined before x)
      (fun t found => paced before x t found) stepped
  intro first start
  obtain ⟨_, new⟩ := start
  rw [new]
  refine ⟨?_, ?_, ?_⟩
  · rintro t ⟨⟩
  · rintro n ids ⟨⟩
  · rintro ⟨⟩

end Engine

/-- In every run in which the storage holds, (a) whoever was cancelled while queued was told to
cancel by the time its Started event has been handled; (b) behind the critical section of a
drain every execution is terminal, or was told to cancel, or its stream has ended; and (c) a
drain closes the lifecycle, which then stays closed, no execution is created any more, and none
is queued behind the critical section. -/
theorem drain_reaches_all {e : Engine} (reached : engine.ReachableVia Engine.StoreHolds e) :
    (∀ x t, e.tasks x = some t → t.startedHandled = true → x ∈ e.cancelledQueued →
      .cancel ∈ (e.controls x).sent) ∧
    (e.drained = true → ∀ x row, e.db.executions.find? x = some row →
      row.state.isTerminal = true ∨ .cancel ∈ (e.controls x).sent ∨
        ∃ t, e.tasks x = some t ∧ t.streamEnded = true) ∧
    (∀ n point, e.calls n = some point → point.drains = true → e.lifecycle ≠ .accepting) ∧
    (e.lifecycle ≠ .accepting → ∀ a e', e.step a = some e' → a.isRestart = false →
      e'.lifecycle ≠ .accepting ∧ ∀ x row', e'.db.executions.find? x = some row' →
        ∃ row, e.db.executions.find? x = some row) ∧
    (e.drained = true → ∀ x row, e.db.executions.find? x = some row → row.state ≠ .queued) := by
  have grounded := Engine.grounded reached
  have draining := Engine.draining reached
  refine ⟨fun x => (Engine.told reached x).started, ?_, draining.closing, ?_, ?_⟩
  · intro drained x row found
    cases terminal : row.state.isTerminal with
    | true => exact .inl rfl
    | false =>
      exact .inr ((Engine.told reached x).drained drained ⟨_, record_of_find? found, terminal⟩)
  · intro closed a e' stepped notRestart
    refine ⟨Engine.lifecycle_step stepped notRestart closed, fun x row' found => ?_⟩
    cases before : e.db.records x with
    | some record => exact ⟨_, (records_eq_some.mp before).1⟩
    | none =>
      have absent := grounded.uncreated stepped closed before
      rw [record_of_find? found] at absent
      cases absent
  · intro drained x row found queued
    exact draining.unqueued drained x ⟨_, record_of_find? found, queued⟩

/-- "a" runs and "b" has its Spawn when the daemon drains; then "b" says that it has started. -/
theorem drain_reaches_all_sample :
    ∃ e row t, engine.ReachableVia Engine.StoreHolds e ∧ e.drained = true ∧
      e.db.executions.find? "a" = some row ∧ row.state = .running ∧
      e.tasks "b" = some t ∧ t.startedHandled = true ∧ "b" ∈ e.cancelledQueued ∧
      .cancel ∈ (e.controls "b").sent ∧ (row.state.isTerminal = true ∨
        .cancel ∈ (e.controls "a").sent ∨
          ∃ t, e.tasks "a" = some t ∧ t.streamEnded = true) := by
  have traced : (engine.runIf Engine.StoreHolds sampleEngine
      (sampleLaunch 0 "a" ++ sampleStart "a" ++ sampleLaunch 1 "b" ++ (sampleStart "b").take 5 ++
        .begin 2 .drain :: List.replicate 7 (.call 2 {}) ++ (sampleStart "b").drop 5)).map
      (fun e => (e.drained, (e.db.executions.find? "a").map (·.state),
        (e.tasks "b").map (·.startedHandled), e.cancelledQueued)) =
      some (true, some .running, some true, ["b"]) := by decide +kernel
  obtain ⟨e, ran, seen⟩ := Option.map_eq_some_iff.mp traced
  simp only [Prod.mk.injEq, Option.map_eq_some_iff] at seen
  obtain ⟨drained, ⟨row, found, running⟩, ⟨t, present, handled⟩, cancelled⟩ := seen
  have reached : engine.ReachableVia Engine.StoreHolds e :=
    (System.ReachableVia.start sampleEngine_start).run (System.runIf_runVia ran)
  have member : "b" ∈ e.cancelledQueued := by
    rw [cancelled]
    exact List.mem_singleton_self _
  have main := drain_reaches_all reached
  exact ⟨e, row, t, reached, drained, found, running, present, handled, member,
    main.1 "b" t present handled member, main.2.1 drained "a" row found⟩

end Loomterm
