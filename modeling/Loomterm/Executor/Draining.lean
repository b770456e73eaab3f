import Loomterm.Executor.Handles

/-!
# Draining

What `drain` does to the engine: it closes the lifecycle, cancels what is queued and sends a
Cancel to every handle, the last two under `transitions`. Behind it nothing is created, and
behind `cancel_queued` nothing is queued. And what is known of the control channel of an
execution, in which a Cancel may get stuck but not be lost unseen.
-/

namespace Loomterm

open Database

/-- The points of `drain` behind `cancel_queued`. -/
def CallPoint.afterSweep : CallPoint → Bool
  | .drainList | .drainSend .. | .drainWait | .drainClear | .drainAbort | .drainSettle
  | .drainStop => true
  | _ => false

/-- The points of `drain` behind its critical section. -/
def CallPoint.afterSection : CallPoint → Bool
  | .drainWait | .drainClear | .drainAbort | .drainSettle | .drainStop => true
  | _ => false

theorem CallPoint.afterSection_sweep {point : CallPoint} (after : point.afterSection = true) :
    point.afterSweep = true := by
  cases point <;> first | rfl | cases after

theorem CallPoint.afterSweep_drains {point : CallPoint} (after : point.afterSweep = true) :
    point.drains = true := by
  cases point <;> first | rfl | cases after

theorem CallPoint.drains_inside {point : CallPoint} (drains : point.drains = true) :
    point.isFirst = false := by
  cases point <;> first | rfl | cases drains

theorem CallPoint.sendAll_drains (ids : List ExecutionId) :
    (CallPoint.sendAll ids).drains = true ∧ (CallPoint.sendAll ids).afterSweep = true := by
  cases ids <;> exact ⟨rfl, rfl⟩

theorem CallPoint.sendAll_injective {ids ids' : List ExecutionId}
    (same : CallPoint.sendAll ids = .sendAll ids') : ids = ids' := by
  cases ids <;> cases ids' <;> cases same <;> rfl

/-- The loop over the handles comes from their list, or from the handle before. -/
theorem CallMove.sendAll {point : CallPoint} {reply : Reply} {ids : List ExecutionId}
    (move : CallMove point reply (.sendAll ids)) :
    (point = .drainList ∧ reply = .ids ids) ∨ ∃ id, point = .drainSend id ids := by
  generalize place : CallPoint.sendAll ids = point' at move
  cases move with
  | listed =>
    rw [CallPoint.sendAll_injective place]
    exact .inl ⟨rfl, rfl⟩
  | sent =>
    rw [CallPoint.sendAll_injective place]
    exact .inr ⟨_, rfl⟩
  | _ => cases ids <;> cases place

theorem CallMove.drains {point point' : CallPoint} {reply : Reply}
    (move : CallMove point reply point') (drains : point'.drains = true) :
    point.drains = true ∨ point = .drainBegin := by
  cases move with
  | draining => exact .inr rfl
  | closed | entered | swept | listed | sent | idle | impatient | cleared | aborted | settled =>
    exact .inl rfl
  | _ => cases drains

theorem CallMove.afterSweep {point point' : CallPoint} {reply : Reply}
    (move : CallMove point reply point') (after : point'.afterSweep = true) :
    point.afterSweep = true ∨
      point = .drainCancelQueued ∧ ∃ stored, reply = .stored (.ok stored) := by
  cases move with
  | swept => exact .inr ⟨rfl, _, rfl⟩
  | listed | sent | idle | impatient | cleared | aborted | settled => exact .inl rfl
  | _ => cases after

theorem CallMove.afterSection {point point' : CallPoint} {reply : Reply}
    (move : CallMove point reply point') (after : point'.afterSection = true) :
    point.afterSection = true ∨ point' = .drainWait := by
  cases move with
  | @listed ids =>
    cases ids with
    | nil => exact .inr rfl
    | cons => cases after
  | @sent _ rest =>
    cases rest with
    | nil => exact .inr rfl
    | cons => cases after
  | idle | impatient | cleared | aborted | settled => exact .inl rfl
  | _ => cases after

/-- A task does not drop itself. -/
theorem TaskMove.not_aborted {settings : Settings} {id : ExecutionId} {c : Choice} {t t' : Task}
    {reply : Reply} (move : TaskMove settings id c t reply t') : t'.point ≠ .aborted := by
  intro aborted
  cases move with
  | @frame given =>
    have after := Task.receive_afterFrame settings id c t given
    rw [aborted] at after
    cases after
  | @captured _ rest => cases rest <;> cases aborted
  | @finalOver ending | @finished ending => cases ending <;> cases aborted
  | _ => cases aborted

/-- The points before the Spawn is sent. -/
def TaskPoint.unspawned : TaskPoint → Bool
  | .starting | .acquire | .check | .launch | .launchFailed _ | .sendSpawn => true
  | _ => false

theorem TaskPoint.afterFrame_unspawned {point : TaskPoint} (after : point.afterFrame = true) :
    point.unspawned = false := by
  cases point <;> first | rfl | cases after

theorem TaskMove.unspawned {settings : Settings} {id : ExecutionId} {c : Choice} {t t' : Task}
    {reply : Reply} (move : TaskMove settings id c t reply t')
    (stands : t'.point.unspawned = true) :
    t.point.unspawned = true ∧ t.point ≠ .sendSpawn := by
  cases move with
  | begun point | acquired point | checked point | launched point | notLaunched point =>
    rw [point]
    exact ⟨rfl, by rintro ⟨⟩⟩
  | @frame given =>
    rw [TaskPoint.afterFrame_unspawned (Task.receive_afterFrame settings id c t given)] at stands
    cases stands
  | @captured _ rest => cases rest <;> cases stands
  | @finalOver ending | @finished ending => cases ending <;> cases stands
  | _ => cases stands

/-- The frames of a task grow by the frames that it reads. -/
theorem TaskMove.receives {settings : Settings} {id : ExecutionId} {c : Choice} {t t' : Task}
    {reply : Reply} (move : TaskMove settings id c t reply t') :
    t'.received = t.received ∨
      t.point = .reading ∧ ∃ event, reply = .input (.frame (some (.ok event))) := by
  cases move with
  | @frame given point =>
    cases given with
    | none => exact .inl rfl
    | some given =>
      cases given with
      | error error => exact .inl rfl
      | ok event => exact .inr ⟨point, event, rfl⟩
  | @captured _ rest => cases rest <;> exact .inl rfl
  | _ => exact .inl rfl

namespace Engine

variable {e e' : Engine} {a : Action} {f : FiberId} {c : Choice} {x : ExecutionId} {n : Nat}
  {request : Request} {reply : Reply}

/-! ## The lifecycle -/

theorem Permits.creating {change : Change} (permits : e.Permits a change)
    (creates : change.Creates x) :
    ∃ request cwd, e.calling a = some (.createExecution request cwd) := by
  cases permits with
  | @asked call _ calling permit =>
    cases call with
    | createExecution request cwd => exact ⟨request, cwd, calling⟩
    | finish _ _ _ | markRunning _ _ _ =>
      rw [show change = _ from permit] at creates
      exact creates.elim
    | cancelQueued =>
      obtain ⟨_, _, rfl⟩ := permit
      exact creates.elim
    | prune _ _ =>
      obtain ⟨_, rfl⟩ := permit
      exact creates.elim
    | getWorkspace _ => exact permit.elim
    | getExecution _ => exact permit.elim
  | captured => exact creates.elim
  | reconciled => exact creates.elim

/-- Executions are created while the daemon accepts requests. -/
theorem Grounded.creating (grounded : e.Grounded) {change : Change} (permits : e.Permits a change)
    (creates : change.Creates x) : e.lifecycle = .accepting := by
  obtain ⟨given, cwd, calling⟩ := permits.creating creates
  rcases calling_eq_some calling with
    ⟨y, c, t, _, _, asked⟩ | ⟨n, c, point, _, found, asked⟩ | ⟨i, c, _, found⟩
  · exact (Task.request_ofTask asked).elim
  · cases point with
    | executeCreate request cwd => exact (grounded.locked.holder n _ found rfl).2
    | returned result => cases asked
    | _ => cases asked
  · obtain ⟨_, _, _, _, own⟩ := grounded.orphans _ (List.mem_of_getElem? found)
    exact own.elim

/-- A daemon that does not accept requests creates no execution. -/
theorem Grounded.uncreated (grounded : e.Grounded) (stepped : e.step a = some e')
    (closed : e.lifecycle ≠ .accepting) (absent : e.db.records x = none) :
    e'.db.records x = none :=
  grounded.preserves stepped (P := (· = none)) (fun _ _ _ permits _ _ step before =>
    step.absent (fun creates => closed (grounded.creating permits creates)) before) absent

theorem Grounded.unqueued (grounded : e.Grounded) (stepped : e.step a = some e')
    (closed : e.lifecycle ≠ .accepting) (before : ¬ Queued (e.db.records x)) :
    ¬ Queued (e'.db.records x) :=
  grounded.preserves stepped (P := fun r => ¬ Queued r)
    (fun _ _ _ permits agrees _ step before after =>
      (step.queued agrees after).elim before fun creates =>
        closed (grounded.creating permits creates)) before

/-- What is not live stays so while nothing is created. -/
theorem Grounded.unlive (grounded : e.Grounded) (stepped : e.step a = some e')
    (closed : e.lifecycle ≠ .accepting) (after : Live (e'.db.records x)) :
    Live (e.db.records x) := by
  by_contra dead
  have isOver : Over (e'.db.records x) :=
    grounded.preserves stepped (P := Over) (fun _ _ _ permits _ _ step before =>
      step.isOver (fun creates => closed (grounded.creating permits creates)) before)
      (over_iff_not_live.mpr dead)
  exact over_iff_not_live.mp isOver after

/-- An execution that is known is never queued again. -/
theorem Grounded.unqueued_issued (grounded : e.Grounded) (stepped : e.step a = some e')
    (issued : x ∈ e.issued) (before : ¬ Queued (e.db.records x)) : ¬ Queued (e'.db.records x) :=
  grounded.preserves stepped (P := fun r => ¬ Queued r)
    (fun _ _ _ _ agrees fresh step before after =>
      (step.queued agrees after).elim before (fresh issued)) before

theorem serve_closes (done : e.serve f c request = some (e', reply))
    (closed : e.lifecycle ≠ .accepting) : e'.lifecycle ≠ .accepting := by
  by_cases begins : request = .beginDrain
  · subst begins
    simp only [serve] at done
    split at done
    · cases done
      split <;> simp
    · cases done
  by_cases stops : request = .stop
  · subst stops
    simp only [serve] at done
    split at done
    · cases done
      simp
    · cases done
  rw [(serve_served done).lifecycle begins stops]
  exact closed

theorem serve_beginDrain (done : e.serve f c .beginDrain = some (e', reply)) :
    e'.lifecycle ≠ .accepting := by
  simp only [serve] at done
  split at done
  · cases done
    split <;> simp
  · cases done

/-- The lifecycle is not opened again. -/
theorem lifecycle_step (stepped : e.step a = some e') (notRestart : a.isRestart = false)
    (closed : e.lifecycle ≠ .accepting) : e'.lifecycle ≠ .accepting := by
  rcases step_cases stepped with ⟨c, rfl, _⟩ | ⟨_, stepped⟩
  · cases notRestart
  cases a with
  | restart c => exact stepped.elim
  | begin m operation =>
    obtain ⟨_, rfl⟩ := stepped
    exact closed
  | call m c =>
    obtain ⟨_, _, _, _, _, _, _, done, _, rfl⟩ := runCall_eq_some stepped
    have kept := serve_closes done closed
    exact kept
  | task id c =>
    obtain ⟨_, _, _, _, _, _, _, done, _, rfl⟩ := runTask_eq_some stepped
    have kept := serve_closes done closed
    exact kept
  | writer conditions =>
    obtain ⟨_, _, _, _, _, _, rfl⟩ := runWriter_eq_some stepped
    exact closed
  | control id written =>
    obtain ⟨_, _, _, rfl⟩ := writeControl_eq_some stepped
    exact closed
  | abort id =>
    obtain ⟨_, _, _, _, _, rfl⟩ := abortTask_eq_some stepped
    exact closed
  | orphan i c =>
    obtain ⟨call, served, _, _, done, rfl⟩ := runOrphan_eq_some stepped
    have asked : e.serve (.call 0) c (.store call) = some (served, _) := done
    have kept := serve_closes asked closed
    exact kept

/-- Only a drain that leaves its critical section sets `drained`. -/
theorem drained_cases (stepped : e.step a = some e') :
    (∃ n c, a = .call n c ∧ e'.calls n = some .drainWait ∧ e'.drained = true) ∨
      (a.isRestart = true ∧ e'.drained = false) ∨
      a.isRestart = false ∧ e'.drained = e.drained := by
  rcases step_cases stepped with ⟨c, rfl, rfl⟩ | ⟨_, stepped⟩
  · exact .inr (.inl ⟨rfl, rfl⟩)
  cases a with
  | restart c => exact stepped.elim
  | begin m operation =>
    obtain ⟨_, rfl⟩ := stepped
    exact .inr (.inr ⟨rfl, rfl⟩)
  | call m c =>
    obtain ⟨_, _, served, reply, point', _, _, done, _, rfl⟩ := runCall_eq_some stepped
    by_cases leaves : point' = .drainWait
    · subst leaves
      exact .inl ⟨m, c, rfl, Function.update_self .., rfl⟩
    · refine .inr (.inr ⟨rfl, ?_⟩)
      rw [← (serve_served done).drained]
      cases point' with
      | drainWait => exact (leaves rfl).elim
      | _ => rfl
  | task id c =>
    obtain ⟨_, _, _, _, _, _, _, done, _, rfl⟩ := runTask_eq_some stepped
    exact .inr (.inr ⟨rfl, (serve_served done).drained⟩)
  | writer conditions =>
    obtain ⟨_, _, _, _, _, _, rfl⟩ := runWriter_eq_some stepped
    exact .inr (.inr ⟨rfl, rfl⟩)
  | control id written =>
    obtain ⟨_, _, _, rfl⟩ := writeControl_eq_some stepped
    exact .inr (.inr ⟨rfl, rfl⟩)
  | abort id =>
    obtain ⟨_, _, _, _, _, rfl⟩ := abortTask_eq_some stepped
    exact .inr (.inr ⟨rfl, rfl⟩)
  | orphan i c =>
    obtain ⟨call, served, _, _, done, rfl⟩ := runOrphan_eq_some stepped
    have asked : e.serve (.call 0) c (.store call) = some (served, _) := done
    exact .inr (.inr ⟨rfl, (serve_served asked).drained⟩)

theorem drained_step (stepped : e.step a = some e') (notRestart : a.isRestart = false)
    (drained : e.drained = true) : e'.drained = true := by
  rcases drained_cases stepped with ⟨_, _, _, _, now⟩ | ⟨restarts, _⟩ | ⟨_, same⟩
  · exact now
  · rw [restarts] at notRestart
    cases notRestart
  · exact same.trans drained

/-! ## What is queued -/

/-- Behind the beginning of a drain the daemon accepts nothing, behind `cancel_queued` nothing
is queued, and tasks are dropped behind the critical section only. -/
structure Draining (e : Engine) : Prop where
  closing : ∀ n point, e.calls n = some point → point.drains = true → e.lifecycle ≠ .accepting
  closed : e.drained = true → e.lifecycle ≠ .accepting
  swept : ∀ n point, e.calls n = some point → point.afterSweep = true →
    ∀ x, ¬ Queued (e.db.records x)
  unqueued : e.drained = true → ∀ x, ¬ Queued (e.db.records x)
  behind : ∀ n point, e.calls n = some point → point.afterSection = true → e.drained = true
  doomed : ∀ x ∈ e.doomed, e.drained = true
  aborted : ∀ x t, e.tasks x = some t → t.point = .aborted → e.drained = true

namespace Draining

theorem closing_step (draining : e.Draining) (stepped : e.step a = some e') {point : CallPoint}
    (present : e'.calls n = some point) (drains : point.drains = true) :
    e'.lifecycle ≠ .accepting := by
  rcases call_cases stepped present (CallPoint.drains_inside drains) with
    ⟨c, p, request, served, reply, rfl, found, asked, done, move, same⟩ | ⟨_, notRestart, before⟩
  · rcases move.drains drains with before | rfl
    · exact lifecycle_step stepped rfl (draining.closing n p found before)
    · cases asked
      rw [same]
      exact (show served.lifecycle ≠ .accepting from serve_beginDrain done)
  · exact lifecycle_step stepped notRestart (draining.closing n point before drains)

/-- Behind `cancel_queued` nothing is queued, and nothing is created any more. -/
theorem swept_step (draining : e.Draining) (grounded : e.Grounded) (stepped : e.step a = some e')
    {point : CallPoint} (present : e'.calls n = some point) (after : point.afterSweep = true)
    (x : ExecutionId) : ¬ Queued (e'.db.records x) := by
  have kept : ∀ p, e.calls n = some p → p.afterSweep = true → ¬ Queued (e'.db.records x) := by
    intro p found before
    exact grounded.unqueued stepped
      (draining.closing n p found (CallPoint.afterSweep_drains before))
      (draining.swept n p found before x)
  have drains := CallPoint.afterSweep_drains after
  rcases call_cases stepped present (CallPoint.drains_inside drains) with
    ⟨c, p, request, served, reply, rfl, found, asked, done, move, same⟩ | ⟨_, _, before⟩
  · rcases move.afterSweep after with before | ⟨rfl, stored, rfl⟩
    · exact kept p found before
    · cases asked
      have asked : e.serveStore .cancelQueued c = some (served, .stored (.ok stored)) := done
      obtain ⟨result, db, broadcast, issued, rfl, told, _, outcome, _⟩ :=
        serveStore_eq_some grounded.sound.linked asked
      cases told
      obtain ⟨ids, swept, _, all⟩ := outcome
      have left := finish_replay rfl swept.effect.replay x
      rw [same]
      rintro ⟨record, there, state⟩
      have there : db.records x = some record := there
      by_cases selected : x ∈ ids
      · have ended := left.1 selected record there
        rw [state] at ended
        cases ended
      · rw [left.2 selected] at there
        exact selected (all x record there state)
  · exact kept point before after

theorem behind_step (draining : e.Draining) (stepped : e.step a = some e') {point : CallPoint}
    (present : e'.calls n = some point) (after : point.afterSection = true) :
    e'.drained = true := by
  have drains := CallPoint.afterSweep_drains (CallPoint.afterSection_sweep after)
  rcases call_cases stepped present (CallPoint.drains_inside drains) with
    ⟨c, p, request, served, reply, rfl, found, asked, done, move, same⟩ | ⟨_, notRestart, before⟩
  · rcases move.afterSection after with before | rfl
    · exact drained_step stepped rfl (draining.behind n p found before)
    · rw [same]
      rfl
  · exact drained_step stepped notRestart (draining.behind n point before after)

/-- Behind the critical section of some drain the daemon accepts nothing. -/
theorem closed_step (draining : e.Draining) (stepped : e.step a = some e')
    (drained : e'.drained = true) : e'.lifecycle ≠ .accepting := by
  rcases drained_cases stepped with ⟨n, _, _, present, _⟩ | ⟨_, undrained⟩ | ⟨notRestart, same⟩
  · exact draining.closing_step stepped present rfl
  · rw [undrained] at drained
    cases drained
  · exact lifecycle_step stepped notRestart (draining.closed (same ▸ drained))

theorem unqueued_step (draining : e.Draining) (grounded : e.Grounded)
    (stepped : e.step a = some e') (drained : e'.drained = true) (x : ExecutionId) :
    ¬ Queued (e'.db.records x) := by
  rcases drained_cases stepped with ⟨n, _, _, present, _⟩ | ⟨_, undrained⟩ | ⟨_, same⟩
  · exact draining.swept_step grounded stepped present rfl x
  · rw [undrained] at drained
    cases drained
  · have before := same ▸ drained
    exact grounded.unqueued stepped (draining.closed before) (draining.unqueued before x)

theorem doomed_step (draining : e.Draining) (stepped : e.step a = some e')
    (member : x ∈ e'.doomed) : e'.drained = true := by
  rcases doomed_grown stepped member with ⟨notRestart, old⟩ | ⟨n, c, acts, found⟩
  · exact drained_step stepped notRestart (draining.doomed x old)
  · exact drained_step stepped (by rw [acts]; rfl) (draining.behind n _ found rfl)

/-- Only a doomed task is dropped. -/
theorem aborted_step (draining : e.Draining) (stepped : e.step a = some e') {t' : Task}
    (present : e'.tasks x = some t') (aborted : t'.point = .aborted) : e'.drained = true := by
  cases step_task stepped x with
  | @moved c t u request served reply acts found asked done move same =>
    rw [same, show (served.settleTask x t u).tasks x = some u from Function.update_self ..]
      at present
    cases present
    exact (move.not_aborted aborted).elim
  | dropped acts _ _ _ =>
    subst acts
    rcases step_cases stepped with ⟨_, ⟨⟩, _⟩ | ⟨_, dropping⟩
    obtain ⟨_, _, _, _, doomed, _⟩ := abortTask_eq_some dropping
    exact drained_step stepped rfl (draining.doomed x doomed)
  | made _ _ _ made =>
    rw [made] at present
    cases present
    cases aborted
  | released acts _ _ found after =>
    rw [after] at present
    cases present
    exact drained_step stepped (by rw [acts]; rfl) (draining.aborted x _ found aborted)
  | forgotten _ same =>
    rw [same] at present
    cases present
  | kept _ _ notRestart same =>
    exact drained_step stepped notRestart (draining.aborted x t' (same ▸ present) aborted)

theorem step (draining : e.Draining) (grounded : e.Grounded) (stepped : e.step a = some e') :
    e'.Draining where
  closing _ _ := draining.closing_step stepped
  closed := draining.closed_step stepped
  swept _ _ := draining.swept_step grounded stepped
  unqueued := draining.unqueued_step grounded stepped
  behind _ _ := draining.behind_step stepped
  doomed _ := draining.doomed_step stepped
  aborted _ _ := draining.aborted_step stepped

end Draining

theorem draining {cond : Engine → Action → Prop} (reached : engine.ReachableVia cond e) :
    e.Draining := by
  refine reached.invariant Draining ?_ fun t a t' before held _ stepped =>
    held.step (grounded before) stepped
  intro first start
  obtain ⟨_, new⟩ := start
  rw [new]
  refine ⟨?_, ?_, ?_, ?_, ?_, ?_, ?_⟩
  · rintro n point ⟨⟩
  · rintro ⟨⟩
  · rintro n point ⟨⟩
  · rintro ⟨⟩
  · rintro n point ⟨⟩
  · rintro x ⟨⟩
  · rintro x t ⟨⟩

/-! ## What a supervisor was told -/

/-- What is known of the control channel of `x`. Its commands reach the supervisor in order
until the writer fails; there is one Spawn among them at most, and none while its task stands
before it; a writer that has delivered the Spawn can only fail at a Cancel; and no frame is read
from a supervisor that has no Spawn. -/
structure Reined (x : ExecutionId) (e : Engine) : Prop where
  whole : (e.controls x).closed = false →
    (e.controls x).sent = (e.controls x).delivered ++ (e.controls x).queue
  silent : (e.controls x).closed = true → (e.controls x).queue = []
  once : (e.controls x).sent.countP SupervisorCommand.isSpawn ≤ 1
  unsent : (∀ t, e.tasks x = some t → t.point.unspawned = true) →
    ∀ command ∈ (e.controls x).sent, command.isSpawn = false
  broken : (e.controls x).closed = true → .cancel ∈ (e.controls x).sent ∨
    (e.controls x).delivered.any SupervisorCommand.isSpawn = false
  heard : ∀ t, e.tasks x = some t → t.received ≠ [] →
    (e.controls x).delivered.any SupervisorCommand.isSpawn = true

/-- What was sent and what was delivered stay so. -/
theorem controls_grow (stepped : e.step a = some e') (notRestart : a.isRestart = false)
    (x : ExecutionId) : (e.controls x).sent <+: (e'.controls x).sent ∧
      (e.controls x).delivered <+: (e'.controls x).delivered := by
  cases step_control stepped x with
  | sent _ _ after =>
    rw [after]
    exact ⟨List.prefix_append .., List.prefix_refl _⟩
  | written _ _ after =>
    rw [after]
    exact ⟨List.prefix_refl _, List.prefix_append ..⟩
  | broken _ _ after =>
    rw [after]
    exact ⟨List.prefix_refl _, List.prefix_refl _⟩
  | forgotten acts _ =>
    rw [acts] at notRestart
    cases notRestart
  | kept _ _ _ after =>
    rw [after]
    exact ⟨List.prefix_refl _, List.prefix_refl _⟩

/-- A task that stands before its Spawn after a step did so before it, and did not send it. -/
theorem unspawned_before (grounded : e.Grounded) (stepped : e.step a = some e')
    (notRestart : a.isRestart = false)
    (after : ∀ t, e'.tasks x = some t → t.point.unspawned = true) {t : Task}
    (found : e.tasks x = some t) :
    t.point.unspawned = true ∧ ∀ c, a = .task x c → t.point ≠ .sendSpawn := by
  cases step_task stepped x with
  | @moved c t₀ t' request served reply acts found' asked done move same =>
    rw [found] at found'
    cases found'
    have stands := after t' (by rw [same]; exact Function.update_self ..)
    exact ⟨(move.unspawned stands).1, fun _ _ => (move.unspawned stands).2⟩
  | dropped _ _ _ same =>
    have stands := after _ (by rw [same]; exact Function.update_self ..)
    cases stands
  | made _ calling own _ =>
    rw [← own, (grounded.spawning _ _ _ _ calling).1] at found
    cases found
  | released acts _ _ found' now =>
    rw [found] at found'
    cases found'
    refine ⟨after { t with released := true } now, fun c same => ?_⟩
    rw [acts] at same
    cases same
  | forgotten acts _ =>
    rw [acts] at notRestart
    cases notRestart
  | kept notOwn _ _ same =>
    refine ⟨after t (same.trans found), ?_⟩
    rintro c rfl
    exact (notOwn rfl).elim

namespace Reined

theorem unsent_step (reined : e.Reined x) (grounded : e.Grounded) (stepped : e.step a = some e')
    (after : ∀ t, e'.tasks x = some t → t.point.unspawned = true) :
    ∀ command ∈ (e'.controls x).sent, command.isSpawn = false := by
  have before : a.isRestart = false → ∀ command ∈ (e.controls x).sent, command.isSpawn = false :=
    fun notRestart => reined.unsent fun t found =>
      (unspawned_before grounded stepped notRestart after found).1
  cases step_control stepped x with
  | @sent command asked opened same =>
    have notRestart : a.isRestart = false := by
      cases a with
      | restart c => cases asked
      | _ => rfl
    rw [same]
    intro own member
    rcases List.mem_append.mp member with old | new
    · exact before notRestart own old
    · rw [List.mem_singleton.mp new]
      rcases asking_send asked with ⟨c, t, acts, found, point, _⟩ | rfl
      · exact ((unspawned_before grounded stepped notRestart after found).2 c acts point).elim
      · rfl
  | written acts _ same =>
    rw [same]
    exact before (by rw [acts]; rfl)
  | broken acts _ same =>
    rw [same]
    exact before (by rw [acts]; rfl)
  | forgotten _ same =>
    rw [same]
    intro command member
    cases member
  | kept notRestart _ _ same =>
    rw [same]
    exact before notRestart

theorem once_step (reined : e.Reined x) (stepped : e.step a = some e') :
    (e'.controls x).sent.countP SupervisorCommand.isSpawn ≤ 1 := by
  cases step_control stepped x with
  | @sent command asked opened same =>
    rw [same, List.countP_append, List.countP_singleton]
    rcases asking_send asked with ⟨c, t, _, found, point, _⟩ | rfl
    · -- the one Spawn is the first
      have none : (e.controls x).sent.countP SupervisorCommand.isSpawn = 0 := by
        refine List.countP_eq_zero.mpr fun command member => ?_
        rw [reined.unsent ?_ command member]
        · simp
        · intro own present
          rw [found] at present
          cases present
          rw [point]
          rfl
      rw [none]
      split <;> omega
    · have once := reined.once
      simpa [SupervisorCommand.isSpawn] using once
  | written _ _ same | broken _ _ same | kept _ _ _ same =>
    rw [same]
    exact reined.once
  | forgotten _ same =>
    rw [same]
    exact Nat.zero_le 1

theorem broken_step (reined : e.Reined x) (stepped : e.step a = some e')
    (closed : (e'.controls x).closed = true) : .cancel ∈ (e'.controls x).sent ∨
      (e'.controls x).delivered.any SupervisorCommand.isSpawn = false := by
  cases step_control stepped x with
  | sent _ opened same =>
    rw [same] at closed
    rw [opened] at closed
    cases closed
  | written _ queued same =>
    rw [same] at closed
    rw [reined.silent closed] at queued
    cases queued
  | @broken command rest _ queued same =>
    rw [same]
    cases before : (e.controls x).closed with
    | true =>
      rw [reined.silent before] at queued
      cases queued
    | false =>
      have whole := reined.whole before
      rw [queued] at whole
      cases command with
      | cancel => exact .inl (by rw [whole]; simp)
      | spawn program cwd env stdin shell grace =>
        have once := reined.once
        rw [whole, List.countP_append, List.countP_cons] at once
        simp only [SupervisorCommand.isSpawn, if_true] at once
        refine .inr (List.any_eq_false.mpr fun command member spawn => ?_)
        have member : command ∈ (e.controls x).delivered := member
        have counted := List.countP_pos_iff.mpr ⟨command, member, spawn⟩
        omega
  | forgotten _ same =>
    rw [same]
    exact .inr rfl
  | kept _ _ _ same =>
    rw [same] at closed ⊢
    exact reined.broken closed

theorem heard_step (reined : e.Reined x) (stepped : e.step a = some e') {t' : Task}
    (present : e'.tasks x = some t') (received : t'.received ≠ []) :
    (e'.controls x).delivered.any SupervisorCommand.isSpawn = true := by
  have kept : a.isRestart = false →
      (e.controls x).delivered.any SupervisorCommand.isSpawn = true →
      (e'.controls x).delivered.any SupervisorCommand.isSpawn = true := by
    intro notRestart before
    obtain ⟨command, member, spawn⟩ := List.any_eq_true.mp before
    exact List.any_eq_true.mpr
      ⟨command, (controls_grow stepped notRestart x).2.subset member, spawn⟩
  cases step_task stepped x with
  | @moved c t u request served reply acts found asked done move same =>
    rw [same, show (served.settleTask x t u).tasks x = some u from Function.update_self ..]
      at present
    cases present
    refine kept (by rw [acts]; rfl) ?_
    rcases move.receives with old | ⟨point, event, rfl⟩
    · exact reined.heard t found (old ▸ received)
    · simp only [Task.request?, point, Option.some.injEq] at asked
      subst asked
      exact (serve_frame done).2.2 event rfl
  | dropped acts found _ same =>
    rw [same, show (e.dropTask x _ _).tasks x = some _ from Function.update_self ..] at present
    cases present
    exact kept (by rw [acts]; rfl) (reined.heard _ found received)
  | made _ _ _ made =>
    rw [made] at present
    cases present
    exact (received rfl).elim
  | released acts _ _ found after =>
    rw [after] at present
    cases present
    exact kept (by rw [acts]; rfl) (reined.heard _ found received)
  | forgotten _ same =>
    rw [same] at present
    cases present
  | kept _ _ notRestart same =>
    exact kept notRestart (reined.heard t' (same ▸ present) received)

theorem step (reined : e.Reined x) (grounded : e.Grounded) (stepped : e.step a = some e') :
    e'.Reined x where
  whole opened := by
    cases step_control stepped x with
    | sent _ before same =>
      rw [same]
      show (e.controls x).sent ++ _ = (e.controls x).delivered ++ ((e.controls x).queue ++ _)
      rw [reined.whole before, List.append_assoc]
    | written _ queued same =>
      rw [same] at opened ⊢
      show (e.controls x).sent = (e.controls x).delivered ++ _ ++ _
      rw [reined.whole opened, queued]
      simp
    | broken _ _ same =>
      rw [same] at opened
      cases opened
    | forgotten _ same =>
      rw [same]
      rfl
    | kept _ _ _ same =>
      rw [same] at opened ⊢
      exact reined.whole opened
  silent closed := by
    cases step_control stepped x with
    | sent _ opened same =>
      rw [same] at closed
      rw [opened] at closed
      cases closed
    | written _ queued same =>
      rw [same] at closed
      rw [reined.silent closed] at queued
      cases queued
    | broken _ _ same => rw [same]
    | forgotten _ same =>
      rw [same]
      rfl
    | kept _ _ _ same =>
      rw [same] at closed ⊢
      exact reined.silent closed
  once := reined.once_step stepped
  unsent := reined.unsent_step grounded stepped
  broken := reined.broken_step stepped
  heard _ := reined.heard_step stepped

end Reined

theorem reined {cond : Engine → Action → Prop} (reached : engine.ReachableVia cond e)
    (x : ExecutionId) : e.Reined x := by
  refine reached.invariant (Reined x) ?_ fun t a t' before held _ stepped =>
    held.step (grounded before) stepped
  intro first start
  obtain ⟨_, new⟩ := start
  rw [new]
  refine ⟨fun _ => rfl, fun _ => rfl, Nat.zero_le 1, ?_, ?_, ?_⟩
  · rintro _ command ⟨⟩
  · rintro ⟨⟩
  · rintro t ⟨⟩

end Engine

end Loomterm
