import Loomterm.Executor.History

/-!
# Whether cancelled work is started

The task of an execution reads its state, launches the supervisor and sends the Spawn
without the lock `transitions`, under which `cancel` and `drain` decide. A cancellation
that comes in between finishes a record whose command is started all the same. As long as
no cancellation hits that window, none of the other ways to finish an execution can.
-/

namespace Loomterm

open Database

/-- The task has read its execution as live, and will send the Spawn. -/
def TaskPoint.spawning : TaskPoint → Bool
  | .launch | .sendSpawn => true
  | _ => false

theorem TaskPoint.afterFrame_spawning {point : TaskPoint} (after : point.afterFrame = true) :
    point.spawning = false := by
  cases point <;> first | rfl | cases after

theorem TaskPoint.spawning_finishes {point : TaskPoint} (spawning : point.spawning = true) :
    point.finishes = false := by
  cases point <;> first | rfl | cases spawning

/-- A task comes to its Spawn from the check alone. -/
theorem TaskMove.spawning {settings : Settings} {id : ExecutionId} {c : Choice} {t t' : Task}
    {reply : Reply} (move : TaskMove settings id c t reply t')
    (spawning : t'.point.spawning = true) :
    (∃ current, t.point = .check ∧ reply = .stored (.ok (.execution current)) ∧
      current.state.isTerminal = false) ∨ t.point = .launch := by
  cases move with
  | @checked current point live => exact .inl ⟨current, point, rfl, live⟩
  | launched point => exact .inr point
  | @frame given =>
    have after := TaskPoint.afterFrame_spawning (Task.receive_afterFrame settings id c t given)
    rw [after] at spawning
    cases spawning
  | @captured record rest =>
    rw [TaskPoint.afterFrame_spawning (Task.capture_afterFrame t rest)] at spawning
    cases spawning
  | @finalOver ending =>
    cases ending with
    | received => cases spawning
    | missing => cases spawning
  | @finished ending =>
    cases ending with
    | received => cases spawning
    | missing => cases spawning
  | _ => cases spawning

namespace Engine

variable {e e' : Engine} {a : Action} {x : ExecutionId}

/-- The executions that a step of `cancel` or `drain` makes cancelled. -/
def cancels (e : Engine) : Action → List ExecutionId
  | .call n _ =>
      match e.calls n with
      | some (.cancelFinish id _) =>
          if (e.db.executions.find? id).any fun row => !row.state.isTerminal then [id] else []
      | some .drainCancelQueued =>
          (e.db.executions.rows.filter fun row => row.state = .queued).map (·.id)
      | _ => []
  | _ => []

/-- The task of `x` is between its check and its Spawn, or the Spawn was sent. -/
def committed (e : Engine) (x : ExecutionId) : Bool :=
  (e.tasks x).any (fun t => t.point.spawning) || (e.controls x).sent.any SupervisorCommand.isSpawn

/-- Whatever a step cancels has not been committed to its Spawn. -/
def SparesSpawn (e : Engine) (a : Action) : Prop := ∀ x ∈ e.cancels a, e.committed x = false

instance (e : Engine) (a : Action) : Decidable (e.SparesSpawn a) :=
  inferInstanceAs (Decidable (∀ x ∈ e.cancels a, e.committed x = false))

theorem mem_cancels_of_cancel {n : Nat} {c : Choice} {control : Bool}
    (found : e.calls n = some (.cancelFinish x control)) (live : Live (e.db.records x)) :
    x ∈ e.cancels (.call n c) := by
  obtain ⟨record, present, open_⟩ := live
  have row := (records_eq_some.mp present).1
  simp [cancels, found, row, open_]

theorem mem_cancels_of_sweep {n : Nat} {c : Choice} (found : e.calls n = some .drainCancelQueued)
    (queued : Queued (e.db.records x)) : x ∈ e.cancels (.call n c) := by
  obtain ⟨record, present, state⟩ := queued
  have row := (records_eq_some.mp present).1
  simp only [cancels, found, List.mem_map, List.mem_filter, decide_eq_true_eq]
  exact ⟨record.row, ⟨Table.mem_of_find? row, state⟩, rowId present⟩

theorem committed_of_spawning {t : Task} (found : e.tasks x = some t)
    (spawning : t.point.spawning = true) : e.committed x = true := by
  simp [committed, found, spawning]

theorem unspawned_of_committed (spared : e.committed x = false) :
    ∀ command ∈ (e.controls x).sent, command.isSpawn = false := by
  simp only [committed, Bool.or_eq_false_iff, List.any_eq_false, Bool.not_eq_true] at spared
  exact spared.2

/-- A task that will send the Spawn has a live execution; a cancelled execution is over, and
its Spawn was never sent. -/
structure Unhurried (e : Engine) : Prop where
  live : ∀ x t, e.tasks x = some t → t.point.spawning = true → Live (e.db.records x)
  cancelled : ∀ x ∈ e.cancelledQueued, x ∈ e.issued ∧ Over (e.db.records x) ∧
    ∀ command ∈ (e.controls x).sent, command.isSpawn = false

namespace Unhurried

/-- Nothing finishes an execution behind the back of a task that will send the Spawn. -/
theorem not_finishedBy (unhurried : e.Unhurried) (spares : e.SparesSpawn a)
    (notRestart : a.isRestart = false) {t : Task} (found : e.tasks x = some t)
    (spawning : t.point.spawning = true) : ¬ e.FinishedBy a x := by
  have committed := committed_of_spawning found spawning
  have live := unhurried.live x t found spawning
  intro finished
  cases finished with
  | task _ present finishes =>
    rw [found] at present
    cases present
    rw [TaskPoint.spawning_finishes spawning] at finishes
    cases finishes
  | cancel acts calling =>
    subst acts
    have spared := spares x (mem_cancels_of_cancel calling live)
    rw [committed] at spared
    cases spared
  | sweep acts calling queued =>
    subst acts
    have spared := spares x (mem_cancels_of_sweep calling queued)
    rw [committed] at spared
    cases spared
  | leftover _ _ present aborted =>
    rw [found] at present
    cases present
    rw [aborted] at spawning
    cases spawning
  | restart acts =>
    rw [acts] at notRestart
    cases notRestart

theorem live_step (unhurried : e.Unhurried) (grounded : e.Grounded) (spares : e.SparesSpawn a)
    (stepped : e.step a = some e') {t' : Task} (present : e'.tasks x = some t')
    (spawning : t'.point.spawning = true) : Live (e'.db.records x) := by
  cases step_task stepped x with
  | @moved c t own request served reply acts found asked done move same =>
    rw [same, show (served.settleTask x t own).tasks x = some own from Function.update_self ..]
      at present
    cases present
    rcases move.spawning spawning with ⟨current, point, rfl, open_⟩ | point
    · -- the check has just read the execution as live
      simp only [Task.request?, point, Option.some.injEq] at asked
      subst asked
      have asked : e.serveStore (.getExecution x) c = some (served, _) := done
      obtain ⟨result, db, broadcast, issued, rfl, told, _, outcome, _⟩ :=
        serveStore_eq_some grounded.sound.linked asked
      cases told
      obtain ⟨r, named, read⟩ := outcome
      cases r with
      | error error => cases named
      | ok execution =>
        cases named
        obtain ⟨rfl, record, first, rfl⟩ := read
        rw [same]
        exact ⟨record, first, open_⟩
    · refine grounded.live stepped ?_ (unhurried.live x t found (by rw [point]; rfl))
      exact unhurried.not_finishedBy spares (by rw [acts]; rfl) found (by rw [point]; rfl)
  | dropped _ _ _ same =>
    rw [same, show (e.dropTask x _ _).tasks x = some _ from Function.update_self ..] at present
    cases present
    cases spawning
  | made _ _ _ made =>
    rw [made] at present
    cases present
    cases spawning
  | @released n c execution t acts _ _ found after =>
    rw [after] at present
    cases present
    refine grounded.live stepped ?_ (unhurried.live x t found spawning)
    exact unhurried.not_finishedBy spares (by rw [acts]; rfl) found spawning
  | forgotten _ same =>
    rw [same] at present
    cases present
  | kept _ _ notRestart same =>
    rw [same] at present
    refine grounded.live stepped ?_ (unhurried.live x t' present spawning)
    exact unhurried.not_finishedBy spares notRestart present spawning

/-- The Spawn is sent for a live execution. -/
theorem live_of_sent (unhurried : e.Unhurried) {command : SupervisorCommand}
    (asked : e.asking a = some (.send x command)) (spawn : command.isSpawn = true) :
    Live (e.db.records x) := by
  rcases asking_send asked with ⟨c, t, _, found, point, _⟩ | rfl
  · exact unhurried.live x t found (by rw [point]; rfl)
  · cases spawn

/-- An execution that is over, and whose Spawn was not sent, is never started. -/
theorem unspawned_step (unhurried : e.Unhurried) (stepped : e.step a = some e')
    (isOver : Over (e.db.records x))
    (unspawned : ∀ command ∈ (e.controls x).sent, command.isSpawn = false) :
    ∀ command ∈ (e'.controls x).sent, command.isSpawn = false := by
  cases step_control stepped x with
  | @sent command asked _ after =>
    rw [after]
    intro own member
    rcases List.mem_append.mp member with old | new
    · exact unspawned own old
    · rw [List.mem_singleton] at new
      subst new
      cases spawn : own.isSpawn with
      | false => rfl
      | true => exact absurd (unhurried.live_of_sent asked spawn) (over_iff_not_live.mp isOver)
  | written _ _ after =>
    rw [after]
    exact unspawned
  | broken _ _ after =>
    rw [after]
    exact unspawned
  | forgotten _ same =>
    rw [same]
    intro command member
    cases member
  | kept _ _ _ after =>
    rw [after]
    exact unspawned

theorem cancelled_step (unhurried : e.Unhurried) (grounded : e.Grounded)
    (spares : e.SparesSpawn a) (stepped : e.step a = some e') (member : x ∈ e'.cancelledQueued) :
    x ∈ e'.issued ∧ Over (e'.db.records x) ∧
      ∀ command ∈ (e'.controls x).sent, command.isSpawn = false := by
  rcases grounded.cancelledQueued_step stepped member with
    ⟨_, old⟩ | ⟨n, c, rfl, place, live, isOver⟩
  · obtain ⟨issued, isOver, unspawned⟩ := unhurried.cancelled x old
    exact ⟨grounded.issued stepped issued, grounded.isOver stepped issued isOver,
      unhurried.unspawned_step stepped isOver unspawned⟩
  · refine ⟨grounded.issued stepped (grounded.live_issued live), isOver, ?_⟩
    have cancels : x ∈ e.cancels (.call n c) := by
      rcases place with ⟨control, found⟩ | ⟨found, queued⟩
      · exact mem_cancels_of_cancel found live
      · exact mem_cancels_of_sweep found queued
    have unspawned := unspawned_of_committed (spares x cancels)
    -- the step that cancels is a request to the store, and sends nothing
    have kept : (e'.controls x).sent = (e.controls x).sent := by
      cases step_control stepped x with
      | sent asked =>
        rcases place with ⟨control, found⟩ | ⟨found, _⟩
        · rw [asking_call found] at asked
          cases asked
        · rw [asking_call found] at asked
          cases asked
      | written acts => cases acts
      | broken acts => cases acts
      | forgotten acts => cases acts
      | kept _ _ _ same => rw [same]
    rw [kept]
    exact unspawned

theorem step (unhurried : e.Unhurried) (grounded : e.Grounded) (spares : e.SparesSpawn a)
    (stepped : e.step a = some e') : e'.Unhurried where
  live _ _ := unhurried.live_step grounded spares stepped
  cancelled _ := unhurried.cancelled_step grounded spares stepped

end Unhurried

theorem unhurried (reached : engine.ReachableVia SparesSpawn e) : e.Unhurried := by
  refine reached.invariant Unhurried ?_ fun t a t' before held spares stepped =>
    held.step (grounded before) spares stepped
  intro first start
  obtain ⟨_, new⟩ := start
  constructor
  · intro x t present
    rw [new] at present
    cases present
  · intro x member
    rw [new] at member
    cases member

end Engine

open Engine in
/-- In every run in which `cancel` and `drain` finish a queued execution only before its
task is committed to the Spawn, no Spawn is enqueued for an execution that is terminal,
and an execution that was cancelled while queued has no Spawn on its control channel. -/
theorem spawn_only_live {e : Engine} (reached : engine.ReachableVia SparesSpawn e) :
    (∀ a e' x command, e.step a = some e' → command.isSpawn = true →
      (e'.controls x).sent = (e.controls x).sent ++ [command] →
      ∃ row, e.db.executions.find? x = some row ∧ row.state.isTerminal = false) ∧
    ∀ x ∈ e.cancelledQueued, ∀ command ∈ (e.controls x).sent, command.isSpawn = false := by
  have held := unhurried reached
  refine ⟨?_, fun x member => (held.cancelled x member).2.2⟩
  intro a e' x command stepped spawn grown
  have live : Live (e.db.records x) := by
    cases step_control stepped x with
    | sent asked _ after =>
      rw [after, List.append_cancel_left_eq, List.cons.injEq] at grown
      exact held.live_of_sent asked (by rw [grown.1]; exact spawn)
    | written _ _ after =>
      rw [after] at grown
      exact absurd (List.self_eq_append_right.mp grown) (List.cons_ne_nil _ _)
    | broken _ _ after =>
      rw [after] at grown
      exact absurd (List.self_eq_append_right.mp grown) (List.cons_ne_nil _ _)
    | forgotten _ same =>
      rw [same] at grown
      exact absurd grown.symm (List.append_ne_nil_of_right_ne_nil _ (List.cons_ne_nil _ _))
    | kept _ _ _ after =>
      rw [after] at grown
      exact absurd (List.self_eq_append_right.mp grown) (List.cons_ne_nil _ _)
  obtain ⟨record, found, open_⟩ := live
  exact ⟨record.row, (records_eq_some.mp found).1, open_⟩

/-- A client cancels the execution `id`, which is finished at once when it is queued. -/
def sampleCancel (n : Nat) (id : ExecutionId) : List Action :=
  [.begin n (.cancel id), .call n {}, .call n {}, .call n {}, .call n {}]

/-- Execution "b" is cancelled in the queue, and then "a" is started. -/
theorem spawn_only_live_sample :
    ∃ e e', engine.runIf Engine.SparesSpawn sampleEngine
        ((sampleLaunch 0 "b").take 7 ++ sampleCancel 1 "b" ++ sampleLaunch 2 "a") = some e ∧
      e.step (.task "a" {}) = some e' ∧ (e'.controls "a").sent.length = 1 ∧
      (∃ row, e.db.executions.find? "a" = some row ∧ row.state.isTerminal = false) ∧
      "b" ∈ e.cancelledQueued ∧ ∀ command ∈ (e.controls "b").sent, command.isSpawn = false := by
  have traced : (engine.runIf Engine.SparesSpawn sampleEngine
      ((sampleLaunch 0 "b").take 7 ++ sampleCancel 1 "b" ++ sampleLaunch 2 "a")).bind (fun e =>
        (e.step (.task "a" {})).map fun e' => ((e.controls "a").sent.length,
          (e'.controls "a").sent.map SupervisorCommand.isSpawn, e.cancelledQueued)) =
      some (0, [true], ["b"]) := by decide +kernel
  obtain ⟨e, ran, traced⟩ := Option.bind_eq_some_iff.mp traced
  obtain ⟨e', stepped, seen⟩ := Option.map_eq_some_iff.mp traced
  simp only [Prod.mk.injEq, List.length_eq_zero_iff, List.map_eq_singleton_iff] at seen
  obtain ⟨nothing, ⟨command, sent, spawn⟩, cancelled⟩ := seen
  have reached : engine.ReachableVia Engine.SparesSpawn e :=
    (System.ReachableVia.start sampleEngine_start).run (System.runIf_runVia ran)
  have main := spawn_only_live reached
  have member : "b" ∈ e.cancelledQueued := by rw [cancelled]; exact List.mem_singleton_self _
  refine ⟨e, e', ran, stepped, by rw [sent]; rfl, ?_, member, main.2 "b" member⟩
  exact main.1 _ e' "a" command stepped spawn (by rw [nothing, sent]; rfl)

/-- The cancellation comes after the check and before the Spawn: the record is cancelled,
and the supervisor gets the Spawn all the same. -/
theorem cancelled_work_started :
    ∃ e e' row, engine.run sampleEngine (sampleLaunch 0 "a" ++ sampleCancel 1 "a") = some e ∧
      engine.run e [.task "a" {}, .control "a" true] = some e' ∧
      e.db.executions.find? "a" = some row ∧ row.state = .cancelled ∧
      (e.controls "a").sent = [] ∧ (e'.controls "a").delivered.any SupervisorCommand.isSpawn := by
  have traced : (engine.run sampleEngine (sampleLaunch 0 "a" ++ sampleCancel 1 "a")).bind
      (fun e => (engine.run e [.task "a" {}, .control "a" true]).map fun e' =>
        ((e.db.executions.find? "a").map (·.state), (e.controls "a").sent.length,
          (e'.controls "a").delivered.any SupervisorCommand.isSpawn)) =
      some (some .cancelled, 0, true) := by decide +kernel
  obtain ⟨e, ran, traced⟩ := Option.bind_eq_some_iff.mp traced
  obtain ⟨e', after, seen⟩ := Option.map_eq_some_iff.mp traced
  simp only [Prod.mk.injEq, List.length_eq_zero_iff, Option.map_eq_some_iff] at seen
  obtain ⟨⟨row, found, state⟩, nothing, spawned⟩ := seen
  exact ⟨e, e', row, ran, after, found, state, nothing, spawned⟩

end Loomterm
