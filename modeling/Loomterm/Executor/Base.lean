import Loomterm.Executor.Inversion

/-!
# The basic invariants of the engine

Who holds which lock, where tasks and requests come from, and that the store keeps to the
journal. The arguments about cancellation, retention and capture all start from here.
-/

namespace Loomterm

open Database

/-! ## Locks -/

namespace Engine

variable {e e' : Engine} {f : FiberId} {c : Choice} {x : ExecutionId} {n : Nat} {reply : Reply}

/-- A lock is held by whoever stands inside its scope, and drain does not begin while an
`execute` is inside the lifecycle lock. -/
structure Locked (e : Engine) : Prop where
  task : ∀ x t, e.tasks x = some t → t.point.holdsTransitions = true →
    e.transitions = some (.task x)
  call : ∀ n point, e.calls n = some point → point.holdsTransitions = true →
    e.transitions = some (.call n)
  holder : ∀ n point, e.calls n = some point → point.holdsLifecycle = true →
    e.lifecycleHolder = some (.call n) ∧ e.lifecycle = .accepting

end Engine

theorem TaskPoint.afterFrame_holds {point : TaskPoint}
    (after : point.afterFrame = true) : point.holdsTransitions = false := by
  cases point <;> first | rfl | cases after

theorem TaskMove.holdsTransitions {settings : Settings} {id : ExecutionId} {c : Choice}
    {t t' : Task} {reply : Reply} (move : TaskMove settings id c t reply t')
    (holds : t'.point.holdsTransitions = true) :
    t.point.holdsTransitions = true ∨ t.request? settings id = some .lockTransitions := by
  cases move with
  | registering point => exact .inr (by simp only [Task.request?, point])
  | starting point => exact .inr (by simp only [Task.request?, point])
  | registerLive point => exact .inl (by rw [point]; rfl)
  | registerOver point => exact .inl (by rw [point]; rfl)
  | startedLive point => exact .inl (by rw [point]; rfl)
  | startedOver point => exact .inl (by rw [point]; rfl)
  | @frame given =>
    rw [TaskPoint.afterFrame_holds (Task.receive_afterFrame settings id c t given)] at holds
    cases holds
  | @captured record rest =>
    cases rest with
    | nil => cases holds
    | cons => cases holds
  | @finalOver ending =>
    cases ending with
    | received => cases holds
    | missing => cases holds
  | @finished ending =>
    cases ending with
    | received => cases holds
    | missing => cases holds
  | _ => cases holds

theorem CallMove.holdsTransitions {point point' : CallPoint} {reply : Reply}
    (move : CallMove point reply point') (holds : point'.holdsTransitions = true) :
    point.holdsTransitions = true ∨ point.request? = some .lockTransitions := by
  cases move with
  | cancelling => exact .inr rfl
  | entered => exact .inr rfl
  | got => exact .inl rfl
  | foundQueued => exact .inl rfl
  | foundRunning => exact .inl rfl
  | finishedControlled => exact .inl rfl
  | swept => exact .inl rfl
  | listed => exact .inl rfl
  | sent => exact .inl rfl
  | _ => cases holds

theorem CallMove.holdsLifecycle {point point' : CallPoint} {reply : Reply}
    (move : CallMove point reply point') (holds : point'.holdsLifecycle = true) :
    point.holdsLifecycle = true ∨
      point.request? = some .lockLifecycle ∧ reply = .lifecycle .accepting := by
  cases move with
  | accepted => exact .inr ⟨rfl, rfl⟩
  | workspace => exact .inl rfl
  | resolved => exact .inl rfl
  | created => exact .inl rfl
  | spawned => exact .inl rfl
  | @listed ids =>
    cases ids with
    | nil => cases holds
    | cons => cases holds
  | @sent _ rest =>
    cases rest with
    | nil => cases holds
    | cons => cases holds
  | _ => cases holds

namespace Engine

variable {e e' : Engine} {f : FiberId} {c : Choice} {x : ExecutionId} {n : Nat} {reply : Reply}

theorem serve_lockTransitions (served : e.serve f c .lockTransitions = some (e', reply)) :
    e.transitions = none ∧ e'.transitions = some f := by
  simp only [serve] at served
  split at served
  · rename_i free
    cases served
    exact ⟨free, rfl⟩
  · cases served

theorem serve_lockLifecycle (served : e.serve f c .lockLifecycle = some (e', reply)) :
    e.lifecycleHolder = none ∧ e'.lifecycleHolder = some f ∧ reply = .lifecycle e.lifecycle := by
  simp only [serve] at served
  split at served
  · rename_i free
    cases served
    exact ⟨free, rfl, rfl⟩
  · cases served

/-- While somebody is inside the lifecycle lock, the lifecycle does not change. -/
theorem serve_lifecycle {request : Request} (served : e.serve f c request = some (e', reply))
    (held : e.lifecycleHolder ≠ none) : e'.lifecycle = e.lifecycle := by
  by_cases begins : request = .beginDrain
  · subst begins
    simp only [serve] at served
    split at served
    · rename_i free
      exact absurd free held
    · cases served
  · by_cases stops : request = .stop
    · subst stops
      simp only [serve] at served
      split at served
      · rename_i free
        exact absurd free held
      · cases served
    · exact (serve_served served).lifecycle begins stops

/-- Whoever holds a lock keeps it while another is served. -/
theorem serve_keeps {request : Request} {f : FiberId}
    (served : e.serve f c request = some (e', reply)) {other : FiberId} :
    (e.transitions = some other → e'.transitions = some other) ∧
      (e.lifecycleHolder = some other → e'.lifecycleHolder = some other) := by
  constructor
  · intro held
    by_cases locks : request = .lockTransitions
    · subst locks
      rw [(serve_lockTransitions served).1] at held
      cases held
    · rw [(serve_served served).transitions locks]
      exact held
  · intro held
    by_cases locks : request = .lockLifecycle
    · subst locks
      rw [(serve_lockLifecycle served).1] at held
      cases held
    · rw [(serve_served served).holder locks]
      exact held

theorem unlock_transitions {holds : Bool} :
    (e.unlock f holds).transitions =
      if e.transitions = some f ∧ holds = false then none else e.transitions := rfl

/-- Leaving a scope gives back no lock of another. -/
theorem unlock_keeps {other : FiberId} {holds : Bool} (held : e.transitions = some other)
    (inside : other = f → holds = true) : (e.unlock f holds).transitions = some other := by
  rw [unlock_transitions, if_neg]
  · exact held
  · rintro ⟨own, left⟩
    rw [held, Option.some.injEq] at own
    rw [inside own] at left
    cases left

theorem Locked.congr (locked : e.Locked) (tasks : e'.tasks = e.tasks) (calls : e'.calls = e.calls)
    (transitions : e'.transitions = e.transitions)
    (holder : e'.lifecycleHolder = e.lifecycleHolder) (lifecycle : e'.lifecycle = e.lifecycle) :
    e'.Locked := by
  refine ⟨?_, ?_, ?_⟩
  · rw [tasks, transitions]
    exact locked.task
  · rw [calls, transitions]
    exact locked.call
  · rw [calls, holder, lifecycle]
    exact locked.holder

theorem Locked.runTask (locked : e.Locked) (stepped : e.runTask x c = some e') : e'.Locked := by
  obtain ⟨t, request, served, reply, t', found, asked, done, next, rfl⟩ :=
    runTask_eq_some stepped
  have kept := serve_served done
  have tasks : served.tasks = e.tasks := by
    funext y
    exact kept.tasks y (by rw [request_forTask asked]; rintro ⟨⟩)
  have move := Task.next_move next
  refine ⟨?_, ?_, ?_⟩
  · intro y u present inside
    show (served.unlock (.task x) t'.point.holdsTransitions).transitions = some (.task y)
    by_cases own : y = x
    · subst own
      rw [show (served.settleTask y t t').tasks y = some t' from Function.update_self ..] at present
      cases present
      refine unlock_keeps ?_ fun _ => inside
      rcases move.holdsTransitions inside with held | locks
      · exact (serve_keeps done).1 (locked.task y t found held)
      · rw [asked] at locks
        cases locks
        exact (serve_lockTransitions done).2
    · rw [show (served.settleTask x t t').tasks y = served.tasks y from
        Function.update_of_ne own ..] at present
      rw [tasks] at present
      refine unlock_keeps ((serve_keeps done).1 (locked.task y u present inside)) fun same => ?_
      cases same
      exact absurd rfl own
  · intro n point present inside
    rw [show (served.settleTask x t t').calls = served.calls from rfl, kept.calls] at present
    exact unlock_keeps ((serve_keeps done).1 (locked.call n point present inside)) (by rintro ⟨⟩)
  · intro n point present inside
    rw [show (served.settleTask x t t').calls = served.calls from rfl, kept.calls] at present
    obtain ⟨held, accepting⟩ := locked.holder n point present inside
    refine ⟨(serve_keeps done).2 held, ?_⟩
    exact (serve_lifecycle done (by rw [held]; rintro ⟨⟩)).trans accepting

theorem Locked.runCall (locked : e.Locked) (stepped : e.runCall n c = some e') : e'.Locked := by
  obtain ⟨point, request, served, reply, point', found, asked, done, next, rfl⟩ :=
    runCall_eq_some stepped
  have kept := serve_served done
  have move := CallPoint.next_move next
  have calls : ∀ m, m ≠ n → (served.settleCall n reply point point').calls m = e.calls m := by
    intro m different
    rw [show (served.settleCall n reply point point').calls m = served.calls m from
      Function.update_of_ne different .., kept.calls]
  have own : (served.settleCall n reply point point').calls n = some point' :=
    Function.update_self ..
  refine ⟨?_, ?_, ?_⟩
  · intro y u present inside
    show (served.unlock (.call n) point'.holdsTransitions).transitions = some (.task y)
    -- a call changes a task only by making it or by releasing it
    have before : ∃ u₀, e.tasks y = some u₀ ∧ u₀.point.holdsTransitions = true := by
      have present : served.tasks y = some u := present
      by_cases touched : request.forTask = some y
      · cases request with
        | spawnTask id given cwd =>
          cases touched
          simp only [serve, Option.some.injEq, Prod.mk.injEq] at done
          rw [← done.1] at present
          simp only [Function.update_self, Option.some.injEq] at present
          rw [← present] at inside
          cases inside
        | insertTask id =>
          cases touched
          simp only [serve, Option.some.injEq, Prod.mk.injEq] at done
          rw [← done.1] at present
          simp only [Function.update_self] at present
          obtain ⟨u₀, first, rfl⟩ := Option.map_eq_some_iff.mp present
          exact ⟨u₀, first, inside⟩
        | _ => cases touched
      · rw [kept.tasks y touched] at present
        exact ⟨u, present, inside⟩
    obtain ⟨u₀, first, inside₀⟩ := before
    exact unlock_keeps ((serve_keeps done).1 (locked.task y u₀ first inside₀)) (by rintro ⟨⟩)
  · intro m other present inside
    show (served.unlock (.call n) point'.holdsTransitions).transitions = some (.call m)
    by_cases same : m = n
    · subst same
      rw [own] at present
      cases present
      refine unlock_keeps ?_ fun _ => inside
      rcases move.holdsTransitions inside with held | locks
      · exact (serve_keeps done).1 (locked.call m point found held)
      · rw [asked] at locks
        cases locks
        exact (serve_lockTransitions done).2
    · rw [calls m same] at present
      refine unlock_keeps ((serve_keeps done).1 (locked.call m other present inside)) fun equal => ?_
      cases equal
      exact absurd rfl same
  · intro m other present inside
    show (if served.lifecycleHolder = some (.call n) ∧ point'.holdsLifecycle = false then none
      else served.lifecycleHolder) = some (.call m) ∧ served.lifecycle = .accepting
    by_cases same : m = n
    · subst same
      rw [own] at present
      cases present
      rw [if_neg (by rw [inside]; exact fun both => Bool.noConfusion both.2)]
      rcases move.holdsLifecycle inside with held | ⟨locks, accepted⟩
      · obtain ⟨holder, accepting⟩ := locked.holder m point found held
        refine ⟨(serve_keeps done).2 holder, ?_⟩
        exact (serve_lifecycle done (by rw [holder]; rintro ⟨⟩)).trans accepting
      · rw [asked] at locks
        cases locks
        obtain ⟨_, holder, told⟩ := serve_lockLifecycle done
        rw [accepted, Reply.lifecycle.injEq] at told
        exact ⟨holder, (kept.lifecycle (by rintro ⟨⟩) (by rintro ⟨⟩)).trans told.symm⟩
    · rw [calls m same] at present
      obtain ⟨holder, accepting⟩ := locked.holder m other present inside
      have holder' := (serve_keeps done).2 holder
      rw [if_neg]
      · refine ⟨holder', ?_⟩
        exact (serve_lifecycle done (by rw [holder]; rintro ⟨⟩)).trans accepting
      · rintro ⟨equal, _⟩
        rw [holder', Option.some.injEq, FiberId.call.injEq] at equal
        exact same equal

theorem Locked.abortTask (locked : e.Locked) (stepped : e.abortTask x = some e') :
    e'.Locked := by
  obtain ⟨t, request, found, asked, _, rfl⟩ := abortTask_eq_some stepped
  refine ⟨?_, ?_, locked.holder⟩
  · intro y u present inside
    by_cases own : y = x
    · subst own
      rw [show (e.dropTask y t request).tasks y = some (t.goto .aborted) from
        Function.update_self ..] at present
      cases present
      cases inside
    · rw [show (e.dropTask x t request).tasks y = e.tasks y from
        Function.update_of_ne own ..] at present
      refine unlock_keeps (locked.task y u present inside) fun same => ?_
      cases same
      exact absurd rfl own
  · intro m other present inside
    exact unlock_keeps (locked.call m other present inside) (by rintro ⟨⟩)

theorem first_holds (operation : Operation) :
    (CallPoint.first operation).holdsTransitions = false ∧
      (CallPoint.first operation).holdsLifecycle = false := by
  cases operation with
  | execute request =>
    simp only [CallPoint.first]
    generalize request.validate = validated
    cases validated with
    | ok => exact ⟨rfl, rfl⟩
    | error e => exact ⟨rfl, rfl⟩
  | cancel id => exact ⟨rfl, rfl⟩
  | drain => exact ⟨rfl, rfl⟩

theorem Locked.restart : (e.restart c).Locked where
  task _ _ present := by cases present
  call _ _ present := by cases present
  holder _ _ present := by cases present

/-- A call begins outside every scope. -/
theorem Locked.begin (locked : e.Locked) (operation : Operation) :
    { e with calls := Function.update e.calls n (some (.first operation)) : Engine }.Locked := by
  obtain ⟨outside, outside'⟩ := first_holds operation
  have begun : ∀ m other, Function.update e.calls n (some (.first operation)) m = some other →
      e.calls m = some other ∨
        other.holdsTransitions = false ∧ other.holdsLifecycle = false := by
    intro m other present
    by_cases same : m = n
    · subst same
      rw [Function.update_self, Option.some.injEq] at present
      rw [← present]
      exact .inr ⟨outside, outside'⟩
    · rw [Function.update_of_ne same] at present
      exact .inl present
  refine ⟨locked.task, ?_, ?_⟩
  · intro m other present inside
    rcases begun m other present with before | left
    · exact locked.call m other before inside
    · rw [left.1] at inside
      cases inside
  · intro m other present inside
    rcases begun m other present with before | left
    · exact locked.holder m other before inside
    · rw [left.2] at inside
      cases inside

theorem Locked.step (locked : e.Locked) {a : Action} (stepped : e.step a = some e') :
    e'.Locked := by
  rcases step_cases stepped with ⟨c, rfl, rfl⟩ | ⟨_, stepped⟩
  · exact .restart
  cases a with
  | restart c => exact stepped.elim
  | begin m operation =>
    obtain ⟨_, rfl⟩ := stepped
    exact locked.begin operation
  | call m c => exact locked.runCall stepped
  | task id c => exact locked.runTask stepped
  | abort id => exact locked.abortTask stepped
  | writer conditions =>
    obtain ⟨_, _, _, _, _, _, rfl⟩ := runWriter_eq_some stepped
    exact locked.congr rfl rfl rfl rfl rfl
  | control id written =>
    obtain ⟨_, _, _, rfl⟩ := writeControl_eq_some stepped
    exact locked.congr rfl rfl rfl rfl rfl
  | orphan i c =>
    obtain ⟨call, served, reply, found, done, rfl⟩ := runOrphan_eq_some stepped
    have asked : e.serve (.call 0) c (.store call) = some (served, reply) := done
    have kept := serve_served asked
    exact locked.congr (funext fun y => kept.tasks y (by rintro ⟨⟩)) kept.calls
      (kept.transitions (by rintro ⟨⟩))
      (kept.holder (by rintro ⟨⟩)) (kept.lifecycle (by rintro ⟨⟩) (by rintro ⟨⟩))

end Engine

/-! ## Where tasks and requests come from -/

/-- The points at which a task asks for a terminal state. -/
def TaskPoint.finishes : TaskPoint → Bool
  | .launchFailed _ | .finalFinish _ | .failedFinish _ => true
  | _ => false

/-- A request that the task of `x` makes. -/
def StoreCall.OfTask (x : ExecutionId) : StoreCall → Prop
  | .getExecution id => id = x
  | .markRunning id _ _ => id = x
  | .finish id state outcome => id = x ∧ state = outcome.terminalState
  | .prune _ _ => True
  | _ => False

theorem Task.request_ofTask {settings : Settings} {x : ExecutionId} {t : Task} {call : StoreCall}
    (asked : t.request? settings x = some (.store call)) : call.OfTask x := by
  cases point : t.point <;> simp only [Task.request?, point] at asked <;> cases asked
  case launchFailed => exact ⟨rfl, rfl⟩
  case finalFinish => exact ⟨rfl, rfl⟩
  case failedFinish => exact ⟨rfl, rfl⟩
  case prune => trivial
  all_goals rfl

namespace Engine

variable {e e' : Engine} {a : Action} {f : FiberId} {c : Choice} {x : ExecutionId} {n : Nat}
  {reply : Reply}

/-- The store keeps to the journal; every id that is in use was given out, and a task is
made only once; what is left of a dropped task is a request that the task made. -/
structure Grounded (e : Engine) : Prop where
  locked : e.Locked
  sound : e.db.Sound
  lifecycle : e.db.records.Lifecycle
  known : ∀ x record, e.db.records x = some record → x ∈ e.issued
  tasks : ∀ x t, e.tasks x = some t → x ∈ e.issued
  spawning : ∀ n execution given cwd, e.calls n = some (.executeSpawn execution given cwd) →
    e.tasks execution.id = none ∧ execution.id ∈ e.issued
  orphans : ∀ call ∈ e.orphans, ∃ x t, e.tasks x = some t ∧ t.point = .aborted ∧ call.OfTask x

/-- The places that finish the execution `x`: three in its task, `cancel`, the
`cancel_queued` of `drain`, a request left over by its aborted task, and the next start. -/
inductive FinishedBy (e : Engine) (a : Action) (x : ExecutionId) : Prop
  | task {c : Choice} {t : Task} : a = .task x c → e.tasks x = some t →
      t.point.finishes = true → FinishedBy e a x
  | cancel {n : Nat} {c : Choice} {control : Bool} : a = .call n c →
      e.calls n = some (.cancelFinish x control) → FinishedBy e a x
  | sweep {n : Nat} {c : Choice} : a = .call n c → e.calls n = some .drainCancelQueued →
      Queued (e.db.records x) → FinishedBy e a x
  | leftover {i : Nat} {c : Choice} {t : Task} {state : ExecutionState}
      {outcome : ExecutionOutcome} : a = .orphan i c →
      e.orphans[i]? = some (.finish x state outcome) → e.tasks x = some t → t.point = .aborted →
      FinishedBy e a x
  | restart {c : Choice} : a = .restart c → Live (e.db.records x) → FinishedBy e a x

namespace Grounded

/-- Whatever finishes an execution gives it the state that goes with the outcome. -/
theorem agrees (grounded : e.Grounded) {change : Change} (permits : e.Permits a change) :
    change.Agrees := by
  cases permits with
  | @asked call _ calling permit =>
    cases call with
    | finish id state outcome =>
      rw [show change = _ from permit]
      rcases calling_eq_some calling with
        ⟨y, c, t, _, _, asked⟩ | ⟨n, c, point, _, _, asked⟩ | ⟨i, c, _, found⟩
      · exact (Task.request_ofTask asked).2
      · cases point with
        | returned result => cases asked
        | _ =>
          cases asked
          try rfl
      · obtain ⟨y, t, _, _, own⟩ := grounded.orphans _ (List.mem_of_getElem? found)
        exact own.2
    | cancelQueued =>
      obtain ⟨_, _, rfl⟩ := permit
      rfl
    | createExecution request cwd =>
      rw [show change = _ from permit]
      trivial
    | markRunning _ _ _ =>
      rw [show change = _ from permit]
      trivial
    | prune _ _ =>
      obtain ⟨_, rfl⟩ := permit
      trivial
    | getWorkspace _ => exact permit.elim
    | getExecution _ => exact permit.elim
  | captured => trivial
  | reconciled => rfl

/-- What a step does to the journal. -/
theorem effect (grounded : e.Grounded) (stepped : e.step a = some e') :
    ∃ changes, Effect e.db changes e'.db ∧
      ∀ change ∈ changes, e.Permits a change ∧ change.Agrees ∧
        ∀ id, change.Creates id → id ∉ e.issued := by
  obtain ⟨changes, effect, permitted, _, fresh⟩ := step_effect grounded.sound.linked stepped
  refine ⟨changes, effect, fun change member => ?_⟩
  have permits := permitted change member
  exact ⟨permits, grounded.agrees permits, fun id creates => (fresh id ⟨change, member, creates⟩).1⟩

/-- A property of one record that every change of a step keeps is kept by the step. -/
theorem preserves (grounded : e.Grounded) (stepped : e.step a = some e')
    {P : Option ExecutionRecord → Prop}
    (kept : ∀ change r r', e.Permits a change → change.Agrees →
      (x ∈ e.issued → ¬ change.Creates x) → RecordStep x change r r' → P r → P r')
    (before : P (e.db.records x)) : P (e'.db.records x) := by
  obtain ⟨changes, effect, permitted⟩ := grounded.effect stepped
  refine effect.preserves x (fun change member r r' step held => ?_) before
  obtain ⟨permits, agrees, fresh⟩ := permitted change member
  exact kept change r r' permits agrees (fun issued creates => fresh x creates issued) step held

/-- The places of the code that finish an execution. -/
theorem finishedBy (grounded : e.Grounded) (finishing : e.Finishing a x) : e.FinishedBy a x := by
  cases finishing with
  | asked calling =>
    rcases calling_eq_some calling with
      ⟨y, c, t, acts, found, asked⟩ | ⟨n, c, point, acts, found, asked⟩ | ⟨i, c, acts, found⟩
    · obtain ⟨own, _⟩ := Task.request_ofTask asked
      subst own
      refine .task acts found ?_
      cases point : t.point <;> simp only [Task.request?, point] at asked <;> cases asked <;> rfl
    · cases point with
      | cancelFinish id control =>
        cases asked
        exact .cancel acts found
      | returned result => cases asked
      | _ => cases asked
    · obtain ⟨y, t, present, aborted, own, _⟩ := grounded.orphans _ (List.mem_of_getElem? found)
      subst own
      exact .leftover acts found present aborted
  | swept calling queued =>
    rcases calling_eq_some calling with
      ⟨y, c, t, acts, found, asked⟩ | ⟨n, c, point, acts, found, asked⟩ | ⟨i, c, acts, found⟩
    · exact (Task.request_ofTask asked).elim
    · cases point with
      | drainCancelQueued => exact .sweep acts found queued
      | returned result => cases asked
      | _ => cases asked
    · obtain ⟨_, _, _, _, own⟩ := grounded.orphans _ (List.mem_of_getElem? found)
      exact own.elim
  | reconciled acts live => exact .restart acts live

/-- An execution stays live unless the step finishes it. -/
theorem live (grounded : e.Grounded) (stepped : e.step a = some e')
    (unfinished : ¬ e.FinishedBy a x) (before : Live (e.db.records x)) :
    Live (e'.db.records x) :=
  grounded.preserves stepped (fun _ _ _ permits _ _ step held => step.live
    (fun finishes => unfinished (grounded.finishedBy (permits.finishing finishes))) held) before

/-- An execution that is over stays over: ids are not used again. -/
theorem isOver (grounded : e.Grounded) (stepped : e.step a = some e') (issued : x ∈ e.issued)
    (before : Over (e.db.records x)) : Over (e'.db.records x) :=
  grounded.preserves stepped (fun _ _ _ _ _ fresh step held =>
    step.isOver (fresh issued) held) before

theorem issued (grounded : e.Grounded) (stepped : e.step a = some e') :
    e.issued ⊆ e'.issued := by
  obtain ⟨_, _, _, grows, _⟩ := step_effect grounded.sound.linked stepped
  exact grows

theorem live_issued (grounded : e.Grounded) (live : Live (e.db.records x)) : x ∈ e.issued := by
  obtain ⟨record, found, _⟩ := live
  exact grounded.known x record found

end Grounded

/-! ## Every reachable state is grounded -/

theorem spawning_move {point point' : CallPoint} {execution : Execution}
    {given : ExecutionRequest} {cwd : String} (move : CallMove point reply point')
    (target : point' = .executeSpawn execution given cwd) :
    point = .executeCreate given cwd ∧ reply = .stored (.ok (.execution execution)) := by
  cases move with
  | created =>
    cases target
    exact ⟨rfl, rfl⟩
  | @listed ids =>
    cases ids with
    | nil => cases target
    | cons => cases target
  | @sent _ rest =>
    cases rest with
    | nil => cases target
    | cons => cases target
  | _ => cases target

theorem Grounded.known_step (grounded : e.Grounded) (stepped : e.step a = some e')
    {record : ExecutionRecord} (found : e'.db.records x = some record) : x ∈ e'.issued := by
  obtain ⟨changes, effect, permitted, grows, fresh⟩ := step_effect grounded.sound.linked stepped
  by_cases issued : x ∈ e'.issued
  · exact issued
  · have absent : e'.db.records x = none := by
      refine effect.preserves x (P := (· = none)) (fun change member r r' step before => ?_) ?_
      · exact step.absent (fun creates => issued (fresh x ⟨change, member, creates⟩).2) before
      · cases before : e.db.records x with
        | none => rfl
        | some first => exact absurd (grows (grounded.known x first before)) issued
    rw [absent] at found
    cases found

theorem Grounded.tasks_step (grounded : e.Grounded) (stepped : e.step a = some e') {t : Task}
    (present : e'.tasks x = some t) : x ∈ e'.issued := by
  refine grounded.issued stepped ?_
  cases step_task stepped x with
  | moved _ found => exact grounded.tasks x _ found
  | dropped _ found => exact grounded.tasks x _ found
  | made _ found own => exact own ▸ (grounded.spawning _ _ _ _ found).2
  | released _ _ _ found => exact grounded.tasks x _ found
  | forgotten _ same =>
    rw [same] at present
    cases present
  | kept _ _ _ same => exact grounded.tasks x t (same ▸ present)

/-- A created execution has a fresh id, and only one call is inside the lifecycle lock. -/
theorem Grounded.spawning_step (grounded : e.Grounded) (stepped : e.step a = some e')
    {execution : Execution} {given : ExecutionRequest} {cwd : String}
    (present : e'.calls n = some (.executeSpawn execution given cwd)) :
    e'.tasks execution.id = none ∧ execution.id ∈ e'.issued := by
  cases step_call stepped n with
  | forgotten _ same =>
    rw [same] at present
    cases present
  | @began operation _ same =>
    rw [same] at present
    simp only [Function.update_self, Option.some.injEq] at present
    have outside := (first_holds operation).2
    rw [present] at outside
    cases outside
  | @moved c point point' request served reply acts found asked done move same =>
    rw [same] at present
    have target : point' = .executeSpawn execution given cwd := by
      rw [show (served.settleCall n reply point point').calls n = some point' from
        Function.update_self ..] at present
      exact Option.some.inj present
    obtain ⟨rfl, rfl⟩ := spawning_move move target
    cases asked
    have asked : e.serveStore (.createExecution given cwd) c = some (served, _) := done
    obtain ⟨result, db, broadcast, issued, rfl, told, _, outcome, _, fresh⟩ :=
      serveStore_eq_some grounded.sound.linked asked
    cases told
    obtain ⟨r, named, made⟩ := outcome
    cases r with
    | error error => cases named
    | ok own =>
      cases named
      have id : execution.id = c.id := by rw [made.2.2]; rfl
      obtain ⟨unused, used⟩ := fresh _ _ rfl
      rw [same, id]
      refine ⟨?_, used⟩
      show e.tasks c.id = none
      cases before : e.tasks c.id with
      | none => rfl
      | some t => exact absurd (grounded.tasks c.id t before) unused
  | kept other notRestart same =>
    rw [same] at present
    obtain ⟨none, issued⟩ := grounded.spawning n _ _ _ present
    refine ⟨?_, grounded.issued stepped issued⟩
    cases step_task stepped execution.id with
    | moved _ found =>
      rw [none] at found
      cases found
    | dropped _ found =>
      rw [none] at found
      cases found
    | @made m c other' given' cwd' acts found own _ =>
      -- the two calls would both be inside the lifecycle lock
      have first := (grounded.locked.holder n _ present rfl).1
      have second := (grounded.locked.holder m _ found rfl).1
      rw [first] at second
      cases second
      exact absurd (by rw [acts]; rfl) other
    | released _ _ _ found =>
      rw [none] at found
      cases found
    | forgotten acts _ =>
      rw [acts] at notRestart
      cases notRestart
    | kept _ _ _ kept => exact kept.trans none

/-- A task that was dropped stays so. -/
theorem aborted_step (grounded : e.Grounded) (stepped : e.step a = some e')
    (notRestart : a.isRestart = false) {t : Task} (found : e.tasks x = some t)
    (aborted : t.point = .aborted) : ∃ t', e'.tasks x = some t' ∧ t'.point = .aborted := by
  cases step_task stepped x with
  | moved _ found' asked =>
    rw [found] at found'
    cases found'
    simp only [Task.request?, aborted] at asked
    cases asked
  | dropped _ found' asked =>
    rw [found] at found'
    cases found'
    simp only [Task.request?, aborted] at asked
    cases asked
  | made _ spawning own =>
    have none := (grounded.spawning _ _ _ _ spawning).1
    rw [own, found] at none
    cases none
  | released _ _ _ found' after =>
    rw [found] at found'
    cases found'
    exact ⟨_, after, aborted⟩
  | forgotten acts _ =>
    rw [acts] at notRestart
    cases notRestart
  | kept _ _ _ same => exact ⟨t, same.trans found, aborted⟩

/-- A request is left over from the task that a step drops, if it was not before. -/
theorem orphans_step (stepped : e.step a = some e') {call : StoreCall}
    (member : call ∈ e'.orphans) :
    (a.isRestart = false ∧ call ∈ e.orphans) ∨
      ∃ x t, a = .abort x ∧ e.tasks x = some t ∧ t.request? e.settings x = some (.store call) ∧
        e'.tasks x = some (t.goto .aborted) := by
  rcases step_cases stepped with ⟨c, rfl, rfl⟩ | ⟨_, stepped⟩
  · cases member
  cases a with
  | restart c => exact stepped.elim
  | begin m operation =>
    obtain ⟨_, rfl⟩ := stepped
    exact .inl ⟨rfl, member⟩
  | call m c =>
    obtain ⟨_, _, _, _, _, _, _, done, _, rfl⟩ := runCall_eq_some stepped
    exact .inl ⟨rfl, (serve_served done).orphans ▸ member⟩
  | task id c =>
    obtain ⟨_, _, _, _, _, _, _, done, _, rfl⟩ := runTask_eq_some stepped
    exact .inl ⟨rfl, (serve_served done).orphans ▸ member⟩
  | writer conditions =>
    obtain ⟨_, _, _, _, _, _, rfl⟩ := runWriter_eq_some stepped
    exact .inl ⟨rfl, member⟩
  | control id written =>
    obtain ⟨_, _, _, rfl⟩ := writeControl_eq_some stepped
    exact .inl ⟨rfl, member⟩
  | abort id =>
    obtain ⟨t, request, found, asked, _, rfl⟩ := abortTask_eq_some stepped
    cases request with
    | store own =>
      rcases List.mem_append.mp member with old | new
      · exact .inl ⟨rfl, old⟩
      · rw [List.mem_singleton] at new
        subst new
        exact .inr ⟨id, t, rfl, found, asked, Function.update_self ..⟩
    | _ => exact .inl ⟨rfl, member⟩
  | orphan i c =>
    obtain ⟨_, _, _, _, _, rfl⟩ := runOrphan_eq_some stepped
    exact .inl ⟨rfl, List.mem_of_mem_eraseIdx member⟩

theorem Grounded.orphans_step (grounded : e.Grounded) (stepped : e.step a = some e')
    {call : StoreCall} (member : call ∈ e'.orphans) :
    ∃ x t, e'.tasks x = some t ∧ t.point = .aborted ∧ call.OfTask x := by
  rcases Engine.orphans_step stepped member with
    ⟨notRestart, old⟩ | ⟨x, t, _, _, asked, after⟩
  · obtain ⟨y, t, found, aborted, own⟩ := grounded.orphans call old
    obtain ⟨t', found', aborted'⟩ := aborted_step grounded stepped notRestart found aborted
    exact ⟨y, t', found', aborted', own⟩
  · exact ⟨x, t.goto .aborted, after, rfl, Task.request_ofTask asked⟩

theorem Grounded.step (grounded : e.Grounded) (stepped : e.step a = some e') : e'.Grounded where
  locked := grounded.locked.step stepped
  sound := by
    obtain ⟨_, effect, _⟩ := grounded.effect stepped
    exact effect.sound grounded.sound
  lifecycle := by
    obtain ⟨_, effect, permitted⟩ := grounded.effect stepped
    exact Records.lifecycle_run
      (effect.runVia Change.Agrees fun change member => (permitted change member).2.1)
      grounded.lifecycle
  known _ _ := grounded.known_step stepped
  tasks _ _ := grounded.tasks_step stepped
  spawning _ _ _ _ := grounded.spawning_step stepped
  orphans _ := grounded.orphans_step stepped

theorem grounded_start (start : engine.start e) : e.Grounded := by
  obtain ⟨fresh, new⟩ := start
  have absent : ∀ x, e.db.records x = none := fun x => by rw [fresh.records]
  refine ⟨⟨?_, ?_, ?_⟩, fresh.sound, ?_, ?_, ?_, ?_, ?_⟩
  · intro x t present
    rw [new] at present
    cases present
  · intro n point present
    rw [new] at present
    cases present
  · intro n point present
    rw [new] at present
    cases present
  · intro x record found
    rw [absent x] at found
    cases found
  · intro x record found
    rw [absent x] at found
    cases found
  · intro x t present
    rw [new] at present
    cases present
  · intro n execution given cwd present
    rw [new] at present
    cases present
  · intro call member
    rw [new] at member
    cases member

theorem grounded {cond : Engine → Action → Prop} (reached : engine.ReachableVia cond e) :
    e.Grounded :=
  reached.invariant Grounded (fun _ start => grounded_start start)
    fun _ _ _ _ held _ stepped => held.step stepped

/-- A request to mark an execution running is its task's, or left over from it. -/
theorem Grounded.marking (grounded : e.Grounded) {pid : Nat} {pgid : Int}
    (calling : e.calling a = some (.markRunning x pid pgid)) :
    (∃ c t, a = .task x c ∧ e.tasks x = some t ∧ t.point = .markRunning pid pgid) ∨
      ∃ t, e.tasks x = some t ∧ t.point = .aborted := by
  rcases calling_eq_some calling with
    ⟨y, c, t, acts, found, asked⟩ | ⟨n, c, point, acts, found, asked⟩ | ⟨i, c, acts, found⟩
  · have own : x = y := Task.request_ofTask asked
    subst own
    refine .inl ⟨c, t, acts, found, ?_⟩
    cases point : t.point <;> simp only [Task.request?, point] at asked <;> cases asked
    rfl
  · cases point with
    | returned result => cases asked
    | _ => cases asked
  · obtain ⟨y, t, present, aborted, own⟩ := grounded.orphans _ (List.mem_of_getElem? found)
    have own : x = y := own
    subst own
    exact .inr ⟨t, present, aborted⟩

/-- A task reads its execution as it is. -/
theorem Grounded.read_state (grounded : e.Grounded) {f : FiberId} {c : Choice} {served : Engine}
    {current : Execution}
    (done : e.serve f c (.store (.getExecution x)) =
      some (served, .stored (.ok (.execution current)))) :
    ∃ record, e.db.records x = some record ∧ current.state = record.row.state := by
  have asked : e.serveStore (.getExecution x) c = some (served, _) := done
  obtain ⟨result, db, broadcast, issued, _, told, _, outcome, _⟩ :=
    serveStore_eq_some grounded.sound.linked asked
  cases told
  obtain ⟨r, named, read⟩ := outcome
  cases r with
  | error error => cases named
  | ok execution =>
    cases named
    obtain ⟨_, record, found, rfl⟩ := read
    exact ⟨record, found, rfl⟩

/-! ## Cancelled executions -/

/-- The executions that a call cancels were live, and are over. -/
theorem Grounded.cancelledBy_over (grounded : e.Grounded) {point : CallPoint}
    {request : Request} {served : Engine} (found : e.calls n = some point)
    (asked : point.request? = some request)
    (done : e.serve (.call n) c request = some (served, reply))
    (member : x ∈ cancelledBy point reply) :
    ((∃ control, point = .cancelFinish x control) ∨
        point = .drainCancelQueued ∧ Queued (e.db.records x)) ∧
      Live (e.db.records x) ∧ Over (served.db.records x) := by
  cases point with
  | cancelFinish id control =>
    cases asked
    have asked : e.serveStore (.finish id .cancelled (.cancelled none)) c = some (served, reply) :=
      done
    obtain ⟨result, db, broadcast, issued, rfl, rfl, _, outcome, _⟩ :=
      serveStore_eq_some grounded.sound.linked asked
    cases result with
    | error error => cases member
    | ok stored =>
      have own : x = id := List.mem_singleton.mp member
      subst own
      obtain ⟨r, named, moved⟩ := outcome
      cases r with
      | error error => cases named
      | ok event =>
        obtain ⟨record, present, open_, _, _, effect⟩ := moved
        refine ⟨.inl ⟨control, rfl⟩, ⟨record, present, Bool.eq_false_iff.mpr open_⟩, ?_⟩
        obtain ⟨_, _, _, same⟩ := effect.finish_records
        intro record' after
        rw [show db.records = _ from same, Function.update_self] at after
        cases after
        rfl
  | drainCancelQueued =>
    cases asked
    have asked : e.serveStore .cancelQueued c = some (served, reply) := done
    obtain ⟨result, db, broadcast, issued, rfl, rfl, _, outcome, _⟩ :=
      serveStore_eq_some grounded.sound.linked asked
    obtain ⟨ids, swept, ended⟩ := outcome
    cases result with
    | error error => cases member
    | ok stored =>
      obtain ⟨⟨events, rfl, rows⟩, _⟩ := ended
      obtain ⟨event, written, own⟩ := List.mem_map.mp member
      have selected : x ∈ ids := own ▸ swept.appended rfl rows written
      obtain ⟨record, present, queued⟩ := swept.selected x selected
      have queued : Queued (e.db.records x) := ⟨record, present, of_decide_eq_true queued⟩
      exact ⟨.inr ⟨rfl, queued⟩, queued.live, swept.isOver rfl selected⟩
  | _ => cases member

/-- A newly cancelled execution was live, and is over. -/
theorem Grounded.cancelledQueued_step (grounded : e.Grounded) (stepped : e.step a = some e')
    (member : x ∈ e'.cancelledQueued) :
    (a.isRestart = false ∧ x ∈ e.cancelledQueued) ∨ ∃ n c, a = .call n c ∧
      ((∃ control, e.calls n = some (.cancelFinish x control)) ∨
        e.calls n = some .drainCancelQueued ∧ Queued (e.db.records x)) ∧
      Live (e.db.records x) ∧ Over (e'.db.records x) := by
  rcases step_cases stepped with ⟨c, rfl, rfl⟩ | ⟨_, stepped⟩
  · cases member
  cases a with
  | restart c => exact stepped.elim
  | begin m operation =>
    obtain ⟨_, rfl⟩ := stepped
    exact .inl ⟨rfl, member⟩
  | call m c =>
    obtain ⟨point, request, served, reply, point', found, asked, done, _, rfl⟩ :=
      runCall_eq_some stepped
    rcases List.mem_append.mp member with new | old
    · obtain ⟨place, live, isOver⟩ := grounded.cancelledBy_over found asked done new
      refine .inr ⟨m, c, rfl, ?_, live, isOver⟩
      rcases place with ⟨control, rfl⟩ | ⟨rfl, queued⟩
      · exact .inl ⟨control, found⟩
      · exact .inr ⟨found, queued⟩
    · exact .inl ⟨rfl, (serve_served done).cancelledQueued ▸ old⟩
  | task id c =>
    obtain ⟨_, _, _, _, _, _, _, done, _, rfl⟩ := runTask_eq_some stepped
    exact .inl ⟨rfl, (serve_served done).cancelledQueued ▸ member⟩
  | writer conditions =>
    obtain ⟨_, _, _, _, _, _, rfl⟩ := runWriter_eq_some stepped
    exact .inl ⟨rfl, member⟩
  | control id written =>
    obtain ⟨_, _, _, rfl⟩ := writeControl_eq_some stepped
    exact .inl ⟨rfl, member⟩
  | abort id =>
    obtain ⟨_, _, _, _, _, rfl⟩ := abortTask_eq_some stepped
    exact .inl ⟨rfl, member⟩
  | orphan i c =>
    obtain ⟨_, served, _, _, done, rfl⟩ := runOrphan_eq_some stepped
    have asked : e.serve (.call 0) c (.store _) = some (served, _) := done
    exact .inl ⟨rfl, (serve_served asked).cancelledQueued ▸ member⟩

end Engine

end Loomterm
