import Loomterm.Executor.Moves

/-!
# What a step leaves of one part of the state

One relation for each part: the task of an execution, a call, the control channel of a
supervisor, the capture queue with its writer, and the journal. An invariant about some of
these parts goes through their cases, and never unfolds the engine.
-/

namespace Loomterm

open Database

namespace Action

/-- The task or the call that a step runs. -/
def fiber? : Action → Option FiberId
  | .task id _ => some (.task id)
  | .call n _ => some (.call n)
  | _ => none

/-- The control channel whose writer a step runs. -/
def delivers? : Action → Option ExecutionId
  | .control id _ => some id
  | _ => none

def isWriter : Action → Bool
  | .writer _ => true
  | _ => false

def isRestart : Action → Bool
  | .restart _ => true
  | _ => false

end Action

namespace Engine

variable {e e' : Engine} {a : Action} {x : ExecutionId} {n : Nat}

/-- What the task or the call that a step runs asks for. -/
def asking (e : Engine) : Action → Option Request
  | .task id _ => do (← e.tasks id).request? e.settings id
  | .call n _ => do (← e.calls n).request?
  | _ => none

theorem asking_task {c : Choice} {t : Task} (found : e.tasks x = some t) :
    e.asking (.task x c) = t.request? e.settings x := by
  simp only [asking, found, Option.bind_eq_bind, Option.bind_some]

theorem asking_call {c : Choice} {point : CallPoint} (found : e.calls n = some point) :
    e.asking (.call n c) = point.request? := by
  simp only [asking, found, Option.bind_eq_bind, Option.bind_some]

/-- A task asks for no task to be made. -/
theorem request_forTask {t : Task} {settings : Settings} {request : Request}
    (asked : t.request? settings x = some request) : request.forTask = none := by
  cases point : t.point <;> simp only [Task.request?, point] at asked <;> cases asked <;> rfl

/-- Only the two points of `execute` that make and release a task ask for it. -/
theorem call_forTask {point : CallPoint} {request : Request}
    (asked : point.request? = some request) (about : request.forTask = some x) :
    (∃ execution given cwd, point = .executeSpawn execution given cwd ∧ execution.id = x ∧
        request = .spawnTask x given cwd) ∨
      ∃ execution, point = .executeInsert execution ∧ execution.id = x ∧
        request = .insertTask x := by
  cases point with
  | executeSpawn execution given cwd =>
    cases asked
    cases about
    exact .inl ⟨execution, given, cwd, rfl, rfl, rfl⟩
  | executeInsert execution =>
    cases asked
    cases about
    exact .inr ⟨execution, rfl, rfl, rfl⟩
  | returned result => cases asked
  | _ =>
    cases asked
    cases about

/-- A frame is what comes from outside, and comes only from a supervisor that was spawned. -/
theorem serve_frame {f : FiberId} {c : Choice} {given : Input}
    (done : e.serve f c (.frame x) = some (e', .input given)) :
    c.input = given ∧ e' = e ∧ ∀ event, given = .frame (some (.ok event)) →
      (e.controls x).delivered.any SupervisorCommand.isSpawn = true := by
  simp only [serve] at done
  split at done
  · rename_i event input
    split at done
    · rename_i spawned
      simp only [Option.some.injEq, Prod.mk.injEq, Reply.input.injEq] at done
      exact ⟨done.2, done.1.symm, fun _ _ => spawned⟩
    · cases done
  · rename_i other
    simp only [Option.some.injEq, Prod.mk.injEq, Reply.input.injEq] at done
    refine ⟨done.2, done.1.symm, fun event same => ?_⟩
    rw [same] at done
    exact absurd done.2 (other event)

/-! ## Tasks -/

/-- What a step does to the task of `x`. -/
inductive TaskStep (e : Engine) (a : Action) (e' : Engine) (x : ExecutionId) : Prop
  | moved {c : Choice} {t t' : Task} {request : Request} {served : Engine} {reply : Reply} :
      a = .task x c → e.tasks x = some t → t.request? e.settings x = some request →
      e.serve (.task x) c request = some (served, reply) →
      TaskMove e.settings x c t reply t' → e' = served.settleTask x t t' → TaskStep e a e' x
  | dropped {t : Task} {request : Request} :
      a = .abort x → e.tasks x = some t → t.request? e.settings x = some request →
      e' = e.dropTask x t request → TaskStep e a e' x
  | made {n : Nat} {c : Choice} {execution : Execution} {given : ExecutionRequest} {cwd : String} :
      a = .call n c → e.calls n = some (.executeSpawn execution given cwd) → execution.id = x →
      e'.tasks x = some { request := given, cwd } → TaskStep e a e' x
  | released {n : Nat} {c : Choice} {execution : Execution} {t : Task} :
      a = .call n c → e.calls n = some (.executeInsert execution) → execution.id = x →
      e.tasks x = some t → e'.tasks x = some { t with released := true } → TaskStep e a e' x
  | forgotten {c : Choice} : a = .restart c → e' = e.restart c → TaskStep e a e' x
  | kept : a.fiber? ≠ some (.task x) → a ≠ .abort x → a.isRestart = false →
      e'.tasks x = e.tasks x → TaskStep e a e' x

theorem runCall_taskStep {c : Choice} (stepped : e.runCall n c = some e') :
    TaskStep e (.call n c) e' x := by
  obtain ⟨point, request, served, reply, point', found, asked, done, next, rfl⟩ :=
    runCall_eq_some stepped
  by_cases about : request.forTask = some x
  · rcases call_forTask asked about with
      ⟨execution, given, cwd, rfl, own, rfl⟩ | ⟨execution, rfl, own, rfl⟩
    · refine .made rfl found own ?_
      simp only [serve, Option.some.injEq, Prod.mk.injEq] at done
      rw [← done.1]
      exact Function.update_self ..
    · simp only [serve, Option.some.injEq, Prod.mk.injEq] at done
      have after : served.tasks x = (e.tasks x).map fun t => { t with released := true } := by
        rw [← done.1]
        exact Function.update_self ..
      cases present : e.tasks x with
      | none =>
        refine .kept (by rintro ⟨⟩) (by rintro ⟨⟩) rfl ?_
        rw [present] at after ⊢
        exact after
      | some t =>
        rw [present] at after
        exact .released rfl found own present after
  · exact .kept (by rintro ⟨⟩) (by rintro ⟨⟩) rfl ((serve_served done).tasks x about)

theorem step_task (stepped : e.step a = some e') (x : ExecutionId) : TaskStep e a e' x := by
  rcases step_cases stepped with ⟨c, rfl, rfl⟩ | ⟨_, stepped⟩
  · exact .forgotten rfl rfl
  cases a with
  | restart c => exact stepped.elim
  | begin m operation =>
    obtain ⟨_, rfl⟩ := stepped
    exact .kept (by rintro ⟨⟩) (by rintro ⟨⟩) rfl rfl
  | call m c => exact runCall_taskStep stepped
  | task id c =>
    obtain ⟨t, request, served, reply, t', found, asked, done, next, rfl⟩ :=
      runTask_eq_some stepped
    by_cases own : x = id
    · subst own
      exact .moved rfl found asked done (Task.next_move next) rfl
    · refine .kept (fun same => own (by cases same; rfl)) (by rintro ⟨⟩) rfl ?_
      rw [show (served.settleTask id t t').tasks x = served.tasks x from
        Function.update_of_ne own ..]
      exact (serve_served done).tasks x (by rw [request_forTask asked]; rintro ⟨⟩)
  | writer conditions =>
    obtain ⟨_, _, _, _, _, _, rfl⟩ := runWriter_eq_some stepped
    exact .kept (by rintro ⟨⟩) (by rintro ⟨⟩) rfl rfl
  | control id written =>
    obtain ⟨_, _, _, rfl⟩ := writeControl_eq_some stepped
    exact .kept (by rintro ⟨⟩) (by rintro ⟨⟩) rfl rfl
  | abort id =>
    obtain ⟨t, request, found, asked, _, rfl⟩ := abortTask_eq_some stepped
    by_cases own : x = id
    · subst own
      exact .dropped rfl found asked rfl
    · refine .kept (by rintro ⟨⟩) (fun same => own (by cases same; rfl)) rfl ?_
      exact Function.update_of_ne own ..
  | orphan i c =>
    obtain ⟨call, served, reply, found, done, rfl⟩ := runOrphan_eq_some stepped
    have asked : e.serve (.call 0) c (.store call) = some (served, reply) := done
    exact .kept (by rintro ⟨⟩) (by rintro ⟨⟩) rfl ((serve_served asked).tasks x (by rintro ⟨⟩))

/-! ## Calls -/

/-- What a step does to the call `n`. -/
inductive CallStep (e : Engine) (a : Action) (e' : Engine) (n : Nat) : Prop
  | moved {c : Choice} {point point' : CallPoint} {request : Request} {served : Engine}
      {reply : Reply} :
      a = .call n c → e.calls n = some point → point.request? = some request →
      e.serve (.call n) c request = some (served, reply) → CallMove point reply point' →
      e' = served.settleCall n reply point point' → CallStep e a e' n
  | began {operation : Operation} : a = .begin n operation →
      e' = { e with calls := Function.update e.calls n (some (.first operation)) } →
      CallStep e a e' n
  | forgotten {c : Choice} : a = .restart c → e' = e.restart c → CallStep e a e' n
  | kept : a.fiber? ≠ some (.call n) → a.isRestart = false → e'.calls n = e.calls n →
      CallStep e a e' n

theorem step_call (stepped : e.step a = some e') (n : Nat) : CallStep e a e' n := by
  rcases step_cases stepped with ⟨c, rfl, rfl⟩ | ⟨_, stepped⟩
  · exact .forgotten rfl rfl
  cases a with
  | restart c => exact stepped.elim
  | begin m operation =>
    obtain ⟨_, rfl⟩ := stepped
    by_cases own : n = m
    · subst own
      exact .began rfl rfl
    · exact .kept (by rintro ⟨⟩) rfl (Function.update_of_ne own ..)
  | call m c =>
    obtain ⟨point, request, served, reply, point', found, asked, done, next, rfl⟩ :=
      runCall_eq_some stepped
    by_cases own : n = m
    · subst own
      exact .moved rfl found asked done (CallPoint.next_move next) rfl
    · refine .kept (fun same => own (by cases same; rfl)) rfl ?_
      rw [show (served.settleCall m reply point point').calls n = served.calls n from
        Function.update_of_ne own .., (serve_served done).calls]
  | task id c =>
    obtain ⟨t, request, served, reply, t', found, asked, done, next, rfl⟩ :=
      runTask_eq_some stepped
    exact .kept (by rintro ⟨⟩) rfl (congrFun (serve_served done).calls n)
  | writer conditions =>
    obtain ⟨_, _, _, _, _, _, rfl⟩ := runWriter_eq_some stepped
    exact .kept (by rintro ⟨⟩) rfl rfl
  | control id written =>
    obtain ⟨_, _, _, rfl⟩ := writeControl_eq_some stepped
    exact .kept (by rintro ⟨⟩) rfl rfl
  | abort id =>
    obtain ⟨t, request, found, asked, _, rfl⟩ := abortTask_eq_some stepped
    exact .kept (by rintro ⟨⟩) rfl rfl
  | orphan i c =>
    obtain ⟨call, served, reply, found, done, rfl⟩ := runOrphan_eq_some stepped
    have asked : e.serve (.call 0) c (.store call) = some (served, reply) := done
    exact .kept (by rintro ⟨⟩) rfl (congrFun (serve_served asked).calls n)

/-! ## Control channels -/

/-- What a step does to the control channel of `x`. -/
inductive ControlStep (e : Engine) (a : Action) (e' : Engine) (x : ExecutionId) : Prop
  | sent {command : SupervisorCommand} : e.asking a = some (.send x command) →
      (e.controls x).closed = false →
      e'.controls x = { e.controls x with
        queue := (e.controls x).queue ++ [command], sent := (e.controls x).sent ++ [command] } →
      ControlStep e a e' x
  | written {command : SupervisorCommand} {rest : List SupervisorCommand} :
      a = .control x true → (e.controls x).queue = command :: rest →
      e'.controls x = { e.controls x with
        queue := rest, delivered := (e.controls x).delivered ++ [command] } →
      ControlStep e a e' x
  | broken {command : SupervisorCommand} {rest : List SupervisorCommand} :
      a = .control x false → (e.controls x).queue = command :: rest →
      e'.controls x = { e.controls x with queue := [], closed := true } → ControlStep e a e' x
  | forgotten {c : Choice} : a = .restart c → e' = e.restart c → ControlStep e a e' x
  | kept : a.isRestart = false → a.delivers? ≠ some x →
      (∀ command, e.asking a = some (.send x command) → (e.controls x).closed = true) →
      e'.controls x = e.controls x → ControlStep e a e' x

/-- Serving a request on a control channel. -/
theorem serve_control {f : FiberId} {c : Choice} {request : Request} {served : Engine}
    {reply : Reply} (done : e.serve f c request = some (served, reply))
    (asked : e.asking a = some request) (same : e'.controls = served.controls)
    (notRestart : a.isRestart = false) (notControl : a.delivers? ≠ some x) :
    ControlStep e a e' x := by
  by_cases about : request.sendsTo = some x
  · cases request with
    | send id command =>
      cases about
      simp only [serve, serveSend] at done
      split at done
      · rename_i closed
        cases done
        exact .kept notRestart notControl (fun _ _ => closed) (congrFun same x)
      · rename_i opened
        split at done
        · cases done
          refine .sent asked (Bool.eq_false_iff.mpr opened) ?_
          rw [same]
          exact Function.update_self ..
        · cases done
    | _ => cases about
  · refine .kept notRestart notControl (fun command sending => ?_) ?_
    · rw [asked, Option.some.injEq] at sending
      subst sending
      exact absurd rfl about
    · rw [same]
      exact (serve_served done).controls x about

theorem step_control (stepped : e.step a = some e') (x : ExecutionId) : ControlStep e a e' x := by
  rcases step_cases stepped with ⟨c, rfl, rfl⟩ | ⟨_, stepped⟩
  · exact .forgotten rfl rfl
  cases a with
  | restart c => exact stepped.elim
  | begin m operation =>
    obtain ⟨_, rfl⟩ := stepped
    exact .kept rfl (by rintro ⟨⟩) (by rintro _ ⟨⟩) rfl
  | call m c =>
    obtain ⟨point, request, served, reply, point', found, asked, done, next, rfl⟩ :=
      runCall_eq_some stepped
    exact serve_control done ((asking_call found).trans asked) rfl rfl (by rintro ⟨⟩)
  | task id c =>
    obtain ⟨t, request, served, reply, t', found, asked, done, next, rfl⟩ :=
      runTask_eq_some stepped
    exact serve_control done ((asking_task found).trans asked) rfl rfl (by rintro ⟨⟩)
  | writer conditions =>
    obtain ⟨_, _, _, _, _, _, rfl⟩ := runWriter_eq_some stepped
    exact .kept rfl (by rintro ⟨⟩) (by rintro _ ⟨⟩) rfl
  | control id written =>
    obtain ⟨command, rest, queued, rfl⟩ := writeControl_eq_some stepped
    by_cases own : x = id
    · subst own
      cases written with
      | true => exact .written rfl queued (Function.update_self ..)
      | false => exact .broken rfl queued (Function.update_self ..)
    · exact .kept rfl (fun same => own (by cases same; rfl)) (by rintro _ ⟨⟩)
        (Function.update_of_ne own ..)
  | abort id =>
    obtain ⟨t, request, found, asked, _, rfl⟩ := abortTask_eq_some stepped
    exact .kept rfl (by rintro ⟨⟩) (by rintro _ ⟨⟩) rfl
  | orphan i c =>
    obtain ⟨call, served, reply, found, done, rfl⟩ := runOrphan_eq_some stepped
    have asked : e.serve (.call 0) c (.store call) = some (served, reply) := done
    exact .kept rfl (by rintro ⟨⟩) (by rintro _ ⟨⟩) ((serve_served asked).controls x (by rintro ⟨⟩))

/-- A task sends the Spawn at one point; whatever else is sent is a Cancel. -/
theorem asking_send {command : SupervisorCommand}
    (asked : e.asking a = some (.send x command)) :
    (∃ c t, a = .task x c ∧ e.tasks x = some t ∧ t.point = .sendSpawn ∧
        command.isSpawn = true) ∨ command = .cancel := by
  cases a with
  | task id c =>
    obtain ⟨t, found, asked⟩ := Option.bind_eq_some_iff.mp asked
    cases point : t.point <;> simp only [Task.request?, point] at asked <;> cases asked
    case task.sendSpawn.refl => exact .inl ⟨c, t, rfl, found, point, rfl⟩
    all_goals exact .inr rfl
  | call n c =>
    obtain ⟨point, found, asked⟩ := Option.bind_eq_some_iff.mp asked
    cases point with
    | returned result => cases asked
    | _ =>
      cases asked
      try exact .inr rfl
  | _ => cases asked

/-! ## The capture queue and its writer -/

/-- What a step does to the capture queue, to its writer and to the answers. -/
inductive CaptureStep (e : Engine) (a : Action) (e' : Engine) : Prop
  | queued {message : CaptureMessage} : e.asking a = some (.capture message) →
      e'.queue = e.queue ++ [message] → e'.writer = e.writer → e'.answers = e.answers →
      CaptureStep e a e'
  | received {conditions : Conditions} {writer : Writer} {queue : List CaptureMessage} :
      a = .writer conditions → e.writer.receive e.queue = some (writer, queue) →
      e' = { e with writer, queue } → CaptureStep e a e'
  | wrote {conditions : Conditions} {cause : FlushCause} {db : Database}
      {broadcast : List ExecutionEvent} {events : List ExecutionEvent} :
      a = .writer conditions → e.writer.point = .flush cause → e.writer.records ≠ [] →
      Store.request (Database.appendCaptureBatch e.writer.records) conditions e.db =
        (.ok events, db) →
      e' = { e with
        db, broadcast
        writer := { e.writer with records := [], point := Writer.afterFlush cause } } →
      CaptureStep e a e'
  | failed {conditions : Conditions} {cause : FlushCause} {db : Database} {error : Error} :
      a = .writer conditions → e.writer.point = .flush cause → e.writer.records ≠ [] →
      Store.request (Database.appendCaptureBatch e.writer.records) conditions e.db =
        (.error error, db) →
      e' = { e with
        db, fatal := some error.toString
        writer := { e.writer with records := [], pendingError := some error.toString,
                                  point := Writer.afterFlush cause } } →
      CaptureStep e a e'
  | empty {conditions : Conditions} {cause : FlushCause} :
      a = .writer conditions → e.writer.point = .flush cause → e.writer.records = [] →
      e' = { e with writer := { e.writer with point := Writer.afterFlush cause } } →
      CaptureStep e a e'
  | answered {conditions : Conditions} {owner : ExecutionId} :
      a = .writer conditions → e.writer.point = .answer owner →
      e' = { e with
        writer := e.writer.takeError.1
        answers := Function.update e.answers owner (some e.writer.takeError.2) } →
      CaptureStep e a e'
  | forgotten {c : Choice} : a = .restart c → e' = e.restart c → CaptureStep e a e'
  | kept : a.isRestart = false → a.isWriter = false → e'.queue = e.queue →
      e'.writer = e.writer → e'.answers = e.answers → CaptureStep e a e'

theorem serve_captureStep {f : FiberId} {c : Choice} {request : Request} {served : Engine}
    {reply : Reply} (done : e.serve f c request = some (served, reply))
    (asked : e.asking a = some request) (queue : e'.queue = served.queue)
    (writer : e'.writer = served.writer) (answers : e'.answers = served.answers)
    (notRestart : a.isRestart = false) (notWriter : a.isWriter = false) :
    CaptureStep e a e' := by
  have kept := serve_served done
  cases request with
  | capture message =>
    refine .queued asked ?_ (writer.trans kept.writer) (answers.trans kept.answers)
    simp only [serve] at done
    split at done
    · cases done
      exact queue
    · cases done
  | _ =>
    exact .kept notRestart notWriter (queue.trans (kept.queue (by rintro _ ⟨⟩)))
      (writer.trans kept.writer)
      (answers.trans kept.answers)

theorem runWriter_captureStep {conditions : Conditions}
    (stepped : e.runWriter conditions = some e') : CaptureStep e (.writer conditions) e' := by
  unfold runWriter at stepped
  cases point : e.writer.point with
  | flush cause =>
    simp only [point, Writer.flush] at stepped
    by_cases none : e.writer.records = []
    · rw [if_pos none] at stepped
      cases stepped
      exact .empty rfl point none rfl
    · rw [if_neg none] at stepped
      cases asked : Store.request (Database.appendCaptureBatch e.writer.records) conditions
          e.db with
      | mk result db =>
        rw [asked] at stepped
        cases result with
        | ok events =>
          cases stepped
          exact .wrote rfl point none asked rfl
        | error error =>
          cases stepped
          exact .failed rfl point none asked rfl
  | answer owner =>
    simp only [point] at stepped
    cases stepped
    exact .answered rfl point rfl
  | recv =>
    simp only [point] at stepped
    obtain ⟨⟨writer, queue⟩, taken, rfl⟩ := Option.map_eq_some_iff.mp stepped
    exact .received rfl taken rfl
  | poll =>
    simp only [point] at stepped
    obtain ⟨⟨writer, queue⟩, taken, rfl⟩ := Option.map_eq_some_iff.mp stepped
    exact .received rfl taken rfl

theorem step_capture (stepped : e.step a = some e') : CaptureStep e a e' := by
  rcases step_cases stepped with ⟨c, rfl, rfl⟩ | ⟨_, stepped⟩
  · exact .forgotten rfl rfl
  cases a with
  | restart c => exact stepped.elim
  | begin m operation =>
    obtain ⟨_, rfl⟩ := stepped
    exact .kept rfl rfl rfl rfl rfl
  | call m c =>
    obtain ⟨point, request, served, reply, point', found, asked, done, next, rfl⟩ :=
      runCall_eq_some stepped
    exact serve_captureStep done ((asking_call found).trans asked) rfl rfl rfl rfl rfl
  | task id c =>
    obtain ⟨t, request, served, reply, t', found, asked, done, next, rfl⟩ :=
      runTask_eq_some stepped
    exact serve_captureStep done ((asking_task found).trans asked) rfl rfl rfl rfl rfl
  | writer conditions => exact runWriter_captureStep stepped
  | control id written =>
    obtain ⟨_, _, _, rfl⟩ := writeControl_eq_some stepped
    exact .kept rfl rfl rfl rfl rfl
  | abort id =>
    obtain ⟨_, _, _, _, _, rfl⟩ := abortTask_eq_some stepped
    exact .kept rfl rfl rfl rfl rfl
  | orphan i c =>
    obtain ⟨call, served, reply, found, done, rfl⟩ := runOrphan_eq_some stepped
    have asked : e.serve (.call 0) c (.store call) = some (served, reply) := done
    have kept := serve_served asked
    exact .kept rfl rfl (kept.queue (by rintro _ ⟨⟩)) kept.writer kept.answers

/-! ## The journal -/

/-- The changes that a step may make to the journal. -/
inductive Permits (e : Engine) (a : Action) : Change → Prop
  | asked {call : StoreCall} {change : Change} :
      e.calling a = some call → call.Permits e.db a.choice change → Permits e a change
  | captured {conditions : Conditions} {cause : FlushCause} {record : CaptureRecord} :
      a = .writer conditions → e.writer.point = .flush cause → record ∈ e.writer.records →
      Permits e a (.capture record)
  | reconciled {c : Choice} {id : ExecutionId} : a = .restart c → Live (e.db.records id) →
      Permits e a (.finish id (c.clock id) .interrupted
        (.interrupted "daemon restarted before the execution completed"))

/-- Every step is an effect of changes that it may make, and new records get new ids. -/
theorem DbStep.effect (linked : e.db.Linked) (step : DbStep e a e') :
    ∃ changes, Effect e.db changes e'.db ∧ (∀ change ∈ changes, e.Permits a change) ∧
      e.issued ⊆ e'.issued ∧
      ∀ id, (∃ change ∈ changes, change.Creates id) → id ∉ e.issued ∧ id ∈ e'.issued := by
  cases step with
  | @asked call result calling asked outcome grows fresh =>
    obtain ⟨changes, effect, permitted⟩ := outcome.effect linked
    refine ⟨changes, effect, fun change member => .asked calling (permitted change member),
      grows, ?_⟩
    rintro id ⟨change, member, creates⟩
    have permit := permitted change member
    cases call with
    | createExecution request cwd =>
      rw [show change = _ from permit] at creates
      cases creates
      exact fresh request cwd rfl
    | getWorkspace _ => exact permit.elim
    | getExecution _ => exact permit.elim
    | markRunning _ _ _ =>
      rw [show change = _ from permit] at creates
      exact creates.elim
    | finish _ _ _ =>
      rw [show change = _ from permit] at creates
      exact creates.elim
    | cancelQueued =>
      obtain ⟨_, _, rfl⟩ := permit
      exact creates.elim
    | prune _ _ =>
      obtain ⟨_, rfl⟩ := permit
      exact creates.elim
  | @wrote conditions cause result same point asked batched issued =>
    cases result with
    | ok events =>
      refine ⟨_, batched.1, ?_, fun _ member => issued ▸ member, ?_⟩
      · intro change member
        obtain ⟨record, queued, rfl⟩ := List.mem_map.mp member
        exact .captured same point queued
      · rintro id ⟨change, member, creates⟩
        obtain ⟨record, queued, rfl⟩ := List.mem_map.mp member
        exact creates.elim
    | error error =>
      have unchanged : e'.db = e.db := batched.1
      refine ⟨[], ?_, fun _ member => (by cases member), fun _ member => issued ▸ member, ?_⟩
      · rw [unchanged]
        exact .refl linked
      · rintro id ⟨_, member, _⟩
        cases member
  | reconciled same swept issued =>
    refine ⟨_, swept.effect, ?_, fun _ member => issued ▸ member, ?_⟩
    · intro change member
      obtain ⟨id, selected, rfl⟩ := List.mem_map.mp member
      obtain ⟨record, found, live⟩ := swept.selected id selected
      exact .reconciled same ⟨record, found, by simpa using live⟩
    · rintro id ⟨change, member, creates⟩
      obtain ⟨_, _, rfl⟩ := List.mem_map.mp member
      exact creates.elim
  | quiet unchanged issued =>
    refine ⟨[], ?_, fun _ member => (by cases member), fun _ member => issued ▸ member, ?_⟩
    · rw [unchanged]
      exact .refl linked
    · rintro id ⟨_, member, _⟩
      cases member

theorem step_effect (linked : e.db.Linked) (stepped : e.step a = some e') :
    ∃ changes, Effect e.db changes e'.db ∧ (∀ change ∈ changes, e.Permits a change) ∧
      e.issued ⊆ e'.issued ∧
      ∀ id, (∃ change ∈ changes, change.Creates id) → id ∉ e.issued ∧ id ∈ e'.issued :=
  (step_dbStep linked stepped).effect linked

/-- Who carries out a request to the store. -/
theorem calling_eq_some {call : StoreCall} (calling : e.calling a = some call) :
    (∃ id c t, a = .task id c ∧ e.tasks id = some t ∧
        t.request? e.settings id = some (.store call)) ∨
      (∃ n c point, a = .call n c ∧ e.calls n = some point ∧
        point.request? = some (.store call)) ∨
      ∃ i c, a = .orphan i c ∧ e.orphans[i]? = some call := by
  cases a with
  | task id c =>
    obtain ⟨t, found, calling⟩ := Option.bind_eq_some_iff.mp calling
    obtain ⟨request, asked, store⟩ := Option.bind_eq_some_iff.mp calling
    cases request with
    | store own =>
      cases store
      exact .inl ⟨id, c, t, rfl, found, asked⟩
    | _ => cases store
  | call n c =>
    obtain ⟨point, found, calling⟩ := Option.bind_eq_some_iff.mp calling
    obtain ⟨request, asked, store⟩ := Option.bind_eq_some_iff.mp calling
    cases request with
    | store own =>
      cases store
      exact .inr (.inl ⟨n, c, point, rfl, found, asked⟩)
    | _ => cases store
  | orphan i c => exact .inr (.inr ⟨i, c, rfl, calling⟩)
  | _ => cases calling

/-- The ways in which a step may finish `x`. -/
inductive Finishing (e : Engine) (a : Action) (x : ExecutionId) : Prop
  | asked {state : ExecutionState} {outcome : ExecutionOutcome} :
      e.calling a = some (.finish x state outcome) → Finishing e a x
  | swept : e.calling a = some .cancelQueued → Queued (e.db.records x) → Finishing e a x
  | reconciled {c : Choice} : a = .restart c → Live (e.db.records x) → Finishing e a x

namespace Permits

variable {change : Change}

theorem finishing (permits : e.Permits a change) (finishes : change.Finishes x) :
    e.Finishing a x := by
  cases permits with
  | @asked call _ calling permit =>
    cases call with
    | finish id state outcome =>
      rw [show change = _ from permit] at finishes
      cases finishes
      exact .asked calling
    | cancelQueued =>
      obtain ⟨id, queued, rfl⟩ := permit
      cases finishes
      exact .swept calling queued
    | createExecution request cwd =>
      rw [show change = _ from permit] at finishes
      exact finishes.elim
    | markRunning _ _ _ =>
      rw [show change = _ from permit] at finishes
      exact finishes.elim
    | prune _ _ =>
      obtain ⟨_, rfl⟩ := permit
      exact finishes.elim
    | getWorkspace _ => exact permit.elim
    | getExecution _ => exact permit.elim
  | captured => exact finishes.elim
  | reconciled same live =>
    cases finishes
    exact .reconciled same live

theorem starting (permits : e.Permits a change) (starts : change.Starts x) :
    ∃ pid pgid, e.calling a = some (.markRunning x pid pgid) := by
  cases permits with
  | @asked call _ calling permit =>
    cases call with
    | markRunning id pid pgid =>
      rw [show change = _ from permit] at starts
      cases starts
      exact ⟨pid, pgid, calling⟩
    | finish _ _ _ =>
      rw [show change = _ from permit] at starts
      exact starts.elim
    | cancelQueued =>
      obtain ⟨_, _, rfl⟩ := permit
      exact starts.elim
    | createExecution request cwd =>
      rw [show change = _ from permit] at starts
      exact starts.elim
    | prune _ _ =>
      obtain ⟨_, rfl⟩ := permit
      exact starts.elim
    | getWorkspace _ => exact permit.elim
    | getExecution _ => exact permit.elim
  | captured => exact starts.elim
  | reconciled => exact starts.elim

theorem capturing (permits : e.Permits a change) (captures : change.Captures x) :
    ∃ conditions cause record, a = .writer conditions ∧ e.writer.point = .flush cause ∧
      record ∈ e.writer.records ∧ record.executionId = x := by
  cases permits with
  | @asked call _ calling permit =>
    cases call with
    | markRunning id pid pgid =>
      rw [show change = _ from permit] at captures
      exact captures.elim
    | finish _ _ _ =>
      rw [show change = _ from permit] at captures
      exact captures.elim
    | cancelQueued =>
      obtain ⟨_, _, rfl⟩ := permit
      exact captures.elim
    | createExecution request cwd =>
      rw [show change = _ from permit] at captures
      exact captures.elim
    | prune _ _ =>
      obtain ⟨_, rfl⟩ := permit
      exact captures.elim
    | getWorkspace _ => exact permit.elim
    | getExecution _ => exact permit.elim
  | captured same point member => exact ⟨_, _, _, same, point, member, captures⟩
  | reconciled => exact captures.elim

end Permits

end Engine

end Loomterm
