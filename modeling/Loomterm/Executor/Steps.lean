import Loomterm.Executor.Engine

/-!
# What a step of the engine can do

Inversion lemmas: what a request to the store does to the journal, which requests touch
which part of the shared state, and what every step leaves alone.
-/

namespace Loomterm

open Database

/-! ## Requests to the store -/

/-- What became of a request to the store. -/
def StoreCall.Outcome (db : Database) (c : Choice) :
    StoreCall → Except Error StoreReply → Database → Prop
  | .getWorkspace _, result, db' =>
      db' = db ∧ ∃ r : Except Error Workspace, result = r.map .workspace
  | .createExecution request cwd, result, db' =>
      ∃ r, result = r.map .execution ∧ Created db c.now c.id request cwd r db'
  | .getExecution id, result, db' => ∃ r, result = r.map .execution ∧ Lookup db c.now id r db'
  | .markRunning id pid pgid, result, db' => ∃ r, result = r.map .event ∧
      Transition db id (· ≠ .queued) c.now (.started pid pgid) (.start id c.now pid pgid) r db'
  | .finish id state outcome, result, db' => ∃ r, result = r.map .event ∧
      Transition db id (·.isTerminal = true) c.now (.finished outcome)
        (.finish id c.now state outcome) r db'
  | .cancelQueued, result, db' => ∃ ids,
      Swept db (· = .queued) c.clock .cancelled (.cancelled none) ids db' ∧
      match result with
      | .ok reply => (∃ events, reply = .events events ∧
            db'.events.rows = db.events.rows ++ events) ∧
          ∀ id record, db.records id = some record → record.row.state = .queued → id ∈ ids
      | .error e => e.isStorage = true
  | .prune _ _, result, db' => (∃ r : Except Error Nat, result = r.map .count) ∧
      match result with
      | .ok _ => Removed db db'
      | .error e => e.isStorage = true ∧ db' = db

/-- The program of a request, followed by the naming of its reply. -/
theorem post_named {α : Type} {program : Store α} {db : Database} {name : α → StoreReply}
    {Q : Except Error α → Database → Prop} (promise : Sql.Post StorageFault program db Q) :
    Sql.Post StorageFault (program >>= fun value => pure (name value)) db fun result db' =>
      ∃ r, result = r.map name ∧ Q r db' := by
  refine Sql.post_bind (promise.mono fun r db' held => ?_)
  cases r with
  | ok value => exact Sql.post_pure ⟨.ok value, rfl, held⟩
  | error e => exact ⟨.error e, rfl, held⟩

theorem StoreCall.post_program {db : Database} (linked : db.Linked) (c : Choice)
    (call : StoreCall) : Sql.Post StorageFault (call.program c) db (call.Outcome db c) := by
  cases call with
  | getWorkspace identifier =>
    have quiet : Sql.Post StorageFault (Database.getWorkspace identifier) db fun _ db' => db' = db :=
      Sql.post_select (fun _ _ => rfl) rfl
    refine (post_named quiet).mono fun result db' named => ?_
    obtain ⟨r, same, rfl⟩ := named
    exact ⟨rfl, r, same⟩
  | createExecution request cwd => exact post_named (post_createExecution linked)
  | getExecution id => exact post_named post_getExecution
  | markRunning id pid pgid => exact post_named (post_markRunning linked)
  | finish id state outcome => exact post_named (post_finish linked)
  | cancelQueued =>
    refine (post_named (post_cancelQueued linked)).mono fun result db' named => ?_
    obtain ⟨r, rfl, ids, swept, ended⟩ := named
    refine ⟨ids, swept, ?_⟩
    cases r with
    | ok events => exact ⟨⟨events, rfl, ended.2⟩, ended.1⟩
    | error e => exact ended
  | prune retentionDays retentionBytes =>
    refine (post_named (post_prune linked)).mono fun result db' named => ?_
    obtain ⟨r, rfl, removed⟩ := named
    refine ⟨⟨r, rfl⟩, ?_⟩
    cases r with
    | ok count => exact removed
    | error e => exact removed

/-- A request keeps to its outcome, also when the store actor is gone. -/
theorem StoreCall.outcome {db : Database} (linked : db.Linked) (c : Choice) (call : StoreCall) :
    call.Outcome db c (Store.request (call.program c) c.conditions db).1
      (Store.request (call.program c) c.conditions db).2 := by
  refine request_of_post (call.post_program linked c) (fun message => ?_) c.conditions
  cases call with
  | getWorkspace _ => exact ⟨rfl, .error _, rfl⟩
  | createExecution _ _ => exact ⟨.error _, rfl, .inl rfl⟩
  | getExecution _ => exact ⟨.error _, rfl, rfl, .inl rfl⟩
  | markRunning _ _ _ => exact ⟨.error _, rfl, rfl, .inl rfl⟩
  | finish _ _ _ => exact ⟨.error _, rfl, rfl, .inl rfl⟩
  | cancelQueued => exact ⟨[], ⟨List.nodup_nil, by simp, .refl linked⟩, rfl⟩
  | prune _ _ => exact ⟨⟨.error _, rfl⟩, rfl, rfl⟩

/-- The changes that a request may make. -/
def StoreCall.Permits (db : Database) (c : Choice) : StoreCall → Change → Prop
  | .createExecution request cwd, change => change = .create c.now c.id request cwd
  | .markRunning id pid pgid, change => change = .start id c.now pid pgid
  | .finish id state outcome, change => change = .finish id c.now state outcome
  | .cancelQueued, change => ∃ id, Queued (db.records id) ∧
      change = .finish id (c.clock id) .cancelled (.cancelled none)
  | .prune _ _, change => ∃ id, change = .remove id
  | _, _ => False

/-- Every request is an effect of changes that it permits. -/
theorem StoreCall.Outcome.effect {db db' : Database} {c : Choice} {call : StoreCall}
    {result : Except Error StoreReply} (linked : db.Linked)
    (outcome : call.Outcome db c result db') :
    ∃ changes, Effect db changes db' ∧ ∀ change ∈ changes, call.Permits db c change := by
  have idle : ∃ changes, Effect db changes db ∧ ∀ change ∈ changes, call.Permits db c change :=
    ⟨[], .refl linked, by simp⟩
  cases call with
  | getWorkspace _ =>
    obtain ⟨rfl, _⟩ := outcome
    exact idle
  | createExecution request cwd =>
    obtain ⟨r, _, created⟩ := outcome
    cases r with
    | ok execution => exact ⟨_, created.1, by simp [StoreCall.Permits]⟩
    | error e =>
      rcases created with rfl | ⟨_, effect⟩
      · exact idle
      · exact ⟨_, effect, by simp [StoreCall.Permits]⟩
  | getExecution id =>
    obtain ⟨r, _, read⟩ := outcome
    cases r with
    | ok execution =>
      obtain ⟨rfl, _⟩ := read
      exact idle
    | error e =>
      obtain ⟨rfl, _⟩ := read
      exact idle
  | markRunning id pid pgid =>
    obtain ⟨r, _, moved⟩ := outcome
    cases r with
    | ok event =>
      obtain ⟨_, _, _, _, _, effect⟩ := moved
      exact ⟨_, effect, by simp [StoreCall.Permits]⟩
    | error e =>
      obtain ⟨rfl, _⟩ := moved
      exact idle
  | finish id state outcome' =>
    obtain ⟨r, _, moved⟩ := outcome
    cases r with
    | ok event =>
      obtain ⟨_, _, _, _, _, effect⟩ := moved
      exact ⟨_, effect, by simp [StoreCall.Permits]⟩
    | error e =>
      obtain ⟨rfl, _⟩ := moved
      exact idle
  | cancelQueued =>
    obtain ⟨ids, swept, _⟩ := outcome
    refine ⟨_, swept.effect, fun change member => ?_⟩
    obtain ⟨id, selected, rfl⟩ := List.mem_map.mp member
    obtain ⟨record, found, queued⟩ := swept.selected id selected
    exact ⟨id, ⟨record, found, of_decide_eq_true queued⟩, rfl⟩
  | prune _ _ =>
    obtain ⟨_, removed⟩ := outcome
    cases result with
    | ok reply =>
      obtain ⟨ids, effect⟩ := removed
      refine ⟨_, effect, fun change member => ?_⟩
      obtain ⟨id, _, rfl⟩ := List.mem_map.mp member
      exact ⟨id, rfl⟩
    | error e =>
      obtain ⟨_, rfl⟩ := removed
      exact idle

/-! ## Serving a request -/

/-- The execution whose task a request makes or releases. -/
def Request.forTask : Request → Option ExecutionId
  | .spawnTask id _ _ => some id
  | .insertTask id => some id
  | _ => none

/-- The execution on whose control channel a request sends. -/
def Request.sendsTo : Request → Option ExecutionId
  | .send id _ => some id
  | _ => none

/-- Whether a request changes the map of processes. -/
def Request.changesProcesses : Request → Bool
  | .insertProcess _ | .removeProcess _ | .clearProcesses => true
  | _ => false

/-- The request to the store that a request is. -/
def Request.call? : Request → Option StoreCall
  | .store call => some call
  | _ => none

/-- What a step leaves open. -/
def Action.choice : Action → Choice
  | .call _ c | .task _ c | .orphan _ c | .restart c => c
  | .begin _ _ | .control _ _ | .abort _ => {}
  | .writer conditions => { conditions }

/-- Whether a request goes to the store. -/
def Request.isStore : Request → Bool
  | .store _ => true
  | _ => false

namespace Engine

variable {e e' : Engine} {f : FiberId} {c : Choice} {request : Request} {reply : Reply}

/-- A request to the store changes the database, and nothing that tasks and calls share. -/
theorem serveStore_eq_some {call : StoreCall} (linked : e.db.Linked)
    (served : e.serveStore call c = some (e', reply)) :
    ∃ result db broadcast issued, e' = { e with db, broadcast, issued } ∧
      reply = .stored result ∧ Store.request (call.program c) c.conditions e.db = (result, db) ∧
      call.Outcome e.db c result db ∧ e.issued ⊆ issued ∧
      ∀ request cwd, call = .createExecution request cwd → c.id ∉ e.issued ∧ c.id ∈ issued := by
  have outcome := call.outcome linked c
  unfold serveStore at served
  cases asked : Store.request (call.program c) c.conditions e.db with
  | mk result db =>
    rw [asked] at outcome served
    cases call with
    | createExecution request cwd =>
      simp only at served
      split at served
      · cases served
      · rename_i fresh
        cases served
        exact ⟨_, _, _, _, rfl, rfl, rfl, outcome, List.subset_cons_self _ _,
          fun _ _ _ => ⟨fresh, List.mem_cons_self⟩⟩
    | _ =>
      cases served
      exact ⟨_, _, _, _, rfl, rfl, rfl, outcome, fun _ member => member,
        fun _ _ same => by cases same⟩

/-- What serving a request leaves alone. -/
structure Served (e : Engine) (request : Request) (e' : Engine) : Prop where
  settings : e'.settings = e.settings
  calls : e'.calls = e.calls
  writer : e'.writer = e.writer
  answers : e'.answers = e.answers
  orphans : e'.orphans = e.orphans
  cancelledQueued : e'.cancelledQueued = e.cancelledQueued
  drained : e'.drained = e.drained
  down : e'.down = e.down
  tasks : ∀ x, request.forTask ≠ some x → e'.tasks x = e.tasks x
  controls : ∀ x, request.sendsTo ≠ some x → e'.controls x = e.controls x
  processes : request.changesProcesses = false → e'.processes = e.processes
  store : request.isStore = false → e'.db = e.db ∧ e'.issued = e.issued
  transitions : request ≠ .lockTransitions → e'.transitions = e.transitions
  holder : request ≠ .lockLifecycle → e'.lifecycleHolder = e.lifecycleHolder
  lifecycle : request ≠ .beginDrain → request ≠ .stop → e'.lifecycle = e.lifecycle
  queue : (∀ message, request ≠ .capture message) → e'.queue = e.queue
  doomed : request ≠ .abortTasks → e'.doomed = e.doomed

theorem Served.refl : Served e request e where
  settings := rfl
  calls := rfl
  writer := rfl
  answers := rfl
  orphans := rfl
  cancelledQueued := rfl
  drained := rfl
  down := rfl
  tasks _ _ := rfl
  controls _ _ := rfl
  processes _ := rfl
  store _ := ⟨rfl, rfl⟩
  transitions _ := rfl
  holder _ := rfl
  lifecycle _ _ := rfl
  queue _ := rfl
  doomed _ := rfl

/-- Each request changes the parts of the state that it is about, and no others. -/
theorem serve_served (served : e.serve f c request = some (e', reply)) : Served e request e' := by
  cases request with
  | store call =>
    simp only [serve, serveStore] at served
    split at served
    · split at served
      · cases served
      · cases served
        exact ⟨rfl, rfl, rfl, rfl, rfl, rfl, rfl, rfl, fun _ _ => rfl, fun _ _ => rfl,
          fun _ => rfl, (by rintro ⟨⟩), fun _ => rfl, fun _ => rfl, fun _ _ => rfl, fun _ => rfl,
          fun _ => rfl⟩
    · cases served
      exact ⟨rfl, rfl, rfl, rfl, rfl, rfl, rfl, rfl, fun _ _ => rfl, fun _ _ => rfl,
        fun _ => rfl, (by rintro ⟨⟩), fun _ => rfl, fun _ => rfl, fun _ _ => rfl, fun _ => rfl,
        fun _ => rfl⟩
  | send id command =>
    simp only [serve, serveSend] at served
    split at served
    · cases served
      exact .refl
    · split at served
      · cases served
        refine ⟨rfl, rfl, rfl, rfl, rfl, rfl, rfl, rfl, fun _ _ => rfl, ?_, fun _ => rfl,
          fun _ => ⟨rfl, rfl⟩, fun _ => rfl, fun _ => rfl, fun _ _ => rfl, fun _ => rfl,
          fun _ => rfl⟩
        intro x other
        exact Function.update_of_ne (fun same => other (congrArg some same.symm)) _ _
      · cases served
  | spawnTask id given cwd =>
    simp only [serve, Option.some.injEq, Prod.mk.injEq] at served
    obtain ⟨rfl, _⟩ := served
    refine ⟨rfl, rfl, rfl, rfl, rfl, rfl, rfl, rfl, ?_, fun _ _ => rfl, fun _ => rfl,
      fun _ => ⟨rfl, rfl⟩, fun _ => rfl, fun _ => rfl, fun _ _ => rfl, fun _ => rfl,
      fun _ => rfl⟩
    intro x other
    exact Function.update_of_ne (fun same => other (congrArg some same.symm)) _ _
  | insertTask id =>
    simp only [serve, Option.some.injEq, Prod.mk.injEq] at served
    obtain ⟨rfl, _⟩ := served
    refine ⟨rfl, rfl, rfl, rfl, rfl, rfl, rfl, rfl, ?_, fun _ _ => rfl, fun _ => rfl,
      fun _ => ⟨rfl, rfl⟩, fun _ => rfl, fun _ => rfl, fun _ _ => rfl, fun _ => rfl,
      fun _ => rfl⟩
    intro x other
    exact Function.update_of_ne (fun same => other (congrArg some same.symm)) _ _
  | flushed id =>
    obtain ⟨_, _, same⟩ := Option.map_eq_some_iff.mp served
    cases same
    exact .refl
  | reportFatal message =>
    cases message with
    | none =>
      cases served
      exact .refl
    | some text =>
      cases served
      exact ⟨rfl, rfl, rfl, rfl, rfl, rfl, rfl, rfl, fun _ _ => rfl, fun _ _ => rfl,
        fun _ => rfl, fun _ => ⟨rfl, rfl⟩, fun _ => rfl, fun _ => rfl, fun _ _ => rfl,
        fun _ => rfl, fun _ => rfl⟩
  | _ =>
    -- the other requests write the field they are about, or nothing
    simp only [serve] at served
    repeat' split at served
    all_goals cases served
    all_goals first
      | exact .refl
      | exact ⟨rfl, rfl, rfl, rfl, rfl, rfl, rfl, rfl, fun _ _ => rfl, fun _ _ => rfl,
          by first | exact fun _ => rfl | rintro ⟨⟩, fun _ => ⟨rfl, rfl⟩,
          by first | exact fun _ => rfl | exact fun other => absurd rfl other,
          by first | exact fun _ => rfl | exact fun other => absurd rfl other,
          by first | exact fun _ _ => rfl | exact fun other _ => absurd rfl other |
            exact fun _ other => absurd rfl other,
          by first | exact fun _ => rfl | exact fun other => absurd rfl (other _),
          by first | exact fun _ => rfl | exact fun other => absurd rfl other⟩

/-! ## Steps -/

variable {x : ExecutionId} {n : Nat}

theorem runTask_eq_some (stepped : e.runTask x c = some e') :
    ∃ t request served reply t', e.tasks x = some t ∧ t.request? e.settings x = some request ∧
      e.serve (.task x) c request = some (served, reply) ∧
      t.next e.settings x c reply = some t' ∧ e' = served.settleTask x t t' := by
  obtain ⟨t, found, stepped⟩ := Option.bind_eq_some_iff.mp stepped
  obtain ⟨request, asked, stepped⟩ := Option.bind_eq_some_iff.mp stepped
  obtain ⟨⟨served, reply⟩, done, stepped⟩ := Option.bind_eq_some_iff.mp stepped
  obtain ⟨t', next, stepped⟩ := Option.bind_eq_some_iff.mp stepped
  exact ⟨t, request, served, reply, t', found, asked, done, next, (Option.some.inj stepped).symm⟩

theorem runCall_eq_some (stepped : e.runCall n c = some e') :
    ∃ point request served reply point', e.calls n = some point ∧
      point.request? = some request ∧ e.serve (.call n) c request = some (served, reply) ∧
      point.next reply = some point' ∧ e' = served.settleCall n reply point point' := by
  obtain ⟨point, found, stepped⟩ := Option.bind_eq_some_iff.mp stepped
  obtain ⟨request, asked, stepped⟩ := Option.bind_eq_some_iff.mp stepped
  obtain ⟨⟨served, reply⟩, done, stepped⟩ := Option.bind_eq_some_iff.mp stepped
  obtain ⟨point', next, stepped⟩ := Option.bind_eq_some_iff.mp stepped
  exact ⟨point, request, served, reply, point', found, asked, done, next,
    (Option.some.inj stepped).symm⟩

theorem abortTask_eq_some (stepped : e.abortTask x = some e') :
    ∃ t request, e.tasks x = some t ∧ t.request? e.settings x = some request ∧ x ∈ e.doomed ∧
      e' = e.dropTask x t request := by
  obtain ⟨t, found, stepped⟩ := Option.bind_eq_some_iff.mp stepped
  obtain ⟨request, asked, stepped⟩ := Option.bind_eq_some_iff.mp stepped
  split at stepped
  · rename_i member
    exact ⟨t, request, found, asked, member, (Option.some.inj stepped).symm⟩
  · cases stepped

/-- The writer touches neither tasks nor calls, and no lock. -/
theorem runWriter_eq_some {conditions : Conditions} (stepped : e.runWriter conditions = some e') :
    ∃ writer db broadcast fatal answers queue,
      e' = { e with writer, db, broadcast, fatal, answers, queue } := by
  unfold runWriter at stepped
  split at stepped
  · simp only at stepped
    split at stepped
    · cases stepped
      exact ⟨_, _, _, _, _, _, rfl⟩
    · cases stepped
      exact ⟨_, _, _, _, _, _, rfl⟩
    · cases stepped
      exact ⟨_, _, _, _, _, _, rfl⟩
  · cases stepped
    exact ⟨_, _, _, _, _, _, rfl⟩
  · obtain ⟨_, _, same⟩ := Option.map_eq_some_iff.mp stepped
    cases same
    exact ⟨_, _, _, _, _, _, rfl⟩
  · obtain ⟨_, _, same⟩ := Option.map_eq_some_iff.mp stepped
    cases same
    exact ⟨_, _, _, _, _, _, rfl⟩

theorem writeControl_eq_some {written : Bool} (stepped : e.writeControl x written = some e') :
    ∃ command rest, (e.controls x).queue = command :: rest ∧ e' = { e with
      controls := Function.update e.controls x (if written then
        { e.controls x with queue := rest, delivered := (e.controls x).delivered ++ [command] }
        else { e.controls x with queue := [], closed := true }) } := by
  unfold writeControl at stepped
  simp only at stepped
  split at stepped
  · cases stepped
  · rename_i command rest queued
    exact ⟨command, rest, queued, (Option.some.inj stepped).symm⟩

theorem runOrphan_eq_some {i : Nat} (stepped : e.runOrphan i c = some e') :
    ∃ call served reply, e.orphans[i]? = some call ∧
      e.serveStore call c = some (served, reply) ∧
      e' = { served with broadcast := e.broadcast, orphans := e.orphans.eraseIdx i } := by
  obtain ⟨call, found, stepped⟩ := Option.bind_eq_some_iff.mp stepped
  obtain ⟨⟨served, reply⟩, done, stepped⟩ := Option.bind_eq_some_iff.mp stepped
  exact ⟨call, served, reply, found, done, (Option.some.inj stepped).symm⟩

/-- The request to the store that a step carries out. -/
def calling (e : Engine) : Action → Option StoreCall
  | .task id _ => do
      let t ← e.tasks id
      let request ← t.request? e.settings id
      request.call?
  | .call n _ => do
      let point ← e.calls n
      let request ← point.request?
      request.call?
  | .orphan i _ => e.orphans[i]?
  | _ => none

/-- What a step does to the database. -/
inductive DbStep (e : Engine) (a : Action) (e' : Engine) : Prop
  | asked {call : StoreCall} {result : Except Error StoreReply} :
      e.calling a = some call →
      Store.request (call.program a.choice) a.choice.conditions e.db = (result, e'.db) →
      call.Outcome e.db a.choice result e'.db → e.issued ⊆ e'.issued →
      (∀ request cwd, call = .createExecution request cwd →
        a.choice.id ∉ e.issued ∧ a.choice.id ∈ e'.issued) → DbStep e a e'
  | wrote {conditions : Conditions} {cause : FlushCause}
      {result : Except Error (List ExecutionEvent)} :
      a = .writer conditions → e.writer.point = .flush cause →
      Store.request (Database.appendCaptureBatch e.writer.records) conditions e.db =
        (result, e'.db) →
      Batched e.db e.writer.records result e'.db → e'.issued = e.issued → DbStep e a e'
  | reconciled {c : Choice} {ids : List ExecutionId} :
      a = .restart c →
      Swept e.db (fun state => !state.isTerminal) c.clock .interrupted
        (.interrupted "daemon restarted before the execution completed") ids e'.db →
      e'.issued = e.issued → DbStep e a e'
  | quiet : e'.db = e.db → e'.issued = e.issued → DbStep e a e'

/-- Serving the request of a step, and what it does to the database. -/
theorem serve_dbStep (linked : e.db.Linked) (a : Action)
    (served : e.serve f a.choice request = some (e', reply))
    (calling : e.calling a = request.call?) : DbStep e a e' := by
  cases request with
  | store call =>
    obtain ⟨result, db, broadcast, issued, rfl, _, asked, outcome, grows, fresh⟩ :=
      serveStore_eq_some linked served
    exact .asked calling asked outcome grows fresh
  | _ =>
    have kept := (serve_served served).store rfl
    exact .quiet kept.1 kept.2

/-- What a step does to the database does not depend on the rest of the state. -/
theorem DbStep.congr {a : Action} {e'' : Engine} (effect : DbStep e a e')
    (db : e''.db = e'.db) (issued : e''.issued = e'.issued) : DbStep e a e'' := by
  cases effect with
  | asked calling asked outcome grows fresh =>
    rw [← db] at asked outcome
    rw [← issued] at grows fresh
    exact .asked calling asked outcome grows fresh
  | wrote same point asked batched kept =>
    rw [← db] at asked batched
    exact .wrote same point asked batched (issued.trans kept)
  | reconciled same swept kept =>
    rw [← db] at swept
    exact .reconciled same swept (issued.trans kept)
  | quiet kept same => exact .quiet (db.trans kept) (issued.trans same)

theorem runWriter_dbStep (linked : e.db.Linked) {conditions : Conditions}
    (stepped : e.runWriter conditions = some e') : DbStep e (.writer conditions) e' := by
  unfold runWriter at stepped
  cases point : e.writer.point with
  | flush cause =>
    simp only [point, Writer.flush] at stepped
    by_cases none : e.writer.records = []
    · rw [if_pos none] at stepped
      cases stepped
      exact .quiet rfl rfl
    · rw [if_neg none] at stepped
      have batched := request_of_post (post_appendCaptureBatch linked e.writer.records)
        (fun message => ⟨rfl, .inl rfl⟩) conditions
      cases asked : Store.request (Database.appendCaptureBatch e.writer.records) conditions
          e.db with
      | mk result db =>
        rw [asked] at batched stepped
        cases result with
        | ok events =>
          cases stepped
          exact .wrote rfl point asked batched rfl
        | error error =>
          cases stepped
          exact .wrote rfl point asked batched rfl
  | answer owner =>
    simp only [point] at stepped
    cases stepped
    exact .quiet rfl rfl
  | recv =>
    simp only [point] at stepped
    obtain ⟨_, _, same⟩ := Option.map_eq_some_iff.mp stepped
    cases same
    exact .quiet rfl rfl
  | poll =>
    simp only [point] at stepped
    obtain ⟨_, _, same⟩ := Option.map_eq_some_iff.mp stepped
    cases same
    exact .quiet rfl rfl

theorem restart_dbStep (linked : e.db.Linked) : DbStep e (.restart c) (e.restart c) := by
  have swept := request_of_post (post_reconcileIncomplete linked c.clock)
    (fun message => ⟨[], ⟨List.nodup_nil, by simp, .refl linked⟩, rfl⟩) c.conditions
  obtain ⟨ids, swept, _⟩ := swept
  exact .reconciled rfl swept rfl

/-- Nothing but a restart happens while the daemon is down. -/
theorem step_cases {a : Action} (stepped : e.step a = some e') :
    (∃ c, a = .restart c ∧ e' = e.restart c) ∨ e.down = false ∧
      match a with
      | .begin n operation => e.calls n = none ∧
          e' = { e with calls := Function.update e.calls n (some (.first operation)) }
      | .call n c => e.runCall n c = some e'
      | .task id c => e.runTask id c = some e'
      | .writer conditions => e.runWriter conditions = some e'
      | .control id written => e.writeControl id written = some e'
      | .abort id => e.abortTask id = some e'
      | .orphan i c => e.runOrphan i c = some e'
      | .restart _ => False := by
  cases a with
  | restart c =>
    cases stepped
    exact .inl ⟨c, rfl, rfl⟩
  | begin n operation =>
    right
    simp only [step] at stepped
    split at stepped
    · cases stepped
    · rename_i up
      split at stepped
      · rename_i free
        cases stepped
        exact ⟨Bool.eq_false_iff.mpr up, free, rfl⟩
      · cases stepped
  | _ =>
    right
    simp only [step] at stepped
    split at stepped
    · cases stepped
    · rename_i up
      exact ⟨Bool.eq_false_iff.mpr up, stepped⟩

theorem step_dbStep (linked : e.db.Linked) {a : Action} (stepped : e.step a = some e') :
    DbStep e a e' := by
  rcases step_cases stepped with ⟨c, rfl, rfl⟩ | ⟨_, stepped⟩
  · exact restart_dbStep linked
  cases a with
  | restart c => exact stepped.elim
  | begin n operation =>
    obtain ⟨_, rfl⟩ := stepped
    exact .quiet rfl rfl
  | call n c =>
    obtain ⟨point, request, served, reply, point', found, asked, done, _, rfl⟩ :=
      runCall_eq_some stepped
    have calling : e.calling (.call n c) = request.call? := by
      simp only [Engine.calling, found, asked, Option.bind_eq_bind, Option.bind_some]
    exact (serve_dbStep linked (.call n c) done calling).congr rfl rfl
  | task id c =>
    obtain ⟨t, request, served, reply, t', found, asked, done, _, rfl⟩ :=
      runTask_eq_some stepped
    have calling : e.calling (.task id c) = request.call? := by
      simp only [Engine.calling, found, asked, Option.bind_eq_bind, Option.bind_some]
    exact (serve_dbStep linked (.task id c) done calling).congr rfl rfl
  | writer conditions => exact runWriter_dbStep linked stepped
  | control id written =>
    obtain ⟨_, _, _, rfl⟩ := writeControl_eq_some stepped
    exact .quiet rfl rfl
  | abort id =>
    obtain ⟨_, _, _, _, _, rfl⟩ := abortTask_eq_some stepped
    exact .quiet rfl rfl
  | orphan i c =>
    obtain ⟨call, served, reply, found, done, rfl⟩ := runOrphan_eq_some stepped
    have asked : e.serve (.call 0) c (.store call) = some (served, reply) := done
    have effect := serve_dbStep linked (.orphan i c) asked found
    exact effect.congr rfl rfl

end Engine

end Loomterm
