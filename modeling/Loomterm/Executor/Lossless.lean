import Loomterm.Executor.Frames
import Loomterm.Executor.Output

/-!
# Lossless capture

What a task captures of its stream is in its log, in the writer's batch, in the queue, or
still in the task, in this order, whatever other executions send in between. When the
outcome is written behind the barrier, all of it is in the log.
-/

namespace Loomterm

open Database

/-- What the events of a log carry. -/
def ExecutionRecord.payloads (record : ExecutionRecord) : List ExecutionEventPayload :=
  record.log.map (·.payload)

theorem payloads_push (record : ExecutionRecord) (now : Int) (payload : ExecutionEventPayload)
    (set : ExecutionRow → ExecutionRow) :
    (record.push now payload set).payloads = record.payloads ++ [payload] := by
  simp [ExecutionRecord.payloads, ExecutionRecord.push]

theorem payloads_unlink (record : ExecutionRecord) (session : SessionId) :
    (record.unlink session).payloads = record.payloads := by
  unfold ExecutionRecord.unlink
  split <;> rfl

/-- The payloads of some records. -/
def payloadsOf (records : List CaptureRecord) : List ExecutionEventPayload :=
  records.map CaptureRecord.payload

@[simp] theorem payloadsOf_append (first second : List CaptureRecord) :
    payloadsOf (first ++ second) = payloadsOf first ++ payloadsOf second :=
  List.map_append

/-- A batch appends to each log the records of its execution, in order. -/
theorem capture_replay {records records' : Records} {captured : List CaptureRecord}
    (ran : journal.run records (captured.map .capture) = some records') {x : ExecutionId}
    {record : ExecutionRecord} (found : records x = some record) :
    ∃ record', records' x = some record' ∧ record'.row.state = record.row.state ∧
      record'.payloads = record.payloads ++ payloadsOf (recordsOf x captured) := by
  induction captured generalizing records record with
  | nil =>
    simp only [List.map_nil, System.run, Option.some.injEq] at ran
    subst ran
    exact ⟨record, found, rfl, by simp [recordsOf, payloadsOf]⟩
  | cons first rest ih =>
    obtain ⟨middle, applied, ran⟩ := Option.bind_eq_some_iff.mp ran
    obtain ⟨before, there, _, same⟩ := Change.rewrite_eq_some.mp applied
    by_cases own : first.executionId = x
    · rw [own, found] at there
      cases there
      have next : middle x = some (record.capture first) := by
        rw [same, own, Function.update_self]
      obtain ⟨record', found', state, payloads⟩ := ih ran next
      refine ⟨record', found', state.trans (RecordStep.state_account first record.row), ?_⟩
      rw [payloads, show (record.capture first).payloads = record.payloads ++ [first.payload] from
        payloads_push ..]
      simp [recordsOf, payloadsOf, own]
    · have next : middle x = some record := by
        rw [same, Function.update_of_ne fun equal => own equal.symm]
        exact found
      obtain ⟨record', found', state, payloads⟩ := ih ran next
      refine ⟨record', found', state, ?_⟩
      rw [payloads]
      simp [recordsOf, own]

namespace TaskMove

variable {settings : Settings} {id : ExecutionId} {c : Choice} {t t' : Task} {reply : Reply}

/-- Writing an outcome ends the stream. -/
theorem finishes_stage (move : TaskMove settings id c t reply t')
    (finishes : t.point.finishes = true) : t'.point.stage = 2 := by
  cases move with
  | @finished ending => exact ending.after_stage.1
  | @finalOver ending => exact ending.after_stage.1
  | launchReported => rfl
  | storeFailed => rfl
  | broke => rfl
  | failedFinished => rfl
  | begun point | acquired point | refused point | checked point | skipped point
  | launched point | notLaunched point | spawned point
  | registering point | registerLive point | registerOver point | registerCancelled point
  | registered point | frame point | starting point | startedLive point | startedOver point
  | startedCancelled point | running point | captured point | flushing point | flushed point
  | finalLive point | removed point | joined point | reaped point | missing point | pruned point
  | reported point | failedLive point | failedOver point | failedUnread point
  | cleaned point | ended point =>
    rw [point] at finishes
    cases finishes

end TaskMove

/-- Whether the task has sent no barrier yet, or waits for the answer, or was dropped. -/
def TaskPoint.waits : TaskPoint → Bool
  | .barrier _ | .flushed _ | .aborted => true
  | _ => false

/-- A frame completes the stream only as a Finished frame, which leads to the barrier. -/
theorem Task.receive_complete {settings : Settings} {id : ExecutionId} {c : Choice} {t : Task}
    {frame : Option (Except Error SupervisorEvent)}
    (complete : Complete (t.receive settings id c frame).received) :
    Complete t.received ∨ ∃ outcome, frame = some (.ok (.finished outcome)) := by
  cases frame with
  | none => exact .inl complete
  | some frame =>
    cases frame with
    | error e => exact .inl complete
    | ok event =>
      cases event with
      | started pid pgid =>
        exact absurd (complete_append_singleton.mp complete) Bool.false_ne_true
      | finished outcome => exact .inr ⟨outcome, rfl⟩
      | output stream data =>
        cases data with
        | error e => exact absurd (complete_append_singleton.mp complete) Bool.false_ne_true
        | ok data =>
          have received : ∀ (own : Task) given, (own.capture given).received = own.received := by
            intro own given
            cases given <;> rfl
          simp only [receive, received] at complete
          exact absurd (complete_append_singleton.mp complete) Bool.false_ne_true

namespace TaskMove

variable {settings : Settings} {id : ExecutionId} {c : Choice} {t t' : Task} {reply : Reply}

/-- Apart from a frame, no move adds to the frames. -/
theorem received (move : TaskMove settings id c t reply t') :
    t'.request = t.request ∧ (t'.received = t.received ∨ t.point = .reading) := by
  cases move with
  | frame point =>
    refine ⟨?_, .inr point⟩
    rename_i given
    cases given with
    | none => rfl
    | some frame =>
      cases frame with
      | error e => rfl
      | ok event =>
        cases event with
        | started pid pgid => rfl
        | finished outcome => rfl
        | output stream data =>
          cases data with
          | error e => rfl
          | ok data =>
            have request : ∀ (own : Task) given, (own.capture given).request = own.request := by
              intro own given
              cases given <;> rfl
            simp only [Task.receive, request]
  | @captured record rest => cases rest <;> exact ⟨rfl, .inl rfl⟩
  | _ => exact ⟨rfl, .inl rfl⟩

/-- A task with a complete stream waits for its barrier, or has had its answer. -/
theorem waits (move : TaskMove settings id c t reply t') (paced : t.Paced settings)
    (complete : Complete t'.received) :
    t'.point.waits = true ∨ t.request? settings id = some (.flushed id) ∨
      (Complete t.received ∧ t.point.waits = false) := by
  cases move with
  | @frame given point =>
    rcases Task.receive_complete complete with before | ⟨outcome, rfl⟩
    · have isOver := paced.complete before
      rw [point] at isOver
      cases isOver
    · exact .inl rfl
  | flushing => exact .inl rfl
  | flushed point => exact .inr (.inl (by simp only [Task.request?, point]))
  | @captured record rest point =>
    have same : (t.capture rest).received = t.received := by cases rest <;> rfl
    rw [same] at complete
    exact .inr (.inr ⟨complete, by rw [point]; rfl⟩)
  | @broke _ _ breakable =>
    cases point : t.point <;> rw [point] at breakable <;> try cases breakable
    · exact .inr (.inr ⟨complete, by rfl⟩)
    · exact .inr (.inl (by simp only [Task.request?, point]))
    · exact .inr (.inr ⟨complete, by rfl⟩)
    · exact .inr (.inr ⟨complete, by rfl⟩)
  | @storeFailed _ fallible =>
    refine .inr (.inr ⟨complete, ?_⟩)
    cases point : t.point <;> rw [point] at fallible <;> first
      | rfl
      | cases fallible
  | begun point | acquired point | refused point | checked point | skipped point
  | launched point | notLaunched point | launchReported point | spawned point
  | registering point | registerLive point | registerOver point | registerCancelled point
  | registered point | starting point | startedLive point | startedOver point
  | startedCancelled point | running point | finalLive point | finalOver point | finished point
  | removed point | joined point | reaped point | missing point | pruned point
  | reported point | failedLive point | failedOver point | failedUnread point
  | failedFinished point | cleaned point | ended point =>
    exact .inr (.inr ⟨complete, by rw [point]; rfl⟩)

/-- A task cancels behind its Started event when it has read a terminal state. -/
theorem startedCancel (move : TaskMove settings id c t reply t')
    (target : t'.point = .startedCancel) :
    ∃ pid pgid current, t.point = .startedCheck pid pgid ∧
      reply = .stored (.ok (.execution current)) ∧ current.state.isTerminal = true := by
  cases move with
  | @startedOver pid pgid current point terminal =>
    exact ⟨pid, pgid, current, point, rfl, terminal⟩
  | @frame given =>
    have after := Task.receive_afterFrame settings id c t given
    rw [target] at after
    cases after
  | @captured record rest =>
    have after := Task.capture_afterFrame t rest
    rw [target] at after
    cases after
  | @finalOver ending => cases ending <;> cases target
  | @finished ending => cases ending <;> cases target
  | _ => cases target

end TaskMove

/-- What the log of a task should hold, and hold after what is on its way. -/
def Task.expected (settings : Settings) (t : Task) : List ExecutionEventPayload :=
  match t.received with
  | .started pid pgid :: rest =>
      if t.startedHandled then
        .started pid pgid :: pieces (t.limit settings) 0 (chunksIn rest)
      else []
  | _ => []

namespace Engine

variable {e e' : Engine} {a : Action} {x : ExecutionId}

/-! ## The condition -/

/-- Whether the batch that a step writes, if any, is written. -/
def appends (e : Engine) : Action → Bool
  | .writer conditions =>
      match e.writer.point with
      | .flush _ =>
          match (Store.request (Database.appendCaptureBatch e.writer.records) conditions e.db).1 with
          | .ok _ => true
          | .error _ => false
      | _ => true
  | _ => true

/-- Whether a step leaves `x` live, as far as calls of clients and the shutdown go. -/
def spares (e : Engine) (x : ExecutionId) (a : Action) : Bool :=
  match a with
  | .call _ _ => !e.isLive x || (e.step a).all fun e' => e'.isLive x
  | _ => true

/-- No batch fails, and nobody but its own task makes `x` terminal. -/
def Undisturbed (x : ExecutionId) (e : Engine) (a : Action) : Prop :=
  e.appends a = true ∧ e.spares x a = true

instance (x : ExecutionId) (e : Engine) (a : Action) : Decidable (Undisturbed x e a) :=
  inferInstanceAs (Decidable (_ ∧ _))

/-! ## What a step does to the log -/

/-- A step of the writer moves a part of the line into the logs. -/
theorem written_step (grounded : e.Grounded) {conditions : Conditions}
    (appends : e.appends (.writer conditions) = true)
    (stepped : e.step (.writer conditions) = some e') :
    ∃ batch, recordsIn e.line = batch ++ recordsIn e'.line ∧
      ∀ record, e.db.records x = some record → ∃ record', e'.db.records x = some record' ∧
        record'.row.state = record.row.state ∧
        record'.payloads = record.payloads ++ payloadsOf (recordsOf x batch) := by
  have idle : e'.db = e.db → ∀ record, e.db.records x = some record →
      ∃ record', e'.db.records x = some record' ∧ record'.row.state = record.row.state ∧
        record'.payloads = record.payloads ++ payloadsOf (recordsOf x []) := by
    intro same record found
    exact ⟨record, by rw [same]; exact found, rfl, by simp [recordsOf, payloadsOf]⟩
  cases step_capture stepped with
  | queued asked => cases asked
  | received _ received same =>
    subst same
    refine ⟨[], ?_, idle rfl⟩
    rw [line, ← Writer.receive_line received]
    rfl
  | @wrote own cause db _ events acts point _ asked same =>
    cases acts
    subst same
    refine ⟨e.writer.records, ?_, fun record found => ?_⟩
    · simp only [line, Writer.recordsIn_line, List.nil_append]
    · have batched := request_of_post
        (post_appendCaptureBatch grounded.sound.linked e.writer.records)
        (fun message => ⟨rfl, .inl rfl⟩) conditions
      rw [asked] at batched
      exact capture_replay batched.1.replay found
  | failed acts point _ asked =>
    cases acts
    simp [Engine.appends, point, asked] at appends
  | empty _ _ none same =>
    subst same
    refine ⟨[], ?_, idle rfl⟩
    simp only [line, Writer.recordsIn_line, List.nil_append]
  | answered _ _ same =>
    subst same
    refine ⟨[], ?_, idle rfl⟩
    simp only [line, Writer.recordsIn_line, List.nil_append]
    rfl
  | forgotten acts => cases acts
  | kept _ notWriter => cases notWriter

/-- A step that neither captures nor starts leaves the log of a live execution as it is, or
finishes it. -/
theorem Grounded.log_live (grounded : e.Grounded) (stepped : e.step a = some e')
    (notWriter : a.isWriter = false)
    (unstarted : ∀ pid pgid, e.calling a = some (.markRunning x pid pgid) →
      ¬ Queued (e.db.records x))
    {record : ExecutionRecord} (found : e.db.records x = some record) :
    ∀ record', e'.db.records x = some record' →
      (record'.row.state = record.row.state ∧ record'.payloads = record.payloads) ∨
        (record.row.state.isTerminal = false ∧ record'.row.state.isTerminal = true ∧
          ∃ outcome, record'.payloads = record.payloads ++ [.finished outcome]) := by
  refine grounded.preserves stepped (P := fun r => ∀ record', r = some record' →
    (record'.row.state = record.row.state ∧ record'.payloads = record.payloads) ∨
      (record.row.state.isTerminal = false ∧ record'.row.state.isTerminal = true ∧
        ∃ outcome, record'.payloads = record.payloads ++ [.finished outcome])) ?_ ?_
  · intro change r r' permits agrees fresh step held record' present
    cases step with
    | idle => exact held record' present
    | create => exact absurd rfl (fresh (grounded.known x record found))
    | @start before now pid pgid queued =>
      rcases held before rfl with ⟨state, _⟩ | ⟨_, terminal, _⟩
      · obtain ⟨pid, pgid, calling⟩ := permits.starting rfl
        exact absurd ⟨record, found, state ▸ queued⟩ (unstarted pid pgid calling)
      · rw [queued] at terminal
        cases terminal
    | capture own =>
      obtain ⟨_, _, _, acts, _⟩ := permits.capturing own
      rw [acts] at notWriter
      cases notWriter
    | @finish before now state outcome live =>
      cases present
      rcases held before rfl with ⟨same, payloads⟩ | ⟨_, terminal, _⟩
      · refine .inr ⟨same ▸ live, agrees.isTerminal, outcome, ?_⟩
        rw [show (before.finish now state outcome).payloads =
          before.payloads ++ [.finished outcome] from payloads_push .., payloads]
      · rw [live] at terminal
        cases terminal
    | remove => cases present
    | @unlink before session =>
      cases present
      rw [payloads_unlink, RecordStep.state_unlink]
      exact held before rfl
  · intro record' present
    rw [found] at present
    cases present
    exact .inl ⟨rfl, rfl⟩

/-! ## The invariant -/

/-- What is in the log of `x`, and what is on its way. -/
structure Faithful (e : Engine) (x : ExecutionId) (expected : List ExecutionEventPayload)
    (record : ExecutionRecord) : Prop where
  live : record.row.state.isTerminal = false →
    record.payloads ++ payloadsOf (e.pending x) = expected
  terminal : record.row.state.isTerminal = true →
    e.pending x = [] ∧ ∃ outcome, record.payloads = expected ++ [.finished outcome]

/-- Once its log is to begin with a started event, an execution is not queued. -/
theorem Faithful.unqueued {pid : Nat} {pgid : Int} {rest : List ExecutionEventPayload}
    {record : ExecutionRecord} (faithful : e.Faithful x (.started pid pgid :: rest) record)
    (lifecycle : record.Lifecycle) : record.row.state ≠ .queued := by
  intro queued
  have whole := faithful.live (by rw [queued]; rfl)
  have none : record.starts = [] := by
    rw [lifecycle.starts_eq, lifecycle.unstarted queued]
    rfl
  unfold ExecutionRecord.payloads at whole
  cases log : record.log with
  | nil =>
    rw [log, List.map_nil, List.nil_append] at whole
    cases pending : e.pending x with
    | nil =>
      rw [pending] at whole
      cases whole
    | cons captured later =>
      rw [pending] at whole
      have first := (List.cons.inj whole).1
      cases captured with
      | output => cases first
      | truncated => cases first
  | cons event later =>
    rw [log] at whole
    have first : event.payload = .started pid pgid := (List.cons.inj whole).1
    have member : event ∈ record.log.filter fun event => event.payload.isStarted := by
      refine List.mem_filter.mpr ⟨by rw [log]; exact List.mem_cons_self, ?_⟩
      rw [first]
      rfl
    rw [List.map_eq_nil_iff.mp none] at member
    cases member

/-- What holds of an execution that nobody cancels, while no batch fails. -/
structure Lossless (x : ExecutionId) (e : Engine) : Prop where
  making : ∀ n execution given cwd, e.calls n = some (.executeSpawn execution given cwd) →
    execution.id = x → ∃ record, e.db.records x = some record ∧
      record.row.state.isTerminal = false ∧ record.payloads = []
  live : ∀ t, e.tasks x = some t → t.point.stage ≤ 1 →
    Live (e.db.records x) ∧ t.point ≠ .startedCancel
  settled : ∀ t, e.tasks x = some t → Complete t.received →
    t.point.waits = true ∨ e.answers x ≠ none
  leftover : ∀ t state outcome, e.tasks x = some t → Complete t.received →
    .finish x state outcome ∈ e.orphans → e.answers x ≠ none
  content : ∀ t record, e.tasks x = some t → Ordered t.received →
    t.point.stage ≤ 1 ∨ Complete t.received → e.db.records x = some record →
    e.Faithful x (t.expected e.settings) record

/-- Before its stream, and once its barrier is answered, nothing of a task is on its way. -/
theorem Piped.pending_early (piped : e.Piped) {t : Task} (found : e.tasks x = some t)
    (early : t.point.stage = 0) : e.pending x = [] := by
  refine pending_eq_nil.mpr ⟨?_, ?_⟩
  · rw [recordsOf, List.filter_eq_nil_iff]
    intro record member own
    obtain ⟨t', found', stage⟩ := piped.streamed record member
    rw [of_decide_eq_true own, found] at found'
    cases found'
    omega
  · intro t' found'
    rw [found] at found'
    cases found'
    cases unsent : t.point.unsent with
    | nil => rfl
    | cons record rest =>
      have member : record ∈ t.point.unsent := unsent ▸ List.mem_cons_self
      have stage := TaskPoint.unsent_stage member
      omega

theorem Piped.pending_answered (piped : e.Piped) {t : Task} (found : e.tasks x = some t)
    (isOver : t.point.stage = 2) (answered : e.answers x ≠ none) : e.pending x = [] := by
  refine pending_eq_nil.mpr ⟨piped.answered x answered, ?_⟩
  intro t' found'
  rw [found] at found'
  cases found'
  cases unsent : t.point.unsent with
  | nil => rfl
  | cons record rest =>
    have member : record ∈ t.point.unsent := unsent ▸ List.mem_cons_self
    have stage := TaskPoint.unsent_stage member
    omega

/-! ## Who finishes the execution -/

theorem spares_live (spared : e.spares x a = true) {n : Nat} {c : Choice} (acts : a = .call n c)
    (stepped : e.step a = some e') (live : Live (e.db.records x)) : Live (e'.db.records x) := by
  subst acts
  simp only [spares, isLive_iff.mpr live, stepped, Bool.not_true, Bool.false_or,
    Option.all_some] at spared
  exact isLive_iff.mp spared

/-- Only its own task can finish an undisturbed execution, when it is in place. -/
theorem Grounded.spared_live (grounded : e.Grounded) (spared : e.spares x a = true)
    (stepped : e.step a = some e') (notRestart : a.isRestart = false)
    (task : ∀ c t, a = .task x c → e.tasks x = some t → t.point.finishes = false)
    (present : ∀ t, e.tasks x = some t → t.point ≠ .aborted)
    (live : Live (e.db.records x)) : Live (e'.db.records x) := by
  by_cases calls : ∃ n c, a = .call n c
  · obtain ⟨n, c, acts⟩ := calls
    exact spares_live spared acts stepped live
  · refine grounded.live stepped ?_ live
    intro finished
    cases finished with
    | @task c t acts found finishes =>
      rw [task c t acts found] at finishes
      cases finishes
    | cancel acts => exact calls ⟨_, _, acts⟩
    | sweep acts => exact calls ⟨_, _, acts⟩
    | leftover _ _ found aborted => exact present _ found aborted
    | restart acts =>
      rw [acts] at notRestart
      cases notRestart

namespace Lossless

/-- A task in its stream has a live execution. -/
theorem live_step (lossless : Lossless x e) (grounded : e.Grounded)
    (undisturbed : Undisturbed x e a) (stepped : e.step a = some e') {t' : Task}
    (present : e'.tasks x = some t') (early : t'.point.stage ≤ 1) :
    Live (e'.db.records x) ∧ t'.point ≠ .startedCancel := by
  cases step_task stepped x with
  | @moved c t own request served reply acts found asked done move same =>
    rw [same, show (served.settleTask x t own).tasks x = some own from Function.update_self ..]
      at present
    cases present
    obtain ⟨live, _⟩ := lossless.live t found (move.stage_le.trans early)
    refine ⟨?_, fun target => ?_⟩
    · refine grounded.spared_live undisturbed.2 stepped (by rw [acts]; rfl) ?_ ?_ live
      · intro c' t'' _ found'
        rw [found] at found'
        cases found'
        cases finishes : t.point.finishes with
        | false => rfl
        | true =>
          have isOver := move.finishes_stage finishes
          omega
      · intro t'' found' aborted
        rw [found] at found'
        cases found'
        simp only [Task.request?, aborted] at asked
        cases asked
    · obtain ⟨pid, pgid, current, point, rfl, terminal⟩ := move.startedCancel target
      simp only [Task.request?, point, Option.some.injEq] at asked
      subst asked
      obtain ⟨record, first, read⟩ := grounded.read_state done
      obtain ⟨record', first', open_⟩ := live
      rw [first] at first'
      cases first'
      rw [read, open_] at terminal
      cases terminal
  | dropped _ _ _ same =>
    rw [same, show (e.dropTask x _ _).tasks x = some _ from Function.update_self ..] at present
    cases present
    exact absurd early (by simp [Task.goto, TaskPoint.stage])
  | @made n c execution given cwd acts found own made =>
    rw [made] at present
    cases present
    obtain ⟨record, first, open_, _⟩ := lossless.making n execution given cwd found own
    exact ⟨spares_live undisturbed.2 acts stepped ⟨record, first, open_⟩, (by rintro ⟨⟩)⟩
  | @released n c execution t acts found own before after =>
    rw [after] at present
    cases present
    obtain ⟨live, other⟩ := lossless.live t before early
    exact ⟨spares_live undisturbed.2 acts stepped live, other⟩
  | forgotten _ same =>
    rw [same] at present
    cases present
  | kept other _ notRestart same =>
    rw [same] at present
    obtain ⟨live, apart⟩ := lossless.live t' present early
    refine ⟨grounded.spared_live undisturbed.2 stepped notRestart ?_ ?_ live, apart⟩
    · intro c t acts _
      rw [acts] at other
      exact absurd rfl other
    · intro t found aborted
      rw [present] at found
      cases found
      rw [aborted] at early
      exact absurd early (by simp [TaskPoint.stage])

/-- A task with a complete stream stands before its barrier, or has had the answer. -/
theorem settled_step (lossless : Lossless x e) (piped : e.Piped)
    (paced : ∀ y t, e.tasks y = some t → t.Paced e.settings)
    (stepped : e.step a = some e') {t' : Task} (present : e'.tasks x = some t')
    (complete : Complete t'.received) : t'.point.waits = true ∨ e'.answers x ≠ none := by
  cases step_task stepped x with
  | @moved c t own request served reply acts found asked done move same =>
    have notRestart : a.isRestart = false := by rw [acts]; rfl
    rw [same, show (served.settleTask x t own).tasks x = some own from Function.update_self ..]
      at present
    cases present
    rcases move.waits (paced x t found) complete with waits | waiting | ⟨before, ready⟩
    · exact .inl waits
    · rw [asked] at waiting
      cases waiting
      obtain ⟨result, answer, _⟩ := Option.map_eq_some_iff.mp done
      refine .inr (piped.answers_step stepped notRestart ?_)
      rw [answer]
      exact Option.some_ne_none _
    · rcases lossless.settled t found before with waits | answered
      · rw [waits] at ready
        cases ready
      · exact .inr (piped.answers_step stepped notRestart answered)
  | dropped _ _ _ same =>
    rw [same, show (e.dropTask x _ _).tasks x = some _ from Function.update_self ..] at present
    cases present
    exact .inl rfl
  | made _ _ _ made =>
    rw [made] at present
    cases present
    exact absurd complete not_complete_nil
  | @released _ _ _ t acts _ _ before after =>
    rw [after] at present
    cases present
    refine (lossless.settled t before complete).imp_right fun answered => ?_
    exact piped.answers_step stepped (by rw [acts]; rfl) answered
  | forgotten _ same =>
    rw [same] at present
    cases present
  | kept _ _ notRestart same =>
    rw [same] at present
    exact (lossless.settled t' present complete).imp_right
      (piped.answers_step stepped notRestart)

/-- A request to finish that is left over comes from behind the barrier. -/
theorem leftover_step (lossless : Lossless x e) (grounded : e.Grounded) (piped : e.Piped)
    (stepped : e.step a = some e') {t' : Task} {state : ExecutionState}
    {outcome : ExecutionOutcome} (present : e'.tasks x = some t')
    (complete : Complete t'.received) (member : .finish x state outcome ∈ e'.orphans) :
    e'.answers x ≠ none := by
  rcases orphans_step stepped member with ⟨notRestart, old⟩ | ⟨y, t, acts, found, asked, after⟩
  · refine piped.answers_step stepped notRestart ?_
    obtain ⟨y, t, found, aborted, own, _⟩ := grounded.orphans _ old
    have own : x = y := own
    subst own
    cases step_task stepped x with
    | moved _ found' asked =>
      rw [found] at found'
      cases found'
      simp only [Task.request?, aborted] at asked
      cases asked
    | dropped _ found' asked =>
      rw [found] at found'
      cases found'
      simp only [Task.request?, aborted] at asked
      cases asked
    | made _ _ _ made =>
      rw [made] at present
      cases present
      exact absurd complete not_complete_nil
    | @released _ _ _ before _ _ _ found' after =>
      rw [after] at present
      cases present
      exact lossless.leftover before state outcome found' complete old
    | forgotten acts =>
      rw [acts] at notRestart
      cases notRestart
    | kept _ _ _ same => exact lossless.leftover t' state outcome (same ▸ present) complete old
  · have own : x = y := (Task.request_ofTask asked).1
    subst own
    rw [after] at present
    cases present
    refine piped.answers_step stepped (by rw [acts]; rfl) ?_
    rcases lossless.settled t found complete with waits | answered
    · cases point : t.point <;> simp only [Task.request?, point] at asked <;>
        rw [point] at waits <;> first
          | (cases waits; done)
          | cases asked
    · exact answered

/-- A created execution is live, and its log is empty, until its task is made. -/
theorem making_step (lossless : Lossless x e) (grounded : e.Grounded) (piped : e.Piped)
    (undisturbed : Undisturbed x e a) (stepped : e.step a = some e') {n : Nat}
    {execution : Execution} {given : ExecutionRequest} {cwd : String}
    (present : e'.calls n = some (.executeSpawn execution given cwd)) (own : execution.id = x) :
    ∃ record, e'.db.records x = some record ∧ record.row.state.isTerminal = false ∧
      record.payloads = [] := by
  cases step_call stepped n with
  | forgotten _ same =>
    rw [same] at present
    cases present
  | @began operation _ same =>
    rw [same] at present
    simp only [Function.update_self, Option.some.injEq] at present
    have outside := (first_holds operation).2
    rw [present] at outside
    cases outside
  | @moved c point point' request served reply acts found asked done move same =>
    have target : point' = .executeSpawn execution given cwd := by
      rw [same, show (served.settleCall n reply point point').calls n = some point' from
        Function.update_self ..] at present
      exact Option.some.inj present
    obtain ⟨rfl, rfl⟩ := spawning_move move target
    cases asked
    have asked : e.serveStore (.createExecution given cwd) c = some (served, _) := done
    obtain ⟨result, db, broadcast, issued, rfl, told, _, outcome, _, fresh⟩ :=
      serveStore_eq_some grounded.sound.linked asked
    cases told
    obtain ⟨r, named, made⟩ := outcome
    cases r with
    | error error => cases named
    | ok created =>
      cases named
      have id : c.id = x := by
        rw [← own, made.2.2]
        rfl
      obtain ⟨_, records⟩ := made.1.create_records
      refine ⟨⟨queuedRow c.now c.id given cwd, []⟩, ?_, rfl, rfl⟩
      rw [same]
      show db.records x = _
      rw [records, id, Function.update_self]
  | kept _ notRestart same =>
    rw [same] at present
    have untasked : e.tasks x = none := own ▸ (grounded.spawning _ _ _ _ present).1
    obtain ⟨record, first, open_, empty⟩ := lossless.making n _ _ _ present own
    have live := grounded.spared_live undisturbed.2 stepped notRestart
      (fun c t _ found => by rw [untasked] at found; cases found)
      (fun t found => by rw [untasked] at found; cases found) ⟨record, first, open_⟩
    obtain ⟨record', after, open_'⟩ := live
    refine ⟨record', after, open_', ?_⟩
    by_cases writer : ∃ conditions, a = .writer conditions
    · obtain ⟨conditions, rfl⟩ := writer
      obtain ⟨batch, line, written⟩ := written_step grounded undisturbed.1 stepped (x := x)
      obtain ⟨record'', after', _, payloads⟩ := written record first
      rw [after] at after'
      cases after'
      have none : recordsOf x batch = [] := by
        rw [recordsOf, List.filter_eq_nil_iff]
        intro captured member mine
        obtain ⟨t, found, _⟩ := piped.streamed captured
          (by rw [line]; exact List.mem_append_left _ member)
        rw [of_decide_eq_true mine, untasked] at found
        cases found
      rw [payloads, empty, none]
      rfl
    · have unstarted : ∀ pid pgid, e.calling a = some (.markRunning x pid pgid) →
          ¬ Queued (e.db.records x) := by
        intro pid pgid calling
        rcases grounded.marking calling with ⟨_, t, _, found, _⟩ | ⟨t, found, _⟩
        · rw [untasked] at found
          cases found
        · rw [untasked] at found
          cases found
      have quiet : a.isWriter = false := by
        cases a with
        | writer conditions => exact absurd ⟨conditions, rfl⟩ writer
        | _ => rfl
      rcases grounded.log_live stepped quiet unstarted first record' after with
        ⟨_, payloads⟩ | ⟨_, terminal, _⟩
      · rw [payloads, empty]
      · rw [open_'] at terminal
        cases terminal

/-! ### Steps that only carry the content on -/

/-- With a complete stream, an execution that is not queued, and whatever ends it comes
when nothing is on its way. -/
theorem cut (lossless : Lossless x e) (grounded : e.Grounded) (piped : e.Piped)
    (paced : ∀ y t, e.tasks y = some t → t.Paced e.settings)
    (undisturbed : Undisturbed x e a) (stepped : e.step a = some e')
    (notRestart : a.isRestart = false) {t : Task} (found : e.tasks x = some t)
    (complete : Complete t.received) (live : Live (e.db.records x))
    (ended : ¬ Live (e'.db.records x)) : e.pending x = [] := by
  have isOver := (paced x t found).complete complete
  have finished : e.FinishedBy a x := by
    by_contra unfinished
    exact ended (grounded.live stepped unfinished live)
  refine piped.pending_answered found isOver ?_
  cases finished with
  | task _ found' finishes =>
    rw [found] at found'
    cases found'
    rcases lossless.settled t found complete with waits | answered
    · cases point : t.point <;> rw [point] at waits finishes <;> first
        | (cases waits; done)
        | cases finishes
    · exact answered
  | cancel acts => exact absurd (spares_live undisturbed.2 acts stepped live) ended
  | sweep acts => exact absurd (spares_live undisturbed.2 acts stepped live) ended
  | leftover _ member => exact lossless.leftover t _ _ found complete (List.mem_of_getElem? member)
  | restart acts =>
    rw [acts] at notRestart
    cases notRestart

/-- A task whose stream is complete has handled its Started event. -/
theorem expected_complete {settings : Settings} {t : Task} (paced : t.Paced settings)
    (ordered : Ordered t.received) (complete : Complete t.received) :
    ∃ pid pgid rest, t.expected settings = .started pid pgid :: rest := by
  have handled : t.startedHandled = true := by
    cases unhandled : t.startedHandled with
    | true => rfl
    | false =>
      rcases paced.starting ordered unhandled with none | ⟨pid, pgid, single, _⟩
      · rw [none] at complete
        exact absurd complete not_complete_nil
      · rw [single] at complete
        have whole : Complete ([] ++ [SupervisorEvent.started pid pgid]) := complete
        exact absurd (complete_append_singleton.mp whole) Bool.false_ne_true
  rcases ordered with none | ⟨pid, pgid, rest, whole, _⟩
  · exact absurd none (paced.begun handled)
  · refine ⟨pid, pgid, pieces (t.limit settings) 0 (chunksIn rest), ?_⟩
    simp only [Task.expected, whole, handled, if_true]

/-- An execution that has a task was there before the step. -/
theorem present_step (grounded : e.Grounded) (stepped : e.step a = some e') {t : Task}
    (found : e.tasks x = some t) {record' : ExecutionRecord}
    (after : e'.db.records x = some record') : ∃ record, e.db.records x = some record := by
  cases before : e.db.records x with
  | some record => exact ⟨record, rfl⟩
  | none =>
    have absent : e'.db.records x = none :=
      grounded.preserves stepped (P := (· = none)) (fun _ _ _ _ _ fresh step held =>
        step.absent (fresh (grounded.tasks x t found)) held) before
    rw [absent] at after
    cases after

/-- A step that adds nothing to what is expected carries the content on. -/
theorem carried (lossless : Lossless x e) (grounded : e.Grounded) (piped : e.Piped)
    (paced : ∀ y t, e.tasks y = some t → t.Paced e.settings)
    (undisturbed : Undisturbed x e a) (stepped : e.step a = some e')
    (notRestart : a.isRestart = false) (notWriter : a.isWriter = false) {t t' : Task}
    (found : e.tasks x = some t) (present : e'.tasks x = some t')
    (waiting : ∀ c pid pgid, a = .task x c → t.point ≠ .markRunning pid pgid)
    (stage : t.point.stage ≤ t'.point.stage) (received : t'.received = t.received)
    (expected : t'.expected e.settings = t.expected e.settings)
    (pending : e'.pending x = e.pending x) (ordered : Ordered t'.received)
    (scope : t'.point.stage ≤ 1 ∨ Complete t'.received) {record' : ExecutionRecord}
    (after : e'.db.records x = some record') :
    e'.Faithful x (t'.expected e.settings) record' := by
  obtain ⟨record, first⟩ := present_step grounded stepped found after
  have before := lossless.content t record found (received ▸ ordered)
    (scope.imp stage.trans fun complete => received ▸ complete) first
  have unstarted : ∀ pid pgid, e.calling a = some (.markRunning x pid pgid) →
      ¬ Queued (e.db.records x) := by
    intro pid pgid calling queued
    rcases grounded.marking calling with ⟨c, t₀, acts, found₀, point⟩ | ⟨t₀, found₀, point⟩
    · rw [found] at found₀
      cases found₀
      exact waiting c pid pgid acts point
    · -- a request left over: the stream is complete, and has begun
      rw [found] at found₀
      cases found₀
      have complete : Complete t.received := by
        rcases scope with early | complete
        · rw [point] at stage
          exact absurd (stage.trans early) (by simp [TaskPoint.stage])
        · exact received ▸ complete
      obtain ⟨pid', pgid', rest, begun⟩ :=
        expected_complete (paced x t found) (received ▸ ordered) complete
      rw [begun] at before
      obtain ⟨record₀, first₀, state⟩ := queued
      rw [first] at first₀
      cases first₀
      exact before.unqueued (grounded.lifecycle x record first) state
  rcases grounded.log_live stepped notWriter unstarted first record' after with
    ⟨state, payloads⟩ | ⟨open_, terminal, outcome, payloads⟩
  · refine ⟨fun live => ?_, fun terminal => ?_⟩
    · rw [payloads, pending, expected]
      exact before.live (state ▸ live)
    · obtain ⟨none, ended⟩ := before.terminal (state ▸ terminal)
      rw [payloads, pending, expected]
      exact ⟨none, ended⟩
  · have ended : ¬ Live (e'.db.records x) := by
      rintro ⟨record₀, after₀, live⟩
      rw [after] at after₀
      cases after₀
      rw [terminal] at live
      cases live
    have none : e.pending x = [] := by
      rcases scope with early | complete
      · exact absurd (lossless.live_step grounded undisturbed stepped present early).1 ended
      · exact lossless.cut grounded piped paced undisturbed stepped notRestart found
          (received ▸ complete) ⟨record, first, open_⟩ ended
    refine ⟨fun live => ?_, fun _ => ⟨pending.trans none, outcome, ?_⟩⟩
    · rw [terminal] at live
      cases live
    · have whole := before.live open_
      rw [none] at whole
      rw [payloads, expected, ← whole]
      simp [payloadsOf]

/-- The writer moves records from the batch into the log. -/
theorem written (lossless : Lossless x e) (grounded : e.Grounded)
    {conditions : Conditions} (undisturbed : Undisturbed x e (.writer conditions))
    (stepped : e.step (.writer conditions) = some e') {t : Task} (found : e.tasks x = some t)
    (tasks : e'.tasks x = e.tasks x) (ordered : Ordered t.received)
    (scope : t.point.stage ≤ 1 ∨ Complete t.received) {record' : ExecutionRecord}
    (after : e'.db.records x = some record') :
    e'.Faithful x (t.expected e.settings) record' := by
  obtain ⟨record, first⟩ := present_step grounded stepped found after
  have before := lossless.content t record found ordered scope first
  obtain ⟨batch, line, written⟩ := written_step (x := x) grounded undisturbed.1 stepped
  obtain ⟨record'', after', state, payloads⟩ := written record first
  rw [after] at after'
  cases after'
  have pending : e.pending x = recordsOf x batch ++ e'.pending x := by
    rw [Engine.pending, Engine.pending, line, recordsOf_append, tasks, List.append_assoc]
  refine ⟨fun live => ?_, fun terminal => ?_⟩
  · have whole := before.live (state ▸ live)
    rw [pending, payloadsOf_append] at whole
    rw [payloads, List.append_assoc]
    exact whole
  · obtain ⟨none, outcome, ended⟩ := before.terminal (state ▸ terminal)
    rw [pending, List.append_eq_nil_iff] at none
    refine ⟨none.2, outcome, ?_⟩
    rw [payloads, none.1, ended]
    simp [payloadsOf]

/-! ### Steps of the task -/

/-- Only a task that sends a record of `x` brings one into the line. -/
theorem line_step (piped : e.Piped) (stepped : e.step a = some e')
    (notRestart : a.isRestart = false) (notWriter : a.isWriter = false)
    (quiet : ∀ c t record rest, a = .task x c → e.tasks x = some t →
      t.point ≠ .capturing record rest) :
    recordsOf x (recordsIn e'.line) = recordsOf x (recordsIn e.line) := by
  cases step_capture stepped with
  | @queued message asked queue writer _ =>
    have joined : e'.line = e.line ++ [message] := by
      rw [line, line, writer, queue]
      exact Writer.line_join message
    rw [joined, recordsIn_append, recordsOf_append]
    obtain ⟨y, c, t, acts, found, ⟨record, rest, point, rfl⟩ | ⟨_, _, rfl⟩⟩ := asking_capture asked
    · have other : record.executionId ≠ x := by
        intro same
        have own := piped.own y t found record (by rw [point]; exact List.mem_cons_self)
        rw [own] at same
        subst same
        exact quiet c t record rest acts found point
      simp [recordsIn, recordsOf, CaptureMessage.record?, other]
    · exact List.append_nil _
  | kept _ _ queue writer _ => rw [line, line, writer, queue]
  | received acts =>
    rw [acts] at notWriter
    cases notWriter
  | wrote acts =>
    rw [acts] at notWriter
    cases notWriter
  | failed acts =>
    rw [acts] at notWriter
    cases notWriter
  | empty acts =>
    rw [acts] at notWriter
    cases notWriter
  | answered acts =>
    rw [acts] at notWriter
    cases notWriter
  | forgotten acts =>
    rw [acts] at notRestart
    cases notRestart

theorem pending_congr {t t' : Task} (found : e.tasks x = some t) (present : e'.tasks x = some t')
    (line : recordsOf x (recordsIn e'.line) = recordsOf x (recordsIn e.line))
    (unsent : t'.point.unsent = t.point.unsent) : e'.pending x = e.pending x := by
  rw [pending, pending, found, present, line]
  exact congrArg _ unsent

/-- Sending a record moves it from the task to the end of the line. -/
theorem pending_sent (piped : e.Piped) {c : Choice} {t : Task} {served : Engine} {reply : Reply}
    {record : CaptureRecord} {rest : List CaptureRecord} (found : e.tasks x = some t)
    (point : t.point = .capturing record rest)
    (done : e.serve (.task x) c (.capture (.record record)) = some (served, reply)) :
    (served.settleTask x t (t.capture rest)).pending x = e.pending x := by
  have own : record.executionId = x :=
    piped.own x t found record (by rw [point]; exact List.mem_cons_self)
  simp only [serve] at done
  split at done
  · cases done
    have after : (settleTask { e with queue := e.queue ++ [.record record] } x t
        (t.capture rest)).tasks x = some (t.capture rest) := Function.update_self ..
    have joined : (settleTask { e with queue := e.queue ++ [.record record] } x t
        (t.capture rest)).line = e.line ++ [.record record] := Writer.line_join _
    rw [pending, pending, found, after, joined, recordsIn_append, recordsOf_append, Option.elim_some,
      Option.elim_some, Task.capture_unsent, point, List.append_assoc]
    simp [recordsIn, recordsOf, CaptureMessage.record?, own, TaskPoint.unsent]
  · cases done

/-- A frame adds to what is expected what the task captures of it. -/
theorem receive_expected {settings : Settings} {id : ExecutionId} {c : Choice} {t : Task}
    {frame : Option (Except Error SupervisorEvent)} (paced : t.Paced settings)
    (point : t.point = .reading)
    (ordered : Ordered (t.receive settings id c frame).received)
    (scope : (t.receive settings id c frame).point.stage ≤ 1 ∨
      Complete (t.receive settings id c frame).received) :
    Ordered t.received ∧ (t.receive settings id c frame).expected settings =
      t.expected settings ++ payloadsOf (t.receive settings id c frame).point.unsent := by
  have incomplete : ¬ Complete t.received := by
    intro complete
    have isOver := paced.complete complete
    rw [point] at isOver
    exact absurd isOver (by simp [TaskPoint.stage])
  have unhandled : t.received = [] → t.startedHandled = false := by
    intro none
    cases handled : t.startedHandled with
    | false => rfl
    | true => exact absurd none (paced.begun handled)
  have handled : Ordered t.received → t.received ≠ [] → t.startedHandled = true := by
    intro before begun
    cases unhandled : t.startedHandled with
    | true => rfl
    | false =>
      rcases paced.starting before unhandled with none | starting
      · exact absurd none begun
      · exact absurd point starting.not_reading
  cases frame with
  | none =>
    rcases scope with early | complete
    · exact absurd early (by simp [Task.receive, TaskPoint.stage])
    · exact absurd complete incomplete
  | some frame =>
    cases frame with
    | error e =>
      rcases scope with early | complete
      · exact absurd early (by simp [Task.receive, Task.goto, TaskPoint.stage])
      · exact absurd complete incomplete
    | ok event =>
      cases event with
      | started pid pgid =>
        rcases ordered_append_singleton.mp ordered with ⟨none, _⟩ | ⟨_, _, other⟩
        · refine ⟨.inl none, ?_⟩
          simp [Task.expected, Task.receive, Task.goto, none, unhandled none, TaskPoint.unsent,
            payloadsOf]
        · cases other
      | finished outcome =>
        rcases ordered_append_singleton.mp ordered with ⟨_, started⟩ | ⟨begun, before, _⟩
        · cases started
        · refine ⟨before, ?_⟩
          rcases before with none | ⟨pid, pgid, rest, whole, _⟩
          · exact absurd none begun
          · have none : chunksIn [SupervisorEvent.finished outcome] = [] := rfl
            simp [Task.expected, Task.receive, whole, TaskPoint.unsent, payloadsOf, none,
              Task.limit]
      | output stream data =>
        cases data with
        | error e =>
          rcases scope with early | complete
          · exact absurd early (by simp [Task.receive, Task.goto, TaskPoint.stage])
          · exact absurd (complete_append_singleton.mp complete) Bool.false_ne_true
        | ok data =>
          have fields : ∀ (own : Task) given, (own.capture given).received = own.received ∧
              (own.capture given).startedHandled = own.startedHandled ∧
              (own.capture given).request = own.request := by
            intro own given
            cases given <;> exact ⟨rfl, rfl, rfl⟩
          simp only [Task.receive, fields] at ordered
          rcases ordered_append_singleton.mp ordered with ⟨_, started⟩ | ⟨begun, before, _⟩
          · cases started
          · refine ⟨before, ?_⟩
            have done := handled before begun
            rcases before with none | ⟨pid, pgid, rest, whole, _⟩
            · exact absurd none begun
            · have counted : t.captured = (Chunk.tagged (chunksIn rest)).length := by
                rw [paced.counted, Task.total, whole]
                rfl
              simp only [Task.expected, Task.receive, fields, whole, List.cons_append, done,
                if_true, Task.limit, chunksIn_append, pieces_append, Task.capture_unsent]
              rw [payloadsOf, paced.truncated, Task.limit, captureOutput_payload, counted]
              simp [chunksIn, SupervisorEvent.chunk?, pieces]

/-- Reading a frame brings what is captured of it to the end of what is on its way. -/
theorem frame_step (lossless : Lossless x e) (piped : e.Piped)
    (paced : ∀ y t, e.tasks y = some t → t.Paced e.settings) (stepped : e.step a = some e')
    {c : Choice} {t : Task} {frame : Option (Except Error SupervisorEvent)} (acts : a = .task x c)
    (found : e.tasks x = some t) (point : t.point = .reading)
    (present : e'.tasks x = some (t.receive e.settings x c frame)) (records : e'.db = e.db)
    (ordered : Ordered (t.receive e.settings x c frame).received)
    (scope : (t.receive e.settings x c frame).point.stage ≤ 1 ∨
      Complete (t.receive e.settings x c frame).received)
    {record : ExecutionRecord} (after : e'.db.records x = some record) :
    e'.Faithful x ((t.receive e.settings x c frame).expected e.settings) record := by
  have early : t.point.stage ≤ 1 := by
    rw [point]
    exact Nat.le_refl _
  obtain ⟨before, grown⟩ := receive_expected (paced x t found) point ordered scope
  obtain ⟨⟨record₀, first, open_⟩, _⟩ := lossless.live t found early
  rw [records] at after
  rw [after] at first
  cases first
  have whole := (lossless.content t record found before (.inl early) after).live open_
  have line := line_step piped stepped (by rw [acts]; rfl) (by rw [acts]; rfl) (x := x)
    fun c' t₀ _ _ _ found₀ => by
      rw [found] at found₀
      cases found₀
      rw [point]
      rintro ⟨⟩
  refine ⟨fun _ => ?_, fun terminal => ?_⟩
  · have empty : t.point.unsent = [] := by rw [point]; rfl
    rw [pending, found, Option.elim_some, empty, List.append_nil] at whole
    rw [pending, present, Option.elim_some, line, payloadsOf_append, ← List.append_assoc, whole,
      grown]
  · rw [open_] at terminal
    cases terminal

/-- Marking the execution running writes the started event into its empty log. -/
theorem running_step (lossless : Lossless x e) (grounded : e.Grounded) (piped : e.Piped)
    (paced : ∀ y t, e.tasks y = some t → t.Paced e.settings) (stepped : e.step a = some e')
    {c : Choice} {t : Task} {served : Engine} {stored : StoreReply} {pid : Nat} {pgid : Int}
    (acts : a = .task x c) (found : e.tasks x = some t) (point : t.point = .markRunning pid pgid)
    (done : e.serve (.task x) c (.store (.markRunning x pid pgid)) =
      some (served, .stored (.ok stored)))
    (present : e'.tasks x = some { t with point := .reading, startedHandled := true })
    (records : e'.db = served.db) (ordered : Ordered t.received)
    {record' : ExecutionRecord} (after : e'.db.records x = some record') :
    e'.Faithful x
      (Task.expected e.settings { t with point := .reading, startedHandled := true }) record' := by
  have pace := paced x t found
  have early : t.point.stage ≤ 1 := by
    rw [point]
    exact Nat.le_refl _
  obtain ⟨begun, unhandled⟩ := pace.handling (by simp [Task.handles, point])
  -- the frames are the Started event at hand
  have single : t.received = [.started pid pgid] := by
    rcases pace.starting ordered (unhandled ordered) with none | ⟨pid', pgid', received, places⟩
    · exact absurd none begun
    · rw [point] at places
      rcases places with place | place | place | place | place
      · cases place
      · cases place
      · cases place
      · cases place
        exact received
      · exact absurd place (by simp [TaskPoint.stage])
  have asked : e.serveStore (.markRunning x pid pgid) c = some (served, _) := done
  obtain ⟨result, db, broadcast, issued, rfl, told, _, outcome, _⟩ :=
    serveStore_eq_some grounded.sound.linked asked
  cases told
  obtain ⟨r, named, moved⟩ := outcome
  cases r with
  | error error => cases named
  | ok event =>
    obtain ⟨_, _, _, _, _, effect⟩ := moved
    obtain ⟨record, first, queued, same⟩ := effect.start_records
    rw [records, show db.records = _ from same, Function.update_self] at after
    cases after
    have open_ : record.row.state.isTerminal = false := by rw [queued]; rfl
    have whole := (lossless.content t record found ordered (.inl early) first).live open_
    have nothing : t.expected e.settings = [] := by
      simp [Task.expected, single, unhandled ordered]
    rw [nothing, List.append_eq_nil_iff] at whole
    have line := line_step piped stepped (by rw [acts]; rfl) (by rw [acts]; rfl) (x := x)
      fun c' t₀ _ _ _ found₀ => by
        rw [found] at found₀
        cases found₀
        rw [point]
        rintro ⟨⟩
    have pending : e'.pending x = e.pending x :=
      pending_congr found present line (by rw [point]; rfl)
    refine ⟨fun _ => ?_, fun terminal => by cases terminal⟩
    rw [pending, whole.2, show (record.start c.now pid pgid).payloads =
      record.payloads ++ [.started pid pgid] from payloads_push .., whole.1]
    simp [Task.expected, single, chunksIn, SupervisorEvent.chunk?, pieces]

theorem content_made (lossless : Lossless x e) (grounded : e.Grounded) (piped : e.Piped)
    (undisturbed : Undisturbed x e a) (stepped : e.step a = some e') {n : Nat} {c : Choice}
    {execution : Execution} {given : ExecutionRequest} {cwd : String} (acts : a = .call n c)
    (found : e.calls n = some (.executeSpawn execution given cwd)) (own : execution.id = x)
    (made : e'.tasks x = some { request := given, cwd }) {record' : ExecutionRecord}
    (after : e'.db.records x = some record') :
    e'.Faithful x (({ request := given, cwd } : Task).expected e.settings) record' := by
  obtain ⟨record, first, open_, empty⟩ := lossless.making n execution given cwd found own
  have live := spares_live undisturbed.2 acts stepped ⟨record, first, open_⟩
  have unasked : e.calling a = none := by
    simp [acts, calling, found, CallPoint.request?, Request.call?]
  rcases grounded.log_live stepped (by rw [acts]; rfl)
    (fun _ _ asked => by rw [unasked] at asked; cases asked) first record' after with
    ⟨state, payloads⟩ | ⟨_, terminal, _⟩
  · have none := (piped.step grounded stepped).pending_early made rfl
    refine ⟨fun _ => ?_, fun terminal => ?_⟩
    · rw [payloads, empty, none]
      rfl
    · rw [state, open_] at terminal
      cases terminal
  · obtain ⟨record₀, after₀, open₀⟩ := live
    rw [after] at after₀
    cases after₀
    rw [terminal] at open₀
    cases open₀

theorem content_released (lossless : Lossless x e) (grounded : e.Grounded) (piped : e.Piped)
    (paced : ∀ y t, e.tasks y = some t → t.Paced e.settings)
    (undisturbed : Undisturbed x e a) (stepped : e.step a = some e') {n : Nat} {c : Choice}
    (acts : a = .call n c) {t : Task} (found : e.tasks x = some t)
    (present : e'.tasks x = some { t with released := true }) (ordered : Ordered t.received)
    (scope : t.point.stage ≤ 1 ∨ Complete t.received) {record' : ExecutionRecord}
    (after : e'.db.records x = some record') :
    e'.Faithful x (({ t with released := true } : Task).expected e.settings) record' := by
  refine lossless.carried grounded piped paced undisturbed stepped (by rw [acts]; rfl)
    (by rw [acts]; rfl) found present (fun c' _ _ other => ?_) (Nat.le_refl _) rfl rfl ?_
    ordered scope after
  · rw [acts] at other
    cases other
  · refine pending_congr found present (line_step piped stepped (by rw [acts]; rfl)
      (by rw [acts]; rfl) fun c' _ _ _ other => ?_) rfl
    rw [acts] at other
    cases other

/-- A task is dropped only behind its stream. -/
theorem content_dropped (lossless : Lossless x e) (grounded : e.Grounded) (piped : e.Piped)
    (paced : ∀ y t, e.tasks y = some t → t.Paced e.settings)
    (undisturbed : Undisturbed x e a) (stepped : e.step a = some e') (acts : a = .abort x)
    {t : Task} (found : e.tasks x = some t) (present : e'.tasks x = some (t.goto .aborted))
    (ordered : Ordered t.received)
    (scope : (t.goto .aborted).point.stage ≤ 1 ∨ Complete t.received) {record' : ExecutionRecord}
    (after : e'.db.records x = some record') :
    e'.Faithful x ((t.goto .aborted).expected e.settings) record' := by
  have complete : Complete t.received := by
    rcases scope with early | complete
    · exact absurd early (by simp [Task.goto, TaskPoint.stage])
    · exact complete
  have isOver := (paced x t found).complete complete
  refine lossless.carried grounded piped paced undisturbed stepped (by rw [acts]; rfl)
    (by rw [acts]; rfl) found present (fun c' _ _ other => ?_) (isOver ▸ Nat.le_refl _) rfl rfl ?_
    ordered scope after
  · rw [acts] at other
    cases other
  · refine pending_congr found present (line_step piped stepped (by rw [acts]; rfl)
      (by rw [acts]; rfl) fun c' _ _ _ other => ?_) ?_
    · rw [acts] at other
      cases other
    · exact (TaskPoint.unsent_over isOver).symm

/-- The writer writes what was queued; every other step of another task leaves it there. -/
theorem content_kept (lossless : Lossless x e) (grounded : e.Grounded) (piped : e.Piped)
    (paced : ∀ y t, e.tasks y = some t → t.Paced e.settings)
    (undisturbed : Undisturbed x e a) (stepped : e.step a = some e')
    (other : a.fiber? ≠ some (.task x)) (notRestart : a.isRestart = false)
    (same : e'.tasks x = e.tasks x) {t' : Task} (present : e'.tasks x = some t')
    (ordered : Ordered t'.received) (scope : t'.point.stage ≤ 1 ∨ Complete t'.received)
    {record' : ExecutionRecord} (after : e'.db.records x = some record') :
    e'.Faithful x (t'.expected e.settings) record' := by
  have found := same.symm.trans present
  have elsewhere : ∀ c, a ≠ .task x c := by
    intro c acts
    rw [acts] at other
    exact other rfl
  by_cases writer : ∃ conditions, a = .writer conditions
  · obtain ⟨conditions, rfl⟩ := writer
    exact lossless.written grounded undisturbed stepped found same ordered scope after
  · have notWriter : a.isWriter = false := by
      cases a with
      | writer conditions => exact absurd ⟨conditions, rfl⟩ writer
      | _ => rfl
    refine lossless.carried grounded piped paced undisturbed stepped notRestart notWriter found
      present (fun c _ _ acts => absurd acts (elsewhere c)) (Nat.le_refl _) rfl rfl ?_ ordered
      scope after
    exact pending_congr found present (line_step piped stepped notRestart notWriter
      fun c _ _ _ acts => absurd acts (elsewhere c)) rfl

/-- A move of the task itself: it reads, starts the execution, sends a record or does none of
these. -/
theorem content_moved (lossless : Lossless x e) (grounded : e.Grounded) (piped : e.Piped)
    (paced : ∀ y t, e.tasks y = some t → t.Paced e.settings)
    (undisturbed : Undisturbed x e a) (stepped : e.step a = some e') {c : Choice} {t t' : Task}
    {request : Request} {served : Engine} {reply : Reply} (acts : a = .task x c)
    (found : e.tasks x = some t) (asked : t.request? e.settings x = some request)
    (done : e.serve (.task x) c request = some (served, reply))
    (move : TaskMove e.settings x c t reply t') (same : e' = served.settleTask x t t')
    (present : e'.tasks x = some t') (ordered : Ordered t'.received)
    (scope : t'.point.stage ≤ 1 ∨ Complete t'.received) {record' : ExecutionRecord}
    (after : e'.db.records x = some record') :
    e'.Faithful x (t'.expected e.settings) record' := by
  have notRestart : a.isRestart = false := by rw [acts]; rfl
  have notWriter : a.isWriter = false := by rw [acts]; rfl
  -- a step that neither reads, starts nor sends a record
  have quiet : (∀ pid pgid, t.point ≠ .markRunning pid pgid) →
      (∀ record rest, t.point ≠ .capturing record rest) → t'.received = t.received →
      t'.expected e.settings = t.expected e.settings → t'.point.unsent = t.point.unsent →
      e'.Faithful x (t'.expected e.settings) record' := by
    intro waiting sending received expected unsent
    refine lossless.carried grounded piped paced undisturbed stepped notRestart notWriter found
      present (fun _ pid pgid _ => waiting pid pgid) move.stage_le received expected ?_ ordered
      scope after
    refine pending_congr found present (line_step piped stepped notRestart notWriter ?_) unsent
    intro _ t₀ record rest _ found₀
    rw [found] at found₀
    cases found₀
    exact sending record rest
  -- behind the stream, a step counts only when the stream is complete
  have late : t'.point.stage = 2 → t'.received = t.received →
      t'.expected e.settings = t.expected e.settings →
      e'.Faithful x (t'.expected e.settings) record' := by
    intro isOver' received expected
    have complete : Complete t.received := by
      rcases scope with early | complete
      · rw [isOver'] at early
        exact absurd early (by decide)
      · exact received ▸ complete
    have isOver := (paced x t found).complete complete
    refine quiet (fun pid pgid point => ?_) (fun record rest point => ?_) received expected
      ((TaskPoint.unsent_over isOver').trans (TaskPoint.unsent_over isOver).symm)
    · rw [point] at isOver
      cases isOver
    · rw [point] at isOver
      cases isOver
  cases move with
  | @frame frame point =>
    have unchanged : e'.db = e.db := by
      simp only [Task.request?, point, Option.some.injEq] at asked
      subst asked
      rw [same, (serve_frame done).2.1]
      rfl
    exact lossless.frame_step piped paced stepped acts found point present unchanged ordered
      scope after
  | @running pid pgid stored point =>
    simp only [Task.request?, point, Option.some.injEq] at asked
    subst asked
    exact lossless.running_step grounded piped paced stepped acts found point done present
      (by rw [same]; rfl) ordered after
  | startedCancelled point =>
    have early : t.point.stage ≤ 1 := by
      rw [point]
      exact Nat.le_refl _
    exact absurd point (lossless.live t found early).2
  | @captured record rest point =>
    simp only [Task.request?, point, Option.some.injEq] at asked
    subst asked
    have fields : (t.capture rest).received = t.received ∧
        (t.capture rest).expected e.settings = t.expected e.settings := by
      cases rest <;> exact ⟨rfl, rfl⟩
    refine lossless.carried grounded piped paced undisturbed stepped notRestart notWriter found
      present (fun _ _ _ _ => by rw [point]; rintro ⟨⟩) ?_ fields.1 fields.2 ?_ ordered scope
      after
    · rw [point]
      exact (TaskPoint.afterFrame_stage (Task.capture_afterFrame t rest)).1
    · rw [same]
      exact pending_sent piped found point done
  | begun point | acquired point | checked point | launched point | notLaunched point
  | spawned point | registering point | registerLive point | registerOver point
  | registerCancelled point | registered point | starting point | startedLive point
  | startedOver point =>
    exact quiet (by simp [point]) (by simp [point]) rfl rfl
      (by rw [point]; rfl)
  | @finalOver ending => exact late ending.after_stage.1 rfl rfl
  | @finished ending => exact late ending.after_stage.1 rfl rfl
  | _ => exact late rfl rfl rfl

theorem content_step (lossless : Lossless x e) (grounded : e.Grounded) (piped : e.Piped)
    (paced : ∀ y t, e.tasks y = some t → t.Paced e.settings)
    (undisturbed : Undisturbed x e a) (stepped : e.step a = some e') {t' : Task}
    {record' : ExecutionRecord} (present : e'.tasks x = some t') (ordered : Ordered t'.received)
    (scope : t'.point.stage ≤ 1 ∨ Complete t'.received)
    (after : e'.db.records x = some record') :
    e'.Faithful x (t'.expected e'.settings) record' := by
  rw [step_settings stepped]
  cases step_task stepped x with
  | forgotten _ same =>
    rw [same] at present
    cases present
  | @made n c execution given cwd acts found own made =>
    rw [made] at present
    cases present
    exact lossless.content_made grounded piped undisturbed stepped acts found own made after
  | @released n c execution t acts _ _ found released =>
    have same := released
    rw [present, Option.some.injEq] at same
    subst same
    exact lossless.content_released grounded piped paced undisturbed stepped acts found present
      ordered scope after
  | @dropped t request acts found _ same =>
    have dropped : e'.tasks x = some (t.goto .aborted) := by
      rw [same]
      exact Function.update_self ..
    rw [present, Option.some.injEq] at dropped
    subst dropped
    exact lossless.content_dropped grounded piped paced undisturbed stepped acts found present
      ordered scope after
  | kept other _ notRestart same =>
    exact lossless.content_kept grounded piped paced undisturbed stepped other notRestart same
      present ordered scope after
  | @moved c t own request served reply acts found asked done move same =>
    have moved : e'.tasks x = some own := by
      rw [same]
      exact Function.update_self ..
    rw [present, Option.some.injEq] at moved
    subst moved
    exact lossless.content_moved grounded piped paced undisturbed stepped acts found asked done
      move same present ordered scope after

/-- Every step that disturbs nothing keeps the invariant. -/
theorem step (lossless : Lossless x e) (grounded : e.Grounded) (piped : e.Piped)
    (paced : ∀ y t, e.tasks y = some t → t.Paced e.settings)
    (undisturbed : Undisturbed x e a) (stepped : e.step a = some e') : Lossless x e' where
  making _ _ _ _ := lossless.making_step grounded piped undisturbed stepped
  live _ := lossless.live_step grounded undisturbed stepped
  settled _ := lossless.settled_step piped paced stepped
  leftover _ _ _ := lossless.leftover_step grounded piped stepped
  content _ _ := lossless.content_step grounded piped paced undisturbed stepped

end Lossless

theorem lossless (reached : engine.ReachableVia (Undisturbed x) e) : Lossless x e := by
  refine reached.invariant (Lossless x) ?_ fun t a t' before held undisturbed stepped =>
    held.step (grounded before) (piped before) (Engine.paced before) undisturbed stepped
  intro first start
  obtain ⟨_, new⟩ := start
  rw [new]
  refine ⟨?_, ?_, ?_, ?_, ?_⟩
  · intro n execution given cwd present
    cases present
  · intro t present
    cases present
  · intro t present
    cases present
  · intro t state outcome present
    cases present
  · intro t record present
    cases present

end Engine

/-- The frames of a command that ran to its end. -/
def wholeStream (pid : Nat) (pgid : Int) (chunks : List Chunk) (outcome : ExecutionOutcome) :
    List SupervisorEvent :=
  .started pid pgid :: (chunks.map fun chunk => .output chunk.1 (.ok chunk.2)) ++
    [.finished outcome]

theorem wholeStream_complete (pid : Nat) (pgid : Int) (chunks : List Chunk)
    (outcome : ExecutionOutcome) : Ordered (wholeStream pid pgid chunks outcome) ∧
      Complete (wholeStream pid pgid chunks outcome) := by
  refine ⟨.inr ⟨pid, pgid, _, rfl, fun frame member => ?_⟩, complete_append_singleton.mpr rfl⟩
  rcases List.mem_append.mp member with output | last
  · obtain ⟨chunk, _, rfl⟩ := List.mem_map.mp output
    rfl
  · rw [List.mem_singleton.mp last]
    rfl

/-- The chunks of a whole stream are those that were sent. -/
theorem chunksIn_outputs (chunks : List Chunk) (outcome : ExecutionOutcome) :
    chunksIn ((chunks.map fun chunk => .output chunk.1 (.ok chunk.2)) ++ [.finished outcome]) =
      chunks := by
  have none : chunksIn [SupervisorEvent.finished outcome] = [] := rfl
  rw [chunksIn_append, none, List.append_nil]
  induction chunks with
  | nil => rfl
  | cons chunk rest ih => exact congrArg (chunk :: ·) ih

/-- The bytes that a log of outputs counts are those that its chunks carry. -/
theorem bytes_of_payloads (outputs : List Chunk) :
    ((outputs.map Chunk.payload).map ExecutionEventPayload.bytes).sum =
      (Chunk.tagged outputs).length := by
  induction outputs with
  | nil => rfl
  | cons chunk rest ih =>
    rw [List.map_cons, List.map_cons, List.sum_cons, ih, Chunk.tagged_cons, List.length_append,
      List.length_map]
    rfl

open Engine in
/-- In every run in which no batch fails and nobody but its task makes an execution
terminal, its log ends up as the started event, outputs that carry the first bytes of the
stream up to the limit, each under its stream, one truncation note when there were more,
and the finished event; and the row counts these bytes. -/
theorem capture_lossless {x : ExecutionId} {e : Engine}
    (reached : engine.ReachableVia (Undisturbed x) e) {t : Task} {pid : Nat} {pgid : Int}
    {chunks : List Chunk} {outcome : ExecutionOutcome} (found : e.tasks x = some t)
    (received : t.received = wholeStream pid pgid chunks outcome) {row : ExecutionRow}
    (present : e.db.executions.find? x = some row) (terminal : row.state.isTerminal = true) :
    (∃ (outputs : List Chunk) (written : ExecutionOutcome),
      (e.db.log x).map (·.payload) = .started pid pgid :: outputs.map Chunk.payload ++
        (if t.limit e.settings < (Chunk.tagged chunks).length then
          [.captureTruncated (t.limit e.settings)] else []) ++ [.finished written] ∧
      Chunk.tagged outputs = (Chunk.tagged chunks).take (t.limit e.settings)) ∧
    row.capturedBytes = min (t.limit e.settings) (Chunk.tagged chunks).length := by
  have held := lossless reached
  have pace := Engine.paced reached x t found
  have record := record_of_find? present
  obtain ⟨ordered, complete⟩ := wholeStream_complete pid pgid chunks outcome
  rw [← received] at ordered complete
  have content := held.content t _ found ordered (.inr complete) record
  obtain ⟨_, written, log⟩ := content.terminal terminal
  -- the expected log, with the Started event handled
  obtain ⟨_, _, _, begun⟩ := Lossless.expected_complete pace ordered complete
  have handled : t.startedHandled = true := by
    cases unhandled : t.startedHandled with
    | true => rfl
    | false =>
      simp [Task.expected, received, wholeStream, unhandled] at begun
  have expected : t.expected e.settings =
      .started pid pgid :: pieces (t.limit e.settings) 0 chunks := by
    simp only [Task.expected, received, wholeStream, List.cons_append, handled, if_true,
      chunksIn_outputs]
  obtain ⟨outputs, captured, bytes⟩ := pieces_eq (Nat.zero_le (t.limit e.settings)) chunks
  rw [Nat.zero_add] at captured
  rw [Nat.sub_zero] at bytes
  have whole : (e.db.log x).map (·.payload) = .started pid pgid :: outputs.map Chunk.payload ++
      (if t.limit e.settings < (Chunk.tagged chunks).length then
        [.captureTruncated (t.limit e.settings)] else []) ++ [.finished written] := by
    have log : (e.db.log x).map (·.payload) = _ := log
    rw [log, expected, captured]
    simp
  refine ⟨⟨outputs, written, whole, bytes⟩, ?_⟩
  have counted := ((grounded reached).sound.wellFormed x _ record).captured
  rw [show row.capturedBytes = _ from counted]
  have split : (e.db.log x).map (fun event => event.payload.bytes) =
      ((e.db.log x).map (·.payload)).map ExecutionEventPayload.bytes := by
    rw [List.map_map]
    rfl
  rw [split, whole]
  simp only [List.map_append, List.map_cons, List.sum_append, List.sum_cons, bytes_of_payloads,
    bytes, List.length_take]
  split <;> simp [ExecutionEventPayload.bytes]

/-- The command prints four bytes of which three are kept, and ends. -/
def sampleTruncated : List Action :=
  [.task "a" { input := .frame (some (.ok (.output .stdout (.ok [104, 105])))) }, .task "a" {},
   .writer {}, .task "a" { input := .frame (some (.ok (.output .stderr (.ok [33, 34])))) },
   .writer {}, .task "a" {}, .task "a" {}, .writer {},
   .task "a" { input := .frame (some (.ok (.finished (.exited 0)))) }, .task "a" {}, .writer {},
   .writer {}, .writer {}, .writer {}, .writer {}, .writer {}, .task "a" {}, .task "a" {},
   .task "a" { now := 5 }]

theorem capture_lossless_sample :
    ∃ e t row, engine.runIf (Engine.Undisturbed "a") (.new { captureLimitBytes := 3 } sampleDatabase)
        (sampleLaunch 0 "a" ++ sampleStart "a" ++ sampleTruncated) = some e ∧
      e.tasks "a" = some t ∧ e.db.executions.find? "a" = some row ∧
      row.capturedBytes = min (t.limit e.settings) 4 ∧ t.limit e.settings = 3 := by
  have traced : (engine.runIf (Engine.Undisturbed "a")
      (.new { captureLimitBytes := 3 } sampleDatabase)
      (sampleLaunch 0 "a" ++ sampleStart "a" ++ sampleTruncated)).bind (fun e =>
        (e.tasks "a").bind fun t => (e.db.executions.find? "a").map fun row =>
          (t.received, t.limit e.settings, row.state)) =
      some (wholeStream 10 10 [(.stdout, [104, 105]), (.stderr, [33, 34])] (.exited 0), 3,
        .finished) := by decide +kernel
  obtain ⟨e, ran, traced⟩ := Option.bind_eq_some_iff.mp traced
  obtain ⟨t, found, traced⟩ := Option.bind_eq_some_iff.mp traced
  obtain ⟨row, present, seen⟩ := Option.map_eq_some_iff.mp traced
  simp only [Prod.mk.injEq] at seen
  obtain ⟨received, limit, state⟩ := seen
  have start : engine.start (.new { captureLimitBytes := 3 } sampleDatabase) := ⟨⟨rfl, rfl⟩, rfl⟩
  have reached : engine.ReachableVia (Engine.Undisturbed "a") e :=
    (System.ReachableVia.start start).run (System.runIf_runVia ran)
  refine ⟨e, t, row, ran, found, present, ?_, limit⟩
  exact (capture_lossless reached found received present (by rw [state]; rfl)).2

end Loomterm
