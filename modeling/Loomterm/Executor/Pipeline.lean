import Loomterm.Executor.Barrier
import Loomterm.Executor.Base

/-!
# Output on its way to the store

A record goes from its task over the shared queue into the writer's batch. The batch, the
barrier that the writer is at, and the queue are one line: the writer moves along it, and
every message joins at its end. A task sends its barrier behind all its records, so once
the barrier is answered nothing of its execution is left in the line.
-/

namespace Loomterm

open Database

/-! ## The line -/

/-- The owner of the barrier that the writer is at. -/
def WriterPoint.owner? : WriterPoint → Option ExecutionId
  | .flush (.barrier owner) => some owner
  | .answer owner => some owner
  | _ => none

namespace Writer

variable {w w' : Writer} {queue queue' : List CaptureMessage}

/-- The batch, the barrier that the writer is at, and the queue. -/
def line (w : Writer) (queue : List CaptureMessage) : List CaptureMessage :=
  w.records.map .record ++ (w.point.owner?.toList.map .barrier ++ queue)

theorem recordsIn_line : recordsIn (w.line queue) = w.records ++ recordsIn queue := by
  have batch : recordsIn (w.records.map .record) = w.records := by
    induction w.records with
    | nil => rfl
    | cons first rest ih => exact congrArg (first :: ·) ih
  have barrier : recordsIn (w.point.owner?.toList.map .barrier) = [] := by
    cases w.point.owner? <;> rfl
  rw [line, recordsIn_append, recordsIn_append, batch, barrier, List.nil_append]

theorem line_join (message : CaptureMessage) :
    w.line (queue ++ [message]) = w.line queue ++ [message] := by
  simp only [line, List.append_assoc]

theorem process_line (outside : w.point.owner? = none) (message : CaptureMessage) :
    (w.process message).line queue = w.line (message :: queue) := by
  cases message with
  | record record =>
    have free : (w.process (.record record)).point.owner? = none := by
      simp only [process]
      split <;> rfl
    simp only [line, free, outside]
    simp [process]
  | barrier owner =>
    simp only [line, outside]
    simp [process, WriterPoint.owner?]

/-- Taking a message from the queue leaves the line as it is. -/
theorem receive_line (received : w.receive queue = some (w', queue')) :
    w'.line queue' = w.line queue := by
  unfold receive at received
  cases point : w.point with
  | recv =>
    have outside : w.point.owner? = none := by rw [point]; rfl
    rw [point] at received
    cases queue with
    | nil => cases received
    | cons message rest =>
      cases received
      exact process_line outside message
  | poll =>
    have outside : w.point.owner? = none := by rw [point]; rfl
    have idle : ({ w with point := .flush .idle } : Writer).line queue = w.line queue := by
      simp only [line, outside]
      rfl
    rw [point] at received
    by_cases room : w.records.length < captureBatchSize
    · simp only [if_pos room] at received
      cases queue with
      | nil =>
        cases received
        exact idle
      | cons message rest =>
        cases received
        exact process_line outside message
    · simp only [if_neg room] at received
      cases received
      exact idle
  | flush cause =>
    rw [point] at received
    cases received
  | answer owner =>
    rw [point] at received
    cases received

/-- A flush takes the batch off the line. -/
theorem flush_line {cause : FlushCause} (point : w.point = .flush cause)
    (pendingError : Option String) :
    w.line queue = w.records.map .record ++
      (⟨[], pendingError, afterFlush cause⟩ : Writer).line queue := by
  cases cause <;> simp [line, point, afterFlush, WriterPoint.owner?]

/-- An answer takes the barrier off the line. -/
theorem takeError_line {owner : ExecutionId} (point : w.point = .answer owner)
    (empty : w.records = []) : w.line queue = .barrier owner :: w.takeError.1.line queue := by
  simp [line, point, takeError, WriterPoint.owner?, empty]

/-- The writer answers a barrier with an empty batch. -/
theorem receive_answer (received : w.receive queue = some (w', queue')) (owner : ExecutionId) :
    w'.point ≠ .answer owner := by
  have processed : ∀ message, (w.process message).point ≠ .answer owner := by
    intro message
    cases message with
    | record record =>
      simp only [process]
      split <;> rintro ⟨⟩
    | barrier other => rintro ⟨⟩
  unfold receive at received
  cases point : w.point with
  | recv =>
    rw [point] at received
    cases queue with
    | nil => cases received
    | cons message rest =>
      cases received
      exact processed message
  | poll =>
    rw [point] at received
    by_cases room : w.records.length < captureBatchSize
    · simp only [if_pos room] at received
      cases queue with
      | nil =>
        cases received
        rintro ⟨⟩
      | cons message rest =>
        cases received
        exact processed message
    · simp only [if_neg room] at received
      cases received
      rintro ⟨⟩
  | flush cause =>
    rw [point] at received
    cases received
  | answer owner =>
    rw [point] at received
    cases received

end Writer

/-! ## How far a task is with its stream -/

namespace TaskPoint

/-- The records of the last frame that are still to be sent. -/
def unsent : TaskPoint → List CaptureRecord
  | .capturing record rest => record :: rest
  | _ => []

/-- Before the stream, in it, or after it. -/
def stage : TaskPoint → Nat
  | .starting | .acquire | .check | .launch | .launchFailed _ | .sendSpawn | .registerLock
  | .registerCheck | .registerCancel | .registerInsert => 0
  | .reading | .startedLock .. | .startedCheck .. | .startedCancel | .markRunning ..
  | .capturing .. => 1
  | _ => 2

/-- The points behind an answered barrier at which the outcome is written. -/
def passed : TaskPoint → Bool
  | .finalCheck _ | .finalFinish _ => true
  | _ => false

theorem stage_le (point : TaskPoint) : point.stage ≤ 2 := by
  cases point <;> simp [stage]

theorem afterFrame_stage {point : TaskPoint} (after : point.afterFrame = true) :
    1 ≤ point.stage ∧ point.passed = false := by
  cases point <;> first | (cases after; done) | simp [stage, passed]

theorem unsent_stage {point : TaskPoint} {record : CaptureRecord} (member : record ∈ point.unsent) :
    point.stage = 1 := by
  cases point <;> first | rfl | cases member

theorem unsent_over {point : TaskPoint} (isOver : point.stage = 2) : point.unsent = [] := by
  cases unsent : point.unsent with
  | nil => rfl
  | cons record rest =>
    have member : record ∈ point.unsent := unsent ▸ List.mem_cons_self
    have stage := unsent_stage member
    omega

end TaskPoint

theorem Ending.after_stage (ending : Ending) :
    ending.after.stage = 2 ∧ ending.after.passed = false ∧ ending.after.unsent = [] := by
  cases ending <;> exact ⟨rfl, rfl, rfl⟩

theorem captureOutput_executionId {id : ExecutionId} {now later : Int} {stream : OutputStream}
    {data : Bytes} {captureLimit captured : Nat} {truncated : Bool} {record : CaptureRecord}
    (member : record ∈ captureOutput id now later stream data captureLimit captured truncated) :
    record.executionId = id := by
  unfold captureOutput at member
  rcases List.mem_append.mp member with output | note
  · split at output
    · rw [List.mem_singleton.mp output]
      rfl
    · cases output
  · split at note
    · rw [List.mem_singleton.mp note]
      rfl
    · cases note

theorem Task.capture_unsent (t : Task) (records : List CaptureRecord) :
    (t.capture records).point.unsent = records := by
  cases records <;> rfl

/-- The records of a frame are of the task's own execution. -/
theorem Task.receive_unsent {settings : Settings} {id : ExecutionId} {c : Choice} {t : Task}
    {frame : Option (Except Error SupervisorEvent)} {record : CaptureRecord}
    (member : record ∈ (t.receive settings id c frame).point.unsent) : record.executionId = id := by
  cases frame with
  | none => cases member
  | some frame =>
    cases frame with
    | error e => cases member
    | ok event =>
      cases event with
      | started pid pgid => cases member
      | finished outcome => cases member
      | output stream data =>
        cases data with
        | error e => cases member
        | ok data =>
          simp only [Task.receive, Task.capture_unsent] at member
          exact captureOutput_executionId member

namespace TaskMove

variable {settings : Settings} {id : ExecutionId} {c : Choice} {t t' : Task} {reply : Reply}

/-- A task never goes back to an earlier stage. -/
theorem stage_le (move : TaskMove settings id c t reply t') : t.point.stage ≤ t'.point.stage := by
  cases move with
  | @frame given point =>
    rw [point]
    exact (TaskPoint.afterFrame_stage (Task.receive_afterFrame settings id c t given)).1
  | @captured record rest point =>
    rw [point]
    exact (TaskPoint.afterFrame_stage (Task.capture_afterFrame t rest)).1
  | @finalOver ending =>
    rw [show (t.goto ending.after).point.stage = 2 from ending.after_stage.1]
    exact t.point.stage_le
  | @finished ending =>
    rw [show (t.goto ending.after).point.stage = 2 from ending.after_stage.1]
    exact t.point.stage_le
  | storeFailed => exact t.point.stage_le
  | broke => exact t.point.stage_le
  | begun point | acquired point | refused point | checked point | skipped point
  | launched point | notLaunched point | launchReported point | spawned point
  | registering point | registerLive point | registerOver point | registerCancelled point
  | registered point | starting point | startedLive point | startedOver point
  | startedCancelled point | running point | flushing point | flushed point | finalLive point
  | removed point | joined point | reaped point | missing point | pruned point | reported point
  | failedLive point | failedOver point | failedUnread point | failedFinished point
  | cleaned point | ended point =>
    rw [point]
    simp [TaskPoint.stage, Task.goto]

/-- What a task has still to send comes from its own frames. -/
theorem unsent (move : TaskMove settings id c t reply t')
    (own : ∀ record ∈ t.point.unsent, record.executionId = id) :
    ∀ record ∈ t'.point.unsent, record.executionId = id := by
  intro record member
  cases move with
  | frame => exact Task.receive_unsent member
  | @captured first rest point =>
    rw [Task.capture_unsent] at member
    rw [point] at own
    exact own record (List.mem_cons_of_mem _ member)
  | @finalOver ending =>
    rw [show (t.goto ending.after).point.unsent = [] from ending.after_stage.2.2] at member
    cases member
  | @finished ending =>
    rw [show (t.goto ending.after).point.unsent = [] from ending.after_stage.2.2] at member
    cases member
  | _ => cases member

/-- Only an answered barrier takes a task to the writing of its outcome. -/
theorem passed (move : TaskMove settings id c t reply t') (passed : t'.point.passed = true) :
    t.point.passed = true ∨ t.request? settings id = some (.flushed id) := by
  cases move with
  | flushed point => exact .inr (by simp only [Task.request?, point])
  | finalLive point => exact .inl (by rw [point]; rfl)
  | @frame given =>
    rw [(TaskPoint.afterFrame_stage (Task.receive_afterFrame settings id c t given)).2] at passed
    cases passed
  | @captured record rest =>
    rw [(TaskPoint.afterFrame_stage (Task.capture_afterFrame t rest)).2] at passed
    cases passed
  | @finalOver ending =>
    rw [show (t.goto ending.after).point.passed = false from ending.after_stage.2.1] at passed
    cases passed
  | @finished ending =>
    rw [show (t.goto ending.after).point.passed = false from ending.after_stage.2.1] at passed
    cases passed
  | _ => cases passed

end TaskMove

/-! ## The pipeline of the engine -/

namespace Engine

variable {e e' : Engine} {a : Action} {x : ExecutionId}

/-- Records and barriers on their way through the writer. -/
def line (e : Engine) : List CaptureMessage := e.writer.line e.queue

/-- The records of `x` on their way to the store: in the line, then in its task. -/
def pending (e : Engine) (x : ExecutionId) : List CaptureRecord :=
  recordsOf x (recordsIn e.line) ++ (e.tasks x).elim [] fun t => t.point.unsent

/-- A message is a record at hand, or the barrier of the task that sends it. -/
theorem asking_capture {message : CaptureMessage} (asked : e.asking a = some (.capture message)) :
    ∃ y c t, a = .task y c ∧ e.tasks y = some t ∧
      ((∃ record rest, t.point = .capturing record rest ∧ message = .record record) ∨
        ∃ ending, t.point = .barrier ending ∧ message = .barrier y) := by
  cases a with
  | task id c =>
    obtain ⟨t, found, asked⟩ := Option.bind_eq_some_iff.mp asked
    refine ⟨id, c, t, rfl, found, ?_⟩
    cases point : t.point <;> simp only [Task.request?, point] at asked <;> cases asked
    · exact .inl ⟨_, _, rfl, rfl⟩
    · exact .inr ⟨_, rfl, rfl⟩
  | call n c =>
    obtain ⟨point, found, asked⟩ := Option.bind_eq_some_iff.mp asked
    cases point with
    | returned result => cases asked
    | _ => cases asked
  | _ => cases asked

/-- What a step does to the line. -/
inductive LineStep (e : Engine) (a : Action) (e' : Engine) : Prop
  | joined {message : CaptureMessage} : e.asking a = some (.capture message) →
      e'.line = e.line ++ [message] → e'.answers = e.answers → LineStep e a e'
  | left {gone : List CaptureMessage} : a.isRestart = false → e.line = gone ++ e'.line →
      e'.answers = e.answers → LineStep e a e'
  | answered {owner : ExecutionId} {result : Except Error Unit} : a.isRestart = false →
      e.line = .barrier owner :: e'.line →
      e'.answers = Function.update e.answers owner (some result) → LineStep e a e'
  | forgotten {c : Choice} : a = .restart c → e' = e.restart c → LineStep e a e'

/-- What holds of the records on their way: they are their own task's, which has come to
its stream; a barrier is behind all records of its owner, and comes when the stream is
over; and only an answered barrier takes a task to the writing of its outcome. -/
structure Piped (e : Engine) : Prop where
  own : ∀ x t, e.tasks x = some t → ∀ record ∈ t.point.unsent, record.executionId = x
  streamed : ∀ record ∈ recordsIn e.line, ∃ t, e.tasks record.executionId = some t ∧
    1 ≤ t.point.stage
  barred : ∀ x, .barrier x ∈ e.line ∨ e.answers x ≠ none →
    ∃ t, e.tasks x = some t ∧ t.point.stage = 2
  behind : ∀ x before after, e.line = before ++ .barrier x :: after →
    recordsOf x (recordsIn after) = []
  answering : ∀ x, e.writer.point = .answer x → e.writer.records = []
  answered : ∀ x, e.answers x ≠ none → recordsOf x (recordsIn e.line) = []
  passed : ∀ x t, e.tasks x = some t → t.point.passed = true → e.answers x ≠ none

theorem step_line (piped : e.Piped) (stepped : e.step a = some e') : LineStep e a e' := by
  cases step_capture stepped with
  | @queued message asked queue writer answers =>
    refine .joined asked ?_ answers
    rw [line, line, writer, queue]
    exact Writer.line_join message
  | received acts received same =>
    subst same
    have nothing : e.line = [] ++ _ := (Writer.receive_line received).symm
    exact .left (by rw [acts]; rfl) nothing rfl
  | wrote acts point _ _ same =>
    subst same
    exact .left (by rw [acts]; rfl) (Writer.flush_line point _) rfl
  | failed acts point _ _ same =>
    subst same
    exact .left (by rw [acts]; rfl) (Writer.flush_line point _) rfl
  | empty acts point none same =>
    subst same
    have whole : e.line = _ := Writer.flush_line point e.writer.pendingError
    rw [none, List.map_nil] at whole
    refine .left (by rw [acts]; rfl) (show e.line = [] ++ _ from ?_) rfl
    rw [whole, line]
    simp only [none]
  | @answered _ owner acts point same =>
    subst same
    exact .answered (by rw [acts]; rfl)
      (Writer.takeError_line point (piped.answering owner point)) rfl
  | forgotten acts same => exact .forgotten acts same
  | kept notRestart _ queue writer answers =>
    have nothing : e.line = [] ++ e'.line := by
      rw [line, line, writer, queue]
      rfl
    exact .left notRestart nothing answers

namespace Piped

/-- A task keeps its place in the stream, or gets on. -/
theorem stage_step (grounded : e.Grounded) (stepped : e.step a = some e')
    (notRestart : a.isRestart = false) {t : Task} (found : e.tasks x = some t) :
    ∃ t', e'.tasks x = some t' ∧ t.point.stage ≤ t'.point.stage := by
  cases step_task stepped x with
  | @moved _ _ t' _ served _ _ found' _ _ move same =>
    rw [found] at found'
    cases found'
    refine ⟨t', ?_, move.stage_le⟩
    rw [same]
    exact Function.update_self ..
  | dropped _ found' _ same =>
    rw [found] at found'
    cases found'
    refine ⟨t.goto .aborted, ?_, t.point.stage_le⟩
    rw [same]
    exact Function.update_self ..
  | made _ spawning own =>
    have none := (grounded.spawning _ _ _ _ spawning).1
    rw [own, found] at none
    cases none
  | released _ _ _ found' after =>
    rw [found] at found'
    cases found'
    exact ⟨_, after, Nat.le_refl _⟩
  | forgotten acts =>
    rw [acts] at notRestart
    cases notRestart
  | kept _ _ _ same => exact ⟨t, same.trans found, Nat.le_refl _⟩

theorem own_step (piped : e.Piped) (stepped : e.step a = some e') {t : Task}
    (present : e'.tasks x = some t) : ∀ record ∈ t.point.unsent, record.executionId = x := by
  cases step_task stepped x with
  | moved _ found _ _ move same =>
    rw [same, show (settleTask _ x _ _).tasks x = some _ from Function.update_self ..] at present
    cases present
    exact move.unsent (piped.own x _ found)
  | dropped _ _ _ same =>
    rw [same, show (e.dropTask x _ _).tasks x = some _ from Function.update_self ..] at present
    cases present
    exact fun record member => by cases member
  | made _ _ _ made =>
    rw [made] at present
    cases present
    exact fun record member => by cases member
  | @released _ _ _ before _ _ _ found after =>
    rw [after] at present
    cases present
    exact piped.own x before found
  | forgotten _ same =>
    rw [same] at present
    cases present
  | kept _ _ _ same => exact piped.own x t (same ▸ present)

/-- A task that still sends records has no barrier in the line, and none answered. -/
theorem unbarred (piped : e.Piped) {t : Task} (found : e.tasks x = some t)
    (stage : t.point.stage = 1) : .barrier x ∉ e.line ∧ e.answers x = none := by
  have out : ¬ (.barrier x ∈ e.line ∨ e.answers x ≠ none) := by
    intro barred
    obtain ⟨t', found', isOver⟩ := piped.barred x barred
    rw [found] at found'
    cases found'
    omega
  rw [not_or, not_not] at out
  exact out

theorem streamed_step (piped : e.Piped) (grounded : e.Grounded) (stepped : e.step a = some e') :
    ∀ record ∈ recordsIn e'.line, ∃ t, e'.tasks record.executionId = some t ∧
      1 ≤ t.point.stage := by
  have kept : a.isRestart = false → ∀ record ∈ recordsIn e.line,
      ∃ t, e'.tasks record.executionId = some t ∧ 1 ≤ t.point.stage := by
    intro notRestart record member
    obtain ⟨t, found, stage⟩ := piped.streamed record member
    obtain ⟨t', found', later⟩ := stage_step grounded stepped notRestart found
    exact ⟨t', found', stage.trans later⟩
  cases step_line piped stepped with
  | @joined message asked joined _ =>
    obtain ⟨y, c, t, acts, found, sending⟩ := asking_capture asked
    have notRestart : a.isRestart = false := by rw [acts]; rfl
    intro record member
    rw [joined, recordsIn_append] at member
    rcases List.mem_append.mp member with old | new
    · exact kept notRestart record old
    · rcases sending with ⟨own, rest, point, rfl⟩ | ⟨_, _, rfl⟩
      · have same : record = own := List.mem_singleton.mp new
        have id : record.executionId = y := by
          rw [same]
          exact piped.own y t found own (by rw [point]; exact List.mem_cons_self)
        obtain ⟨t', found', later⟩ := stage_step grounded stepped notRestart found
        rw [point] at later
        exact ⟨t', id ▸ found', later⟩
      · cases new
  | left notRestart left _ =>
    intro record member
    refine kept notRestart record ?_
    rw [left, recordsIn_append]
    exact List.mem_append_right _ member
  | answered notRestart left _ =>
    intro record member
    refine kept notRestart record ?_
    rw [left]
    exact member
  | forgotten _ same =>
    rw [same]
    intro record member
    cases member

theorem barred_step (piped : e.Piped) (grounded : e.Grounded) (stepped : e.step a = some e')
    (barred : .barrier x ∈ e'.line ∨ e'.answers x ≠ none) :
    ∃ t, e'.tasks x = some t ∧ t.point.stage = 2 := by
  have kept : a.isRestart = false → (∃ t, e.tasks x = some t ∧ t.point.stage = 2) →
      ∃ t, e'.tasks x = some t ∧ t.point.stage = 2 := by
    rintro notRestart ⟨t, found, stage⟩
    obtain ⟨t', found', later⟩ := stage_step grounded stepped notRestart found
    exact ⟨t', found', Nat.le_antisymm t'.point.stage_le (stage ▸ later)⟩
  cases step_line piped stepped with
  | @joined message asked joined answers =>
    obtain ⟨y, c, t, acts, found, sending⟩ := asking_capture asked
    refine kept (by rw [acts]; rfl) ?_
    rcases barred with member | answered
    · rw [joined] at member
      rcases List.mem_append.mp member with old | new
      · exact piped.barred x (.inl old)
      · rw [List.mem_singleton] at new
        rcases sending with ⟨own, rest, _, same⟩ | ⟨ending, point, same⟩
        · rw [same] at new
          cases new
        · rw [same] at new
          cases new
          exact ⟨t, found, by rw [point]; rfl⟩
    · exact piped.barred x (.inr (answers ▸ answered))
  | left notRestart left answers =>
    refine kept notRestart (piped.barred x ?_)
    rw [left, ← answers]
    exact barred.imp_left (List.mem_append_right _)
  | @answered owner _ notRestart left answers =>
    refine kept notRestart (piped.barred x ?_)
    rw [left]
    rcases barred with member | answered
    · exact .inl (List.mem_cons_of_mem _ member)
    · by_cases own : x = owner
      · subst own
        exact .inl List.mem_cons_self
      · rw [answers, Function.update_of_ne own] at answered
        exact .inr answered
  | forgotten _ same =>
    rw [same] at barred
    rcases barred with member | answered
    · cases member
    · exact absurd rfl answered

/-- No record of an execution joins the line behind its barrier. -/
theorem not_joined (piped : e.Piped) {message : CaptureMessage}
    (asked : e.asking a = some (.capture message))
    (barred : .barrier x ∈ e.line ∨ e.answers x ≠ none) :
    recordsOf x (recordsIn [message]) = [] := by
  obtain ⟨y, c, t, acts, found, ⟨own, rest, point, rfl⟩ | ⟨_, _, rfl⟩⟩ := asking_capture asked
  · have id : own.executionId = y :=
      piped.own y t found own (by rw [point]; exact List.mem_cons_self)
    have other : own.executionId ≠ x := by
      intro same
      obtain ⟨absent, unanswered⟩ := piped.unbarred found (by rw [point]; rfl)
      rw [← id, same] at absent unanswered
      rcases barred with member | answered
      · exact absent member
      · exact answered unanswered
    simp [recordsIn, recordsOf, CaptureMessage.record?, other]
  · rfl

theorem behind_step (piped : e.Piped) (stepped : e.step a = some e')
    {before after : List CaptureMessage} (split : e'.line = before ++ .barrier x :: after) :
    recordsOf x (recordsIn after) = [] := by
  cases step_line piped stepped with
  | @joined message asked joined _ =>
    rw [joined] at split
    rcases List.eq_nil_or_concat after with rfl | ⟨init, last, rfl⟩
    · rfl
    · have parts : e.line ++ [message] = (before ++ .barrier x :: init) ++ [last] := by
        rw [split]
        simp
      obtain ⟨whole, same⟩ := List.append_inj' parts rfl
      cases same
      have member : .barrier x ∈ e.line := by
        rw [whole]
        exact List.mem_append_right _ List.mem_cons_self
      rw [List.concat_eq_append, recordsIn_append, recordsOf_append, piped.behind x before init whole,
        piped.not_joined asked (.inl member)]
      rfl
  | @left gone _ left _ =>
    refine piped.behind x (gone ++ before) after ?_
    rw [left, split, List.append_assoc]
  | @answered owner _ _ left _ =>
    refine piped.behind x (.barrier owner :: before) after ?_
    rw [left, split]
    rfl
  | forgotten _ same =>
    rw [same] at split
    exact absurd split.symm (List.append_ne_nil_of_right_ne_nil _ (List.cons_ne_nil _ _))

theorem answering_step (piped : e.Piped) (stepped : e.step a = some e')
    (answering : e'.writer.point = .answer x) : e'.writer.records = [] := by
  cases step_capture stepped with
  | queued _ _ writer _ =>
    rw [writer] at answering ⊢
    exact piped.answering x answering
  | received _ received same =>
    subst same
    exact absurd answering (Writer.receive_answer received x)
  | wrote _ _ _ _ same =>
    subst same
    rfl
  | failed _ _ _ _ same =>
    subst same
    rfl
  | empty _ _ none same =>
    subst same
    exact none
  | answered _ _ same =>
    subst same
    cases answering
  | forgotten _ same =>
    rw [same]
    rfl
  | kept _ _ _ writer _ =>
    rw [writer] at answering ⊢
    exact piped.answering x answering

theorem answered_step (piped : e.Piped) (stepped : e.step a = some e')
    (answered : e'.answers x ≠ none) : recordsOf x (recordsIn e'.line) = [] := by
  cases step_line piped stepped with
  | @joined message asked joined answers =>
    rw [answers] at answered
    rw [joined, recordsIn_append, recordsOf_append, piped.answered x answered,
      piped.not_joined asked (.inr answered)]
    rfl
  | left _ left answers =>
    rw [answers] at answered
    have none := piped.answered x answered
    rw [left, recordsIn_append, recordsOf_append, List.append_eq_nil_iff] at none
    exact none.2
  | @answered owner _ _ left answers =>
    by_cases own : x = owner
    · subst own
      exact piped.behind x [] e'.line left
    · rw [answers, Function.update_of_ne own] at answered
      have none := piped.answered x answered
      rw [left] at none
      exact none
  | forgotten _ same =>
    rw [same] at answered
    exact absurd rfl answered

/-- Once given, an answer stays. -/
theorem answers_step (piped : e.Piped) (stepped : e.step a = some e')
    (notRestart : a.isRestart = false) (answered : e.answers x ≠ none) :
    e'.answers x ≠ none := by
  cases step_line piped stepped with
  | joined _ _ answers =>
    rw [answers]
    exact answered
  | left _ _ answers =>
    rw [answers]
    exact answered
  | @answered owner _ _ _ answers =>
    by_cases own : x = owner
    · subst own
      rw [answers, Function.update_self]
      exact Option.some_ne_none _
    · rw [answers, Function.update_of_ne own]
      exact answered
  | forgotten acts =>
    rw [acts] at notRestart
    cases notRestart

theorem passed_step (piped : e.Piped) (stepped : e.step a = some e') {t : Task}
    (present : e'.tasks x = some t) (passed : t.point.passed = true) : e'.answers x ≠ none := by
  cases step_task stepped x with
  | @moved c _ _ _ served _ acts found asked done move same =>
    have notRestart : a.isRestart = false := by rw [acts]; rfl
    refine piped.answers_step stepped notRestart ?_
    rw [same, show (settleTask _ x _ _).tasks x = some _ from Function.update_self ..] at present
    cases present
    rcases move.passed passed with before | waiting
    · exact piped.passed x _ found before
    · rw [asked] at waiting
      cases waiting
      obtain ⟨result, answer, _⟩ := Option.map_eq_some_iff.mp done
      rw [answer]
      exact Option.some_ne_none _
  | dropped _ _ _ same =>
    rw [same, show (e.dropTask x _ _).tasks x = some _ from Function.update_self ..] at present
    cases present
    cases passed
  | made _ _ _ made =>
    rw [made] at present
    cases present
    cases passed
  | @released _ _ _ before acts _ _ found after =>
    rw [after] at present
    cases present
    exact piped.answers_step stepped (by rw [acts]; rfl) (piped.passed x before found passed)
  | forgotten _ same =>
    rw [same] at present
    cases present
  | kept _ _ notRestart same =>
    exact piped.answers_step stepped notRestart (piped.passed x t (same ▸ present) passed)

theorem step (piped : e.Piped) (grounded : e.Grounded) (stepped : e.step a = some e') :
    e'.Piped where
  own _ _ := piped.own_step stepped
  streamed := piped.streamed_step grounded stepped
  barred _ := piped.barred_step grounded stepped
  behind _ _ _ := piped.behind_step stepped
  answering _ := piped.answering_step stepped
  answered _ := piped.answered_step stepped
  passed _ _ := piped.passed_step stepped

end Piped

theorem piped {cond : Engine → Action → Prop} (reached : engine.ReachableVia cond e) :
    e.Piped := by
  refine reached.invariant Piped ?_ fun t a t' before held _ stepped =>
    held.step (grounded before) stepped
  intro first start
  obtain ⟨_, new⟩ := start
  rw [new]
  refine ⟨?_, ?_, ?_, ?_, fun _ _ => rfl, ?_, ?_⟩
  · intro x t present
    cases present
  · intro record member
    cases member
  · intro x barred
    rcases barred with member | answered
    · cases member
    · exact absurd rfl answered
  · intro x before after split
    exact absurd split.symm (List.append_ne_nil_of_right_ne_nil _ (List.cons_ne_nil _ _))
  · intro x answered
    exact absurd rfl answered
  · intro x t present
    cases present

end Engine

end Loomterm
