import Loomterm.Executor.Pipeline

/-!
# What a task makes of its frames

The bytes that a task has seen decide what it captures of the next chunk. Here the chunks
of a whole stream are summed up: what is captured of them is the first `limit` bytes, each
under its stream, and one note when there were more.
-/

namespace Loomterm

/-! ## Chunks -/

/-- One Output frame, decoded. -/
abbrev Chunk := OutputStream × Bytes

namespace Chunk

/-- The bytes of some chunks, each with the stream that it came from. -/
def tagged (chunks : List Chunk) : List (OutputStream × UInt8) :=
  chunks.flatMap fun chunk => chunk.2.map (chunk.1, ·)

def payload (chunk : Chunk) : ExecutionEventPayload := .output chunk.1 chunk.2

@[simp] theorem tagged_nil : tagged [] = [] := rfl

@[simp] theorem tagged_cons (chunk : Chunk) (rest : List Chunk) :
    tagged (chunk :: rest) = chunk.2.map (chunk.1, ·) ++ tagged rest := rfl

@[simp] theorem tagged_append (first second : List Chunk) :
    tagged (first ++ second) = tagged first ++ tagged second :=
  List.flatMap_append

end Chunk

/-- What is captured of a chunk after `captured` bytes: see `captureOutput`. -/
def piece (limit captured : Nat) (chunk : Chunk) : List ExecutionEventPayload :=
  let persist := min (limit - captured) chunk.2.length
  (if 0 < persist then [.output chunk.1 (chunk.2.take persist)] else []) ++
    if persist < chunk.2.length ∧ ¬ limit < captured then [.captureTruncated limit] else []

/-- What is captured of some chunks, one after another. -/
def pieces (limit : Nat) : Nat → List Chunk → List ExecutionEventPayload
  | _, [] => []
  | captured, chunk :: rest =>
      piece limit captured chunk ++ pieces limit (captured + chunk.2.length) rest

/-- The records of a frame carry the pieces of its chunk. -/
theorem captureOutput_payload (id : ExecutionId) (now later : Int) (stream : OutputStream)
    (data : Bytes) (limit captured : Nat) :
    (captureOutput id now later stream data limit captured (decide (limit < captured))).map
      CaptureRecord.payload = piece limit captured (stream, data) := by
  unfold captureOutput piece
  rw [List.map_append]
  congr 1
  · split <;> rfl
  · simp only [decide_eq_false_iff_not]
    split <;> rfl

theorem pieces_append (limit captured : Nat) (first second : List Chunk) :
    pieces limit captured (first ++ second) = pieces limit captured first ++
      pieces limit (captured + (Chunk.tagged first).length) second := by
  induction first generalizing captured with
  | nil => simp [pieces]
  | cons chunk rest ih =>
    have length : captured + chunk.2.length + (Chunk.tagged rest).length =
        captured + (Chunk.tagged (chunk :: rest)).length := by
      simp [Nat.add_assoc]
    simp only [List.cons_append, pieces, ih, List.append_assoc, length]

/-- Nothing is captured once the limit is passed. -/
theorem pieces_past {limit captured : Nat} (past : limit < captured) (chunks : List Chunk) :
    pieces limit captured chunks = [] := by
  induction chunks generalizing captured with
  | nil => rfl
  | cons chunk rest ih =>
    have none : limit - captured = 0 := by omega
    simp only [pieces, piece, none, Nat.zero_min, past, not_true, and_false, if_false,
      Nat.lt_irrefl, List.append_nil, List.nil_append]
    exact ih (by omega)

/-- What is captured of a stream: its first bytes up to the limit, each under its stream,
and one note behind them when there were more. -/
theorem pieces_eq {limit captured : Nat} (within : captured ≤ limit) (chunks : List Chunk) :
    ∃ outputs : List Chunk,
      pieces limit captured chunks = outputs.map Chunk.payload ++
        (if limit < captured + (Chunk.tagged chunks).length then [.captureTruncated limit]
          else []) ∧
      Chunk.tagged outputs = (Chunk.tagged chunks).take (limit - captured) := by
  induction chunks generalizing captured with
  | nil =>
    refine ⟨[], ?_, by simp⟩
    have inside : ¬ limit < captured + (Chunk.tagged []).length := by simp; omega
    rw [if_neg inside]
    rfl
  | cons chunk rest ih =>
    have unpassed : ¬ limit < captured := by omega
    have total : (Chunk.tagged (chunk :: rest)).length =
        chunk.2.length + (Chunk.tagged rest).length := by simp
    by_cases fits : captured + chunk.2.length ≤ limit
    · -- the whole chunk is captured
      obtain ⟨outputs, tail, bytes⟩ := ih fits
      have persist : min (limit - captured) chunk.2.length = chunk.2.length := by omega
      have sum : captured + (Chunk.tagged (chunk :: rest)).length =
          captured + chunk.2.length + (Chunk.tagged rest).length := by rw [total]; omega
      have taken : (Chunk.tagged (chunk :: rest)).take (limit - captured) =
          chunk.2.map (chunk.1, ·) ++ Chunk.tagged outputs := by
        rw [bytes, Chunk.tagged_cons, List.take_append, List.length_map,
          List.take_of_length_le (by simp; omega)]
        congr 2
        omega
      simp only [pieces, piece, persist, Nat.lt_irrefl, false_and, if_false, List.append_nil, tail,
        sum]
      by_cases empty : 0 < chunk.2.length
      · refine ⟨chunk :: outputs, ?_, taken.symm⟩
        rw [if_pos empty, List.take_length]
        rfl
      · have nothing : chunk.2 = [] := List.length_eq_zero_iff.mp (by omega)
        refine ⟨outputs, ?_, ?_⟩
        · rw [if_neg empty]
          rfl
        · rw [taken, nothing]
          rfl
    · -- the chunk is cut, and noted
      have persist : min (limit - captured) chunk.2.length = limit - captured := by omega
      have short : limit - captured < chunk.2.length := by omega
      have beyond : limit < captured + (Chunk.tagged (chunk :: rest)).length := by
        rw [total]
        omega
      have taken : (Chunk.tagged (chunk :: rest)).take (limit - captured) =
          (chunk.2.take (limit - captured)).map (chunk.1, ·) := by
        rw [Chunk.tagged_cons, List.take_append_of_le_length (by simp; omega), List.map_take]
      simp only [pieces, piece, persist, short, unpassed, not_false_eq_true, and_self, if_true,
        beyond, pieces_past (show limit < captured + chunk.2.length by omega), List.append_nil]
      by_cases room : 0 < limit - captured
      · refine ⟨[(chunk.1, chunk.2.take (limit - captured))], ?_, ?_⟩
        · rw [if_pos room]
          rfl
        · rw [taken]
          simp
      · refine ⟨[], ?_, ?_⟩
        · rw [if_neg room]
          rfl
        · rw [taken, show limit - captured = 0 by omega]
          rfl

/-! ## Frames -/

namespace SupervisorEvent

/-- The chunk of an Output frame that could be decoded. -/
def chunk? : SupervisorEvent → Option Chunk
  | .output stream (.ok data) => some (stream, data)
  | _ => none

def isStarted : SupervisorEvent → Bool
  | .started .. => true
  | _ => false

def isFinished : SupervisorEvent → Bool
  | .finished _ => true
  | _ => false

end SupervisorEvent

/-- The chunks among some frames. -/
def chunksIn (frames : List SupervisorEvent) : List Chunk := frames.filterMap SupervisorEvent.chunk?

@[simp] theorem chunksIn_append (first second : List SupervisorEvent) :
    chunksIn (first ++ second) = chunksIn first ++ chunksIn second :=
  List.filterMap_append

/-- Started comes first, and only once. -/
def Ordered (frames : List SupervisorEvent) : Prop :=
  frames = [] ∨ ∃ pid pgid rest, frames = .started pid pgid :: rest ∧
    ∀ frame ∈ rest, frame.isStarted = false

/-- The last frame is Finished. -/
def Complete (frames : List SupervisorEvent) : Prop :=
  ∃ init last, frames = init ++ [last] ∧ last.isFinished = true

theorem not_complete_nil : ¬ Complete [] := by
  rintro ⟨init, last, whole, _⟩
  exact absurd whole.symm (List.append_ne_nil_of_right_ne_nil _ (List.cons_ne_nil _ _))

theorem complete_append_singleton {frames : List SupervisorEvent} {frame : SupervisorEvent} :
    Complete (frames ++ [frame]) ↔ frame.isFinished = true := by
  constructor
  · rintro ⟨init, last, whole, finished⟩
    have same := (List.append_inj' whole rfl).2
    rw [List.cons.injEq] at same
    rw [same.1]
    exact finished
  · intro finished
    exact ⟨frames, frame, rfl, finished⟩

theorem ordered_append_singleton {frames : List SupervisorEvent} {frame : SupervisorEvent} :
    Ordered (frames ++ [frame]) ↔
      (frames = [] ∧ frame.isStarted = true) ∨
        (frames ≠ [] ∧ Ordered frames ∧ frame.isStarted = false) := by
  cases frames with
  | nil =>
    constructor
    · intro ordered
      rcases ordered with none | ⟨pid, pgid, rest, whole, _⟩
      · cases none
      · cases whole
        exact .inl ⟨rfl, rfl⟩
    · rintro (⟨_, started⟩ | ⟨absent, _⟩)
      · cases frame with
        | started pid pgid => exact .inr ⟨pid, pgid, [], rfl, fun _ member => by cases member⟩
        | output => cases started
        | finished => cases started
      · exact absurd rfl absent
  | cons first rest =>
    constructor
    · intro ordered
      rcases ordered with none | ⟨pid, pgid, tail, whole, later⟩
      · cases none
      · obtain ⟨rfl, rfl⟩ := List.cons.inj whole
        refine .inr ⟨List.cons_ne_nil _ _, .inr ⟨pid, pgid, rest, rfl, ?_⟩, ?_⟩
        · exact fun own member => later own (List.mem_append_left _ member)
        · exact later frame (List.mem_append_right _ (List.mem_singleton_self frame))
    · rintro (⟨none, _⟩ | ⟨_, ordered, other⟩)
      · cases none
      · rcases ordered with none | ⟨pid, pgid, tail, whole, later⟩
        · cases none
        · obtain ⟨rfl, rfl⟩ := List.cons.inj whole
          refine .inr ⟨pid, pgid, rest ++ [frame], rfl, fun own member => ?_⟩
          rcases List.mem_append.mp member with old | new
          · exact later own old
          · rw [List.mem_singleton.mp new]
            exact other

/-! ## The task -/

namespace Task

/-- The capture limit of a task (`src/executor.rs:217`). -/
def limit (settings : Settings) (t : Task) : Nat :=
  t.request.captureLimitBytes.getD settings.captureLimitBytes

/-- The bytes of the Output frames that a task has read. -/
def total (t : Task) : Nat := (Chunk.tagged (chunksIn t.received)).length

/-- Whether the task stands at one of the awaits at which a Started frame is handled. -/
def handles (t : Task) : Bool :=
  match t.point with
  | .startedLock .. | .startedCheck .. | .startedCancel | .markRunning .. => true
  | _ => false

/-- The task handles a Started frame. -/
def Starting (t : Task) : Prop :=
  ∃ pid pgid, t.received = [.started pid pgid] ∧
    (t.point = .startedLock pid pgid ∨ t.point = .startedCheck pid pgid ∨
      t.point = .startedCancel ∨ t.point = .markRunning pid pgid ∨ t.point.stage = 2)

/-- How the counters of a task, its place and its frames go together. -/
structure Paced (settings : Settings) (t : Task) : Prop where
  counted : t.captured = t.total
  truncated : t.truncated = decide (t.limit settings < t.captured)
  early : t.point.stage = 0 → t.received = [] ∧ t.startedHandled = false
  complete : Complete t.received → t.point.stage = 2
  starting : Ordered t.received → t.startedHandled = false → t.received = [] ∨ t.Starting
  begun : t.startedHandled = true → t.received ≠ []
  handling : t.handles = true →
    t.received ≠ [] ∧ (Ordered t.received → t.startedHandled = false)

/-- The task once the frame is counted, at any point. -/
theorem paced_goto {settings : Settings} {t : Task} (paced : t.Paced settings)
    {point : TaskPoint} (later : t.point.stage ≤ point.stage)
    (starting : t.Starting → (t.goto point).Starting)
    (handling : (t.goto point).handles = true → t.handles = true) :
    (t.goto point).Paced settings where
  counted := paced.counted
  truncated := paced.truncated
  early stage := paced.early (by
    change point.stage = 0 at stage
    omega)
  complete ended := by
    have stage := paced.complete ended
    have bound := point.stage_le
    show point.stage = 2
    omega
  starting ordered unhandled := (paced.starting ordered unhandled).imp_right starting
  begun := paced.begun
  handling handles := paced.handling (handling handles)

/-- The chunk that a frame adds is counted. -/
theorem limit_truncated {limit captured length : Nat} :
    (decide (limit < captured) || decide (min (limit - captured) length < length)) =
      decide (limit < captured + length) := by
  rw [Bool.eq_iff_iff]
  simp only [Bool.or_eq_true, decide_eq_true_eq]
  omega

theorem Starting.not_reading {t : Task} (starting : t.Starting) : t.point ≠ .reading := by
  intro point
  obtain ⟨_, _, _, places⟩ := starting
  rw [point] at places
  rcases places with place | place | place | place | place
  · cases place
  · cases place
  · cases place
  · cases place
  · exact absurd place (by simp [TaskPoint.stage])

/-- Reading a frame keeps the pace. -/
theorem paced_receive {settings : Settings} {id : ExecutionId} {c : Choice} {t : Task}
    (paced : t.Paced settings) (point : t.point = .reading)
    (frame : Option (Except Error SupervisorEvent)) :
    (t.receive settings id c frame).Paced settings := by
  have incomplete : ¬ Complete t.received := by
    intro ended
    have stage := paced.complete ended
    rw [point] at stage
    exact absurd stage (by simp [TaskPoint.stage])
  have handled : Ordered t.received → t.startedHandled = false → t.received = [] := by
    intro ordered unhandled
    rcases paced.starting ordered unhandled with none | starting
    · exact none
    · exact absurd point starting.not_reading
  cases frame with
  | none =>
    refine ⟨paced.counted, paced.truncated, fun stage => ?_, fun ended => ?_,
      fun ordered unhandled => .inl (handled ordered unhandled), paced.begun, (by rintro ⟨⟩)⟩
    · exact absurd stage (by simp [receive, TaskPoint.stage])
    · exact absurd ended incomplete
  | some frame =>
    cases frame with
    | error e =>
      refine ⟨paced.counted, paced.truncated, fun stage => ?_, fun ended => ?_,
        fun ordered unhandled => .inl (handled ordered unhandled), paced.begun, (by rintro ⟨⟩)⟩
      · exact absurd stage (by simp [receive, goto, TaskPoint.stage])
      · exact absurd ended incomplete
    | ok event =>
      have later : ∀ own : Task, own.received = t.received ++ [event] →
          own.startedHandled = t.startedHandled → event.isStarted = false →
          Ordered own.received → own.startedHandled = false → own.received = [] ∨ own.Starting := by
        intro own received same other ordered unhandled
        rw [received] at ordered
        rcases ordered_append_singleton.mp ordered with ⟨_, started⟩ | ⟨some_, before, _⟩
        · rw [other] at started
          cases started
        · exact absurd (handled before (same ▸ unhandled)) some_
      have nonempty : t.received ++ [event] ≠ [] :=
        List.append_ne_nil_of_right_ne_nil _ (List.cons_ne_nil _ _)
      cases event with
      | started pid pgid =>
        refine ⟨?_, paced.truncated, fun stage => ?_, fun ended => ?_, fun ordered unhandled => ?_,
          fun _ => nonempty, fun _ => ⟨nonempty, fun ordered => ?_⟩⟩
        · show t.captured = (Chunk.tagged (chunksIn (t.received ++ [.started pid pgid]))).length
          rw [chunksIn_append, Chunk.tagged_append, List.length_append, paced.counted]
          rfl
        · exact absurd stage (by simp [receive, goto, TaskPoint.stage])
        · exact absurd (complete_append_singleton.mp ended) Bool.false_ne_true
        · rcases ordered_append_singleton.mp ordered with ⟨none, _⟩ | ⟨_, _, other⟩
          · refine .inr ⟨pid, pgid, ?_, .inl rfl⟩
            show t.received ++ [.started pid pgid] = [.started pid pgid]
            rw [none]
            rfl
          · cases other
        · rcases ordered_append_singleton.mp ordered with ⟨none, _⟩ | ⟨_, _, other⟩
          · cases unhandled : t.startedHandled with
            | false => exact unhandled
            | true => exact absurd none (paced.begun unhandled)
          · cases other
      | finished outcome =>
        refine ⟨?_, paced.truncated, fun stage => ?_, fun _ => rfl, later _ rfl rfl rfl,
          fun _ => nonempty, (by rintro ⟨⟩)⟩
        · show t.captured = (Chunk.tagged (chunksIn (t.received ++ [.finished outcome]))).length
          rw [chunksIn_append, Chunk.tagged_append, List.length_append, paced.counted]
          rfl
        · exact absurd stage (by simp [receive, TaskPoint.stage])
      | output stream data =>
        cases data with
        | error e =>
          refine ⟨?_, paced.truncated, fun stage => ?_, fun _ => rfl, later _ rfl rfl rfl,
            fun _ => nonempty, (by rintro ⟨⟩)⟩
          · show t.captured =
              (Chunk.tagged (chunksIn (t.received ++ [.output stream (.error e)]))).length
            rw [chunksIn_append, Chunk.tagged_append, List.length_append, paced.counted]
            rfl
          · exact absurd stage (by simp [receive, goto, TaskPoint.stage])
        | ok data =>
          -- the point is that of the records; the counters are those of the frame
          generalize records : captureOutput id c.now c.later stream data
            (t.request.captureLimitBytes.getD settings.captureLimitBytes) t.captured t.truncated =
              given
          have stage : ∀ own : Task, (own.capture given).point.stage = 1 := by
            intro own
            cases given <;> rfl
          have fields : ∀ own : Task, (own.capture given).captured = own.captured ∧
              (own.capture given).truncated = own.truncated ∧
              (own.capture given).received = own.received ∧
              (own.capture given).request = own.request ∧
              (own.capture given).startedHandled = own.startedHandled := by
            intro own
            cases given <;> exact ⟨rfl, rfl, rfl, rfl, rfl⟩
          simp only [receive, records]
          obtain ⟨captured, truncated, received, request, startedHandled⟩ := fields
            { t with
              received := t.received ++ [.output stream (.ok data)]
              captured := t.captured + data.length
              truncated := t.truncated || decide
                (min (t.request.captureLimitBytes.getD settings.captureLimitBytes - t.captured)
                  data.length < data.length) }
          refine ⟨?_, ?_, fun early => ?_, fun ended => ?_, later _ received startedHandled rfl,
            fun _ => received ▸ nonempty, fun handles => ?_⟩
          · rw [captured, total, received, chunksIn_append, Chunk.tagged_append,
              List.length_append]
            show t.captured + data.length = t.total + _
            rw [paced.counted]
            simp [chunksIn, SupervisorEvent.chunk?]
          · rw [captured, truncated, limit, request]
            show (t.truncated || _) = _
            rw [paced.truncated]
            exact limit_truncated
          · rw [stage] at early
            cases early
          · rw [received] at ended
            exact absurd (complete_append_singleton.mp ended) Bool.false_ne_true
          · cases given <;> cases handles

/-- A task that has done with its stream keeps its frames. -/
theorem paced_over {settings : Settings} {t : Task} (paced : t.Paced settings)
    {point : TaskPoint} (isOver : point.stage = 2) : (t.goto point).Paced settings := by
  refine paced_goto paced (isOver ▸ t.point.stage_le) ?_ fun handles => ?_
  · rintro ⟨pid, pgid, received, _⟩
    exact ⟨pid, pgid, received, .inr (.inr (.inr (.inr isOver)))⟩
  · cases point <;> first
      | (cases handles; done)
      | cases isOver

/-- Before its stream, a task has no frames. -/
theorem paced_early {settings : Settings} {t : Task} (paced : t.Paced settings)
    (early : t.point.stage = 0) {point : TaskPoint} (unhandled : (t.goto point).handles = false) :
    (t.goto point).Paced settings := by
  refine paced_goto paced (early ▸ Nat.zero_le _) ?_
    fun handles => by rw [unhandled] at handles; cases handles
  rintro ⟨pid, pgid, received, _⟩
  rw [(paced.early early).1] at received
  cases received

/-- Every move keeps the pace. -/
theorem paced_move {settings : Settings} {id : ExecutionId} {c : Choice} {t t' : Task}
    {reply : Reply} (paced : t.Paced settings) (move : TaskMove settings id c t reply t') :
    t'.Paced settings := by
  cases move with
  | begun point | acquired point | checked point | launched point | notLaunched point
  | spawned point | registering point | registerLive point | registerOver point
  | registerCancelled point | registered point =>
    exact paced_early paced (by rw [point]; rfl) rfl
  | frame point => exact paced_receive paced point _
  | @starting pid pgid point =>
    refine paced_goto paced (by rw [point]; exact Nat.le_refl _) ?_
      fun _ => by simp [handles, point]
    rintro ⟨pid', pgid', received, places⟩
    refine ⟨pid', pgid', received, .inr (.inl ?_)⟩
    rw [point] at places
    rcases places with place | place | place | place | place
    · cases place
      rfl
    · cases place
    · cases place
    · cases place
    · cases place
  | @startedLive pid pgid _ point =>
    refine paced_goto paced (by rw [point]; exact Nat.le_refl _) ?_
      fun _ => by simp [handles, point]
    rintro ⟨pid', pgid', received, places⟩
    refine ⟨pid', pgid', received, .inr (.inr (.inr (.inl ?_)))⟩
    rw [point] at places
    rcases places with place | place | place | place | place
    · cases place
    · cases place
      rfl
    · cases place
    · cases place
    · cases place
  | @startedOver pid pgid _ point =>
    refine paced_goto paced (by rw [point]; exact Nat.le_refl _) ?_
      fun _ => by simp [handles, point]
    rintro ⟨pid', pgid', received, _⟩
    exact ⟨pid', pgid', received, .inr (.inr (.inl rfl))⟩
  | startedCancelled point | running point =>
    have streaming : t.point.stage = 1 := by rw [point]; rfl
    refine ⟨paced.counted, paced.truncated, fun stage => ?_, fun ended => ?_,
      fun _ unhandled => ?_, fun _ => (paced.handling (by simp [handles, point])).1, (by rintro ⟨⟩)⟩
    · cases stage
    · have isOver := paced.complete ended
      omega
    · cases unhandled
  | @captured record rest point =>
    have streaming : t.point.stage = 1 := by rw [point]; rfl
    have same : t.capture rest = t.goto (t.capture rest).point := by cases rest <;> rfl
    rw [same]
    refine paced_goto paced ?_ ?_ fun handles => by cases rest <;> cases handles
    · rw [streaming]
      exact (TaskPoint.afterFrame_stage (capture_afterFrame t rest)).1
    · rintro ⟨_, _, _, places⟩
      rw [point] at places
      rcases places with place | place | place | place | place
      · cases place
      · cases place
      · cases place
      · cases place
      · cases place
  | @finalOver ending => exact paced_over paced ending.after_stage.1
  | @finished ending => exact paced_over paced ending.after_stage.1
  | _ => exact paced_over paced rfl

end Task

/-! ## All tasks -/

namespace Engine

variable {e e' : Engine} {a : Action} {x : ExecutionId}

/-- The settings of a daemon stay. -/
theorem step_settings (stepped : e.step a = some e') : e'.settings = e.settings := by
  rcases step_cases stepped with ⟨c, rfl, rfl⟩ | ⟨_, stepped⟩
  · rfl
  cases a with
  | restart c => exact stepped.elim
  | begin m operation =>
    obtain ⟨_, rfl⟩ := stepped
    rfl
  | call m c =>
    obtain ⟨_, _, _, _, _, _, _, done, _, rfl⟩ := runCall_eq_some stepped
    exact (serve_served done).settings
  | task id c =>
    obtain ⟨_, _, _, _, _, _, _, done, _, rfl⟩ := runTask_eq_some stepped
    exact (serve_served done).settings
  | writer conditions =>
    obtain ⟨_, _, _, _, _, _, rfl⟩ := runWriter_eq_some stepped
    rfl
  | control id written =>
    obtain ⟨_, _, _, rfl⟩ := writeControl_eq_some stepped
    rfl
  | abort id =>
    obtain ⟨_, _, _, _, _, rfl⟩ := abortTask_eq_some stepped
    rfl
  | orphan i c =>
    obtain ⟨call, served, _, _, done, rfl⟩ := runOrphan_eq_some stepped
    have asked : e.serve (.call 0) c (.store call) = some (served, _) := done
    exact (serve_served asked).settings

/-- What every move of a task keeps, and holds of a new task, holds of every task. -/
theorem tasks_invariant {cond : Engine → Action → Prop} (Q : Settings → Task → Prop)
    (fresh : ∀ settings request cwd, Q settings { request, cwd })
    (moves : ∀ settings id c t reply t', TaskMove settings id c t reply t' → Q settings t →
      Q settings t')
    (aborted : ∀ settings t, Q settings t → Q settings (t.goto .aborted))
    (released : ∀ settings t, Q settings t → Q settings { t with released := true })
    (reached : engine.ReachableVia cond e) : ∀ x t, e.tasks x = some t → Q e.settings t := by
  refine reached.invariant (fun e => ∀ x t, e.tasks x = some t → Q e.settings t) ?_ ?_
  · intro first start x t present
    obtain ⟨_, new⟩ := start
    rw [new] at present
    cases present
  · intro e a e' _ held _ stepped x t present
    rw [step_settings stepped]
    cases step_task stepped x with
    | moved _ found _ _ move same =>
      rw [same, show (settleTask _ x _ _).tasks x = some _ from Function.update_self ..] at present
      cases present
      exact moves _ _ _ _ _ _ move (held x _ found)
    | dropped _ found _ same =>
      rw [same, show (e.dropTask x _ _).tasks x = some _ from Function.update_self ..] at present
      cases present
      exact aborted _ _ (held x _ found)
    | made _ _ _ made =>
      rw [made] at present
      cases present
      exact fresh _ _ _
    | @released _ _ _ before _ _ _ found after =>
      rw [after] at present
      cases present
      exact released _ before (held x before found)
    | forgotten _ same =>
      rw [same] at present
      cases present
    | kept _ _ _ same => exact held x t (same ▸ present)

theorem paced {cond : Engine → Action → Prop} (reached : engine.ReachableVia cond e) :
    ∀ x t, e.tasks x = some t → t.Paced e.settings := by
  refine tasks_invariant (fun settings t => t.Paced settings) ?_ ?_ ?_ ?_ reached
  · intro settings request cwd
    refine ⟨rfl, rfl, fun _ => ⟨rfl, rfl⟩, fun ended => ?_, fun _ _ => .inl rfl, (by rintro ⟨⟩),
      (by rintro ⟨⟩)⟩
    exact absurd ended not_complete_nil
  · exact fun settings id c t reply t' move paced => Task.paced_move paced move
  · exact fun settings t paced => Task.paced_over paced rfl
  · intro settings t paced
    exact ⟨paced.counted, paced.truncated, paced.early, paced.complete, paced.starting,
      paced.begun, paced.handling⟩

end Engine

end Loomterm
