import Loomterm.Executor.Pipeline
import Loomterm.Executor.Spawn

/-!
# Output of executions that are over

A task writes the outcome of its command behind a flush barrier, so that no output is left
on its way. The other ways to finish an execution have no barrier, and `append_capture_batch`
does not look at the state: output that is still on its way, or still to come, is appended
behind the finished event, or fails the whole batch once the execution is pruned. Where an
execution is cut off only when none of its output is on its way, and no output of an
execution that is over is read, neither happens.
-/

namespace Loomterm

open Database

namespace ExecutionRecord

/-- The finished event of a terminal execution ends its log. -/
def Closed (record : ExecutionRecord) : Prop :=
  record.row.state.isTerminal = true →
    ∃ init last, record.log = init ++ [last] ∧ last.payload.outcome?.isSome = true

/-- A log with its only finished event at the end has its number in the row. -/
theorem finished_seq {id : ExecutionId} {record : ExecutionRecord} (valid : record.WellFormed id)
    (lifecycle : record.Lifecycle) (closed : record.Closed) {event : ExecutionEvent}
    (member : event ∈ record.log) (finished : event.payload.outcome?.isSome = true) :
    event.seq = record.row.lastSeq := by
  obtain ⟨outcome, carried⟩ := Option.isSome_iff_exists.mp finished
  have listed : outcome ∈ record.finishes := List.mem_filterMap.mpr ⟨event, member, carried⟩
  rw [lifecycle.finishes_eq, Option.mem_toList] at listed
  have terminal : record.row.state.isTerminal = true := by
    rw [lifecycle.terminal_iff, listed]
    rfl
  obtain ⟨init, last, log, ends⟩ := closed terminal
  obtain ⟨outcome', carried'⟩ := Option.isSome_iff_exists.mp ends
  -- a second finished event would be a second outcome
  have only : event = last := by
    rw [log] at member
    rcases List.mem_append.mp member with before | at_end
    · have early : outcome ∈ init.filterMap fun event => event.payload.outcome? :=
        List.mem_filterMap.mpr ⟨event, before, carried⟩
      have counted : record.finishes.length ≤ 1 := by
        rw [lifecycle.finishes_eq]
        exact Option.length_toList_le
      have positive := List.length_pos_of_mem early
      have two : record.finishes.length =
          (init.filterMap fun event => event.payload.outcome?).length + 1 := by
        simp only [finishes, log, List.filterMap_append, List.length_append, List.filterMap_cons,
          carried', List.filterMap_nil, List.length_singleton]
      omega
    · exact List.mem_singleton.mp at_end
  have numbers := valid.seqs
  rw [log, List.map_append, List.map_singleton] at numbers
  have length := congrArg List.length numbers
  simp only [List.length_append, List.length_map, List.length_singleton, List.length_range'] at length
  rw [← length, List.range'_1_concat] at numbers
  have tail := (List.append_inj' numbers rfl).2
  rw [List.cons.injEq] at tail
  rw [only, tail.1, ← length]
  omega

end ExecutionRecord

namespace Engine

variable {e e' : Engine} {a : Action} {x : ExecutionId}

/-! ## The condition -/

/-- Whether the store holds `x` in a state that is not terminal. -/
def isLive (e : Engine) (x : ExecutionId) : Bool :=
  (e.db.executions.find? x).any fun row => !row.state.isTerminal

theorem isLive_iff : e.isLive x = true ↔ Live (e.db.records x) := by
  unfold isLive Live
  rw [Option.any_eq_true]
  constructor
  · rintro ⟨row, found, open_⟩
    exact ⟨_, record_of_find? found, by simpa using open_⟩
  · rintro ⟨record, found, open_⟩
    exact ⟨record.row, (records_eq_some.mp found).1, by simpa using open_⟩

/-- The live executions that a step finishes without a flush barrier: those that `cancel` and
`drain` cancel, one whose task takes its error path, and one that a request left over from
an aborted task is about. -/
def cutsOff (e : Engine) (a : Action) : List ExecutionId :=
  match a with
  | .call _ _ => e.cancels a
  | .task id _ =>
      match (e.tasks id).map Task.point with
      | some (.failedFinish _) => if e.isLive id then [id] else []
      | _ => []
  | .orphan i _ =>
      match e.orphans[i]? with
      | some (.finish id _ _) => if e.isLive id then [id] else []
      | _ => []
  | _ => []

/-- The execution of which a step reads output that is to be captured. -/
def hears (e : Engine) : Action → List ExecutionId
  | .task id c =>
      match e.tasks id with
      | some t =>
          match t.point, c.input with
          | .reading, .frame frame =>
              if (t.receive e.settings id c frame).point.unsent = [] then [] else [id]
          | _, _ => []
      | none => []
  | _ => []

/-- An execution is cut off only when none of its output is on its way, and output is read
only of a live execution. -/
def Tidy (e : Engine) (a : Action) : Prop :=
  (∀ x ∈ e.cutsOff a, e.pending x = []) ∧ ∀ x ∈ e.hears a, e.isLive x = true

instance (e : Engine) (a : Action) : Decidable (e.Tidy a) :=
  inferInstanceAs (Decidable (_ ∧ _))

/-! ## Only live executions have output on its way -/

theorem pending_eq_nil : e.pending x = [] ↔
    recordsOf x (recordsIn e.line) = [] ∧ ∀ t, e.tasks x = some t → t.point.unsent = [] := by
  unfold pending
  rw [List.append_eq_nil_iff]
  cases e.tasks x with
  | none => simp
  | some t => simp

theorem pending_of_line {record : CaptureRecord} (member : record ∈ recordsIn e.line)
    (own : record.executionId = x) : e.pending x ≠ [] := by
  intro none
  have line := (pending_eq_nil.mp none).1
  have kept : record ∈ recordsOf x (recordsIn e.line) :=
    List.mem_filter.mpr ⟨member, decide_eq_true own⟩
  rw [line] at kept
  cases kept

/-- What is on its way was on its way before, or comes from the frame just read. -/
theorem pending_step (piped : e.Piped) (stepped : e.step a = some e')
    (pending : e'.pending x ≠ []) : e.pending x ≠ [] ∨ x ∈ e.hears a := by
  by_contra neither
  rw [not_or, not_not] at neither
  obtain ⟨none, unheard⟩ := neither
  obtain ⟨line, unsent⟩ := pending_eq_nil.mp none
  refine pending (pending_eq_nil.mpr ⟨?_, ?_⟩)
  · cases step_line piped stepped with
    | @joined message asked joined _ =>
      rw [joined, recordsIn_append, recordsOf_append, line, List.nil_append]
      obtain ⟨y, c, t, acts, found, ⟨record, rest, point, rfl⟩ | ⟨_, _, rfl⟩⟩ :=
        asking_capture asked
      · have other : record.executionId ≠ x := by
          intro same
          have own := piped.own y t found record (by rw [point]; exact List.mem_cons_self)
          have empty := unsent t (by rw [← same, own]; exact found)
          rw [point] at empty
          cases empty
        simp [recordsIn, recordsOf, CaptureMessage.record?, other]
      · rfl
    | left _ left _ =>
      rw [left, recordsIn_append, recordsOf_append, List.append_eq_nil_iff] at line
      exact line.2
    | answered _ left _ =>
      rw [left] at line
      exact line
    | forgotten _ same =>
      rw [same]
      rfl
  · intro t' present
    cases step_task stepped x with
    | @moved c t _ request served reply acts found asked done move same =>
      rw [same, show (settleTask _ x _ _).tasks x = some _ from Function.update_self ..] at present
      cases present
      have before := unsent t found
      cases move with
      | @frame frame point =>
        by_contra heard
        refine unheard ?_
        have read : c.input = .frame frame := by
          simp only [Task.request?, point, Option.some.injEq] at asked
          subst asked
          exact (serve_frame done).1
        rw [acts]
        simp only [hears, found, point, read]
        rw [if_neg heard]
        exact List.mem_singleton_self x
      | captured point =>
        rw [point] at before
        cases before
      | @finalOver ending => exact ending.after_stage.2.2
      | @finished ending => exact ending.after_stage.2.2
      | _ => rfl
    | dropped _ _ _ same =>
      rw [same, show (e.dropTask x _ _).tasks x = some _ from Function.update_self ..] at present
      cases present
      rfl
    | made _ _ _ made =>
      rw [made] at present
      cases present
      rfl
    | @released _ _ _ before _ _ _ found after =>
      rw [after] at present
      cases present
      exact unsent before found
    | forgotten _ same =>
      rw [same] at present
      cases present
    | kept _ _ _ same => exact unsent t' (same ▸ present)

/-- The line holds nothing of an execution whose task is at a point outside its stream. -/
theorem not_finishedBy_of_pending (piped : e.Piped) (tidy : e.Tidy a)
    (notRestart : a.isRestart = false) (live : Live (e.db.records x))
    (pending : e.pending x ≠ []) : ¬ e.FinishedBy a x := by
  intro finished
  have cut : x ∉ e.cutsOff a := fun member => pending (tidy.1 x member)
  cases finished with
  | @task c t acts found finishes =>
    cases point : t.point with
    | launchFailed message =>
      -- nothing was sent before the stream
      refine pending (pending_eq_nil.mpr ⟨?_, ?_⟩)
      · rw [recordsOf, List.filter_eq_nil_iff]
        intro record member own
        obtain ⟨t', found', stage⟩ := piped.streamed record member
        rw [of_decide_eq_true own, found] at found'
        cases found'
        rw [point] at stage
        exact absurd stage (by simp [TaskPoint.stage])
      · intro t' found'
        rw [found] at found'
        cases found'
        rw [point]
        rfl
    | finalFinish ending =>
      have answered := piped.passed x t found (by rw [point]; rfl)
      refine pending (pending_eq_nil.mpr ⟨piped.answered x answered, ?_⟩)
      intro t' found'
      rw [found] at found'
      cases found'
      rw [point]
      rfl
    | failedFinish error =>
      refine cut ?_
      rw [acts]
      simp [cutsOff, found, point, isLive_iff.mpr live]
    | _ =>
      rw [point] at finishes
      cases finishes
  | @cancel n c control acts calling =>
    refine cut ?_
    rw [acts]
    exact mem_cancels_of_cancel (c := c) calling live
  | @sweep n c acts calling queued =>
    refine cut ?_
    rw [acts]
    exact mem_cancels_of_sweep (c := c) calling queued
  | leftover acts found =>
    refine cut ?_
    rw [acts]
    simp [cutsOff, found, isLive_iff.mpr live]
  | restart acts =>
    rw [acts] at notRestart
    cases notRestart

/-- Reading a frame finishes nothing. -/
theorem not_finishedBy_of_hears (heard : x ∈ e.hears a) : ¬ e.FinishedBy a x := by
  cases a with
  | task id c =>
    simp only [hears] at heard
    split at heard
    · rename_i t found
      split at heard
      · rename_i frame point input
        split at heard
        · cases heard
        · have own : x = id := List.mem_singleton.mp heard
          subst own
          intro finished
          cases finished with
          | task _ found' finishes =>
            rw [found] at found'
            cases found'
            rw [point] at finishes
            cases finishes
          | cancel acts => cases acts
          | sweep acts => cases acts
          | leftover acts => cases acts
          | restart acts => cases acts
      · cases heard
    · cases heard
  | _ => cases heard

/-- Whatever is on its way belongs to a live execution. -/
def Delivering (e : Engine) : Prop := ∀ x, e.pending x ≠ [] → Live (e.db.records x)

theorem Delivering.step (delivering : e.Delivering) (grounded : e.Grounded) (piped : e.Piped)
    (tidy : e.Tidy a) (stepped : e.step a = some e') : e'.Delivering := by
  intro x pending
  have notRestart : a.isRestart = false := by
    cases step_line piped stepped with
    | joined asked =>
      obtain ⟨_, _, _, acts, _⟩ := asking_capture asked
      rw [acts]
      rfl
    | left notRestart => exact notRestart
    | answered notRestart => exact notRestart
    | forgotten _ same =>
      rw [same] at pending
      exact absurd rfl pending
  rcases pending_step piped stepped pending with before | heard
  · have live := delivering x before
    exact grounded.live stepped
      (not_finishedBy_of_pending piped tidy notRestart live before) live
  · exact grounded.live stepped (not_finishedBy_of_hears heard) (isLive_iff.mp (tidy.2 x heard))

theorem delivering (reached : engine.ReachableVia Tidy e) : e.Delivering := by
  refine reached.invariant Delivering ?_ fun t a t' before held tidy stepped =>
    held.step (grounded before) (piped before) tidy stepped
  intro first start x pending
  obtain ⟨_, new⟩ := start
  rw [new] at pending
  exact absurd rfl pending

/-! ## A terminal log is closed -/

/-- A capture of `x` finds it live: its record was on its way. -/
theorem Delivering.capturing (delivering : e.Delivering) {change : Change}
    (permits : e.Permits a change) (captures : change.Captures x) :
    a.isWriter = true ∧ Live (e.db.records x) := by
  obtain ⟨conditions, cause, record, acts, _, member, own⟩ := permits.capturing captures
  refine ⟨by rw [acts]; rfl, delivering x (pending_of_line ?_ own)⟩
  rw [line, Writer.recordsIn_line]
  exact List.mem_append_left _ member

/-- Once an execution is over, its log stays as it is. -/
theorem Delivering.log_step (delivering : e.Delivering) (grounded : e.Grounded)
    (stepped : e.step a = some e') {record : ExecutionRecord}
    (found : e.db.records x = some record) (terminal : record.row.state.isTerminal = true) :
    ∀ record', e'.db.records x = some record' → record'.row.state.isTerminal = true ∧
      record'.row.lastSeq = record.row.lastSeq ∧ record'.log = record.log := by
  have isOver : ¬ Live (e.db.records x) := by
    rintro ⟨other, present, open_⟩
    rw [found] at present
    cases present
    rw [terminal] at open_
    cases open_
  refine grounded.preserves stepped (P := fun r => ∀ record', r = some record' →
    record'.row.state.isTerminal = true ∧ record'.row.lastSeq = record.row.lastSeq ∧
      record'.log = record.log) ?_ ?_
  · intro change r r' permits _ fresh step held record' present
    cases step with
    | idle => exact held record' present
    | create => exact absurd rfl (fresh (grounded.known x record found))
    | start queued =>
      have closed := (held _ rfl).1
      rw [queued] at closed
      cases closed
    | capture own => exact absurd (delivering.capturing permits own).2 isOver
    | finish open_ =>
      have closed := (held _ rfl).1
      rw [open_] at closed
      cases closed
    | remove => cases present
    | @unlink before session =>
      cases present
      obtain ⟨closed, seq, log⟩ := held before rfl
      unfold ExecutionRecord.unlink
      split
      · exact ⟨closed, seq, log⟩
      · exact ⟨closed, seq, log⟩
  · intro record' present
    rw [found] at present
    cases present
    exact ⟨terminal, rfl, rfl⟩

/-- The finished event goes to the end of the log, and nothing comes after it. -/
theorem Delivering.closed_step (delivering : e.Delivering) (grounded : e.Grounded)
    (stepped : e.step a = some e') (closed : ∀ record, e.db.records x = some record →
      record.Closed) : ∀ record, e'.db.records x = some record → record.Closed := by
  have kept := grounded.preserves stepped (x := x) (P := fun r =>
    (∀ record, r = some record → record.Closed) ∧
      (a.isWriter = true → Live (e.db.records x) → Live r)) ?_ ⟨closed, fun _ live => live⟩
  · exact kept.1
  · intro change r r' permits _ fresh step held
    obtain ⟨closed, live⟩ := held
    refine ⟨?_, ?_⟩
    · intro record' present
      cases step with
      | idle => exact closed record' present
      | create =>
        cases present
        exact fun terminal => by cases terminal
      | start =>
        cases present
        exact fun terminal => by cases terminal
      | @capture record captured own =>
        cases present
        obtain ⟨writer, open_⟩ := delivering.capturing permits own
        obtain ⟨same, equal, live⟩ := live writer open_
        cases equal
        intro terminal
        rw [show (record.capture captured).row.state = record.row.state from
          RecordStep.state_account captured record.row, live] at terminal
        cases terminal
      | @finish record now state outcome =>
        cases present
        exact fun _ => ⟨record.log, _, rfl, rfl⟩
      | remove => cases present
      | @unlink record session =>
        cases present
        have before := closed record rfl
        unfold ExecutionRecord.Closed at before ⊢
        rw [RecordStep.state_unlink]
        unfold ExecutionRecord.unlink
        split
        · exact before
        · exact before
    · intro writer open_
      refine step.live (fun finishes => ?_) (live writer open_)
      cases grounded.finishedBy (permits.finishing finishes) with
      | task acts =>
        rw [acts] at writer
        cases writer
      | cancel acts =>
        rw [acts] at writer
        cases writer
      | sweep acts =>
        rw [acts] at writer
        cases writer
      | leftover acts =>
        rw [acts] at writer
        cases writer
      | restart acts =>
        rw [acts] at writer
        cases writer

theorem closed (reached : engine.ReachableVia Tidy e) :
    ∀ x record, e.db.records x = some record → record.Closed := by
  refine reached.invariant (fun e => ∀ x record, e.db.records x = some record → record.Closed)
    ?_ fun t a t' before held _ stepped x =>
      (delivering before).closed_step (grounded before) stepped (held x)
  intro first start x record found
  rw [start.1.records] at found
  cases found

/-- Along a run, the log of an execution that is over stays as it is until it is deleted. -/
theorem log_run (reached : engine.ReachableVia Tidy e) (steps : engine.RunVia Tidy e e')
    {record : ExecutionRecord} (found : e.db.records x = some record)
    (terminal : record.row.state.isTerminal = true) :
    ∀ record', e'.db.records x = some record' → record'.row.state.isTerminal = true ∧
      record'.row.lastSeq = record.row.lastSeq ∧ record'.log = record.log := by
  have kept := System.RunVia.invariant (fun t => x ∈ t.issued ∧
    ∀ record', t.db.records x = some record' → record'.row.state.isTerminal = true ∧
      record'.row.lastSeq = record.row.lastSeq ∧ record'.log = record.log) reached ?_ ?_ steps
  · exact kept.2
  · refine ⟨(grounded reached).known x record found, fun record' present => ?_⟩
    rw [found] at present
    cases present
    exact ⟨terminal, rfl, rfl⟩
  · rintro t a t' before ⟨issued, held⟩ _ stepped
    have base := grounded before
    refine ⟨base.issued stepped issued, fun record' present => ?_⟩
    rcases base.descends stepped record' present with ⟨middle, there, _⟩ | ⟨unused, _⟩
    · obtain ⟨closed, seq, log⟩ := held middle there
      obtain ⟨closed', seq', log'⟩ :=
        (delivering before).log_step base stepped there closed record' present
      exact ⟨closed', seq'.trans seq, log'.trans log⟩
    · exact absurd issued unused

end Engine

open Engine in
/-- In every run in which executions are cut off only when none of their output is on its
way, and output is read only of live executions, the finished event of a log has the last
number, and nothing is ever appended to the log of a terminal execution. -/
theorem finished_event_last {e e' : Engine} (reached : engine.ReachableVia Tidy e)
    (steps : engine.RunVia Tidy e e') :
    ∀ row ∈ e.db.executions.rows,
      (∀ event ∈ e.db.log row.id, event.payload.outcome?.isSome = true →
        event.seq = row.lastSeq) ∧
      (row.state.isTerminal = true → ∀ row' ∈ e'.db.executions.rows, row'.id = row.id →
        row'.lastSeq = row.lastSeq ∧ e'.db.log row.id = e.db.log row.id) := by
  intro row member
  have found := record_of_find? (Table.mem_rows_iff.mp member)
  have base := grounded reached
  refine ⟨?_, ?_⟩
  · intro event present finished
    exact ExecutionRecord.finished_seq (base.sound.wellFormed row.id _ found)
      (base.lifecycle row.id _ found) (closed reached row.id _ found) present finished
  · intro terminal row' member' same
    have found' := record_of_find? (Table.mem_rows_iff.mp member')
    rw [same] at found'
    exact (log_run reached steps found terminal _ found').2

/-- The rest of a task whose outcome is written, with the retention that it performs. -/
def sampleCleanup (id : ExecutionId) : List Action :=
  [.task id {}, .task id { input := .joined (.ok ()) },
    .task id { input := .waited (.ok "exit status: 0") },
   .task id {}, .task id {}, .task id {}]

theorem finished_event_last_sample :
    ∃ e e', engine.runIf Engine.Tidy sampleEngine
        (sampleLaunch 0 "a" ++ sampleStart "a" ++ sampleEnd "a") = some e ∧
      engine.runIf Engine.Tidy e (sampleCleanup "a") = some e' ∧
      (e.db.executions.rows.map fun row => (row.state, row.lastSeq)) = [(.finished, 3)] ∧
      (e'.db.executions.rows.map fun row => row.id) = ["a"] ∧
      ∀ row ∈ e.db.executions.rows, row.state.isTerminal = true →
        ∀ row' ∈ e'.db.executions.rows, row'.id = row.id →
          row'.lastSeq = row.lastSeq ∧ e'.db.log row.id = e.db.log row.id := by
  have traced : (engine.runIf Engine.Tidy sampleEngine
      (sampleLaunch 0 "a" ++ sampleStart "a" ++ sampleEnd "a")).bind (fun e =>
        (engine.runIf Engine.Tidy e (sampleCleanup "a")).map fun e' =>
          (e.db.executions.rows.map fun row => (row.state, row.lastSeq),
            e'.db.executions.rows.map fun row => row.id)) =
      some ([(.finished, 3)], ["a"]) := by decide +kernel
  obtain ⟨e, ran, traced⟩ := Option.bind_eq_some_iff.mp traced
  obtain ⟨e', ran', seen⟩ := Option.map_eq_some_iff.mp traced
  rw [Prod.mk.injEq] at seen
  have reached : engine.ReachableVia Engine.Tidy e :=
    (System.ReachableVia.start sampleEngine_start).run (System.runIf_runVia ran)
  refine ⟨e, e', ran, ran', seen.1, seen.2, fun row member terminal => ?_⟩
  exact (finished_event_last reached (System.runIf_runVia ran') row member).2 terminal

/-- A client cancels "a" when its supervisor has the Spawn but Started was not handled yet;
the supervisor's frames up to the next output are still read. -/
def sampleCutOff : List Action :=
  sampleLaunch 0 "a" ++ (sampleStart "a").take 5 ++ sampleCancel 1 "a" ++ [.call 1 {}] ++
  [.task "a" { input := .frame (some (.ok (.started 10 10))) }, .task "a" {}, .task "a" {},
   .task "a" {}, .task "a" { input := .frame (some (.ok (.output .stdout (.ok [104, 105])))) },
   .task "a" {}]

/-- The output of the cancelled execution is written behind its finished event. -/
theorem output_after_finished :
    ∃ e e' row row', engine.run sampleEngine sampleCutOff = some e ∧
      engine.run e [.writer {}, .writer {}, .writer {}] = some e' ∧
      e.db.executions.find? "a" = some row ∧ row.state = .cancelled ∧ row.lastSeq = 1 ∧
      e'.db.executions.find? "a" = some row' ∧ row'.lastSeq = 2 ∧
      (e'.db.log "a").map (·.payload) =
        [.finished (.cancelled none), .output .stdout [104, 105]] := by
  have traced : (engine.run sampleEngine sampleCutOff).bind (fun e =>
      (engine.run e [.writer {}, .writer {}, .writer {}]).bind fun e' =>
        (e.db.executions.find? "a").bind fun row => (e'.db.executions.find? "a").map fun row' =>
          (row.state, row.lastSeq, row'.lastSeq, (e'.db.log "a").map (·.payload))) =
      some (.cancelled, 1, 2, [.finished (.cancelled none), .output .stdout [104, 105]]) := by
    decide +kernel
  obtain ⟨e, ran, traced⟩ := Option.bind_eq_some_iff.mp traced
  obtain ⟨e', ran', traced⟩ := Option.bind_eq_some_iff.mp traced
  obtain ⟨row, found, traced⟩ := Option.bind_eq_some_iff.mp traced
  obtain ⟨row', found', seen⟩ := Option.map_eq_some_iff.mp traced
  simp only [Prod.mk.injEq] at seen
  obtain ⟨state, seq, seq', payloads⟩ := seen
  exact ⟨e, e', row, row', ran, ran', found, state, seq, found', seq', payloads⟩

end Loomterm
