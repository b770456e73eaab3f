import Loomterm.Store.Journal

/-!
# The lifecycle of an execution

An execution is queued, runs, and ends in one of three terminal states; its log tells the
same story as its row. Both follow from what each change of the journal may do.
-/

namespace Loomterm

/-- The terminal state that goes with an outcome (`src/executor.rs:281`). -/
def ExecutionOutcome.terminalState : ExecutionOutcome → ExecutionState
  | .cancelled _ => .cancelled
  | .interrupted _ => .interrupted
  | .exited _ | .signaled _ | .spawnError _ => .finished

@[simp] theorem ExecutionOutcome.isTerminal_terminalState (outcome : ExecutionOutcome) :
    outcome.terminalState.isTerminal = true := by
  cases outcome <;> rfl

/-- The moves of an execution: queued to running, and either of them to a terminal state. -/
inductive ExecutionState.Moves : ExecutionState → ExecutionState → Prop
  | start : Moves .queued .running
  | finish {before after : ExecutionState} :
      before.isTerminal = false → after.isTerminal = true → Moves before after

def ExecutionEventPayload.isStarted : ExecutionEventPayload → Bool
  | .started _ _ => true
  | _ => false

/-- The outcome that a finished event carries. -/
def ExecutionEventPayload.outcome? : ExecutionEventPayload → Option ExecutionOutcome
  | .finished outcome => some outcome
  | _ => none

namespace ExecutionRecord

/-- The times of the started events of a log. -/
def starts (record : ExecutionRecord) : List Int :=
  (record.log.filter fun event => event.payload.isStarted).map (·.timestampMs)

/-- The outcomes of the finished events of a log. -/
def finishes (record : ExecutionRecord) : List ExecutionOutcome :=
  record.log.filterMap fun event => event.payload.outcome?

/-- The row and the log agree on where the execution stands. -/
structure Lifecycle (record : ExecutionRecord) : Prop where
  starts_eq : record.starts = record.row.startedAtMs.toList
  finishes_eq : record.finishes = record.row.outcome.toList
  terminal_iff : record.row.state.isTerminal = record.row.outcome.isSome
  agrees : ∀ outcome ∈ record.row.outcome, record.row.state = outcome.terminalState
  ended : record.row.endedAtMs.isSome = record.row.outcome.isSome
  unstarted : record.row.state = .queued → record.row.startedAtMs = none

theorem starts_push (record : ExecutionRecord) (now : Int) (payload : ExecutionEventPayload)
    (set : ExecutionRow → ExecutionRow) :
    (record.push now payload set).starts =
      record.starts ++ if payload.isStarted then [now] else [] := by
  unfold starts push
  rw [List.filter_append, List.map_append]
  by_cases started : payload.isStarted <;> simp [started]

theorem finishes_push (record : ExecutionRecord) (now : Int) (payload : ExecutionEventPayload)
    (set : ExecutionRow → ExecutionRow) :
    (record.push now payload set).finishes = record.finishes ++ payload.outcome?.toList := by
  unfold finishes push
  rw [List.filterMap_append]
  cases found : payload.outcome? <;> simp [found]

namespace Lifecycle

variable {record : ExecutionRecord}

theorem outcome_eq_none (valid : record.Lifecycle) (live : record.row.state.isTerminal = false) :
    record.row.outcome = none := by
  have open_ := valid.terminal_iff
  rw [live] at open_
  exact Option.not_isSome_iff_eq_none.mp (by simp [← open_])

theorem created {now : Int} {id : ExecutionId} {request : ExecutionRequest} {cwd : String} :
    Lifecycle ⟨Database.queuedRow now id request cwd, []⟩ where
  starts_eq := rfl
  finishes_eq := rfl
  terminal_iff := rfl
  agrees := by rintro _ ⟨⟩
  ended := rfl
  unstarted _ := rfl

theorem start (valid : record.Lifecycle) (queued : record.row.state = .queued) {now : Int}
    {pid : Nat} {pgid : Int} : (record.start now pid pgid).Lifecycle := by
  have live : record.row.state.isTerminal = false := by rw [queued]; rfl
  have none : record.row.outcome = none := valid.outcome_eq_none live
  refine ⟨?_, ?_, ?_, ?_, valid.ended, ?_⟩
  · rw [ExecutionRecord.start, starts_push, valid.starts_eq, valid.unstarted queued]
    rfl
  · rw [ExecutionRecord.start, finishes_push, valid.finishes_eq]
    exact List.append_nil _
  · show false = record.row.outcome.isSome
    rw [none]
    rfl
  · intro outcome member
    have absent : outcome ∈ record.row.outcome := member
    rw [none] at absent
    cases absent
  · intro again
    cases again

/-- Captured output leaves the state, the outcome and the times as they are. -/
theorem capture (valid : record.Lifecycle) {captured : CaptureRecord} :
    (record.capture captured).Lifecycle := by
  have quiet : captured.payload.isStarted = false ∧ captured.payload.outcome? = none := by
    cases captured <;> exact ⟨rfl, rfl⟩
  have row : (captured.account record.row).state = record.row.state ∧
      (captured.account record.row).startedAtMs = record.row.startedAtMs ∧
      (captured.account record.row).endedAtMs = record.row.endedAtMs ∧
      (captured.account record.row).outcome = record.row.outcome := by
    cases captured <;> exact ⟨rfl, rfl, rfl, rfl⟩
  obtain ⟨state, started, ended, outcome⟩ := row
  have starts : (record.capture captured).starts = record.starts := by
    rw [ExecutionRecord.capture, starts_push, quiet.1]
    exact List.append_nil _
  have finishes : (record.capture captured).finishes = record.finishes := by
    rw [ExecutionRecord.capture, finishes_push, quiet.2]
    exact List.append_nil _
  refine ⟨?_, ?_, ?_, ?_, ?_, ?_⟩
  · rw [starts, valid.starts_eq]
    exact congrArg Option.toList started.symm
  · rw [finishes, valid.finishes_eq]
    exact congrArg Option.toList outcome.symm
  · show (captured.account record.row).state.isTerminal = (captured.account record.row).outcome.isSome
    rw [state, outcome, valid.terminal_iff]
  · intro result member
    have before : result ∈ record.row.outcome := outcome ▸ member
    exact state.trans (valid.agrees result before)
  · show (captured.account record.row).endedAtMs.isSome = (captured.account record.row).outcome.isSome
    rw [ended, outcome, valid.ended]
  · intro queued
    exact started.trans (valid.unstarted (state.symm.trans queued))

theorem finish (valid : record.Lifecycle) (live : record.row.state.isTerminal = false)
    {now : Int} {outcome : ExecutionOutcome} :
    (record.finish now outcome.terminalState outcome).Lifecycle := by
  have none : record.row.outcome = none := valid.outcome_eq_none live
  refine ⟨?_, ?_, outcome.isTerminal_terminalState, ?_, rfl, ?_⟩
  · rw [ExecutionRecord.finish, starts_push, valid.starts_eq]
    exact List.append_nil _
  · rw [ExecutionRecord.finish, finishes_push, valid.finishes_eq, none]
    rfl
  · rintro _ ⟨⟩
    rfl
  · intro queued
    have terminal := outcome.isTerminal_terminalState
    rw [show outcome.terminalState = .queued from queued] at terminal
    cases terminal

theorem unlink (valid : record.Lifecycle) {session : SessionId} :
    (record.unlink session).Lifecycle := by
  unfold ExecutionRecord.unlink
  split
  · exact ⟨valid.starts_eq, valid.finishes_eq, valid.terminal_iff, valid.agrees, valid.ended,
      valid.unstarted⟩
  · exact valid

end Lifecycle

/-- What may become of a record as long as it is not deleted. -/
structure Evolves (record record' : ExecutionRecord) : Prop where
  moved : Relation.ReflTransGen ExecutionState.Moves record.row.state record'.row.state
  frozen : record.row.state.isTerminal = true → record'.row.state = record.row.state ∧
    record'.row.outcome = record.row.outcome ∧ record'.row.endedAtMs = record.row.endedAtMs
  grown : record.log <+: record'.log

namespace Evolves

theorem refl (record : ExecutionRecord) : record.Evolves record :=
  ⟨.refl, fun _ => ⟨rfl, rfl, rfl⟩, List.prefix_rfl⟩

theorem trans {first second third : ExecutionRecord} (before : first.Evolves second)
    (after : second.Evolves third) : first.Evolves third where
  moved := before.moved.trans after.moved
  frozen terminal := by
    obtain ⟨state, outcome, ended⟩ := before.frozen terminal
    obtain ⟨state', outcome', ended'⟩ := after.frozen (state ▸ terminal)
    exact ⟨state'.trans state, outcome'.trans outcome, ended'.trans ended⟩
  grown := before.grown.trans after.grown

end Evolves

end ExecutionRecord

namespace Change

/-- The state and the outcome that a change finishes an execution with go together. -/
def Agrees : Change → Prop
  | .finish _ _ state outcome => state = outcome.terminalState
  | _ => True

theorem Agrees.isTerminal {id : ExecutionId} {now : Int} {state : ExecutionState}
    {outcome : ExecutionOutcome} (agrees : (Change.finish id now state outcome).Agrees) :
    state.isTerminal = true := by
  rw [show state = outcome.terminalState from agrees]
  exact outcome.isTerminal_terminalState

/-- Whether a change makes a record for `id`. -/
def Creates (id : ExecutionId) : Change → Prop
  | .create _ own _ _ => own = id
  | _ => False

/-- Whether a change starts `id`. -/
def Starts (id : ExecutionId) : Change → Prop
  | .start own _ _ _ => own = id
  | _ => False

/-- Whether a change finishes `id`. -/
def Finishes (id : ExecutionId) : Change → Prop
  | .finish own _ _ _ => own = id
  | _ => False

/-- Whether a change captures output of `id`. -/
def Captures (id : ExecutionId) : Change → Prop
  | .capture captured => captured.executionId = id
  | _ => False

end Change

/-- Every step of an execution keeps its lifecycle. -/
theorem RecordStep.lifecycle {id : ExecutionId} {c : Change} {r r' : Option ExecutionRecord}
    (step : RecordStep id c r r') (agrees : c.Agrees) (valid : ∀ record ∈ r, record.Lifecycle) :
    ∀ record ∈ r', record.Lifecycle := by
  cases step with
  | idle => exact valid
  | create =>
    rintro _ ⟨⟩
    exact .created
  | start queued =>
    rintro _ ⟨⟩
    exact (valid _ rfl).start queued
  | capture =>
    rintro _ ⟨⟩
    exact (valid _ rfl).capture
  | finish live =>
    rintro _ ⟨⟩
    rw [show _ = _ from agrees]
    exact (valid _ rfl).finish live
  | remove => rintro _ ⟨⟩
  | unlink =>
    rintro _ ⟨⟩
    exact (valid _ rfl).unlink

/-- A step that does not create an execution evolves its record or deletes it. -/
theorem RecordStep.evolves {id : ExecutionId} {c : Change} {r r' : Option ExecutionRecord}
    (step : RecordStep id c r r') (agrees : c.Agrees) (known : ¬ c.Creates id)
    {record' : ExecutionRecord} (present : r' = some record') :
    ∃ record, r = some record ∧ record.Evolves record' := by
  cases step with
  | idle => exact ⟨record', present, .refl record'⟩
  | create => exact absurd rfl known
  | @start record now pid pgid queued _ =>
    cases present
    refine ⟨record, rfl, ?_, ?_, List.prefix_append _ _⟩
    · rw [queued]
      exact .single .start
    · intro terminal
      rw [queued] at terminal
      cases terminal
  | @capture record captured _ _ =>
    cases present
    refine ⟨record, rfl, ?_, fun _ => ?_, List.prefix_append _ _⟩
    · cases captured <;> exact .refl
    · cases captured <;> exact ⟨rfl, rfl, rfl⟩
  | @finish record now state outcome live _ =>
    cases present
    refine ⟨record, rfl, ?_, ?_, List.prefix_append _ _⟩
    · exact .single (.finish live agrees.isTerminal)
    · intro terminal
      rw [live] at terminal
      cases terminal
  | remove => cases present
  | @unlink record session =>
    cases present
    refine ⟨record, rfl, ?_⟩
    unfold ExecutionRecord.unlink
    split
    · exact ⟨.refl, fun _ => ⟨rfl, rfl, rfl⟩, List.prefix_rfl⟩
    · exact .refl record

/-- A step that does not create an execution only adds to its log, or deletes it. -/
theorem RecordStep.grown {id : ExecutionId} {c : Change} {r r' : Option ExecutionRecord}
    (step : RecordStep id c r r') (known : ¬ c.Creates id) {record' : ExecutionRecord}
    (present : r' = some record') : ∃ record, r = some record ∧ record.log <+: record'.log := by
  cases step with
  | idle => exact ⟨record', present, List.prefix_rfl⟩
  | create => exact absurd rfl known
  | start =>
    cases present
    exact ⟨_, rfl, List.prefix_append _ _⟩
  | capture =>
    cases present
    exact ⟨_, rfl, List.prefix_append _ _⟩
  | finish =>
    cases present
    exact ⟨_, rfl, List.prefix_append _ _⟩
  | remove => cases present
  | unlink =>
    cases present
    refine ⟨_, rfl, ?_⟩
    unfold ExecutionRecord.unlink
    split <;> exact List.prefix_rfl

/-- Along a run that does not create `id`, its log grows until it is deleted. -/
theorem Records.grown_run {records records' : Records} {id : ExecutionId}
    (steps : journal.RunVia (fun _ c => ¬ c.Creates id) records records')
    {record' : ExecutionRecord} (present : records' id = some record') :
    ∃ record, records id = some record ∧ record.log <+: record'.log := by
  induction steps generalizing record' with
  | refl => exact ⟨record', present, List.prefix_rfl⟩
  | tail _ last ih =>
    obtain ⟨c, known, applied⟩ := last
    obtain ⟨middle, found, after⟩ := (Change.apply_record applied id).grown known present
    obtain ⟨record, first, before⟩ := ih found
    exact ⟨record, first, before.trans after⟩

/-- All records keep to the lifecycle. -/
def Records.Lifecycle (records : Records) : Prop :=
  ∀ id, ∀ record ∈ records id, record.Lifecycle

theorem Records.lifecycle_run {records records' : Records}
    (steps : journal.RunVia (fun _ c => c.Agrees) records records') (valid : records.Lifecycle) :
    records'.Lifecycle := by
  induction steps with
  | refl => exact valid
  | tail _ last ih =>
    obtain ⟨c, agrees, applied⟩ := last
    intro id
    exact (Change.apply_record applied id).lifecycle agrees (ih id)

/-! ## Where an execution stands -/

/-- There is a record, and it is not terminal. -/
def Live (r : Option ExecutionRecord) : Prop :=
  ∃ record, r = some record ∧ record.row.state.isTerminal = false

/-- The execution is terminal, or deleted. -/
def Over (r : Option ExecutionRecord) : Prop :=
  ∀ record, r = some record → record.row.state.isTerminal = true

def Running (r : Option ExecutionRecord) : Prop :=
  ∃ record, r = some record ∧ record.row.state = .running

def Queued (r : Option ExecutionRecord) : Prop :=
  ∃ record, r = some record ∧ record.row.state = .queued

theorem over_iff_not_live {r : Option ExecutionRecord} : Over r ↔ ¬ Live r := by
  constructor
  · rintro isOver ⟨record, found, live⟩
    rw [isOver record found] at live
    cases live
  · intro dead record found
    by_contra live
    exact dead ⟨record, found, Bool.eq_false_iff.mpr live⟩

theorem live_iff {r : Option ExecutionRecord} : Live r ↔ Queued r ∨ Running r := by
  constructor
  · rintro ⟨record, found, live⟩
    cases state : record.row.state with
    | queued => exact .inl ⟨record, found, state⟩
    | running => exact .inr ⟨record, found, state⟩
    | _ =>
      rw [state] at live
      cases live
  · rintro (⟨record, found, state⟩ | ⟨record, found, state⟩)
    · exact ⟨record, found, by rw [state]; rfl⟩
    · exact ⟨record, found, by rw [state]; rfl⟩

theorem Queued.live {r : Option ExecutionRecord} (queued : Queued r) : Live r :=
  live_iff.mpr (.inl queued)

theorem Running.live {r : Option ExecutionRecord} (running : Running r) : Live r :=
  live_iff.mpr (.inr running)

theorem Queued.not_running {r : Option ExecutionRecord} (queued : Queued r) : ¬ Running r := by
  rintro ⟨record, found, running⟩
  obtain ⟨other, same, state⟩ := queued
  rw [found] at same
  cases same
  rw [running] at state
  cases state

namespace RecordStep

variable {id : ExecutionId} {c : Change} {r r' : Option ExecutionRecord}

/-- What a step that captures or unlinks leaves of the state. -/
theorem state_account (captured : CaptureRecord) (row : ExecutionRow) :
    (captured.account row).state = row.state := by
  cases captured <;> rfl

theorem state_unlink (record : ExecutionRecord) (session : SessionId) :
    (record.unlink session).row.state = record.row.state := by
  unfold ExecutionRecord.unlink
  split <;> rfl

theorem live (step : RecordStep id c r r') (other : ¬ c.Finishes id) (before : Live r) :
    Live r' := by
  obtain ⟨record, found, open_⟩ := before
  cases step with
  | idle => exact ⟨record, found, open_⟩
  | create => cases found
  | start =>
    cases found
    exact ⟨_, rfl, rfl⟩
  | capture =>
    cases found
    exact ⟨_, rfl, (congrArg ExecutionState.isTerminal (state_account _ _)).trans open_⟩
  | finish => exact absurd rfl other
  | remove closed =>
    cases found
    rw [closed] at open_
    cases open_
  | unlink =>
    cases found
    exact ⟨_, rfl, (congrArg ExecutionState.isTerminal (state_unlink _ _)).trans open_⟩

theorem isOver (step : RecordStep id c r r') (known : ¬ c.Creates id) (before : Over r) :
    Over r' := by
  cases step with
  | idle => exact before
  | create => exact absurd rfl known
  | start queued =>
    have closed := before _ rfl
    rw [queued] at closed
    cases closed
  | capture =>
    rintro _ ⟨⟩
    exact (congrArg ExecutionState.isTerminal (state_account _ _)).trans (before _ rfl)
  | finish open_ =>
    have closed := before _ rfl
    rw [open_] at closed
    cases closed
  | remove => rintro _ ⟨⟩
  | unlink =>
    rintro _ ⟨⟩
    exact (congrArg ExecutionState.isTerminal (state_unlink _ _)).trans (before _ rfl)

/-- Only a start makes an execution running. -/
theorem running (step : RecordStep id c r r') (agrees : c.Agrees) (after : Running r') :
    Running r ∨ c.Starts id := by
  obtain ⟨record, found, state⟩ := after
  cases step with
  | idle => exact .inl ⟨record, found, state⟩
  | create =>
    cases found
    cases state
  | start => exact .inr rfl
  | capture =>
    cases found
    exact .inl ⟨_, rfl, (state_account _ _).symm.trans state⟩
  | @finish _ _ final =>
    cases found
    have ended := agrees.isTerminal
    rw [show final = .running from state] at ended
    cases ended
  | remove => cases found
  | unlink =>
    cases found
    exact .inl ⟨_, rfl, (state_unlink _ _).symm.trans state⟩

/-- Only its creation makes an execution queued. -/
theorem queued (step : RecordStep id c r r') (agrees : c.Agrees) (after : Queued r') :
    Queued r ∨ c.Creates id := by
  obtain ⟨record, found, state⟩ := after
  cases step with
  | idle => exact .inl ⟨record, found, state⟩
  | create => exact .inr rfl
  | start =>
    cases found
    cases state
  | capture =>
    cases found
    exact .inl ⟨_, rfl, (state_account _ _).symm.trans state⟩
  | @finish _ _ final =>
    cases found
    have ended := agrees.isTerminal
    rw [show final = .queued from state] at ended
    cases ended
  | remove => cases found
  | unlink =>
    cases found
    exact .inl ⟨_, rfl, (state_unlink _ _).symm.trans state⟩

/-- An execution that has no record stays without one until it is created. -/
theorem absent (step : RecordStep id c r r') (known : ¬ c.Creates id) (before : r = none) :
    r' = none := by
  subst before
  cases step with
  | idle => rfl
  | create => exact absurd rfl known

end RecordStep

end Loomterm
