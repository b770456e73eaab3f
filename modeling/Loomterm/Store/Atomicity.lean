import Loomterm.Misc.Atomic
import Loomterm.Store.Commands

/-!
# Writes that fail

Which operations of the store leave the database as it was when they end with an error. Those
that write in a transaction always do. The others write statement by statement: what is written
stays when a later statement of the same operation fails.
-/

namespace Loomterm

namespace Table

variable {κ ρ : Type*} {key : ρ → κ}

theorem update_eq_self {t : Table key} {p : ρ → Bool} {f : ρ → ρ}
    (keeps : ∀ r, key (f r) = key r) :
    t.update p f keeps = t ↔ ∀ r ∈ t.rows, p r = true → f r = r := by
  cases t with
  | mk rows nodup =>
    have unchanged : ((rows.map fun r => if p r then f r else r) = rows) ↔
        ∀ r ∈ rows, (if p r then f r else r) = r := by
      simpa only [List.map_id, id_eq] using
        @List.map_inj_left _ _ rows (fun r => if p r then f r else r) id
    simp only [update, mk.injEq]
    rw [unchanged]
    refine forall₂_congr fun r _ => ?_
    cases p r <;> simp

end Table

/-- The failures of SQLite. -/
def SqliteFault (e : Error) : Prop := ∃ message, e = .database message

theorem sqliteFault_possible : ∃ e, SqliteFault e := ⟨.database "", "", rfl⟩

/-- The active turns that a prompt ends. -/
def AgentEventRequest.ends (request : AgentEventRequest) (turn : AgentTurnRow) : Bool :=
  request.owns turn && turn.state = .active &&
    (request.providerTurnId.isNone || turn.providerTurnId.isNone ||
      turn.providerTurnId ≠ request.providerTurnId)

namespace Database

variable {db : Database}

/-- The session is there, and is recording. -/
def StillRecording (db : Database) (id : SessionId) : Prop :=
  ∃ session, db.agentSessions.find? id = some session ∧ session.state = .recording

/-- What `check_session` asks for. -/
def SessionFits (db : Database) (request : ExecutionRequest) : Prop :=
  ∀ sessionId, request.initiator.sessionId = some sessionId →
    ∃ session, db.agentSessions.find? sessionId = some session ∧
      session.workspaceId = request.workspaceId ∧ session.state = .recording

/-- `create_execution` inserts a row for `request`. -/
def AcceptsExecution (db : Database) (id : ExecutionId) (request : ExecutionRequest) : Prop :=
  request.validate = .ok () ∧ db.SessionFits request ∧
    db.workspaces.find? request.workspaceId ≠ none ∧ db.executions.find? id = none

/-- The active workspace that `identifier` means. -/
def activeWorkspace (db : Database) (identifier : String) : Option WorkspaceRow :=
  db.namedWorkspace identifier (·.active)

/-- `create_agent_session` inserts a row for `request`. -/
def AcceptsAgentSession (db : Database) (request : AgentSessionRequest)
    (cwd : Except Error String) : Prop :=
  request.validate = .ok () ∧
    ∃ workspace path, db.activeWorkspace request.workspaceId = some workspace ∧ cwd = .ok path ∧
      (components path = components workspace.root ∨
        components workspace.root <+: components path) ∧
      db.agentSessions.find? request.id = none

/-- The turn of the provider's own name for it. -/
def providerTurn (db : Database) (request : AgentEventRequest) : Option AgentTurnRow :=
  request.providerTurnId.bind fun providerTurnId => db.agentTurns.rows.find? fun turn =>
    request.owns turn && turn.providerTurnId = some providerTurnId

/-- The latest active turn of the provider's session. -/
def activeTurn (db : Database) (request : AgentEventRequest) : Option AgentTurnRow :=
  let active := db.agentTurns.rows.filter fun turn => request.owns turn && turn.state = .active
  (active.reverse.insertionSort fun left right => right.createdAtMs ≤ left.createdAtMs).head?

/-- The turn that an event other than a prompt belongs to. -/
def knownTurn (db : Database) (request : AgentEventRequest) : Option AgentTurnRow :=
  if request.providerTurnId.isSome then db.providerTurn request else db.activeTurn request

theorem faults_drawn {faults : Faults Error} (allowed : ∀ e, some e ∈ faults → SqliteFault e) :
    ∃ messages : List (Option String), messages.map (Option.map Error.database) = faults := by
  induction faults with
  | nil => exact ⟨[], rfl⟩
  | cons fault rest ih =>
    obtain ⟨messages, same⟩ := ih fun e member => allowed e (List.mem_cons_of_mem _ member)
    cases fault with
    | none => exact ⟨none :: messages, by rw [List.map_cons, same]; rfl⟩
    | some e =>
      obtain ⟨message, rfl⟩ := allowed e List.mem_cons_self
      exact ⟨some message :: messages, by rw [List.map_cons, same]; rfl⟩

/-- Over every schedule of failing statements, as the store runs programs. -/
theorem leavesNoTrace_iff_run {α : Type} {program : Store α} :
    Sql.LeavesNoTrace SqliteFault program db ↔
      ∀ faults e db', Store.run program faults db = (.error e, db') → db' = db := by
  constructor
  · intro whole faults e db' ran
    simp only [Store.run, Prod.mk.injEq] at ran
    rw [← ran.2]
    apply whole _ _ e ran.1
    intro e member
    obtain ⟨fault, _, raised⟩ := List.mem_map.mp member
    obtain ⟨message, _, rfl⟩ := Option.map_eq_some_iff.mp raised
    exact ⟨message, rfl⟩
  · intro runs faults allowed e failed
    obtain ⟨messages, rfl⟩ := faults_drawn allowed
    exact runs messages e _ (by rw [Store.run, failed])

/-! ## Statements that write -/

theorem prompt_getAgentTurn {id : String} : Sql.Prompt (getAgentTurn id) := Sql.prompt_select

theorem prompt_getExecution {now : Int} {id : ExecutionId} : Sql.Prompt (getExecution now id) :=
  Sql.prompt_select

theorem prompt_getAgentSessionRecord {id : SessionId} : Sql.Prompt (getAgentSessionRecord id) :=
  Sql.prompt_select

theorem prompt_updateTurns {p : AgentTurnRow → Bool} {set : AgentTurnRow → AgentTurnRow}
    {keeps : ∀ row, (set row).id = row.id} : Sql.Prompt (updateTurns p set keeps) :=
  Sql.prompt_statement

/-- Behind an update of turns that does something nothing may fail. -/
theorem leavesNoTrace_updateTurns {α : Type} {p : AgentTurnRow → Bool}
    {set : AgentTurnRow → AgentTurnRow} {keeps : ∀ row, (set row).id = row.id}
    {k : Unit → Store α} (prompt : Sql.Prompt (k ())) :
    Sql.LeavesNoTrace SqliteFault (updateTurns p set keeps >>= k) db ↔
      (∀ turn ∈ db.agentTurns.rows, p turn = true → set turn = turn) ∧
        Sql.LeavesNoTrace SqliteFault (k ()) db := by
  unfold updateTurns
  rw [Sql.leavesNoTrace_then (fun _ => prompt) sqliteFault_possible]
  have same : ({ db with agentTurns := db.agentTurns.update p set keeps } : Database) = db ↔
      ∀ turn ∈ db.agentTurns.rows, p turn = true → set turn = turn := by
    rw [← Table.update_eq_self keeps]
    constructor
    · intro equal
      exact congrArg Database.agentTurns equal
    · intro equal
      rw [equal]
  rw [← same]
  constructor
  · intro whole
    exact whole () _ rfl
  · rintro whole _ _ ⟨⟩
    exact whole

/-- A turn is inserted unless its id is taken, and nothing may fail behind it. -/
theorem leavesNoTrace_insertTurn {α : Type} {turn : AgentTurnRow} {k : Unit → Store α}
    (prompt : Sql.Prompt (k ())) (recording : db.StillRecording turn.sessionId)
    (unique : turn.providerTurnId.isSome = true → ∀ other ∈ db.agentTurns.rows,
      ¬ (other.sessionId = turn.sessionId ∧ other.provider = turn.provider ∧
        other.providerSessionId = turn.providerSessionId ∧
        other.providerTurnId = turn.providerTurnId)) :
    Sql.LeavesNoTrace SqliteFault (insertTurn turn >>= k) db ↔
      (db.agentTurns.find? turn.id).isSome = true := by
  unfold insertTurn
  rw [Sql.leavesNoTrace_then (fun _ => prompt) sqliteFault_possible]
  obtain ⟨session, found, _⟩ := recording
  have free : ¬ (turn.providerTurnId.isSome && db.agentTurns.rows.any fun other =>
      other.sessionId = turn.sessionId && other.provider = turn.provider &&
        other.providerSessionId = turn.providerSessionId &&
        other.providerTurnId = turn.providerTurnId) = true := by
    rw [Bool.and_eq_true, List.any_eq_true]
    rintro ⟨named, other, member, clash⟩
    simp only [Bool.and_eq_true, decide_eq_true_eq] at clash
    exact unique named other member ⟨clash.1.1.1, clash.1.1.2, clash.1.2, clash.2⟩
  simp only [found, Option.isNone_some, Bool.false_eq_true, if_false, free]
  cases inserted : db.agentTurns.insert? turn with
  | none =>
    obtain ⟨other, taken⟩ := Table.insert?_eq_none.mp inserted
    simp [taken]
  | some agentTurns =>
    obtain ⟨fresh, rows⟩ := Table.insert?_eq_some.mp inserted
    rw [fresh]
    simp only [Option.isSome_none, Bool.false_eq_true, iff_false]
    intro whole
    have same := congrArg (fun db => db.agentTurns.rows) (whole () _ rfl).1
    simp only [rows] at same
    have longer := congrArg List.length same
    simp at longer

/-! ## Turns -/

variable {request : AgentEventRequest}

/-- No other turn has the provider's name for the turn of `request`. -/
def NewTurn (db : Database) (request : AgentEventRequest) : Prop :=
  request.providerTurnId.isSome = true → db.providerTurn request = none

theorem leavesNoTrace_insertAgentTurn {α : Type} {id prompt : String} {createdAtMs : Int}
    {k : AgentTurnRow → Store α} (recording : db.StillRecording request.sessionId)
    (new : db.NewTurn request) :
    Sql.LeavesNoTrace SqliteFault (insertAgentTurn id request prompt createdAtMs >>= k) db ↔
      (db.agentTurns.find? id).isSome = true := by
  unfold insertAgentTurn
  rw [← Sql.bind_bind]
  apply leavesNoTrace_insertTurn (prompt_getAgentTurn.bind k) recording
  rintro named other member ⟨session, provider, providerSession, turn⟩
  obtain ⟨providerTurnId, given⟩ := Option.isSome_iff_exists.mp named
  have none := new named
  unfold providerTurn at none
  replace given : request.providerTurnId = some providerTurnId := given
  rw [given, Option.bind_some, List.find?_eq_none] at none
  apply none other member
  simp [AgentEventRequest.owns, session, provider, providerSession, turn, given]

/-- The lookup of a turn only reads. -/
theorem leavesNoTrace_findProviderTurn {α : Type} {k : Option AgentTurnRow → Store α} :
    Sql.LeavesNoTrace SqliteFault (findProviderTurn request >>= k) db ↔
      Sql.LeavesNoTrace SqliteFault (k (db.providerTurn request)) db := by
  unfold findProviderTurn providerTurn
  cases request.providerTurnId with
  | none => exact Iff.rfl
  | some providerTurnId =>
    rw [Sql.leavesNoTrace_select_bind]
    constructor
    · intro whole
      exact whole _ rfl
    · rintro whole _ ⟨⟩
      exact whole

theorem leavesNoTrace_findActiveTurn {α : Type} {k : Option AgentTurnRow → Store α} :
    Sql.LeavesNoTrace SqliteFault (findActiveTurn request >>= k) db ↔
      Sql.LeavesNoTrace SqliteFault (k (db.activeTurn request)) db := by
  unfold findActiveTurn
  rw [Sql.leavesNoTrace_select_bind]
  constructor
  · intro whole
    exact whole _ rfl
  · rintro whole _ ⟨⟩
    exact whole

/-- A turn that is there is found; another one is inserted, and nothing may fail behind it. -/
theorem leavesNoTrace_findOrCreate {α : Type} {id : String} {now : Int}
    {k : AgentTurnRow → Store α} (recording : db.StillRecording request.sessionId) :
    Sql.LeavesNoTrace SqliteFault (findOrCreateAgentTurn id request now >>= k) db ↔
      match db.knownTurn request with
      | some turn => Sql.LeavesNoTrace SqliteFault (k turn) db
      | none => (db.agentTurns.find? id).isSome = true := by
  unfold findOrCreateAgentTurn knownTurn
  rw [← Sql.bind_bind]
  by_cases named : request.providerTurnId.isSome
  · rw [if_pos named, if_pos named, leavesNoTrace_findProviderTurn]
    cases known : db.providerTurn request with
    | some turn => exact Iff.rfl
    | none => exact leavesNoTrace_insertAgentTurn recording fun _ => known
  · rw [if_neg named, if_neg named, leavesNoTrace_findActiveTurn]
    cases known : db.activeTurn request with
    | some turn => exact Iff.rfl
    | none => exact leavesNoTrace_insertAgentTurn recording fun given => absurd given named

/-- The row of an id is the only one that an update by id selects. -/
theorem set_of_id {turn : AgentTurnRow} (member : turn ∈ db.agentTurns.rows)
    {set : AgentTurnRow → AgentTurnRow} :
    (∀ row ∈ db.agentTurns.rows, decide (row.id = turn.id) = true → set row = row) ↔
      set turn = turn := by
  constructor
  · intro all
    exact all turn member (by simp)
  · intro same row there own
    have found := Table.mem_rows_iff.mp there
    rw [of_decide_eq_true own, Table.mem_rows_iff.mp member] at found
    rw [← Option.some.inj found]
    exact same

/-! ## Agent events -/

/-- `record_agent_event` changes nothing before its last statement. -/
def EventIdle (db : Database) (now : Int) (turnId : String) (request : AgentEventRequest) : Prop :=
  match request.event with
  | .promptSubmitted prompt =>
      (∀ turn ∈ db.agentTurns.rows, request.ends turn = false) ∧
        match db.providerTurn request with
        | some turn => turn.state = .active ∧ turn.prompt = prompt ∧ turn.endedAtMs = none ∧
            turn.lastAssistantMessage = none
        | none => (db.agentTurns.find? turnId).isSome = true
  | .toolStarted .. | .toolFinished .. =>
      (db.knownTurn request).isSome = true ∨ (db.agentTurns.find? turnId).isSome = true
  | .turnFinished failed lastAssistantMessage =>
      match db.knownTurn request with
      | some turn => turn.state = (if failed then .failed else .completed) ∧
          turn.endedAtMs = some now ∧ turn.lastAssistantMessage = lastAssistantMessage
      | none => (db.agentTurns.find? turnId).isSome = true

theorem providerTurn_mem {turn : AgentTurnRow} (known : db.providerTurn request = some turn) :
    turn ∈ db.agentTurns.rows := by
  obtain ⟨_, _, found⟩ := Option.bind_eq_some_iff.mp known
  exact List.mem_of_find?_eq_some found

theorem activeTurn_mem {turn : AgentTurnRow} (known : db.activeTurn request = some turn) :
    turn ∈ db.agentTurns.rows := by
  have first := List.mem_of_mem_head? known
  have selected := (List.perm_insertionSort _ _).mem_iff.mp first
  exact (List.mem_filter.mp (List.mem_reverse.mp selected)).1

theorem knownTurn_mem {turn : AgentTurnRow} (known : db.knownTurn request = some turn) :
    turn ∈ db.agentTurns.rows := by
  unfold knownTurn at known
  split at known
  · exact providerTurn_mem known
  · exact activeTurn_mem known

/-- An update by id and the read behind it. -/
theorem leavesNoTrace_updateTurn {turn : AgentTurnRow} (member : turn ∈ db.agentTurns.rows)
    {set : AgentTurnRow → AgentTurnRow} {keeps : ∀ row, (set row).id = row.id} :
    Sql.LeavesNoTrace SqliteFault
      (updateTurns (fun row => row.id = turn.id) set keeps >>= fun _ => getAgentTurn turn.id) db ↔
      set turn = turn := by
  rw [leavesNoTrace_updateTurns prompt_getAgentTurn, set_of_id member]
  refine and_iff_left_of_imp fun _ => ?_
  exact Sql.leavesNoTrace_statement

theorem prompt_insertAgentTurn {id prompt : String} {createdAtMs : Int} :
    Sql.Prompt (insertAgentTurn id request prompt createdAtMs) := by
  unfold insertAgentTurn insertTurn
  exact Sql.prompt_statement.bind _

theorem prompt_findProviderTurn {α : Type} {k : Option AgentTurnRow → Store α}
    (first : Sql.Prompt (k none)) : Sql.Prompt (findProviderTurn request >>= k) := by
  unfold findProviderTurn
  cases request.providerTurnId with
  | none => exact first
  | some providerTurnId => exact Sql.prompt_select.bind k

/-- A turn that a prompt ends is changed by it. -/
theorem interrupt_iff {now : Int} {turn : AgentTurnRow} :
    (request.ends turn = true →
      ({ turn with state := .interrupted, endedAtMs := some now } : AgentTurnRow) = turn) ↔
      request.ends turn = false := by
  constructor
  · intro same
    rw [← Bool.not_eq_true]
    intro ended
    have state : .interrupted = turn.state := congrArg AgentTurnRow.state (same ended)
    simp [AgentEventRequest.ends, ← state] at ended
  · intro kept ended
    rw [kept] at ended
    cases ended

theorem reopen_iff {prompt : String} {turn : AgentTurnRow} :
    ({ turn with state := .active, prompt, endedAtMs := none,
                 lastAssistantMessage := none } : AgentTurnRow) = turn ↔
      turn.state = .active ∧ turn.prompt = prompt ∧ turn.endedAtMs = none ∧
        turn.lastAssistantMessage = none := by
  cases turn with
  | mk id sessionId provider providerSessionId providerTurnId state text createdAtMs ended message =>
    simp only [AgentTurnRow.mk.injEq, true_and]
    exact and_congr eq_comm (and_congr eq_comm (and_congr eq_comm eq_comm))

theorem leavesNoTrace_recordPrompt {now : Int} {turnId prompt : String}
    (recording : db.StillRecording request.sessionId) :
    Sql.LeavesNoTrace SqliteFault (recordPrompt now turnId request prompt) db ↔
      (∀ turn ∈ db.agentTurns.rows, request.ends turn = false) ∧
        match db.providerTurn request with
        | some turn => turn.state = .active ∧ turn.prompt = prompt ∧ turn.endedAtMs = none ∧
            turn.lastAssistantMessage = none
        | none => (db.agentTurns.find? turnId).isSome = true := by
  unfold recordPrompt
  rw [leavesNoTrace_updateTurns (prompt_findProviderTurn prompt_insertAgentTurn)]
  refine and_congr ?_ ?_
  · exact forall₂_congr fun turn _ => interrupt_iff
  · rw [leavesNoTrace_findProviderTurn]
    cases known : db.providerTurn request with
    | some turn =>
      exact (leavesNoTrace_updateTurn (providerTurn_mem known)).trans reopen_iff
    | none =>
      simp only
      rw [← Sql.bind_pure (insertAgentTurn turnId request prompt now)]
      exact leavesNoTrace_insertAgentTurn recording fun _ => known

/-- An action that is written last leaves no trace behind a turn that was there. -/
theorem leavesNoTrace_upsertAction {action : AgentActionRow} {set : AgentActionRow → AgentActionRow}
    {keeps : ∀ row, (set row).id = row.id} {turn : AgentTurnRow} :
    Sql.LeavesNoTrace SqliteFault (upsertAction action set keeps >>= fun _ => pure turn) db :=
  Sql.leavesNoTrace_last

theorem leavesNoTrace_recordToolStarted {now : Int} {turnId id actionId toolName : String}
    (recording : db.StillRecording request.sessionId) :
    Sql.LeavesNoTrace SqliteFault
      (recordToolStarted now turnId id request actionId toolName) db ↔
      (db.knownTurn request).isSome = true ∨ (db.agentTurns.find? turnId).isSome = true := by
  unfold recordToolStarted
  rw [leavesNoTrace_findOrCreate recording]
  cases db.knownTurn request with
  | some turn => exact iff_of_true leavesNoTrace_upsertAction (.inl rfl)
  | none => simp

theorem leavesNoTrace_recordToolFinished {now : Int} {turnId id actionId toolName : String}
    {workspaceId : WorkspaceId} {failed : Bool} {executionId : Option ExecutionId}
    (recording : db.StillRecording request.sessionId) :
    Sql.LeavesNoTrace SqliteFault
      (recordToolFinished now turnId id workspaceId request actionId toolName failed executionId)
      db ↔
      (db.knownTurn request).isSome = true ∨ (db.agentTurns.find? turnId).isSome = true := by
  unfold recordToolFinished
  rw [leavesNoTrace_findOrCreate recording]
  cases db.knownTurn request with
  | some turn =>
    refine iff_of_true ?_ (.inl rfl)
    cases executionId with
    | none => exact leavesNoTrace_upsertAction
    | some executionId =>
      unfold knownExecution
      simp only
      rw [← Sql.bind_bind]
      exact .after_attempt fun found => leavesNoTrace_upsertAction
  | none => simp

theorem leavesNoTrace_recordTurnFinished {now : Int} {turnId : String} {failed : Bool}
    {lastAssistantMessage : Option String} (recording : db.StillRecording request.sessionId) :
    Sql.LeavesNoTrace SqliteFault
      (recordTurnFinished now turnId request failed lastAssistantMessage) db ↔
      match db.knownTurn request with
      | some turn => turn.state = (if failed then .failed else .completed) ∧
          turn.endedAtMs = some now ∧ turn.lastAssistantMessage = lastAssistantMessage
      | none => (db.agentTurns.find? turnId).isSome = true := by
  unfold recordTurnFinished
  rw [leavesNoTrace_findOrCreate recording]
  cases known : db.knownTurn request with
  | some turn =>
    simp only
    rw [leavesNoTrace_updateTurn (knownTurn_mem known)]
    cases turn with
    | mk id sessionId provider providerSessionId providerTurnId state text createdAtMs ended message =>
      simp only [AgentTurnRow.mk.injEq, true_and]
      exact and_congr eq_comm (and_congr eq_comm eq_comm)
  | none => exact Iff.rfl

theorem leavesNoTrace_getAgentSessionRecord {α : Type} {id : SessionId}
    {k : AgentSessionRow → Store α} :
    Sql.LeavesNoTrace SqliteFault (getAgentSessionRecord id >>= k) db ↔
      ∀ session, db.agentSessions.find? id = some session →
        Sql.LeavesNoTrace SqliteFault (k session) db := by
  unfold getAgentSessionRecord
  rw [Sql.leavesNoTrace_select_bind]
  refine forall_congr' fun session => ?_
  cases db.agentSessions.find? id with
  | none => simp
  | some found => simp

theorem leavesNoTrace_recordAgentEvent {now : Int} {turnId actionId : String} :
    Sql.LeavesNoTrace SqliteFault (recordAgentEvent now turnId actionId request) db ↔
      request.validate ≠ .ok () ∨ ¬ db.StillRecording request.sessionId ∨
        db.EventIdle now turnId request := by
  unfold recordAgentEvent
  cases valid : request.validate with
  | error e => exact iff_of_true Sql.leavesNoTrace_fail (.inl (by simp))
  | ok _ =>
    simp only [ne_eq, not_true_eq_false, false_or]
    rw [leavesNoTrace_getAgentSessionRecord]
    by_cases recording : db.StillRecording request.sessionId
    · obtain ⟨session, found, state⟩ := recording
      simp only [found, Option.some.injEq, forall_eq', state, not_true_eq_false, if_false]
      have recording : db.StillRecording request.sessionId := ⟨session, found, state⟩
      rw [iff_true_intro recording, not_true_eq_false, false_or]
      unfold EventIdle
      cases request.event with
      | promptSubmitted prompt => exact leavesNoTrace_recordPrompt recording
      | toolStarted actionId toolName => exact leavesNoTrace_recordToolStarted recording
      | toolFinished actionId toolName failed executionId =>
        exact leavesNoTrace_recordToolFinished recording
      | turnFinished failed lastAssistantMessage =>
        exact leavesNoTrace_recordTurnFinished recording
    · refine iff_of_true ?_ (.inl recording)
      intro session found
      have ended : session.state ≠ .recording := fun state => recording ⟨session, found, state⟩
      rw [if_pos ended]
      exact Sql.leavesNoTrace_fail

/-! ## Sessions and executions -/

/-- The session is ended before its turns are. -/
theorem leavesNoTrace_finishAgentSession {now : Int} {id : SessionId} {ending : AgentSessionFinish} :
    Sql.LeavesNoTrace SqliteFault (finishAgentSession now id ending) db ↔
      ending.state = .recording ∨ ending.agrees = false ∨ ¬ db.StillRecording id := by
  unfold finishAgentSession
  by_cases terminal : ending.state = .recording
  · rw [if_pos terminal]
    exact iff_of_true Sql.leavesNoTrace_fail (.inl terminal)
  rw [if_neg terminal]
  by_cases agrees : ending.agrees = false
  · rw [if_pos (by rw [agrees]; rfl)]
    exact iff_of_true Sql.leavesNoTrace_fail (.inr (.inl agrees))
  rw [if_neg (by simpa using agrees), leavesNoTrace_getAgentSessionRecord]
  by_cases recording : db.StillRecording id
  · obtain ⟨session, found, state⟩ := recording
    have recording : db.StillRecording id := ⟨session, found, state⟩
    refine iff_of_false ?_ (by simp [terminal, agrees, recording])
    intro whole
    have next := whole session found
    rw [if_neg (by simp [AgentSessionState.isTerminal, state]),
      Sql.leavesNoTrace_then (fun _ => prompt_updateTurns.bind _) sqliteFault_possible] at next
    have same := congrArg (fun db => (db.agentSessions.find? id).map (·.state)) (next () _ rfl).1
    simp only [Table.find?_update, found, Option.map_some, Table.find?_key found, decide_true,
      if_true, state, Option.some.injEq] at same
    exact terminal same
  · refine iff_of_true ?_ (.inr (.inr recording))
    intro session found
    have ended : session.state ≠ .recording := fun state => recording ⟨session, found, state⟩
    rw [if_pos (by simp [AgentSessionState.isTerminal, ended])]
    exact Sql.leavesNoTrace_pure

theorem leavesNoTrace_checkSession {α : Type} {request : ExecutionRequest} {k : Unit → Store α} :
    Sql.LeavesNoTrace SqliteFault (checkSession request >>= k) db ↔
      (db.SessionFits request → Sql.LeavesNoTrace SqliteFault (k ()) db) := by
  unfold checkSession SessionFits
  cases request.initiator.sessionId with
  | none =>
    simp only [reduceCtorEq, false_implies, implies_true, forall_const]
    exact Iff.rfl
  | some sessionId =>
    simp only [Option.some.injEq, forall_eq']
    rw [← Sql.bind_bind, leavesNoTrace_getAgentSessionRecord]
    constructor
    · rintro whole ⟨session, found, workspace, state⟩
      have next := whole session found
      rw [if_neg (by simp [workspace]), if_neg (by simp [state])] at next
      exact next
    · intro rest session found
      by_cases workspace : session.workspaceId = request.workspaceId
      · rw [if_neg (by simp [workspace])]
        by_cases state : session.state = .recording
        · rw [if_neg (by simp [state])]
          exact rest ⟨session, found, workspace, state⟩
        · rw [if_pos state]
          exact Sql.leavesNoTrace_fail
      · rw [if_pos workspace]
        exact Sql.leavesNoTrace_fail

/-- The row is inserted before the execution is read again. -/
theorem leavesNoTrace_createExecution {now : Int} {id : ExecutionId} {request : ExecutionRequest}
    {cwd : String} :
    Sql.LeavesNoTrace SqliteFault (createExecution now id request cwd) db ↔
      ¬ db.AcceptsExecution id request := by
  unfold createExecution AcceptsExecution
  cases request.validate with
  | error e => exact iff_of_true Sql.leavesNoTrace_fail (by simp)
  | ok _ =>
    simp only [true_and]
    rw [leavesNoTrace_checkSession, not_and]
    refine imp_congr_right fun fits => ?_
    unfold insertExecution
    rw [Sql.leavesNoTrace_then (fun _ => prompt_getExecution) sqliteFault_possible]
    have linked : (queuedRow now id request cwd).sessionId.any
        (fun sessionId => (db.agentSessions.find? sessionId).isNone) = false := by
      show request.initiator.sessionId.any _ = false
      cases named : request.initiator.sessionId with
      | none => rfl
      | some sessionId =>
        obtain ⟨session, found, _⟩ := fits sessionId named
        simp [found]
    simp only [linked, Bool.false_eq_true, or_false]
    by_cases workspace : db.workspaces.find? request.workspaceId = none
    · refine iff_of_true ?_ (fun accepts => accepts.1 workspace)
      intro a db' inserted
      rw [if_pos (show db.workspaces.find? (queuedRow now id request cwd).workspaceId = none from
        workspace)] at inserted
      cases inserted
    · cases inserted : db.executions.insert? (queuedRow now id request cwd) with
      | none =>
        obtain ⟨row, taken⟩ := Table.insert?_eq_none.mp inserted
        replace taken : db.executions.find? id = some row := taken
        refine iff_of_true ?_ (by simp [taken])
        intro a db' stored
        split at stored <;> cases stored
      | some executions =>
        obtain ⟨fresh, rows⟩ := Table.insert?_eq_some.mp inserted
        refine iff_of_false ?_ (not_not_intro ⟨workspace, fresh⟩)
        intro whole
        have stored := whole () { db with executions } (if_neg workspace)
        have same := congrArg (fun db => db.executions.rows.length) stored.1
        simp [rows] at same

/-- The row is inserted before the session is read again. -/
theorem leavesNoTrace_insertAgentSession {row : AgentSessionRow} {id : SessionId}
    (workspace : db.workspaces.find? row.workspaceId ≠ none) :
    Sql.LeavesNoTrace SqliteFault (insertAgentSession row >>= fun _ => getAgentSessionRecord id)
      db ↔ db.agentSessions.find? row.id ≠ none := by
  unfold insertAgentSession
  rw [Sql.leavesNoTrace_then (fun _ => prompt_getAgentSessionRecord) sqliteFault_possible]
  simp only [workspace, if_false]
  cases inserted : db.agentSessions.insert? row with
  | none =>
    obtain ⟨other, taken⟩ := Table.insert?_eq_none.mp inserted
    simp [taken]
  | some agentSessions =>
    obtain ⟨fresh, rows⟩ := Table.insert?_eq_some.mp inserted
    refine iff_of_false ?_ (not_not_intro fresh)
    intro whole
    have same := congrArg (fun db => db.agentSessions.rows.length) (whole () _ rfl).1
    simp [rows] at same

theorem leavesNoTrace_getWorkspace {α : Type} {identifier : String} {k : Workspace → Store α} :
    Sql.LeavesNoTrace SqliteFault (getWorkspace identifier >>= k) db ↔
      ∀ row, db.activeWorkspace identifier = some row →
        Sql.LeavesNoTrace SqliteFault (k row.toWorkspace) db := by
  unfold getWorkspace activeWorkspace
  rw [Sql.leavesNoTrace_select_bind]
  cases db.namedWorkspace identifier _ with
  | none => simp
  | some row => simp

theorem leavesNoTrace_createAgentSession {now : Int} {request : AgentSessionRequest}
    {cwd : Except Error String} :
    Sql.LeavesNoTrace SqliteFault (createAgentSession now request cwd) db ↔
      ¬ db.AcceptsAgentSession request cwd := by
  unfold createAgentSession AcceptsAgentSession
  cases request.validate with
  | error e => exact iff_of_true Sql.leavesNoTrace_fail (by simp)
  | ok _ =>
    simp only [true_and]
    rw [leavesNoTrace_getWorkspace]
    cases found : db.activeWorkspace request.workspaceId with
    | none => simp
    | some workspace =>
      have present : db.workspaces.find? workspace.id ≠ none := by
        rw [Table.mem_rows_iff.mp (namedWorkspace_eq_some found).1]
        simp
      cases cwd with
      | error e => simp [Sql.leavesNoTrace_fail]
      | ok path =>
        simp only [Option.some.injEq, forall_eq']
        by_cases inside : components path = components workspace.root ∨
            components workspace.root <+: components path
        · rw [if_neg (by tauto)]
          apply (leavesNoTrace_insertAgentSession present).trans
          simp [inside]
        · rw [if_pos (by tauto)]
          refine iff_of_true Sql.leavesNoTrace_fail ?_
          rintro ⟨_, _, ⟨⟩, ⟨⟩, holds, _⟩
          exact inside holds

theorem leavesNoTrace_deleteAgentSession {id : SessionId} :
    Sql.LeavesNoTrace SqliteFault (deleteAgentSession id) db := by
  unfold deleteAgentSession getAgentSessionRecord
  rw [Sql.leavesNoTrace_select_bind]
  intro session _
  split
  · exact Sql.leavesNoTrace_fail
  · exact Sql.leavesNoTrace_transaction

end Database

/-- The operations of the store that write executions or sessions. -/
inductive StoreWrite where
  | createExecution (now : Int) (id : ExecutionId) (request : ExecutionRequest) (cwd : String)
  | markRunning (now : Int) (id : ExecutionId) (pid : Nat) (pgid : Int)
  | appendCaptureBatch (records : List CaptureRecord)
  | finish (now : Int) (id : ExecutionId) (state : ExecutionState) (outcome : ExecutionOutcome)
  | prune (order : Database.EndOrder) (now : Int) (retentionDays retentionBytes : Nat)
  | createAgentSession (now : Int) (request : AgentSessionRequest) (cwd : Except Error String)
  | finishAgentSession (now : Int) (id : SessionId) (ending : AgentSessionFinish)
  | recordAgentEvent (now : Int) (turnId actionId : String) (request : AgentEventRequest)
  | deleteAgentSession (id : SessionId)

namespace StoreWrite

/-- What an operation answers with. -/
def Answer : StoreWrite → Type
  | .createExecution .. => Execution
  | .markRunning .. | .finish .. => ExecutionEvent
  | .appendCaptureBatch .. => List ExecutionEvent
  | .prune .. => Nat
  | .createAgentSession .. | .finishAgentSession .. => AgentSessionRow
  | .recordAgentEvent .. => AgentTurnRow
  | .deleteAgentSession .. => Unit

def program : (write : StoreWrite) → Store write.Answer
  | .createExecution now id request cwd => Database.createExecution now id request cwd
  | .markRunning now id pid pgid => Database.markRunning now id pid pgid
  | .appendCaptureBatch records => Database.appendCaptureBatch records
  | .finish now id state outcome => Database.finish now id state outcome
  | .prune order now retentionDays retentionBytes =>
      Database.prune order now retentionDays retentionBytes
  | .createAgentSession now request cwd => Database.createAgentSession now request cwd
  | .finishAgentSession now id ending => Database.finishAgentSession now id ending
  | .recordAgentEvent now turnId actionId request =>
      Database.recordAgentEvent now turnId actionId request
  | .deleteAgentSession id => Database.deleteAgentSession id

/-- The operation has nothing to write in `db` outside of a transaction before its last
statement. -/
def Whole (db : Database) : StoreWrite → Prop
  | .createExecution _ id request _ => ¬ db.AcceptsExecution id request
  | .createAgentSession _ request cwd => ¬ db.AcceptsAgentSession request cwd
  | .finishAgentSession _ id ending =>
      ending.state = .recording ∨ ending.agrees = false ∨ ¬ db.StillRecording id
  | .recordAgentEvent now turnId _ request =>
      request.validate ≠ .ok () ∨ ¬ db.StillRecording request.sessionId ∨
        db.EventIdle now turnId request
  | .markRunning .. | .appendCaptureBatch .. | .finish .. | .prune .. => True
  | .deleteAgentSession .. => True

end StoreWrite

open Database in
/-- Whatever statement fails, an operation that ends with an error leaves the database as it was,
if and only if it has nothing to write outside of a transaction before its last statement. -/
theorem store_write_whole_iff (db : Database) (write : StoreWrite) :
    (∀ faults e db', Store.run write.program faults db = (.error e, db') → db' = db) ↔
      write.Whole db := by
  rw [← leavesNoTrace_iff_run]
  cases write with
  | createExecution => exact leavesNoTrace_createExecution
  | markRunning => exact iff_true_intro Sql.leavesNoTrace_transaction
  | appendCaptureBatch records =>
    refine iff_true_intro ?_
    cases records with
    | nil => exact Sql.leavesNoTrace_pure
    | cons record rest => exact Sql.leavesNoTrace_transaction
  | finish => exact iff_true_intro Sql.leavesNoTrace_transaction
  | prune => exact iff_true_intro Sql.leavesNoTrace_transaction
  | createAgentSession => exact leavesNoTrace_createAgentSession
  | finishAgentSession => exact leavesNoTrace_finishAgentSession
  | recordAgentEvent => exact leavesNoTrace_recordAgentEvent
  | deleteAgentSession => exact iff_true_intro leavesNoTrace_deleteAgentSession

/-- How the session of `sampleCommands` ends. -/
def sampleEnding : AgentSessionFinish := ⟨.finished, .exited 0, 10, false⟩

/-- The turns of a session cannot be written, and the session has ended all the same: when it is
ended again, the turn that was active stays active. -/
theorem finish_agent_session_half_done :
    ∃ db e db', storeActor.Reachable db ∧ db.StillRecording "s" ∧
      Store.run (Database.finishAgentSession 9 "s" sampleEnding) [none, none, some "disk full"] db =
        (.error e, db') ∧ db' ≠ db ∧ ¬ db'.StillRecording "s" ∧
      ∃ session db'', Store.run (Database.finishAgentSession 10 "s" sampleEnding) [] db' =
        (.ok session, db'') ∧ ∃ turn ∈ db''.agentTurns.rows, turn.state = .active := by
  have traced : (storeActor.run newDatabase (sampleCommands.take 7)).map (fun db =>
      let failed := Store.run (Database.finishAgentSession 9 "s" sampleEnding)
        [none, none, some "disk full"] db
      let again := Store.run (Database.finishAgentSession 10 "s" sampleEnding) [] failed.2
      ((db.agentSessions.find? "s").map (·.state), failed.1.isOk,
        (failed.2.agentSessions.find? "s").map (·.state), again.1.isOk,
        again.2.agentTurns.rows.any (·.state = .active))) =
      some (some .recording, false, some .finished, true, true) := by decide +kernel
  obtain ⟨db, ran, values⟩ := Option.map_eq_some_iff.mp traced
  simp only [Prod.mk.injEq] at values
  obtain ⟨recording, failed, ended, retried, active⟩ := values
  obtain ⟨session, found, state⟩ := Option.map_eq_some_iff.mp recording
  have still : db.StillRecording "s" := ⟨session, found, state⟩
  generalize first : Store.run (Database.finishAgentSession 9 "s" sampleEnding)
    [none, none, some "disk full"] db = outcome at failed ended retried active
  obtain ⟨result, db'⟩ := outcome
  have closed : ¬ db'.StillRecording "s" := by
    rintro ⟨other, there, state⟩
    rw [there, Option.map_some, state] at ended
    cases ended
  cases result with
  | ok _ => cases failed
  | error e =>
    refine ⟨db, e, db', System.run_reachable rfl ran, still, first, ?_, closed, ?_⟩
    · rintro rfl
      exact closed still
    · generalize Store.run (Database.finishAgentSession 10 "s" sampleEnding) [] db' = second
        at retried active
      obtain ⟨result, db''⟩ := second
      cases result with
      | error e => cases retried
      | ok session =>
        obtain ⟨turn, member, state⟩ := List.any_eq_true.mp active
        exact ⟨session, db'', rfl, turn, member, of_decide_eq_true state⟩

end Loomterm
