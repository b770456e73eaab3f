import Loomterm.Store.Links
import Mathlib.Logic.Relation

/-!
# What a hook event writes

`record_agent_event` is a handful of statements on the tables of turns and actions. `HookWrite`
is what one of them may do, whether the call ends well or not, and `Recorded` is what they have
done together when it does.
-/

namespace Loomterm

/-- The columns by which a turn belongs to a provider's session in a recording. -/
def AgentTurnRow.owner (turn : AgentTurnRow) : SessionId × String × String :=
  (turn.sessionId, turn.provider, turn.providerSessionId)

/-- A turn that is cut off. -/
def AgentTurnRow.interrupted (now : Int) (turn : AgentTurnRow) : AgentTurnRow :=
  { turn with state := .interrupted, endedAtMs := some now }

/-- A turn whose prompt has come again. -/
def AgentTurnRow.reopened (prompt : String) (turn : AgentTurnRow) : AgentTurnRow :=
  { turn with state := .active, prompt, endedAtMs := none, lastAssistantMessage := none }

/-- A turn that its provider has finished. -/
def AgentTurnRow.finished (now : Int) (failed : Bool) (lastAssistantMessage : Option String)
    (turn : AgentTurnRow) : AgentTurnRow :=
  { turn with
    state := if failed then .failed else .completed
    endedAtMs := some now
    lastAssistantMessage }

/-- An action that starts again. -/
def AgentActionRow.restarted (toolName : String) (action : AgentActionRow) : AgentActionRow :=
  { action with toolName, state := .running, endedAtMs := none }

/-- An action that has finished. -/
def AgentActionRow.finished (now : Int) (toolName : String) (failed : Bool)
    (known : Option ExecutionId) (action : AgentActionRow) : AgentActionRow :=
  { action with
    toolName
    state := if failed then .failed else .completed
    executionId := known <|> action.executionId
    endedAtMs := some now }

@[simp] theorem AgentTurnRow.interrupted_id (now : Int) (turn : AgentTurnRow) :
    (turn.interrupted now).id = turn.id := rfl

@[simp] theorem AgentTurnRow.reopened_id (prompt : String) (turn : AgentTurnRow) :
    (turn.reopened prompt).id = turn.id := rfl

@[simp] theorem AgentTurnRow.finished_id (now : Int) (failed : Bool)
    (lastAssistantMessage : Option String) (turn : AgentTurnRow) :
    (turn.finished now failed lastAssistantMessage).id = turn.id := rfl

@[simp] theorem AgentActionRow.restarted_id (toolName : String) (action : AgentActionRow) :
    (action.restarted toolName).id = action.id := rfl

@[simp] theorem AgentActionRow.finished_id (now : Int) (toolName : String) (failed : Bool)
    (known : Option ExecutionId) (action : AgentActionRow) :
    (action.finished now toolName failed known).id = action.id := rfl

/-- A turn has no end while it is active, and only then. -/
def AgentTurnRow.Kept (turn : AgentTurnRow) : Prop := turn.endedAtMs = none ↔ turn.state = .active

/-- An action has no end while it is running, and only then. -/
def AgentActionRow.Kept (action : AgentActionRow) : Prop :=
  action.endedAtMs = none ↔ action.state = .running

theorem AgentTurnRow.interrupted_kept (now : Int) (turn : AgentTurnRow) :
    (turn.interrupted now).Kept := by
  simp [AgentTurnRow.Kept, AgentTurnRow.interrupted]

theorem AgentTurnRow.reopened_kept (prompt : String) (turn : AgentTurnRow) :
    (turn.reopened prompt).Kept := by
  simp [AgentTurnRow.Kept, AgentTurnRow.reopened]

theorem AgentTurnRow.finished_kept (now : Int) (failed : Bool)
    (lastAssistantMessage : Option String) (turn : AgentTurnRow) :
    (turn.finished now failed lastAssistantMessage).Kept := by
  cases failed <;> simp [AgentTurnRow.Kept, AgentTurnRow.finished]

theorem AgentActionRow.restarted_kept (toolName : String) (action : AgentActionRow) :
    (action.restarted toolName).Kept := by
  simp [AgentActionRow.Kept, AgentActionRow.restarted]

theorem AgentActionRow.finished_kept (now : Int) (toolName : String) (failed : Bool)
    (known : Option ExecutionId) (action : AgentActionRow) :
    (action.finished now toolName failed known).Kept := by
  cases failed <;> simp [AgentActionRow.Kept, AgentActionRow.finished]

/-- The conflict of two actions in `ON CONFLICT(turn_id, provider_action_id)`. -/
def AgentActionRow.conflicts (action row : AgentActionRow) : Bool :=
  row.turnId = action.turnId && row.providerActionId = action.providerActionId

namespace AgentEventRequest

variable (request : AgentEventRequest)

def owner : SessionId × String × String :=
  (request.sessionId, request.provider, request.providerSessionId)

/-- The turns that an event may be about, by the lookups of `find_or_create_agent_turn`. -/
def picks (turn : AgentTurnRow) : Bool :=
  request.owns turn &&
    if request.providerTurnId.isSome then decide (turn.providerTurnId = request.providerTurnId)
    else decide (turn.state = .active)

/-- The turns that a prompt interrupts. -/
def supersedes (turn : AgentTurnRow) : Bool :=
  request.owns turn && turn.state = .active && (request.providerTurnId.isNone ||
    turn.providerTurnId.isNone || turn.providerTurnId ≠ request.providerTurnId)

/-- The row of `insert_agent_turn`. -/
def newTurn (id prompt : String) (now : Int) : AgentTurnRow where
  id := id
  sessionId := request.sessionId
  provider := request.provider
  providerSessionId := request.providerSessionId
  providerTurnId := request.providerTurnId
  prompt := prompt
  createdAtMs := now

variable {request}

theorem owns_iff {turn : AgentTurnRow} : request.owns turn = true ↔ turn.owner = request.owner := by
  simp [owns, AgentTurnRow.owner, owner, and_assoc]

theorem picks_owner {turn : AgentTurnRow} (picked : request.picks turn = true) :
    turn.owner = request.owner :=
  owns_iff.mp (Bool.and_eq_true_iff.mp picked).1

@[simp] theorem newTurn_owner (id prompt : String) (now : Int) :
    (request.newTurn id prompt now).owner = request.owner := rfl

end AgentEventRequest

namespace Database

/-- Whom a turn belongs to. -/
def turnOwner (db : Database) (id : String) : Option (SessionId × String × String) :=
  (db.agentTurns.find? id).map (·.owner)

/-- The session is there and is recording. -/
def IsRecording (db : Database) (id : SessionId) : Prop :=
  ∃ session, db.agentSessions.find? id = some session ∧ session.state = .recording

/-- What one statement of `record_agent_event` does. -/
inductive HookWrite (request : AgentEventRequest) (db : Database) : Database → Prop
  | turns {p : AgentTurnRow → Bool} {set : AgentTurnRow → AgentTurnRow}
      (keeps : ∀ turn, (set turn).id = turn.id) :
      (∀ turn ∈ db.agentTurns.rows, p turn = true → turn.owner = request.owner) →
      (∀ turn, (set turn).owner = turn.owner ∧ (set turn).Kept) →
      HookWrite request db { db with agentTurns := db.agentTurns.update p set keeps }
  | newTurn {turn : AgentTurnRow} {agentTurns : Table AgentTurnRow.id} :
      turn.owner = request.owner → turn.Kept → db.agentTurns.insert? turn = some agentTurns →
      HookWrite request db { db with agentTurns }
  | actions {p : AgentActionRow → Bool} {set : AgentActionRow → AgentActionRow}
      (keeps : ∀ action, (set action).id = action.id) :
      (∀ action ∈ db.agentActions.rows, p action = true →
        db.turnOwner action.turnId = some request.owner) →
      (∀ action, (set action).turnId = action.turnId ∧
        (set action).providerActionId = action.providerActionId ∧ (set action).Kept) →
      HookWrite request db { db with agentActions := db.agentActions.update p set keeps }
  | newAction {action : AgentActionRow} {agentActions : Table AgentActionRow.id} :
      db.turnOwner action.turnId = some request.owner → action.Kept →
      db.agentActions.insert? action = some agentActions →
      HookWrite request db { db with agentActions }

/-- What several of them do. -/
abbrev Hooked (request : AgentEventRequest) : Database → Database → Prop :=
  Relation.ReflTransGen (HookWrite request)

/-! ## Turns -/

/-- A new turn of the request. -/
def InsertedTurn (request : AgentEventRequest) (id prompt : String) (now : Int) (db : Database)
    (turn : AgentTurnRow) (db' : Database) : Prop :=
  turn = request.newTurn id prompt now ∧
    ∃ agentTurns, db.agentTurns.insert? turn = some agentTurns ∧ db' = { db with agentTurns }

/-- The turn of an event without a prompt: one that is there, or a placeholder. -/
def FoundTurn (request : AgentEventRequest) (id : String) (now : Int) (db : Database)
    (turn : AgentTurnRow) (db' : Database) : Prop :=
  (turn ∈ db.agentTurns.rows ∧ request.picks turn = true ∧ db' = db) ∨
    ((∀ other ∈ db.agentTurns.rows, request.picks other = false) ∧
      InsertedTurn request id "" now db turn db')

/-- The table behind the update of a turn. -/
def settingTurn (db : Database) (id : String) (set : AgentTurnRow → AgentTurnRow)
    (keeps : ∀ turn, (set turn).id = turn.id) : Database :=
  { db with agentTurns := db.agentTurns.update (fun turn => turn.id = id) set keeps }

/-- The database behind the first statement of a prompt. -/
def superseding (db : Database) (request : AgentEventRequest) (now : Int) : Database :=
  { db with
    agentTurns := db.agentTurns.update request.supersedes (AgentTurnRow.interrupted now)
      (AgentTurnRow.interrupted_id now) }

variable {request : AgentEventRequest} {db db' : Database} {turn : AgentTurnRow}

theorem turnOwner_of_mem (member : turn ∈ db.agentTurns.rows) :
    db.turnOwner turn.id = some turn.owner := by
  rw [turnOwner, Table.mem_rows_iff.mp member]
  rfl

theorem InsertedTurn.hooked {id prompt : String} {now : Int}
    (inserted : InsertedTurn request id prompt now db turn db') : Hooked request db db' := by
  obtain ⟨rfl, agentTurns, joined, rfl⟩ := inserted
  exact .single (.newTurn rfl ⟨fun _ => rfl, fun _ => rfl⟩ joined)

theorem InsertedTurn.mem {id prompt : String} {now : Int}
    (inserted : InsertedTurn request id prompt now db turn db') :
    turn ∈ db'.agentTurns.rows := by
  obtain ⟨_, agentTurns, joined, rfl⟩ := inserted
  show turn ∈ agentTurns.rows
  rw [(Table.insert?_eq_some.mp joined).2]
  exact List.mem_append_right _ List.mem_cons_self

theorem FoundTurn.hooked {id : String} {now : Int}
    (found : FoundTurn request id now db turn db') : Hooked request db db' := by
  obtain ⟨_, _, rfl⟩ | ⟨_, inserted⟩ := found
  · exact .refl
  · exact inserted.hooked

theorem FoundTurn.executions {id : String} {now : Int}
    (found : FoundTurn request id now db turn db') : db'.executions = db.executions := by
  obtain ⟨_, _, rfl⟩ | ⟨_, _, _, _, rfl⟩ := found
  · rfl
  · rfl

/-- The turn is there, and is the request's. -/
theorem FoundTurn.owned {id : String} {now : Int}
    (found : FoundTurn request id now db turn db') :
    turn ∈ db'.agentTurns.rows ∧ turn.owner = request.owner := by
  obtain ⟨member, picked, rfl⟩ | ⟨_, inserted⟩ := found
  · exact ⟨member, AgentEventRequest.picks_owner picked⟩
  · refine ⟨inserted.mem, ?_⟩
    rw [inserted.1]
    rfl

theorem settingTurn_hooked {set : AgentTurnRow → AgentTurnRow}
    (keeps : ∀ turn, (set turn).id = turn.id) (member : turn ∈ db.agentTurns.rows)
    (owned : turn.owner = request.owner)
    (same : ∀ turn, (set turn).owner = turn.owner ∧ (set turn).Kept) :
    Hooked request db (db.settingTurn turn.id set keeps) := by
  refine .single (.turns keeps ?_ same)
  intro other present own
  have there := turnOwner_of_mem present
  rw [of_decide_eq_true own, turnOwner_of_mem member, Option.some.injEq] at there
  rw [← there, owned]

/-- The row that the update of a turn leaves. -/
theorem settingTurn_find {set : AgentTurnRow → AgentTurnRow}
    (keeps : ∀ turn, (set turn).id = turn.id) (member : turn ∈ db.agentTurns.rows) :
    (db.settingTurn turn.id set keeps).agentTurns.find? turn.id = some (set turn) := by
  rw [settingTurn, Table.find?_update, Table.mem_rows_iff.mp member]
  simp

theorem superseding_hooked (now : Int) : Hooked request db (db.superseding request now) := by
  refine .single (.turns _ ?_ fun turn => ⟨rfl, turn.interrupted_kept now⟩)
  intro turn _ selected
  simp only [AgentEventRequest.supersedes, Bool.and_eq_true] at selected
  exact AgentEventRequest.owns_iff.mp selected.1.1

/-! ## Actions -/

/-- The table behind the upsert of an action of a turn that is there. -/
def Upserted (db : Database) (action : AgentActionRow) (set : AgentActionRow → AgentActionRow)
    (keeps : ∀ row, (set row).id = row.id) (db' : Database) : Prop :=
  ((∃ row ∈ db.agentActions.rows, action.conflicts row = true) ∧
      db' = { db with agentActions := db.agentActions.update action.conflicts set keeps }) ∨
    ((∀ row ∈ db.agentActions.rows, action.conflicts row = false) ∧
      ∃ agentActions, db.agentActions.insert? action = some agentActions ∧
        db' = { db with agentActions })

theorem Upserted.hooked {action : AgentActionRow} {set : AgentActionRow → AgentActionRow}
    {keeps : ∀ row, (set row).id = row.id} (upserted : db.Upserted action set keeps db')
    (owned : db.turnOwner action.turnId = some request.owner) (kept : action.Kept)
    (same : ∀ row, (set row).turnId = row.turnId ∧
      (set row).providerActionId = row.providerActionId ∧ (set row).Kept) :
    Hooked request db db' := by
  obtain ⟨_, rfl⟩ | ⟨_, agentActions, joined, rfl⟩ := upserted
  · refine .single (.actions keeps ?_ same)
    intro row _ conflicts
    simp only [AgentActionRow.conflicts, Bool.and_eq_true, decide_eq_true_eq] at conflicts
    rw [conflicts.1]
    exact owned
  · exact .single (.newAction owned kept joined)

/-- The execution that a finished tool is linked to, when its lookup does not fail. -/
def knownAs (db : Database) (workspaceId : WorkspaceId) (executionId : Option ExecutionId) :
    Option ExecutionId :=
  executionId.filter fun id =>
    db.executions.rows.any fun row => row.id = id && row.workspaceId = workspaceId

/-! ## Events -/

/-- What a call that has returned `turn` has done. -/
def Recorded (fault : Error → Prop) (now : Int) (turnId actionRowId : String)
    (workspaceId : WorkspaceId) (request : AgentEventRequest) (db : Database)
    (turn : AgentTurnRow) (db' : Database) : Prop :=
  match request.event with
  | .promptSubmitted prompt =>
      (∃ old ∈ (db.superseding request now).agentTurns.rows, request.providerTurnId.isSome ∧
          request.picks old = true ∧ turn = old.reopened prompt ∧
          db' = (db.superseding request now).settingTurn old.id (AgentTurnRow.reopened prompt)
            (AgentTurnRow.reopened_id prompt)) ∨
        ((request.providerTurnId.isSome →
            ∀ old ∈ (db.superseding request now).agentTurns.rows, request.picks old = false) ∧
          InsertedTurn request turnId prompt now (db.superseding request now) turn db')
  | .toolStarted actionId toolName =>
      ∃ middle, FoundTurn request turnId now db turn middle ∧
        middle.Upserted
          { id := actionRowId, turnId := turn.id, providerActionId := actionId, toolName
            state := .running, createdAtMs := now }
          (AgentActionRow.restarted toolName) (AgentActionRow.restarted_id toolName) db'
  | .toolFinished actionId toolName failed executionId =>
      ∃ middle known, FoundTurn request turnId now db turn middle ∧
        (known = db.knownAs workspaceId executionId ∨ known = none ∧ ∃ e, fault e) ∧
        middle.Upserted
          { id := actionRowId, turnId := turn.id, providerActionId := actionId, toolName
            state := if failed then .failed else .completed
            executionId := known, createdAtMs := now, endedAtMs := some now }
          (AgentActionRow.finished now toolName failed known)
          (AgentActionRow.finished_id now toolName failed known) db'
  | .turnFinished failed lastAssistantMessage =>
      ∃ middle old, FoundTurn request turnId now db old middle ∧
        turn = old.finished now failed lastAssistantMessage ∧
        db' = middle.settingTurn old.id (AgentTurnRow.finished now failed lastAssistantMessage)
          (AgentTurnRow.finished_id now failed lastAssistantMessage)

theorem Recorded.hooked {fault : Error → Prop} {now : Int} {turnId actionRowId : String}
    {workspaceId : WorkspaceId}
    (recorded : Recorded fault now turnId actionRowId workspaceId request db turn db') :
    Hooked request db db' := by
  unfold Recorded at recorded
  split at recorded
  · refine (superseding_hooked now).trans ?_
    obtain ⟨old, member, _, picked, _, rfl⟩ | ⟨_, inserted⟩ := recorded
    · exact settingTurn_hooked _ member (AgentEventRequest.picks_owner picked)
        fun turn => ⟨rfl, turn.reopened_kept _⟩
    · exact inserted.hooked
  · obtain ⟨middle, found, upserted⟩ := recorded
    obtain ⟨member, owned⟩ := found.owned
    refine found.hooked.trans (upserted.hooked ?_ ⟨fun _ => rfl, fun _ => rfl⟩
      fun row => ⟨rfl, rfl, row.restarted_kept _⟩)
    rw [turnOwner_of_mem member, owned]
  · rename_i actionId toolName failed executionId _
    obtain ⟨middle, known, found, _, upserted⟩ := recorded
    obtain ⟨member, owned⟩ := found.owned
    have ended : (if failed then AgentActionState.failed else .completed) ≠ .running := by
      cases failed <;> exact AgentActionState.noConfusion
    refine found.hooked.trans (upserted.hooked ?_ ?_ fun row => ⟨rfl, rfl, row.finished_kept _ _ _ _⟩)
    · rw [turnOwner_of_mem member, owned]
    · simpa [AgentActionRow.Kept] using ended
  · rename_i failed lastAssistantMessage _
    obtain ⟨middle, old, found, _, rfl⟩ := recorded
    obtain ⟨member, owned⟩ := found.owned
    exact found.hooked.trans (settingTurn_hooked _ member owned
      fun turn => ⟨rfl, turn.finished_kept _ _ _⟩)

/-! ## Calls -/

section Calls

variable {fault : Error → Prop} (storage : ∀ e, fault e → e.isStorage = true)
include storage

theorem insertAgentTurn_spec (id prompt : String) (now : Int) :
    Sql.Post fault (insertAgentTurn id request prompt now) db fun r db' =>
      match r with
      | .ok turn => InsertedTurn request id prompt now db turn db'
      | .error e => e.isStorage = true ∧ Hooked request db db' := by
  refine Sql.post_bind (Sql.post_statement (fun e raised => ⟨storage e raised, .refl⟩) ?_)
  split
  · rename_i ran
    split at ran
    · cases ran
    · split at ran
      · cases ran
      · split at ran <;> cases ran
        rename_i agentTurns joined
        have inserted : InsertedTurn request id prompt now db (request.newTurn id prompt now)
            { db with agentTurns } := ⟨rfl, agentTurns, joined, rfl⟩
        refine Sql.post_select (fun e raised => ⟨storage e raised, inserted.hooked⟩) ?_
        have new := Table.find?_insert joined id
        simp only [if_true] at new
        simp only [new]
        exact inserted
  · rename_i ran
    split at ran
    · cases ran
      exact ⟨rfl, .refl⟩
    · split at ran
      · cases ran
        exact ⟨rfl, .refl⟩
      · split at ran <;> cases ran
        exact ⟨rfl, .refl⟩

theorem findProviderTurn_spec :
    Sql.Post fault (findProviderTurn request) db fun r db' => db' = db ∧
      match r with
      | .ok (some turn) => request.providerTurnId.isSome ∧ turn ∈ db.agentTurns.rows ∧
          request.picks turn = true
      | .ok none => request.providerTurnId.isSome →
          ∀ turn ∈ db.agentTurns.rows, request.picks turn = false
      | .error e => e.isStorage = true := by
  unfold findProviderTurn
  cases own : request.providerTurnId with
  | none => exact Sql.post_pure ⟨rfl, by simp⟩
  | some providerTurnId =>
    refine Sql.post_select (fun e raised => ⟨rfl, storage e raised⟩) ⟨rfl, ?_⟩
    have picks : request.picks = fun turn =>
        request.owns turn && turn.providerTurnId = some providerTurnId := by
      funext turn
      simp [AgentEventRequest.picks, own]
    rw [← picks]
    cases found : db.agentTurns.rows.find? request.picks with
    | none => exact fun _ turn member => by simpa using List.find?_eq_none.mp found turn member
    | some turn => exact ⟨rfl, List.mem_of_find?_eq_some found, List.find?_some found⟩

theorem findActiveTurn_spec (anonymous : request.providerTurnId = none) :
    Sql.Post fault (findActiveTurn request) db fun r db' => db' = db ∧
      match r with
      | .ok (some turn) => turn ∈ db.agentTurns.rows ∧ request.picks turn = true
      | .ok none => ∀ turn ∈ db.agentTurns.rows, request.picks turn = false
      | .error e => e.isStorage = true := by
  refine Sql.post_select (fun e raised => ⟨rfl, storage e raised⟩) ⟨rfl, ?_⟩
  have picks : request.picks = fun turn => request.owns turn && turn.state = .active := by
    funext turn
    simp [AgentEventRequest.picks, anonymous]
  dsimp only
  rw [← picks]
  have sorted := List.perm_insertionSort
    (fun left right : AgentTurnRow => right.createdAtMs ≤ left.createdAtMs)
    (db.agentTurns.rows.filter request.picks).reverse
  cases first : ((db.agentTurns.rows.filter request.picks).reverse.insertionSort
      fun left right => right.createdAtMs ≤ left.createdAtMs).head? with
  | none =>
    have empty := List.head?_eq_none_iff.mp first
    rw [empty, List.nil_perm, List.reverse_eq_nil_iff] at sorted
    exact fun turn member => by simpa using List.filter_eq_nil_iff.mp sorted turn member
  | some turn =>
    have member := sorted.mem_iff.mp (List.mem_of_mem_head? first)
    exact List.mem_filter.mp (List.mem_reverse.mp member)

theorem findOrCreate_spec (id : String) (now : Int) :
    Sql.Post fault (findOrCreateAgentTurn id request now) db fun r db' =>
      match r with
      | .ok turn => FoundTurn request id now db turn db'
      | .error e => e.isStorage = true ∧ Hooked request db db' := by
  have look : Sql.Post fault
      (if request.providerTurnId.isSome then findProviderTurn request else findActiveTurn request)
      db fun r db' => db' = db ∧
        match r with
        | .ok (some turn) => turn ∈ db.agentTurns.rows ∧ request.picks turn = true
        | .ok none => ∀ turn ∈ db.agentTurns.rows, request.picks turn = false
        | .error e => e.isStorage = true := by
    split
    · rename_i own
      refine (findProviderTurn_spec storage).mono fun r db' looked => ⟨looked.1, ?_⟩
      obtain ⟨_, looked⟩ := looked
      cases r with
      | error e => exact looked
      | ok existing =>
        cases existing with
        | none => exact looked own
        | some turn => exact looked.2
    · rename_i own
      exact findActiveTurn_spec storage (by simpa using own)
  refine Sql.post_bind (look.mono fun r db' looked => ?_)
  obtain ⟨rfl, looked⟩ := looked
  cases r with
  | error e => exact ⟨looked, .refl⟩
  | ok existing =>
    cases existing with
    | some turn => exact Sql.post_pure (.inl ⟨looked.1, looked.2, rfl⟩)
    | none =>
      refine (insertAgentTurn_spec storage id "" now).mono fun r db' inserted => ?_
      cases r with
      | error e => exact inserted
      | ok turn => exact .inr ⟨looked, inserted⟩

omit storage in
theorem knownExecution_spec (workspaceId : WorkspaceId) (executionId : Option ExecutionId) :
    Sql.Post fault (knownExecution workspaceId executionId) db fun r db' => db' = db ∧
      ∃ known, r = .ok known ∧
        (known = db.knownAs workspaceId executionId ∨ known = none ∧ ∃ e, fault e) := by
  cases executionId with
  | none => exact Sql.post_pure ⟨rfl, none, rfl, .inl rfl⟩
  | some id =>
    have looked : Sql.Post fault (Sql.attempt (Sql.select fun db : Database =>
        .ok (db.executions.rows.any fun row => row.id = id && row.workspaceId = workspaceId)))
        db fun r db' => db' = db ∧ ∃ found, r = .ok found ∧
          (found = some (db.executions.rows.any fun row =>
              row.id = id && row.workspaceId = workspaceId) ∨ found = none ∧ ∃ e, fault e) :=
      Sql.post_attempt (Sql.post_select (fun e raised => ⟨rfl, none, rfl, .inr ⟨rfl, e, raised⟩⟩)
        ⟨rfl, _, rfl, .inl rfl⟩)
    refine Sql.post_bind (looked.mono fun r db' held => ?_)
    obtain ⟨rfl, found, rfl, known⟩ := held
    refine Sql.post_pure ⟨rfl, _, rfl, ?_⟩
    obtain rfl | ⟨rfl, failed⟩ := known
    · left
      simp only [knownAs, Option.filter_some, Option.some.injEq]
    · exact .inr ⟨rfl, failed⟩

theorem upsertAction_spec {action : AgentActionRow} {set : AgentActionRow → AgentActionRow}
    {keeps : ∀ row, (set row).id = row.id} :
    Sql.Post fault (upsertAction action set keeps) db fun r db' =>
      match r with
      | .ok _ => db.Upserted action set keeps db'
      | .error e => e.isStorage = true ∧ db' = db := by
  refine Sql.post_statement (fun e raised => ⟨storage e raised, rfl⟩) ?_
  split
  · rename_i ran
    split at ran
    · cases ran
    · split at ran
      · cases ran
      · rename_i agentActions joined
        dsimp only at ran
        split at ran
        · rename_i conflict
          cases ran
          exact .inl ⟨List.any_eq_true.mp conflict, rfl⟩
        · rename_i free
          cases ran
          refine .inr ⟨fun row member => ?_, agentActions, joined, rfl⟩
          rw [← Bool.not_eq_true]
          exact fun conflict => free (List.any_eq_true.mpr ⟨row, member, conflict⟩)
  · rename_i ran
    split at ran
    · cases ran
      exact ⟨rfl, rfl⟩
    · split at ran
      · cases ran
        exact ⟨rfl, rfl⟩
      · dsimp only at ran
        split at ran <;> cases ran

theorem recordPrompt_spec (now : Int) (turnId actionRowId prompt : String)
    (workspaceId : WorkspaceId) (own : request.event = .promptSubmitted prompt) :
    Sql.Post fault (recordPrompt now turnId request prompt) db fun r db' =>
      match r with
      | .ok turn => Recorded fault now turnId actionRowId workspaceId request db turn db'
      | .error e => e.isStorage = true ∧ Hooked request db db' := by
  have first : Hooked request db (db.superseding request now) := superseding_hooked now
  refine Sql.post_bind (Sql.post_statement (fun e raised => ⟨storage e raised, .refl⟩) ?_)
  show Sql.Post fault _ (db.superseding request now) _
  refine Sql.post_bind ((findProviderTurn_spec storage).mono fun r db' looked => ?_)
  obtain ⟨rfl, looked⟩ := looked
  cases r with
  | error e => exact ⟨looked, first⟩
  | ok existing =>
    cases existing with
    | none =>
      refine (insertAgentTurn_spec storage turnId prompt now).mono fun r db' inserted => ?_
      cases r with
      | error e => exact ⟨inserted.1, first.trans inserted.2⟩
      | ok turn =>
        unfold Recorded
        rw [own]
        exact .inr ⟨looked, inserted⟩
    | some old =>
      obtain ⟨named, member, picked⟩ := looked
      have second := settingTurn_hooked (AgentTurnRow.reopened_id prompt) member
        (AgentEventRequest.picks_owner picked) fun turn => ⟨rfl, turn.reopened_kept prompt⟩
      have present := settingTurn_find (AgentTurnRow.reopened_id prompt) member
      refine Sql.post_bind (Sql.post_statement (fun e raised => ⟨storage e raised, first⟩) ?_)
      show Sql.Post fault (getAgentTurn old.id) ((db.superseding request now).settingTurn old.id
        (AgentTurnRow.reopened prompt) (AgentTurnRow.reopened_id prompt)) _
      refine Sql.post_select (fun e raised => ⟨storage e raised, first.trans second⟩) ?_
      rw [present]
      unfold Recorded
      rw [own]
      exact .inl ⟨old, member, named, picked, rfl, rfl⟩

theorem recordToolStarted_spec (now : Int) (turnId actionRowId actionId toolName : String)
    (workspaceId : WorkspaceId) (own : request.event = .toolStarted actionId toolName) :
    Sql.Post fault (recordToolStarted now turnId actionRowId request actionId toolName) db
      fun r db' => match r with
        | .ok turn => Recorded fault now turnId actionRowId workspaceId request db turn db'
        | .error e => e.isStorage = true ∧ Hooked request db db' := by
  refine Sql.post_bind ((findOrCreate_spec storage turnId now).mono fun r middle found => ?_)
  cases r with
  | error e => exact found
  | ok turn =>
    refine Sql.post_bind ((upsertAction_spec storage).mono fun r db' upserted => ?_)
    cases r with
    | error e =>
      obtain ⟨failed, rfl⟩ := upserted
      exact ⟨failed, found.hooked⟩
    | ok _ =>
      refine Sql.post_pure ?_
      unfold Recorded
      rw [own]
      exact ⟨middle, found, upserted⟩

theorem recordToolFinished_spec (now : Int) (turnId actionRowId actionId toolName : String)
    (failed : Bool) (executionId : Option ExecutionId) (workspaceId : WorkspaceId)
    (own : request.event = .toolFinished actionId toolName failed executionId) :
    Sql.Post fault (recordToolFinished now turnId actionRowId workspaceId request actionId toolName
      failed executionId) db
      fun r db' => match r with
        | .ok turn => Recorded fault now turnId actionRowId workspaceId request db turn db'
        | .error e => e.isStorage = true ∧ Hooked request db db' := by
  refine Sql.post_bind ((findOrCreate_spec storage turnId now).mono fun r middle found => ?_)
  cases r with
  | error e => exact found
  | ok turn =>
    refine Sql.post_bind ((knownExecution_spec workspaceId executionId).mono fun r db' looked => ?_)
    obtain ⟨rfl, known, rfl, looked⟩ := looked
    have same : db'.knownAs workspaceId executionId = db.knownAs workspaceId executionId := by
      rw [knownAs, knownAs, found.executions]
    rw [same] at looked
    refine Sql.post_bind ((upsertAction_spec storage).mono fun r after upserted => ?_)
    cases r with
    | error e =>
      obtain ⟨raised, rfl⟩ := upserted
      exact ⟨raised, found.hooked⟩
    | ok _ =>
      refine Sql.post_pure ?_
      unfold Recorded
      rw [own]
      exact ⟨db', known, found, looked, upserted⟩

theorem recordTurnFinished_spec (now : Int) (turnId actionRowId : String) (failed : Bool)
    (lastAssistantMessage : Option String) (workspaceId : WorkspaceId)
    (own : request.event = .turnFinished failed lastAssistantMessage) :
    Sql.Post fault (recordTurnFinished now turnId request failed lastAssistantMessage) db
      fun r db' => match r with
        | .ok turn => Recorded fault now turnId actionRowId workspaceId request db turn db'
        | .error e => e.isStorage = true ∧ Hooked request db db' := by
  refine Sql.post_bind ((findOrCreate_spec storage turnId now).mono fun r middle found => ?_)
  cases r with
  | error e => exact found
  | ok old =>
    obtain ⟨member, owned⟩ := found.owned
    have keeps := AgentTurnRow.finished_id now failed lastAssistantMessage
    have second := settingTurn_hooked keeps member owned
      fun turn => ⟨rfl, turn.finished_kept now failed lastAssistantMessage⟩
    have present := settingTurn_find keeps member
    refine Sql.post_bind (Sql.post_statement
      (fun e raised => ⟨storage e raised, found.hooked⟩) ?_)
    show Sql.Post fault (getAgentTurn old.id) (middle.settingTurn old.id
      (AgentTurnRow.finished now failed lastAssistantMessage) keeps) _
    refine Sql.post_select (fun e raised => ⟨storage e raised, found.hooked.trans second⟩) ?_
    rw [present]
    unfold Recorded
    rw [own]
    exact ⟨middle, old, found, rfl, rfl⟩

/-- A call records its event under a session that is recording, changes nothing, or meets a
fault of the database on its way. -/
theorem recordAgentEvent_spec (now : Int) (turnId actionRowId : String) :
    Sql.Post fault (recordAgentEvent now turnId actionRowId request) db fun r db' =>
      match r with
      | .ok turn => ∃ session, db.agentSessions.find? request.sessionId = some session ∧
          session.state = .recording ∧
          Recorded fault now turnId actionRowId session.workspaceId request db turn db'
      | .error e => db' = db ∨
          e.isStorage = true ∧ db.IsRecording request.sessionId ∧ Hooked request db db' := by
  unfold recordAgentEvent
  cases request.validate with
  | error e => exact Sql.post_fail (.inl rfl)
  | ok _ =>
    refine Sql.post_bind (Sql.post_select (fun _ _ => .inl rfl) ?_)
    cases there : db.agentSessions.find? request.sessionId with
    | none => exact .inl rfl
    | some session =>
      show Sql.Post _ (ite _ _ _) db _
      split
      · exact Sql.post_fail (.inl rfl)
      · rename_i recording
        have recording : session.state = .recording := Classical.not_not.mp recording
        have answer : ∀ {program : Store AgentTurnRow}, Sql.Post fault program db (fun r db' =>
            match r with
            | .ok turn =>
                Recorded fault now turnId actionRowId session.workspaceId request db turn db'
            | .error e => e.isStorage = true ∧ Hooked request db db') →
            Sql.Post fault program db fun r db' => match r with
              | .ok turn => ∃ other, some session = some other ∧ other.state = .recording ∧
                  Recorded fault now turnId actionRowId other.workspaceId request db turn db'
              | .error e => db' = db ∨
                  e.isStorage = true ∧ db.IsRecording request.sessionId ∧
                    Hooked request db db' := by
          intro program spec
          refine spec.mono fun r db' held => ?_
          cases r with
          | ok turn => exact ⟨session, rfl, recording, held⟩
          | error e => exact .inr ⟨held.1, ⟨session, there, recording⟩, held.2⟩
        cases own : request.event with
        | promptSubmitted prompt => exact answer (recordPrompt_spec storage _ _ _ _ _ own)
        | toolStarted actionId toolName =>
          exact answer (recordToolStarted_spec storage _ _ _ _ _ _ own)
        | toolFinished actionId toolName failed executionId =>
          exact answer (recordToolFinished_spec storage _ _ _ _ _ _ _ _ own)
        | turnFinished failed lastAssistantMessage =>
          exact answer (recordTurnFinished_spec storage _ _ _ _ _ _ own)

end Calls

end Database

end Loomterm
