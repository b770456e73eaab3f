import Loomterm.Store.Attribution
import Mathlib.Data.List.Permutation

/-!
# Hooks out of order

The events of a turn that its provider names may be delivered in any order. What a run of them
leaves of one of the turn's actions is a fold of the events about that action, so two orders can
be compared without the store.
-/

namespace Loomterm

/-- What a reader sees of an action. -/
structure ActionView where
  state : AgentActionState
  executionId : Option ExecutionId
  ended : Bool
  deriving DecidableEq

def AgentActionRow.view (row : AgentActionRow) : ActionView :=
  ⟨row.state, row.executionId, row.endedAtMs.isSome⟩

namespace AgentEvent

variable {known : Option ExecutionId → Option ExecutionId} {action : String}

/-- What an event leaves of an action; `known` is the execution that is linked for the one that a
tool names. -/
def leave (known : Option ExecutionId → Option ExecutionId) (action : String)
    (view : Option ActionView) : AgentEvent → Option ActionView
  | .toolStarted actionId _ =>
      if actionId = action then some ⟨.running, view.bind (·.executionId), false⟩ else view
  | .toolFinished actionId _ failed executionId =>
      if actionId = action then
        some ⟨if failed then .failed else .completed,
          known executionId <|> view.bind (·.executionId), true⟩
      else view
  | .promptSubmitted _ | .turnFinished _ _ => view

theorem leave_of_ne {view : Option ActionView} {event : AgentEvent}
    (other : event.action? ≠ some action) : event.leave known action view = view := by
  cases event with
  | promptSubmitted prompt => rfl
  | toolStarted actionId toolName => exact if_neg fun same => other (congrArg some same)
  | toolFinished actionId toolName failed executionId =>
    exact if_neg fun same => other (congrArg some same)
  | turnFinished failed lastAssistantMessage => rfl

/-- The events about the action. -/
def about (action : String) (events : List AgentEvent) : List AgentEvent :=
  events.filter fun event => event.action? = some action

/-- Only the events about an action show in it. -/
theorem foldl_leave_about (events : List AgentEvent) (view : Option ActionView) :
    events.foldl (leave known action) view =
      (about action events).foldl (leave known action) view := by
  unfold about
  induction events generalizing view with
  | nil => rfl
  | cons event later ih =>
    rw [List.foldl_cons, ih, List.filter_cons]
    split
    · rfl
    · rename_i other
      rw [leave_of_ne (by simpa using other)]

end AgentEvent

/-- A call of the actor for an event of a turn, with the clock and the ids that it draws. -/
structure Delivery where
  now : Int
  turnId : String
  actionRowId : String
  event : AgentEvent

/-- The call of the store. -/
def Delivery.program (request : AgentEventRequest) (call : Delivery) : Store AgentTurnRow :=
  Database.recordAgentEvent call.now call.turnId call.actionRowId
    { request with event := call.event }

/-- The events of a turn that the store has not heard of, each of which it records. -/
def turnHooks (request : AgentEventRequest) : System Database Delivery where
  start db := storeActor.Reachable db ∧ ∀ turn ∈ db.agentTurns.rows, request.picks turn = false
  step db call :=
    match Store.run (call.program request) [] db with
    | (.ok _, db') => some db'
    | (.error _, _) => none

namespace Database

/-- The rows of an action of a turn. -/
def actionsOf (db : Database) (turnId action : String) : List AgentActionRow :=
  db.agentActions.rows.filter fun row => row.turnId = turnId && row.providerActionId = action

/-- What is seen of an action of the turn that a request is about. -/
def shown (db : Database) (request : AgentEventRequest) (action : String) : List ActionView :=
  (db.agentActions.rows.filter fun row => row.providerActionId = action &&
    db.agentTurns.rows.any fun turn => turn.id = row.turnId && request.picks turn).map
      AgentActionRow.view

/-- The request is about one turn at most, of whose action `view` is seen. -/
structure Tracks (request : AgentEventRequest) (action : String) (view : Option ActionView)
    (db : Database) : Prop where
  sole : ∀ turn ∈ db.agentTurns.rows, ∀ other ∈ db.agentTurns.rows, request.picks turn = true →
    request.picks other = true → other.id = turn.id
  shows : db.shown request action = view.toList

variable {db db' : Database} {request : AgentEventRequest} {turn : AgentTurnRow} {action : String}
  {view : Option ActionView}

/-! ## Turns -/

theorem shown_eq (sole : ∀ turn ∈ db.agentTurns.rows, ∀ other ∈ db.agentTurns.rows,
      request.picks turn = true → request.picks other = true → other.id = turn.id)
    (member : turn ∈ db.agentTurns.rows) (picked : request.picks turn = true) :
    db.shown request action = (db.actionsOf turn.id action).map AgentActionRow.view := by
  unfold shown actionsOf
  congr 1
  refine List.filter_congr fun row _ => ?_
  have ofTurn : (db.agentTurns.rows.any fun turn => turn.id = row.turnId && request.picks turn) =
      decide (row.turnId = turn.id) := by
    rw [Bool.eq_iff_iff, List.any_eq_true, decide_eq_true_eq]
    constructor
    · rintro ⟨other, present, held⟩
      simp only [Bool.and_eq_true, decide_eq_true_eq] at held
      rw [← held.1]
      exact sole turn member other present picked held.2
    · intro same
      exact ⟨turn, member, by simp [same, picked]⟩
  rw [ofTurn, Bool.and_comm]

/-- A named turn is picked by the columns that no event changes. -/
theorem picks_congr (named : request.providerTurnId.isSome) {turn' : AgentTurnRow}
    (owner : turn'.owner = turn.owner) (own : turn'.providerTurnId = turn.providerTurnId) :
    request.picks turn' = request.picks turn := by
  have owns : request.owns turn' = request.owns turn := by
    rw [Bool.eq_iff_iff, AgentEventRequest.owns_iff, AgentEventRequest.owns_iff, owner]
  rw [AgentEventRequest.picks, AgentEventRequest.picks, owns, own, if_pos named, if_pos named]

theorem Tracks.update (named : request.providerTurnId.isSome)
    (tracks : Tracks request action view db) {p : AgentTurnRow → Bool}
    {set : AgentTurnRow → AgentTurnRow} (keeps : ∀ turn, (set turn).id = turn.id)
    (same : ∀ turn, (set turn).owner = turn.owner ∧
      (set turn).providerTurnId = turn.providerTurnId) :
    Tracks request action view { db with agentTurns := db.agentTurns.update p set keeps } := by
  have picks : ∀ turn, request.picks (if p turn then set turn else turn) = request.picks turn := by
    intro turn
    split
    · exact picks_congr named (same turn).1 (same turn).2
    · rfl
  have ids : ∀ turn : AgentTurnRow, (if p turn then set turn else turn).id = turn.id := by
    intro turn
    split
    · exact keeps turn
    · rfl
  constructor
  · intro turn member other present picked also
    obtain ⟨old, before, rfl⟩ := (Table.mem_update keeps).mp member
    obtain ⟨old', before', rfl⟩ := (Table.mem_update keeps).mp present
    rw [picks] at picked also
    rw [ids, ids]
    exact tracks.sole old before old' before' picked also
  · rw [← tracks.shows]
    unfold shown Table.update
    simp only [List.any_map, Function.comp_def, ids, picks]

/-- A new turn has no actions. -/
theorem Tracks.insert (tracks : Tracks request action view db)
    (linked : ∀ row ∈ db.agentActions.rows, ∃ turn ∈ db.agentTurns.rows, turn.id = row.turnId)
    (others : ∀ other ∈ db.agentTurns.rows, request.picks other = false)
    {agentTurns : Table AgentTurnRow.id} (joined : db.agentTurns.insert? turn = some agentTurns) :
    Tracks request action view { db with agentTurns } := by
  obtain ⟨fresh, rows⟩ := Table.insert?_eq_some.mp joined
  have only : ∀ other ∈ agentTurns.rows, request.picks other = true → other = turn := by
    intro other member picked
    rw [rows, List.mem_append, List.mem_singleton] at member
    obtain before | same := member
    · rw [others other before] at picked
      cases picked
    · exact same
  constructor
  · intro first member second present picked also
    rw [only first member picked, only second present also]
  · rw [← tracks.shows]
    unfold shown
    congr 1
    refine List.filter_congr fun row member => ?_
    obtain ⟨old, before, ofTurn⟩ := linked row member
    have apart : turn.id ≠ row.turnId := by
      intro same
      exact Table.find?_eq_none.mp fresh old before (ofTurn.trans same.symm)
    simp [rows, apart]

theorem FoundTurn.tracks {id : String} {now : Int} (found : FoundTurn request id now db turn db')
    (linked : ∀ row ∈ db.agentActions.rows, ∃ turn ∈ db.agentTurns.rows, turn.id = row.turnId)
    (tracks : Tracks request action view db) : Tracks request action view db' := by
  obtain ⟨_, _, rfl⟩ | ⟨others, _, _, joined, rfl⟩ := found
  · exact tracks
  · exact tracks.insert linked others joined

/-- The turn of an event is the one that the request is about. -/
theorem FoundTurn.picked (named : request.providerTurnId.isSome) {id : String} {now : Int}
    (found : FoundTurn request id now db turn db') :
    turn ∈ db'.agentTurns.rows ∧ request.picks turn = true := by
  refine ⟨found.owned.1, ?_⟩
  obtain ⟨_, picked, _⟩ | ⟨_, rfl, _⟩ := found
  · exact picked
  · have owned : request.owns (request.newTurn id "" now) = true :=
      AgentEventRequest.owns_iff.mpr rfl
    simp only [AgentEventRequest.picks, owned, named, if_true, Bool.true_and]
    exact decide_eq_true rfl

/-! ## Actions -/

/-- What an upsert leaves of the rows of an action. -/
theorem Upserted.actionsOf {new : AgentActionRow} {set : AgentActionRow → AgentActionRow}
    {keeps : ∀ row, (set row).id = row.id} (upserted : db.Upserted new set keeps db')
    (same : ∀ row, (set row).turnId = row.turnId ∧
      (set row).providerActionId = row.providerActionId) :
    db'.actionsOf new.turnId action =
      if new.providerActionId = action then
        if db.actionsOf new.turnId action = [] then [new]
        else (db.actionsOf new.turnId action).map set
      else db.actionsOf new.turnId action := by
  obtain ⟨⟨row, member, conflicts⟩, rfl⟩ | ⟨free, agentActions, joined, rfl⟩ := upserted
  · have kept : ∀ row : AgentActionRow,
        (if new.conflicts row then set row else row).turnId = row.turnId ∧
          (if new.conflicts row then set row else row).providerActionId =
            row.providerActionId := by
      intro row
      split
      · exact same row
      · exact ⟨rfl, rfl⟩
    have mapped : Database.actionsOf
        { db with agentActions := db.agentActions.update new.conflicts set keeps } new.turnId
          action =
        (db.actionsOf new.turnId action).map fun row =>
          if new.conflicts row then set row else row := by
      unfold Database.actionsOf Table.update
      simp only [List.filter_map, Function.comp_def, kept]
    rw [mapped]
    split
    · rename_i own
      have there : row ∈ db.actionsOf new.turnId action := by
        simp only [AgentActionRow.conflicts, Bool.and_eq_true, decide_eq_true_eq] at conflicts
        exact List.mem_filter.mpr ⟨member, by simp [conflicts.1, conflicts.2, own]⟩
      rw [if_neg (List.ne_nil_of_mem there)]
      refine List.map_congr_left fun row member => ?_
      have about := (List.mem_filter.mp member).2
      exact if_pos (by rw [AgentActionRow.conflicts, own]; exact about)
    · rename_i other
      refine (List.map_congr_left fun row member => ?_).trans (List.map_id _)
      have about := (List.mem_filter.mp member).2
      simp only [Bool.and_eq_true, decide_eq_true_eq] at about
      refine if_neg fun conflicts => other ?_
      simp only [AgentActionRow.conflicts, Bool.and_eq_true, decide_eq_true_eq] at conflicts
      rw [← conflicts.2, about.2]
  · have rows : agentActions.rows = db.agentActions.rows ++ [new] :=
      (Table.insert?_eq_some.mp joined).2
    unfold Database.actionsOf
    dsimp only
    rw [rows, List.filter_append]
    split
    · rename_i own
      have empty : db.agentActions.rows.filter
          (fun row => row.turnId = new.turnId && row.providerActionId = action) = [] := by
        refine List.filter_eq_nil_iff.mpr fun row member => ?_
        have apart := free row member
        rw [AgentActionRow.conflicts, own] at apart
        simp [apart]
      rw [if_pos empty, empty, List.nil_append]
      simp [own]
    · rename_i other
      simp [other]

/-- An upsert under the turn shows in its action alone. -/
theorem Tracks.upserted (change : ActionView → ActionView)
    (tracks : Tracks request action view db)
    (picked : turn ∈ db.agentTurns.rows ∧ request.picks turn = true) {new : AgentActionRow}
    {set : AgentActionRow → AgentActionRow} {keeps : ∀ row, (set row).id = row.id}
    (upserted : db.Upserted new set keeps db') (under : new.turnId = turn.id)
    (same : ∀ row, (set row).turnId = row.turnId ∧
      (set row).providerActionId = row.providerActionId)
    (changes : ∀ row, (set row).view = change row.view) :
    Tracks request action
      (if new.providerActionId = action then some ((view.map change).getD new.view) else view)
      db' := by
  have turns := upserted.turns
  have sole : ∀ turn ∈ db'.agentTurns.rows, ∀ other ∈ db'.agentTurns.rows,
      request.picks turn = true → request.picks other = true → other.id = turn.id := by
    rw [turns]
    exact tracks.sole
  refine ⟨sole, ?_⟩
  have before := tracks.shows
  rw [shown_eq tracks.sole picked.1 picked.2] at before
  rw [shown_eq sole (turns ▸ picked.1) picked.2, ← under, upserted.actionsOf same, under]
  split
  · cases view with
    | none =>
      have empty : db.actionsOf turn.id action = [] := List.map_eq_nil_iff.mp before
      rw [if_pos empty]
      rfl
    | some seen =>
      obtain ⟨row, only, rfl⟩ := List.map_eq_singleton_iff.mp before
      rw [only, if_neg (List.cons_ne_nil _ _)]
      exact congrArg (fun shown => [shown]) (changes row)
  · exact before

/-! ## Events -/

/-- The execution that the tools of a request are linked to for one that they name. -/
def linkOf (db : Database) (request : AgentEventRequest) (executionId : Option ExecutionId) :
    Option ExecutionId :=
  (db.agentSessions.find? request.sessionId).bind fun session =>
    db.knownAs session.workspaceId executionId

theorem Recorded.tracks {now : Int} {turnId actionRowId : String} {workspaceId : WorkspaceId}
    (recorded : Recorded (fun _ => False) now turnId actionRowId workspaceId request db turn db')
    (named : request.providerTurnId.isSome)
    (linked : ∀ row ∈ db.agentActions.rows, ∃ turn ∈ db.agentTurns.rows, turn.id = row.turnId)
    (tracks : Tracks request action view db) :
    Tracks request action (request.event.leave (db.knownAs workspaceId) action view) db' := by
  unfold Recorded at recorded
  split at recorded
  · rename_i prompt own
    rw [own]
    have first : Tracks request action view (db.superseding request now) :=
      tracks.update named _ fun _ => ⟨rfl, rfl⟩
    obtain ⟨old, _, _, _, _, rfl⟩ | ⟨others, _, _, joined, rfl⟩ := recorded
    · exact first.update named _ fun _ => ⟨rfl, rfl⟩
    · refine first.insert (fun row member => ?_) (others named) joined
      obtain ⟨turn, there, ofTurn⟩ := linked row member
      refine ⟨_, (Table.mem_update (AgentTurnRow.interrupted_id now)).mpr ⟨turn, there, rfl⟩, ?_⟩
      split <;> exact ofTurn
  · rename_i actionId toolName own
    obtain ⟨middle, found, upserted⟩ := recorded
    have after := (found.tracks linked tracks).upserted
      (fun seen => ⟨.running, seen.executionId, false⟩) (found.picked named) upserted rfl
      (fun _ => ⟨rfl, rfl⟩) fun _ => rfl
    rw [own]
    cases view <;> exact after
  · rename_i actionId toolName failed executionId own
    obtain ⟨middle, known, found, looked, upserted⟩ := recorded
    have same : known = db.knownAs workspaceId executionId :=
      looked.resolve_right fun failed => failed.2.elim fun _ none => none
    have after := (found.tracks linked tracks).upserted
      (fun seen => ⟨if failed then .failed else .completed, known <|> seen.executionId, true⟩)
      (found.picked named) upserted rfl (fun _ => ⟨rfl, rfl⟩) fun _ => rfl
    rw [own, AgentEvent.leave, ← same]
    cases view with
    | none =>
      have alone : (known <|> none) = known := by cases known <;> rfl
      rw [Option.bind_none, alone]
      exact after
    | some seen => exact after
  · rename_i failed lastAssistantMessage own
    obtain ⟨middle, old, found, _, rfl⟩ := recorded
    rw [own]
    exact (found.tracks linked tracks).update named _ fun _ => ⟨rfl, rfl⟩

/-- The events write no other tables. -/
theorem Hooked.rest (hooked : Hooked request db db') :
    db'.executions = db.executions ∧ db'.agentSessions = db.agentSessions := by
  induction hooked with
  | refl => exact ⟨rfl, rfl⟩
  | tail _ write ih => cases write <;> exact ih

theorem tracks_step {call : Delivery} (named : request.providerTurnId.isSome)
    (reached : storeActor.Reachable db) (tracks : Tracks request action view db)
    (enabled : (turnHooks request).step db call = some db') :
    storeActor.Reachable db' ∧ db'.linkOf request = db.linkOf request ∧
      Tracks request action (call.event.leave (db.linkOf request) action view) db' := by
  have linked : ∀ row ∈ db.agentActions.rows, ∃ turn ∈ db.agentTurns.rows,
      turn.id = row.turnId := by
    intro row member
    obtain ⟨_, _, ofTurn, _⟩ := (storeActor_linksKept reached).actions row member
    obtain ⟨turn, there, same, _⟩ := Table.find?_map_eq_some.mp ofTurn
    exact ⟨turn, there, same⟩
  have spec := clean_of_post (recordAgentEvent_spec (fun _ none => none.elim) call.now call.turnId
    call.actionRowId : Sql.Post (fun _ => False) (recordAgentEvent call.now call.turnId
      call.actionRowId { request with event := call.event }) db _)
  have again : storeActor.step db (.recordAgentEvent call.now call.turnId call.actionRowId
      { request with event := call.event }, []) =
      some (Store.run (call.program request) [] db).2 :=
    congrArg some (run_discard _ _)
  have later := reached.step trivial again
  unfold turnHooks at enabled
  unfold Delivery.program at enabled later
  dsimp only at enabled
  split at enabled
  · rename_i turn db' ran
    rw [ran] at spec later
    obtain ⟨session, there, _, recorded⟩ := spec
    rw [← Option.some.inj enabled]
    obtain ⟨executions, sessions⟩ := recorded.hooked.rest
    have link : db.linkOf request = db.knownAs session.workspaceId := by
      funext executionId
      rw [linkOf, there, Option.bind_some]
    refine ⟨later, ?_, ?_⟩
    · funext executionId
      rw [linkOf, linkOf, sessions]
      unfold knownAs
      rw [executions]
    · rw [link]
      have after := recorded.tracks named linked ⟨tracks.sole, tracks.shows⟩
      exact ⟨after.sole, after.shows⟩
  · cases enabled

theorem tracks_run {calls : List Delivery} (named : request.providerTurnId.isSome)
    (reached : storeActor.Reachable db) (tracks : Tracks request action view db)
    (ran : (turnHooks request).run db calls = some db') :
    Tracks request action
      ((calls.map Delivery.event).foldl (AgentEvent.leave (db.linkOf request) action) view)
      db' := by
  induction calls generalizing db view with
  | nil =>
    rw [← Option.some.inj ran]
    exact tracks
  | cons call later ih =>
    obtain ⟨middle, enabled, ran⟩ := Option.bind_eq_some_iff.mp ran
    obtain ⟨reached, link, tracks⟩ := tracks_step named reached tracks enabled
    rw [List.map_cons, List.foldl_cons, ← link]
    exact ih reached (link ▸ tracks) ran

/-- What the events of a new turn show of one of its actions. -/
theorem shown_run {calls : List Delivery} (named : request.providerTurnId.isSome)
    (first : (turnHooks request).start db) (ran : (turnHooks request).run db calls = some db') :
    db'.shown request action =
      ((AgentEvent.about action (calls.map Delivery.event)).foldl
        (AgentEvent.leave (db.linkOf request) action) none).toList := by
  obtain ⟨reached, new⟩ := first
  have start : Tracks request action none db := by
    constructor
    · intro turn member other _ picked
      rw [new turn member] at picked
      cases picked
    · have unpicked : ∀ row : AgentActionRow,
          (db.agentTurns.rows.any fun turn => turn.id = row.turnId && request.picks turn) =
            false := by
        intro row
        refine List.any_eq_false.mpr fun turn member => ?_
        simp [new turn member]
      simp [shown, unpicked]
  rw [(tracks_run named reached start ran).shows, AgentEvent.foldl_leave_about]

/-- Once the action is seen completed or failed, it is not seen running again. -/
def StaysEnded (request : AgentEventRequest) (action : String) (db : Database)
    (delivered : List Delivery) : Prop :=
  ∀ before middle after reached later, delivered = before ++ middle ++ after →
    (turnHooks request).run db before = some reached →
    (turnHooks request).run reached middle = some later →
    (∃ view ∈ reached.shown request action, view.state ≠ .running) →
    ∀ view ∈ later.shown request action, view.state ≠ .running

variable {startName finishName : String} {failed : Bool} {executionId : Option ExecutionId}

/-- In order, the action has ended. -/
theorem shown_of_order {calls : List Delivery} (named : request.providerTurnId.isSome)
    (first : (turnHooks request).start db) (ran : (turnHooks request).run db calls = some db')
    (order : AgentEvent.about action (calls.map Delivery.event) =
      [.toolStarted action startName, .toolFinished action finishName failed executionId]) :
    db'.shown request action = [⟨if failed then .failed else .completed,
      db.linkOf request executionId <|> none, true⟩] := by
  rw [shown_run named first ran, order]
  simp [AgentEvent.leave]

/-- The other way round, it is running. -/
theorem shown_of_reverse {calls : List Delivery} (named : request.providerTurnId.isSome)
    (first : (turnHooks request).start db) (ran : (turnHooks request).run db calls = some db')
    (order : AgentEvent.about action (calls.map Delivery.event) =
      [.toolFinished action finishName failed executionId, .toolStarted action startName]) :
    db'.shown request action = [⟨.running, db.linkOf request executionId <|> none, false⟩] := by
  rw [shown_run named first ran, order]
  simp [AgentEvent.leave]

/-- In order, the finish is the last event about the action. -/
theorem staysEnded_of_order {delivered : List Delivery} (named : request.providerTurnId.isSome)
    (first : (turnHooks request).start db)
    (order : AgentEvent.about action (delivered.map Delivery.event) =
      [.toolStarted action startName, .toolFinished action finishName failed executionId]) :
    StaysEnded request action db delivered := by
  intro before middle after reached later parts ran more ended view seen
  have whole : (turnHooks request).run db (before ++ middle) = some later := by
    rw [System.run_append, ran, Option.bind_some, more]
  rw [shown_run named first whole] at seen
  obtain ⟨old, there, ended⟩ := ended
  rw [shown_run named first ran] at there
  rw [parts, List.map_append, List.map_append, AgentEvent.about, List.filter_append,
    List.filter_append] at order
  rw [List.map_append, AgentEvent.about, List.filter_append] at seen
  unfold AgentEvent.about at there
  -- the part in front of the end that is seen holds both events
  cases front : (before.map Delivery.event).filter fun event => event.action? = some action with
  | nil =>
    rw [front] at there
    cases there
  | cons one rest =>
    rw [front] at there order seen
    cases rest with
    | nil =>
      have start : one = .toolStarted action startName := (List.cons.inj order).1
      rw [start, List.foldl_cons, List.foldl_nil, AgentEvent.leave, if_pos rfl] at there
      rw [List.mem_singleton.mp there] at ended
      exact absurd rfl ended
    | cons two rest =>
      obtain ⟨_, order⟩ := List.cons.inj order
      obtain ⟨_, none⟩ := List.cons.inj order
      obtain ⟨none, _⟩ := List.append_eq_nil_iff.mp none
      obtain ⟨_, empty⟩ := List.append_eq_nil_iff.mp none
      rw [empty, List.append_nil] at seen
      have same : view = old := by
        rw [Option.mem_toList] at seen there
        exact Option.some.inj (seen.symm.trans there)
      exact same ▸ ended

end Database

/-- A turn that its provider names: what its events leave of an action is what they leave in
order, and an ended action stays so, if and only if the tool's start is delivered in front of its
finish. -/
theorem reordered_hooks_harmless_iff {db reordered ordered : Database}
    {request : AgentEventRequest} {delivered inOrder : List Delivery}
    {action startName finishName : String} {failed : Bool} {executionId : Option ExecutionId}
    (named : request.providerTurnId.isSome) (first : (turnHooks request).start db)
    (same : (delivered.map Delivery.event).Perm (inOrder.map Delivery.event))
    (order : AgentEvent.about action (inOrder.map Delivery.event) =
      [.toolStarted action startName, .toolFinished action finishName failed executionId])
    (ran : (turnHooks request).run db delivered = some reordered)
    (ran' : (turnHooks request).run db inOrder = some ordered) :
    (reordered.shown request action = ordered.shown request action ∧
      Database.StaysEnded request action db delivered) ↔
    [.toolStarted action startName, .toolFinished action finishName failed executionId].Sublist
      (delivered.map Delivery.event) := by
  have ended := Database.shown_of_order named first ran' order
  have about := same.filter fun event => event.action? = some action
  unfold AgentEvent.about at order
  rw [order, List.perm_pair] at about
  constructor
  · rintro ⟨harmless, _⟩
    obtain forward | reverse := about
    · rw [← forward]
      exact List.filter_sublist
    · rw [Database.shown_of_reverse named first ran reverse, ended] at harmless
      simp at harmless
  · intro before
    obtain forward | reverse := about
    · refine ⟨?_, Database.staysEnded_of_order named first forward⟩
      rw [ended]
      exact Database.shown_of_order named first ran forward
    · have both := before.filter fun event => event.action? = some action
      rw [reverse] at both
      have same := both.eq_of_length (by simp [AgentEvent.action?])
      simp [AgentEvent.action?] at same

/-- A turn of Codex in the session of `sampleCommands`. -/
def sampleTurn : AgentEventRequest :=
  { sessionId := "s", provider := "codex", providerSessionId := "p", providerTurnId := some "7",
    event := .promptSubmitted "build it" }

/-- The events of the turn in order; its tool's execution is one of the workspace. -/
def orderedHooks : List Delivery :=
  [⟨6, "t", "x", .promptSubmitted "build it"⟩, ⟨7, "u", "x", .toolStarted "1" "run"⟩,
   ⟨8, "u", "y", .toolFinished "1" "run" false (some "b")⟩, ⟨9, "u", "y", .turnFinished false none⟩]

/-- The start of the tool comes last. -/
def delayedHooks : List Delivery :=
  [⟨6, "t", "x", .promptSubmitted "build it"⟩,
   ⟨7, "u", "x", .toolFinished "1" "run" false (some "b")⟩, ⟨8, "u", "y", .turnFinished false none⟩,
   ⟨9, "u", "y", .toolStarted "1" "run"⟩]

/-- The finish of the tool comes behind the end of the turn. -/
def lateHooks : List Delivery :=
  [⟨6, "t", "x", .promptSubmitted "build it"⟩, ⟨7, "u", "x", .toolStarted "1" "run"⟩,
   ⟨8, "u", "y", .turnFinished false none⟩, ⟨9, "u", "y", .toolFinished "1" "run" false (some "b")⟩]

/-- What is seen of the tool in a session that has not heard of the turn, behind some events. -/
def sampleSeen (db : Database) (calls : List Delivery) : Option (List ActionView) :=
  ((turnHooks sampleTurn).run db calls).map (·.shown sampleTurn "1")

theorem sampleTurn_start : ∃ db, (turnHooks sampleTurn).start db ∧
    sampleSeen db orderedHooks = some [⟨.completed, some "b", true⟩] ∧
    sampleSeen db lateHooks = some [⟨.completed, some "b", true⟩] ∧
    sampleSeen db (delayedHooks.take 2) = some [⟨.completed, some "b", true⟩] ∧
    sampleSeen db delayedHooks = some [⟨.running, some "b", false⟩] := by
  have ran : (storeActor.run newDatabase (sampleCommands.take 5)).map (fun db =>
      (db.agentTurns.rows.any sampleTurn.picks,
        [orderedHooks, lateHooks, delayedHooks.take 2, delayedHooks].map (sampleSeen db))) =
      some (false, [some [⟨.completed, some "b", true⟩], some [⟨.completed, some "b", true⟩],
        some [⟨.completed, some "b", true⟩], some [⟨.running, some "b", false⟩]]) := by
    decide +kernel
  obtain ⟨db, replay, seen⟩ := Option.map_eq_some_iff.mp ran
  simp only [Prod.mk.injEq, List.map_cons, List.cons.injEq] at seen
  have new : ∀ turn ∈ db.agentTurns.rows, sampleTurn.picks turn = false :=
    fun turn member => by simpa using List.any_eq_false.mp seen.1 turn member
  obtain ⟨_, inOrder, late, ended, delayed, _⟩ := seen
  exact ⟨db, ⟨System.run_reachable rfl replay, new⟩, inOrder, late, ended, delayed⟩

theorem delayed_start_reopens :
    ∃ db reordered ordered, (turnHooks sampleTurn).start db ∧
      (delayedHooks.map Delivery.event).Perm (orderedHooks.map Delivery.event) ∧
      (turnHooks sampleTurn).run db delayedHooks = some reordered ∧
      (turnHooks sampleTurn).run db orderedHooks = some ordered ∧
      ordered.shown sampleTurn "1" = [⟨.completed, some "b", true⟩] ∧
      reordered.shown sampleTurn "1" = [⟨.running, some "b", false⟩] ∧
      ¬ Database.StaysEnded sampleTurn "1" db delayedHooks := by
  obtain ⟨db, first, inOrder, _, ended, delayed⟩ := sampleTurn_start
  obtain ⟨ordered, ranOrdered, ordered_seen⟩ := Option.map_eq_some_iff.mp inOrder
  obtain ⟨reached, ranReached, reached_seen⟩ := Option.map_eq_some_iff.mp ended
  obtain ⟨later, ranLater, later_seen⟩ := Option.map_eq_some_iff.mp delayed
  refine ⟨db, later, ordered, first, by decide, ranLater, ranOrdered, ordered_seen, later_seen, ?_⟩
  intro stays
  have more : (turnHooks sampleTurn).run reached (delayedHooks.drop 2) = some later := by
    rw [← List.take_append_drop 2 delayedHooks, System.run_append, ranReached] at ranLater
    exact ranLater
  have running := stays (delayedHooks.take 2) (delayedHooks.drop 2) [] reached later rfl ranReached
    more ⟨⟨.completed, some "b", true⟩, by rw [reached_seen]; exact List.mem_singleton_self _,
      AgentActionState.noConfusion⟩
  exact running ⟨.running, some "b", false⟩
    (by rw [later_seen]; exact List.mem_singleton_self _) rfl

theorem reordered_hooks_harmless_iff_sample :
    ∃ db reordered ordered, (turnHooks sampleTurn).start db ∧
      (turnHooks sampleTurn).run db lateHooks = some reordered ∧
      (turnHooks sampleTurn).run db orderedHooks = some ordered ∧
      reordered.shown sampleTurn "1" = ordered.shown sampleTurn "1" := by
  obtain ⟨db, first, inOrder, late, _⟩ := sampleTurn_start
  obtain ⟨ordered, ranOrdered, _⟩ := Option.map_eq_some_iff.mp inOrder
  obtain ⟨reordered, ranLate, _⟩ := Option.map_eq_some_iff.mp late
  refine ⟨db, reordered, ordered, first, ranLate, ranOrdered, ?_⟩
  have order : AgentEvent.about "1" (orderedHooks.map Delivery.event) =
      [.toolStarted "1" "run", .toolFinished "1" "run" false (some "b")] := rfl
  exact ((reordered_hooks_harmless_iff rfl first (by decide) order ranLate ranOrdered).mpr
    (by decide)).1

end Loomterm
