import Loomterm.Store.SessionLifecycle

/-!
# Attribution without turn ids

Claude Code does not say which turn a tool belongs to. The events of such a provider session are
recorded beside everything else that the actor does; `holder` reads from them alone whom the next
tool belongs to, and `hook_attribution` says that this is the turn that the store finds.
-/

namespace Loomterm

/-- The action that an event is about. -/
def AgentEvent.action? : AgentEvent → Option String
  | .toolStarted actionId _ | .toolFinished actionId _ _ _ => some actionId
  | .promptSubmitted _ | .turnFinished _ _ => none

/-- The state in which an event leaves its action. -/
def AgentEvent.leaves : AgentEvent → AgentActionState
  | .toolFinished _ _ failed _ => if failed then .failed else .completed
  | _ => .running

/-- The recorded events of a provider session and the turns they were attached to, the latest
first. -/
abbrev HookTrace := List (AgentEvent × String)

namespace HookTrace

/-- The turn that a tool belongs to behind some events, and its prompt: that of the last prompt,
or else of a placeholder, unless the turn was finished since. -/
def holder : HookTrace → Option (String × String)
  | [] => none
  | (.promptSubmitted prompt, turn) :: _ => some (turn, prompt)
  | (.turnFinished _ _, _) :: _ => none
  | (.toolStarted _ _, turn) :: earlier | (.toolFinished _ _ _ _, turn) :: earlier =>
      some ((holder earlier).getD (turn, ""))

/-- The tools since the last prompt or the last end of a turn. -/
def tools : HookTrace → HookTrace
  | [] => []
  | entry :: earlier => if entry.1.action?.isSome then entry :: tools earlier else []

theorem mem_of_tools {trace : HookTrace} {entry : AgentEvent × String}
    (member : entry ∈ trace.tools) : entry ∈ trace := by
  induction trace with
  | nil => cases member
  | cons first earlier ih =>
    rw [tools] at member
    split at member
    · cases List.mem_cons.mp member with
      | inl same => exact same ▸ List.mem_cons_self
      | inr before => exact List.mem_cons_of_mem _ (ih before)
    · cases member

end HookTrace

/-- A store, and what it has recorded of one provider session. -/
structure Attributed where
  db : Database
  trace : HookTrace := []

/-- What a call adds to the trace. -/
def Attributed.after (owner : SessionId × String × String) (s : Attributed)
    (command : StoreCommand × List (Option String)) : Attributed :=
  match command.1 with
  | .recordAgentEvent now turnId actionRowId request =>
      match Store.run (Database.recordAgentEvent now turnId actionRowId request) command.2 s.db with
      | (.ok turn, db) =>
          { db
            trace := if request.owner = owner then (request.event, turn.id) :: s.trace
              else s.trace }
      | (.error _, db) => { s with db }
  | _ => { s with db := (Store.run command.1.program command.2 s.db).2 }

/-- The actor, from where nothing was recorded of the provider session on. -/
def attribution (owner : SessionId × String × String) :
    System Attributed (StoreCommand × List (Option String)) where
  start s := (∀ turn ∈ s.db.agentTurns.rows, turn.owner ≠ owner) ∧ s.trace = []
  step s command := some (s.after owner command)

/-- The answer is a fault of the database. -/
def faulty {α : Type} : Except Error α → Bool
  | .ok _ => false
  | .error e => e.isStorage

/-- The events of the provider session carry no turn id, and are recorded or rejected; its
recording goes on. -/
def Anonymous (owner : SessionId × String × String) (s : Attributed)
    (command : StoreCommand × List (Option String)) : Prop :=
  match command.1 with
  | .recordAgentEvent now turnId actionRowId request =>
      request.owner = owner → request.providerTurnId = none ∧
        faulty (Store.run (Database.recordAgentEvent now turnId actionRowId request) command.2
          s.db).1 = false
  | .finishAgentSession _ id _ | .deleteAgentSession id => id ≠ owner.1
  | _ => True

instance (owner : SessionId × String × String) (s : Attributed) :
    (command : StoreCommand × List (Option String)) → Decidable (Anonymous owner s command)
  | (.recordAgentEvent .., _) => inferInstanceAs (Decidable (_ = _ → _ = _ ∧ _ = _))
  | (.finishAgentSession .., _) | (.deleteAgentSession _, _) => inferInstanceAs (Decidable (_ ≠ _))
  | (.addWorkspace .., _) | (.removeWorkspace _, _) | (.createExecution .., _)
  | (.markRunning .., _) | (.appendCaptureBatch _, _) | (.finish .., _)
  | (.createAgentSession .., _) | (.reconcileIncomplete _, _) | (.cancelQueued _, _)
  | (.prune .., _) => .isTrue trivial

namespace Database

/-- The active turns of a provider session. -/
def activeTurns (db : Database) (owner : SessionId × String × String) : List AgentTurnRow :=
  db.agentTurns.rows.filter fun turn => turn.owner = owner && turn.state = .active

/-- There is a row of that action of the turn. -/
def HasAction (db : Database) (turn action : String) : Prop :=
  ∃ row ∈ db.agentActions.rows, row.turnId = turn ∧ row.providerActionId = action

variable {db db' middle : Database} {owner : SessionId × String × String}
  {request : AgentEventRequest} {turn : AgentTurnRow} {command : StoreCommand}

/-! ## What others leave alone -/

theorem activeTurns_update {p : AgentTurnRow → Bool} {set : AgentTurnRow → AgentTurnRow}
    (keeps : ∀ turn, (set turn).id = turn.id)
    (elsewhere : ∀ turn ∈ db.agentTurns.rows, p turn = true →
      turn.owner ≠ owner ∧ (set turn).owner ≠ owner) :
    activeTurns { db with agentTurns := db.agentTurns.update p set keeps } owner =
      db.activeTurns owner := by
  unfold activeTurns Table.update
  dsimp only
  generalize db.agentTurns.rows = rows at elsewhere
  induction rows with
  | nil => rfl
  | cons turn rest ih =>
    have later := ih fun other member => elsewhere other (List.mem_cons_of_mem _ member)
    rw [List.map_cons, List.filter_cons, List.filter_cons, later]
    cases selected : p turn with
    | false => rfl
    | true =>
      obtain ⟨before, after⟩ := elsewhere turn List.mem_cons_self selected
      simp [before, after]

theorem activeTurns_insert {agentTurns : Table AgentTurnRow.id}
    (joined : db.agentTurns.insert? turn = some agentTurns) :
    activeTurns { db with agentTurns } owner = db.activeTurns owner ++
      if turn.owner = owner ∧ turn.state = .active then [turn] else [] := by
  unfold activeTurns
  rw [(Table.insert?_eq_some.mp joined).2, List.filter_append]
  congr 1
  by_cases own : turn.owner = owner ∧ turn.state = .active
  · simp [own.1, own.2]
  · rw [if_neg own]
    simpa using own

/-- A turn stays with its owner, and an action with its turn. -/
structure Follows (owner : SessionId × String × String) (db db' : Database) : Prop where
  turns : ∀ id, db.turnOwner id = some owner → db'.turnOwner id = some owner
  actions : ∀ turn action, db.turnOwner turn = some owner → db.HasAction turn action →
    db'.HasAction turn action

theorem Follows.refl : Follows owner db db := ⟨fun _ own => own, fun _ _ _ there => there⟩

theorem Follows.trans (first : Follows owner db middle) (second : Follows owner middle db') :
    Follows owner db db' :=
  ⟨fun id own => second.turns id (first.turns id own),
    fun turn action own there =>
      second.actions turn action (first.turns turn own) (first.actions turn action own there)⟩

theorem HookWrite.follows (write : HookWrite request db db') : Follows owner db db' := by
  cases write with
  | turns keeps selects same =>
    refine ⟨fun id own => ?_, fun _ _ _ there => there⟩
    exact (Table.find?_update_map keeps (fun turn => (same turn).1) id).trans own
  | newTurn _ _ joined =>
    exact ⟨fun id own => find?_insert_map joined own, fun _ _ _ there => there⟩
  | actions keeps selects same =>
    refine ⟨fun _ own => own, fun turn action _ there => ?_⟩
    obtain ⟨row, member, ofTurn, named⟩ := there
    refine ⟨_, (Table.mem_update keeps).mpr ⟨row, member, rfl⟩, ?_⟩
    split
    · exact ⟨(same row).1.trans ofTurn, (same row).2.1.trans named⟩
    · exact ⟨ofTurn, named⟩
  | newAction _ _ joined =>
    refine ⟨fun _ own => own, fun turn action _ there => ?_⟩
    obtain ⟨row, member, same⟩ := there
    refine ⟨row, ?_, same⟩
    show row ∈ (Table.rows _)
    rw [(Table.insert?_eq_some.mp joined).2]
    exact List.mem_append_left _ member

theorem Hooked.follows (hooked : Hooked request db db') : Follows owner db db' := by
  induction hooked with
  | refl => exact .refl
  | tail _ write ih => exact ih.trans write.follows

/-- The events of another provider session do not touch the turns of this one. -/
theorem Hooked.activeTurns (hooked : Hooked request db db') (other : request.owner ≠ owner) :
    db'.activeTurns owner = db.activeTurns owner := by
  induction hooked with
  | refl => rfl
  | tail _ write ih =>
    refine Eq.trans ?_ ih
    cases write with
    | turns keeps selects same =>
      refine activeTurns_update keeps fun turn member selected => ?_
      have owned := selects turn member selected
      have after := (same turn).1.trans owned
      exact ⟨fun own => other (owned.symm.trans own), fun own => other (after.symm.trans own)⟩
    | newTurn owned _ joined =>
      rw [activeTurns_insert joined, if_neg fun own => other (owned.symm.trans own.1),
        List.append_nil]
    | actions => rfl
    | newAction => rfl

/-- Nor does any command, while the recording goes on. -/
theorem SessionMove.apart (owner : SessionId × String × String)
    (move : SessionMove db command db')
    (hook : ∀ now turnId actionRowId request,
      command = .recordAgentEvent now turnId actionRowId request → request.owner ≠ owner)
    (finish : ∀ now id finish, command = .finishAgentSession now id finish → id ≠ owner.1)
    (delete : ∀ id, command = .deleteAgentSession id → id ≠ owner.1) :
    db'.activeTurns owner = db.activeTurns owner ∧ Follows owner db db' := by
  cases move with
  | aside aside =>
    obtain ⟨_, turns, p, actions⟩ := aside
    refine ⟨by rw [Database.activeTurns, turns, Database.activeTurns], ?_, ?_⟩
    · intro id own
      rw [turnOwner, turns]
      exact own
    · intro turn action _ there
      obtain ⟨row, member, same⟩ := there
      refine ⟨if p row then row.unlinked else row, ?_, ?_⟩
      · rw [actions]
        exact List.mem_map_of_mem member
      · split <;> exact same
  | opened => exact ⟨rfl, fun _ own => own, fun _ _ _ there => there⟩
  | ended => exact ⟨rfl, fun _ own => own, fun _ _ _ there => there⟩
  | closed =>
    have elsewhere := finish _ _ _ rfl
    refine ⟨activeTurns_update _ fun turn _ selected => ?_, fun id own => ?_,
      fun _ _ _ there => there⟩
    · simp only [Bool.and_eq_true, decide_eq_true_eq] at selected
      have apart : turn.owner ≠ owner :=
        fun own => elsewhere (selected.1.symm.trans (congrArg Prod.fst own))
      exact ⟨apart, apart⟩
    · exact (Table.find?_update_map (AgentTurnRow.interrupted_id _) (fun _ => rfl) id).trans own
  | hooked _ hooked => exact ⟨hooked.activeTurns (hook _ _ _ _ rfl), hooked.follows⟩
  | @removed id _ _ without =>
    have elsewhere := delete _ rfl
    refine ⟨?_, ?_, ?_⟩
    · unfold Database.activeTurns
      rw [without.turns, List.filter_filter]
      refine List.filter_congr fun turn _ => ?_
      by_cases own : turn.owner = owner
      · have session : turn.sessionId = owner.1 := congrArg Prod.fst own
        simp [own, session, elsewhere.symm]
      · simp [own]
    · intro id own
      obtain ⟨turn, member, same, owned⟩ := Table.find?_map_eq_some.mp own
      refine Table.find?_map_eq_some.mpr ⟨turn, ?_, same, owned⟩
      have session : turn.sessionId = owner.1 := congrArg Prod.fst owned
      rw [without.turns]
      exact List.mem_filter.mpr ⟨member, by simpa [session] using elsewhere.symm⟩
    · intro turn action own there
      obtain ⟨row, member, ofTurn, named⟩ := there
      refine ⟨row, ?_, ofTurn, named⟩
      obtain ⟨other, present, same, owned⟩ := Table.find?_map_eq_some.mp own
      have found : db.turnSession turn = some owner.1 :=
        Table.find?_map_eq_some.mpr ⟨other, present, same, congrArg Prod.fst owned⟩
      rw [without.actions]
      refine List.mem_filter.mpr ⟨member, ?_⟩
      rw [ofTurn, found]
      simpa using elsewhere.symm

/-! ## What the events of the provider session do -/

theorem mem_activeTurns : turn ∈ db.activeTurns owner ↔
    turn ∈ db.agentTurns.rows ∧ turn.owner = owner ∧ turn.state = .active := by
  simp [activeTurns]

theorem picks_iff (anonymous : request.providerTurnId = none) :
    request.picks turn = true ↔ turn.owner = request.owner ∧ turn.state = .active := by
  simp [AgentEventRequest.picks, anonymous, AgentEventRequest.owns_iff]

/-- A prompt leaves no turn active before it opens its own. -/
theorem superseding_activeTurns (anonymous : request.providerTurnId = none) (now : Int) :
    (db.superseding request now).activeTurns request.owner = [] := by
  refine List.eq_nil_iff_forall_not_mem.mpr fun turn member => ?_
  obtain ⟨present, owned, active⟩ := mem_activeTurns.mp member
  obtain ⟨old, _, same⟩ := (Table.mem_update (AgentTurnRow.interrupted_id now)).mp present
  split at same
  · rw [← same] at active
    cases active
  · rename_i spared
    apply spared
    rw [← same] at owned active
    simp [AgentEventRequest.supersedes, AgentEventRequest.owns_iff.mpr owned, active, anonymous]

/-- The turn that was the only active one is no longer when it has ended. -/
theorem settingTurn_activeTurns {set : AgentTurnRow → AgentTurnRow}
    (keeps : ∀ turn, (set turn).id = turn.id) (ends : (set turn).state ≠ .active)
    (single : db.activeTurns owner = [turn]) :
    (db.settingTurn turn.id set keeps).activeTurns owner = [] := by
  refine List.eq_nil_iff_forall_not_mem.mpr fun other member => ?_
  obtain ⟨present, owned, active⟩ := mem_activeTurns.mp member
  obtain ⟨old, there, same⟩ := (Table.mem_update keeps).mp present
  have own : turn ∈ db.agentTurns.rows :=
    (mem_activeTurns.mp (single ▸ List.mem_singleton_self turn)).1
  split at same
  · rename_i named
    have found := Table.mem_rows_iff.mp there
    rw [of_decide_eq_true named, Table.mem_rows_iff.mp own, Option.some.injEq] at found
    rw [← same, ← found] at active
    exact ends active
  · rename_i spared
    rw [← same] at owned active
    have only : old ∈ db.activeTurns owner := mem_activeTurns.mpr ⟨there, owned, active⟩
    rw [single, List.mem_singleton] at only
    exact spared (by simp [only])

theorem InsertedTurn.activeTurns {id prompt : String} {now : Int}
    (inserted : InsertedTurn request id prompt now db turn db')
    (none : db.activeTurns request.owner = []) :
    db'.activeTurns request.owner = [turn] ∧ turn.prompt = prompt ∧
      db.agentTurns.find? turn.id = .none := by
  obtain ⟨rfl, agentTurns, joined, rfl⟩ := inserted
  refine ⟨?_, rfl, (Table.insert?_eq_some.mp joined).1⟩
  rw [activeTurns_insert joined, none, List.nil_append]
  exact if_pos ⟨rfl, rfl⟩

/-- The turn of an event is the active one, or a placeholder that becomes it. -/
theorem FoundTurn.activeTurns (anonymous : request.providerTurnId = none) {id : String} {now : Int}
    (found : FoundTurn request id now db turn db')
    (single : (db.activeTurns request.owner).length ≤ 1) :
    db'.activeTurns request.owner = [turn] ∧
      (db.activeTurns request.owner = [turn] ∨ db.activeTurns request.owner = [] ∧
        turn.prompt = "" ∧ db.agentTurns.find? turn.id = none) := by
  obtain ⟨member, picked, rfl⟩ | ⟨others, inserted⟩ := found
  · have active : turn ∈ db'.activeTurns request.owner :=
      mem_activeTurns.mpr ⟨member, (picks_iff anonymous).mp picked⟩
    have only : db'.activeTurns request.owner = [turn] := by
      obtain ⟨other, same⟩ := List.length_eq_one_iff.mp
        (le_antisymm single (List.length_pos_of_mem active))
      rw [same, List.mem_singleton] at active
      rw [same, active]
    exact ⟨only, .inl only⟩
  · have none : db.activeTurns request.owner = [] := by
      refine List.eq_nil_iff_forall_not_mem.mpr fun other active => ?_
      obtain ⟨member, owned⟩ := mem_activeTurns.mp active
      have picked := (picks_iff anonymous).mpr owned
      rw [others other member] at picked
      cases picked
    obtain ⟨only, prompt, fresh⟩ := inserted.activeTurns none
    exact ⟨only, .inr ⟨none, prompt, fresh⟩⟩

theorem Upserted.turns {action : AgentActionRow} {set : AgentActionRow → AgentActionRow}
    {keeps : ∀ row, (set row).id = row.id} (upserted : db.Upserted action set keeps db') :
    db'.agentTurns = db.agentTurns := by
  obtain ⟨_, rfl⟩ | ⟨_, _, _, rfl⟩ := upserted
  · rfl
  · rfl

/-- Behind an upsert there is a row of the action in the state that it brings. -/
theorem Upserted.row {action : AgentActionRow} {set : AgentActionRow → AgentActionRow}
    {keeps : ∀ row, (set row).id = row.id} (upserted : db.Upserted action set keeps db')
    (same : ∀ row, (set row).turnId = row.turnId ∧
      (set row).providerActionId = row.providerActionId ∧ (set row).state = action.state) :
    ∃ row ∈ db'.agentActions.rows, row.turnId = action.turnId ∧
      row.providerActionId = action.providerActionId ∧ row.state = action.state := by
  obtain ⟨⟨row, member, conflicts⟩, rfl⟩ | ⟨_, agentActions, joined, rfl⟩ := upserted
  · refine ⟨set row, (Table.mem_update keeps).mpr ⟨row, member, if_pos conflicts⟩, ?_⟩
    simp only [AgentActionRow.conflicts, Bool.and_eq_true, decide_eq_true_eq] at conflicts
    obtain ⟨turn, named, state⟩ := same row
    exact ⟨turn.trans conflicts.1, named.trans conflicts.2, state⟩
  · refine ⟨action, ?_, rfl, rfl, rfl⟩
    show action ∈ agentActions.rows
    rw [(Table.insert?_eq_some.mp joined).2]
    exact List.mem_append_right _ List.mem_cons_self

/-- An upsert of an action that has a row adds none. -/
theorem Upserted.ids {action : AgentActionRow} {set : AgentActionRow → AgentActionRow}
    {keeps : ∀ row, (set row).id = row.id} (upserted : db.Upserted action set keeps db')
    (there : db.HasAction action.turnId action.providerActionId) :
    db'.agentActions.rows.map (·.id) = db.agentActions.rows.map (·.id) ∧
      ∀ row ∈ db'.agentActions.rows, row.turnId = action.turnId →
        row.providerActionId = action.providerActionId →
        ∃ old ∈ db.agentActions.rows, row = set old := by
  obtain ⟨row, member, ofTurn, named⟩ := there
  have conflict : action.conflicts row = true := by
    simp [AgentActionRow.conflicts, ofTurn, named]
  obtain ⟨_, rfl⟩ | ⟨free, _⟩ := upserted
  · constructor
    · show ((db.agentActions.rows.map _).map _) = _
      rw [List.map_map]
      refine List.map_congr_left fun row _ => ?_
      simp only [Function.comp_apply]
      split
      · exact keeps row
      · rfl
    · intro other present ofTurn' named'
      obtain ⟨old, before, same⟩ := (Table.mem_update keeps).mp present
      split at same
      · exact ⟨old, before, same.symm⟩
      · rename_i spared
        rw [← same] at ofTurn' named'
        exact absurd (by simp [AgentActionRow.conflicts, ofTurn', named']) spared
  · rw [free row member] at conflict
    cases conflict

/-- What a turn shows of whom the next tool belongs to. -/
def shownTurn (turn : AgentTurnRow) : String × String := (turn.id, turn.prompt)

/-- What a recorded event does, given what the events before it have led to. -/
structure Attached (owner : SessionId × String × String) (trace : HookTrace) (event : AgentEvent)
    (db : Database) (turn : AgentTurnRow) (db' : Database) : Prop where
  active : (db'.activeTurns owner).map shownTurn =
    (HookTrace.holder ((event, turn.id) :: trace)).toList
  owned : db'.turnOwner turn.id = some owner
  acted : ∀ action, event.action? = some action →
    (∃ row ∈ db'.agentActions.rows, row.turnId = turn.id ∧ row.providerActionId = action ∧
      row.state = event.leaves) ∧
    match trace.holder with
    | some (held, _) => turn.id = held
    | none => db.agentTurns.find? turn.id = none
  again : ∀ action name failed executionId, event = .toolFinished action name failed executionId →
    db.HasAction turn.id action →
      db'.agentActions.rows.map (·.id) = db.agentActions.rows.map (·.id) ∧
        ∀ row ∈ db'.agentActions.rows, row.turnId = turn.id → row.providerActionId = action →
          row.state = event.leaves ∧ ∃ old ∈ db.agentActions.rows, old.id = row.id

theorem FoundTurn.actions {id : String} {now : Int}
    (found : FoundTurn request id now db turn db') : db'.agentActions = db.agentActions := by
  obtain ⟨_, _, rfl⟩ | ⟨_, _, _, _, rfl⟩ := found
  · rfl
  · rfl

theorem activeTurns_congr (same : db'.agentTurns = db.agentTurns) :
    db'.activeTurns owner = db.activeTurns owner := by
  rw [activeTurns, same, activeTurns]

/-- The turn that is found is the one that the trace tells, or a new one when it tells none. -/
theorem FoundTurn.holder (anonymous : request.providerTurnId = none) {id : String} {now : Int}
    {trace : HookTrace} (found : FoundTurn request id now db turn db')
    (active : (db.activeTurns request.owner).map shownTurn = trace.holder.toList) :
    db'.activeTurns request.owner = [turn] ∧
      some (shownTurn turn) = some (trace.holder.getD (turn.id, "")) ∧
      match trace.holder with
      | some (held, _) => turn.id = held
      | none => db.agentTurns.find? turn.id = none := by
  have single : (db.activeTurns request.owner).length ≤ 1 := by
    have size := congrArg List.length active
    rw [List.length_map] at size
    rw [size]
    cases trace.holder <;> simp
  obtain ⟨only, there | ⟨none, prompt, fresh⟩⟩ := found.activeTurns anonymous single
  · rw [there] at active
    cases held : trace.holder with
    | none =>
      rw [held] at active
      cases active
    | some shown =>
      rw [held] at active
      have same : shownTurn turn = shown := by simpa using active
      exact ⟨only, congrArg some same, by rw [← same]; rfl⟩
  · rw [none] at active
    cases held : trace.holder with
    | none => exact ⟨only, by rw [shownTurn, prompt]; rfl, fresh⟩
    | some shown =>
      rw [held] at active
      cases active

/-- An event without a turn id is attached to the turn that the trace tells. -/
theorem Recorded.attached {fault : Error → Prop} {now : Int} {turnId actionRowId : String}
    {workspaceId : WorkspaceId} {trace : HookTrace} (anonymous : request.providerTurnId = none)
    (recorded : Recorded fault now turnId actionRowId workspaceId request db turn db')
    (active : (db.activeTurns request.owner).map shownTurn = trace.holder.toList) :
    Attached request.owner trace request.event db turn db' := by
  have hooked := recorded.hooked
  unfold Recorded at recorded
  split at recorded
  · rename_i prompt own
    rw [own]
    obtain ⟨_, _, named, _⟩ | ⟨_, inserted⟩ := recorded
    · simp [anonymous] at named
    · obtain ⟨only, same, _⟩ := inserted.activeTurns (superseding_activeTurns anonymous now)
      refine ⟨?_, ?_, ?_, ?_⟩
      · rw [only, HookTrace.holder, ← same]
        rfl
      · rw [turnOwner_of_mem inserted.mem, inserted.1]
        rfl
      · intro action none
        cases none
      · intro action name failed executionId other
        cases other
  · rename_i actionId toolName own
    rw [own]
    obtain ⟨middle, found, upserted⟩ := recorded
    obtain ⟨only, held, attached⟩ := found.holder anonymous active
    obtain ⟨member, owned⟩ := found.owned
    refine ⟨?_, ?_, ?_, ?_⟩
    · rw [activeTurns_congr upserted.turns, only, HookTrace.holder, ← held]
      rfl
    · rw [turnOwner, upserted.turns]
      exact (turnOwner_of_mem member).trans (congrArg some owned)
    · intro action same
      cases same
      exact ⟨upserted.row fun _ => ⟨rfl, rfl, rfl⟩, attached⟩
    · intro action name failed executionId other
      cases other
  · rename_i actionId toolName failed executionId own
    rw [own]
    obtain ⟨middle, known, found, _, upserted⟩ := recorded
    obtain ⟨only, held, attached⟩ := found.holder anonymous active
    obtain ⟨member, owned⟩ := found.owned
    refine ⟨?_, ?_, ?_, ?_⟩
    · rw [activeTurns_congr upserted.turns, only, HookTrace.holder, ← held]
      rfl
    · rw [turnOwner, upserted.turns]
      exact (turnOwner_of_mem member).trans (congrArg some owned)
    · intro action same
      cases same
      exact ⟨upserted.row fun _ => ⟨rfl, rfl, rfl⟩, attached⟩
    · intro action name failed executionId same there
      cases same
      have before : middle.HasAction turn.id actionId := by
        rw [HasAction, found.actions]
        exact there
      obtain ⟨ids, rows⟩ := upserted.ids before
      rw [found.actions] at ids rows
      refine ⟨ids, fun row present ofTurn named => ?_⟩
      obtain ⟨old, member, same⟩ := rows row present ofTurn named
      rw [same]
      exact ⟨rfl, old, member, rfl⟩
  · rename_i failed lastAssistantMessage own
    rw [own]
    obtain ⟨middle, old, found, rfl, rfl⟩ := recorded
    obtain ⟨only, _, _⟩ := found.holder anonymous active
    obtain ⟨member, owned⟩ := found.owned
    refine ⟨?_, ?_, ?_, ?_⟩
    · rw [settingTurn_activeTurns _ _ only, HookTrace.holder]
      · rfl
      · cases failed <;> exact AgentTurnState.noConfusion
    · rw [turnOwner, AgentTurnRow.finished_id, settingTurn_find _ member]
      exact congrArg some owned
    · intro action none
      cases none
    · intro action name failed executionId other
      cases other

end Database

/-! ## Runs -/

namespace Attributed

open Database

variable {owner : SessionId × String × String} {s s' : Attributed}

/-- What the tables show of the events that were recorded. -/
structure Tracked (owner : SessionId × String × String) (s : Attributed) : Prop where
  active : (s.db.activeTurns owner).map shownTurn = s.trace.holder.toList
  owned : ∀ entry ∈ s.trace, s.db.turnOwner entry.2 = some owner
  acted : ∀ entry ∈ s.trace, ∀ action, entry.1.action? = some action →
    s.db.HasAction entry.2 action
  tools : ∀ entry ∈ s.trace.tools, s.trace.holder.map Prod.fst = some entry.2

theorem Tracked.follow (tracked : s.Tracked owner) {db : Database}
    (active : db.activeTurns owner = s.db.activeTurns owner) (follows : Follows owner s.db db) :
    Tracked owner { s with db } where
  active := by rw [active, tracked.active]
  owned entry member := follows.turns _ (tracked.owned entry member)
  acted entry member action own :=
    follows.actions _ _ (tracked.owned entry member) (tracked.acted entry member action own)
  tools := tracked.tools

/-- The tools in front of an event are those of the turn that now holds. -/
theorem holder_tools {trace : HookTrace} {event : AgentEvent} {turn : String}
    (before : ∀ entry ∈ trace.tools, trace.holder.map Prod.fst = some entry.2)
    (attached : event.action?.isSome → match trace.holder with
      | some (held, _) => turn = held
      | none => True) :
    ∀ entry ∈ HookTrace.tools ((event, turn) :: trace),
      (HookTrace.holder ((event, turn) :: trace)).map Prod.fst = some entry.2 := by
  intro entry member
  have tool : event.action?.isSome = true := by
    by_contra other
    rw [HookTrace.tools, if_neg other] at member
    cases member
  have attached := attached tool
  have held : HookTrace.holder ((event, turn) :: trace) =
      some ((HookTrace.holder trace).getD (turn, "")) := by
    cases event <;> first | rfl | cases tool
  rw [HookTrace.tools, if_pos tool] at member
  rw [held]
  cases holds : HookTrace.holder trace with
  | none =>
    cases List.mem_cons.mp member with
    | inl first => rw [first]; rfl
    | inr later =>
      have none := before entry later
      rw [holds] at none
      cases none
  | some shown =>
    rw [holds] at attached
    cases List.mem_cons.mp member with
    | inl first =>
      rw [first]
      exact congrArg some attached.symm
    | inr later =>
      have same := before entry later
      rw [holds] at same
      exact same

theorem Tracked.record (tracked : s.Tracked owner) {event : AgentEvent} {turn : AgentTurnRow}
    {db : Database} (follows : Follows owner s.db db)
    (attached : Attached owner s.trace event s.db turn db) :
    Tracked owner { db, trace := (event, turn.id) :: s.trace } where
  active := attached.active
  owned entry member := by
    cases List.mem_cons.mp member with
    | inl first =>
      subst first
      exact attached.owned
    | inr before => exact follows.turns _ (tracked.owned entry before)
  acted entry member action own := by
    cases List.mem_cons.mp member with
    | inl first =>
      subst first
      obtain ⟨⟨row, present, ofTurn, named, _⟩, _⟩ := attached.acted action own
      exact ⟨row, present, ofTurn, named⟩
    | inr before =>
      exact follows.actions _ _ (tracked.owned entry before)
        (tracked.acted entry before action own)
  tools := by
    refine holder_tools tracked.tools fun tool => ?_
    obtain ⟨action, own⟩ := Option.isSome_iff_exists.mp tool
    have turn := (attached.acted action own).2
    cases held : s.trace.holder with
    | none => trivial
    | some shown =>
      rw [held] at turn
      exact turn

theorem Tracked.start (first : (attribution owner).start s) : s.Tracked owner := by
  obtain ⟨none, empty⟩ := first
  have idle : s.db.activeTurns owner = [] := by
    refine List.eq_nil_iff_forall_not_mem.mpr fun turn member => ?_
    obtain ⟨present, owned, _⟩ := mem_activeTurns.mp member
    exact none turn present owned
  refine ⟨?_, ?_, ?_, ?_⟩ <;> rw [empty]
  · rw [idle]
    rfl
  · intro entry none
    cases none
  · intro entry none
    cases none
  · intro entry none
    cases none

theorem Tracked.step {command : StoreCommand} {faults : List (Option String)}
    (tracked : s.Tracked owner) (anonymous : Anonymous owner s (command, faults)) :
    (s.after owner (command, faults)).Tracked owner := by
  have moves := run_of_post (command_moves s.db command) faults
  cases command with
  | recordAgentEvent now turnId actionRowId request =>
    have spec := run_of_post (recordAgentEvent_spec (fun _ raised => raised) now turnId
      actionRowId : Sql.Post StorageFault (recordAgentEvent now turnId actionRowId request) s.db _)
      faults
    unfold Attributed.after
    unfold Anonymous at anonymous
    dsimp only at anonymous ⊢
    cases ran : Store.run (recordAgentEvent now turnId actionRowId request) faults s.db with
    | mk result db =>
      rw [ran] at spec anonymous
      cases result with
      | ok turn =>
        obtain ⟨session, _, _, recorded⟩ := spec
        by_cases own : request.owner = owner
        · subst own
          simp only [if_true]
          exact tracked.record recorded.hooked.follows
            (recorded.attached (anonymous rfl).1 tracked.active)
        · simp only [if_neg own]
          exact tracked.follow (recorded.hooked.activeTurns own) recorded.hooked.follows
      | error e =>
        obtain same | ⟨storage, _, hooked⟩ := spec
        · rw [show db = s.db from same]
          exact tracked
        · by_cases own : request.owner = owner
          · have refused : e.isStorage = false := (anonymous own).2
            rw [refused] at storage
            cases storage
          · exact tracked.follow (hooked.activeTurns own) hooked.follows
  | finishAgentSession now id finish =>
    obtain ⟨active, follows⟩ := moves.apart owner (by simp)
      (by intro _ _ _ same; cases same; exact anonymous) (by simp)
    exact tracked.follow active follows
  | deleteAgentSession id =>
    obtain ⟨active, follows⟩ := moves.apart owner (by simp) (by simp)
      (by intro _ same; cases same; exact anonymous)
    exact tracked.follow active follows
  | _ =>
    obtain ⟨active, follows⟩ := moves.apart owner (by simp) (by simp) (by simp)
    exact tracked.follow active follows

theorem tracked_run (reached : (attribution owner).ReachableVia (Anonymous owner) s) :
    s.Tracked owner := by
  apply reached.invariant (Tracked owner)
  · intro s first
    exact Tracked.start first
  · intro s command s' _ tracked anonymous enabled
    rw [← Option.some.inj enabled]
    exact tracked.step anonymous

end Attributed

open Database in
/-- While a provider session whose events carry no turn id is recorded, whatever else the actor
does: at most one of its turns is active, the one that `holder` tells. A tool is attached to it;
when there is none, to a new turn with an empty prompt, which is then active. A tool that ends
behind its start, with no prompt and no end of a turn between them, completes the row of its
start. -/
theorem hook_attribution {owner : SessionId × String × String} {s : Attributed}
    (reached : (attribution owner).ReachableVia (Anonymous owner) s) :
    (s.db.activeTurns owner).length ≤ 1 ∧
    (s.db.activeTurns owner).map shownTurn = s.trace.holder.toList ∧
    ∀ now turnId actionRowId request faults turn db' action, request.owner = owner →
      request.providerTurnId = none →
      Store.run (recordAgentEvent now turnId actionRowId request) faults s.db = (.ok turn, db') →
      request.event.action? = some action →
      (db'.activeTurns owner).map shownTurn = [s.trace.holder.getD (turn.id, "")] ∧
      (match s.trace.holder with
        | some (held, _) => turn.id = held
        | none => s.db.agentTurns.find? turn.id = none) ∧
      (∃ row ∈ db'.agentActions.rows, row.turnId = turn.id ∧ row.providerActionId = action ∧
        row.state = request.event.leaves) ∧
      ((∃ name started, (.toolStarted action name, started) ∈ s.trace.tools) →
        (∃ name failed executionId, request.event = .toolFinished action name failed executionId) →
        db'.agentActions.rows.map (·.id) = s.db.agentActions.rows.map (·.id) ∧
        ∀ row ∈ db'.agentActions.rows, row.turnId = turn.id → row.providerActionId = action →
          row.state = request.event.leaves ∧ ∃ old ∈ s.db.agentActions.rows, old.id = row.id) := by
  have tracked := Attributed.tracked_run reached
  refine ⟨?_, tracked.active, ?_⟩
  · have size := congrArg List.length tracked.active
    rw [List.length_map] at size
    rw [size]
    cases s.trace.holder <;> simp
  · intro now turnId actionRowId request faults turn db' action own anonymous ran tool
    subst own
    have spec := run_of_post (recordAgentEvent_spec (fun _ raised => raised) now turnId
      actionRowId : Sql.Post StorageFault (recordAgentEvent now turnId actionRowId request) s.db _)
      faults
    rw [ran] at spec
    obtain ⟨session, _, _, recorded⟩ := spec
    have attached := recorded.attached anonymous tracked.active
    obtain ⟨row, held⟩ := attached.acted action tool
    refine ⟨?_, held, row, ?_⟩
    · rw [attached.active]
      cases event : request.event with
      | promptSubmitted =>
        rw [event] at tool
        cases tool
      | turnFinished =>
        rw [event] at tool
        cases tool
      | toolStarted => rfl
      | toolFinished => rfl
    · rintro ⟨name, started, before⟩ ⟨name', failed, executionId, event⟩
      refine attached.again action name' failed executionId event ?_
      -- the start was attached to the turn that holds
      have same := tracked.tools _ before
      cases holds : s.trace.holder with
      | none =>
        rw [holds] at same
        cases same
      | some shown =>
        rw [holds] at same held
        have start : turn.id = started := held.trans (Option.some.inj same)
        rw [start]
        exact tracked.acted _ (HookTrace.mem_of_tools before) action rfl

/-- An event of Claude Code in the session of `sampleCommands`. -/
def claudeEvent (event : AgentEvent) : AgentEventRequest :=
  { sessionId := "s", provider := "claude", providerSessionId := "c", providerTurnId := none,
    event }

/-- A tool in front of the first prompt, a prompt of another provider, a prompt, and a tool that
starts. -/
def sampleHooks : List (StoreCommand × List (Option String)) :=
  sampleCommands.take 3 ++
    [(.recordAgentEvent 3 "t1" "x" (claudeEvent (.toolStarted "1" "Read")), []),
     (.recordAgentEvent 4 "t2" "x"
        { sessionId := "s", provider := "codex", providerSessionId := "p",
          providerTurnId := some "7", event := .promptSubmitted "help" }, []),
     (.recordAgentEvent 5 "t3" "x" (claudeEvent (.promptSubmitted "build it")), []),
     (.recordAgentEvent 6 "t4" "y" (claudeEvent (.toolStarted "2" "Bash")), [])]

/-- The tool of `sampleHooks` ends. -/
def sampleToolFinished : AgentEventRequest :=
  claudeEvent (.toolFinished "2" "Bash" false none)

theorem hook_attribution_sample :
    ∃ (s : Attributed) (turn : AgentTurnRow) (db : Database),
      (attribution ("s", "claude", "c")).ReachableVia (Anonymous ("s", "claude", "c")) s ∧
      s.trace.holder = some ("t3", "build it") ∧
      Store.run (Database.recordAgentEvent 7 "t5" "z" sampleToolFinished) [] s.db =
        (.ok turn, db) ∧
      turn.id = "t3" ∧
      db.agentActions.rows.map (·.id) = s.db.agentActions.rows.map (·.id) := by
  have replayed : ((attribution ("s", "claude", "c")).runIf (Anonymous ("s", "claude", "c"))
      { db := newDatabase } sampleHooks).map (fun s =>
        (s.trace.holder, decide ((.toolStarted "2" "Bash", "t3") ∈ s.trace.tools),
          (Store.run (Database.recordAgentEvent 7 "t5" "z" sampleToolFinished) [] s.db).1.toOption.map
            (·.id))) =
      some (some ("t3", "build it"), true, some "t3") := by decide +kernel
  obtain ⟨s, replay, seen⟩ := Option.map_eq_some_iff.mp replayed
  simp only [Prod.mk.injEq, decide_eq_true_eq] at seen
  obtain ⟨held, started, attached⟩ := seen
  have first : (attribution ("s", "claude", "c")).start { db := newDatabase } :=
    ⟨fun turn none => (by cases none), rfl⟩
  have reached := (System.ReachableVia.start first).run (System.runIf_runVia replay)
  cases ran : Store.run (Database.recordAgentEvent 7 "t5" "z" sampleToolFinished) [] s.db with
  | mk result db =>
    rw [ran] at attached
    cases result with
    | error e => cases attached
    | ok turn =>
      obtain ⟨_, _, tools⟩ := hook_attribution reached
      obtain ⟨_, _, _, completes⟩ := tools 7 "t5" "z" sampleToolFinished [] turn db "2" rfl rfl ran rfl
      refine ⟨s, turn, db, reached, held, ran, Option.some.inj attached, ?_⟩
      exact (completes ⟨"Bash", "t3", started⟩ ⟨"Bash", false, none, rfl⟩).1

end Loomterm
