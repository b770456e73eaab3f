import Loomterm.Daemon.Responses

/-!
# The source of a handoff

`loom handoff` takes over the executions of an earlier session. Without `--from` it goes through
the sessions that the daemon lists for the workspace, newest first. The daemon lists a hundred
of them, and with them those of a workspace whose name is the id of this one.
-/

namespace Loomterm

/-! ## Choosing -/

/-- `has_active_executions` (`src/bin/loom.rs:1123`). -/
def hasActiveExecutions (detail : AgentSessionDetail) : Bool :=
  detail.executions.any fun execution => !execution.state.isTerminal

/-- `validate_handoff_source` (`src/bin/loom.rs:1101`). -/
def validateHandoffSource (detail : AgentSessionDetail) (workspaceId : WorkspaceId) :
    Except Error AgentSessionDetail :=
  if detail.session.workspaceId ≠ workspaceId then
    .error (.invalidRequest "handoff source belongs to a different workspace")
  else if detail.session.state = .recording then
    .error (.invalidRequest "handoff source is still recording; exit the source agent first")
  else if !hasActiveExecutions detail then
    .error (.invalidRequest "handoff source has no queued or running executions")
  else .ok detail

/-- The error of `select_handoff_source`. -/
def noHandoffSource : Error :=
  .invalidRequest
    ("no finished session with queued or running executions is available; " ++
      "use `loom agent` to start a new session")

/-- The loop of `select_handoff_source`. -/
def firstHandoffSource (get : SessionId → Except Error AgentSessionDetail) :
    List AgentSessionRow → Except Error AgentSessionDetail
  | [] => .error noHandoffSource
  | session :: rest =>
      if session.state = .recording then firstHandoffSource get rest
      else do
        let detail ← get session.id
        if hasActiveExecutions detail then .ok detail else firstHandoffSource get rest

namespace Database

/-- `DaemonClient::get_agent_session` of a daemon whose database, the recorders that are gone
reconciled, is `db`. -/
def clientGetAgentSession (db : Database) (now : ExecutionId → Int) (id : SessionId) :
    Except Error AgentSessionDetail :=
  (Store.run (getAgentSession now id) [] db).1.mapError Error.overWire

/-- `DaemonClient::list_agent_sessions`. -/
def clientListAgentSessions (db : Database) (workspace : Option String) (limit : Nat) :
    Except Error (List AgentSessionRow) :=
  (Store.run (listAgentSessions workspace (max 1 (min limit 1000))) [] db).1.mapError
    Error.overWire

/-- `select_handoff_source` (`src/bin/loom.rs:1073`). -/
def selectHandoffSource (db : Database) (now : ExecutionId → Int) (workspaceId : WorkspaceId)
    (requested : Option SessionId) : Except Error AgentSessionDetail :=
  match requested with
  | some sessionId => do
      let detail ← db.clientGetAgentSession now sessionId
      validateHandoffSource detail workspaceId
  | none => do
      let sessions ← db.clientListAgentSessions (some workspaceId) 100
      firstHandoffSource (db.clientGetAgentSession now) sessions

/-! ## What can be handed over -/

/-- The session owns the execution, or one of its actions is linked to it. -/
def References (db : Database) (id : SessionId) (execution : ExecutionRow) : Prop :=
  execution.sessionId = some id ∨
    ∃ action ∈ db.agentActions.rows, action.executionId = some execution.id ∧
      ∃ turn ∈ db.agentTurns.rows, turn.id = action.turnId ∧ turn.sessionId = id

/-- The session is over, and an execution that it references is queued or running. -/
def Unfinished (db : Database) (session : AgentSessionRow) : Prop :=
  session.state ≠ .recording ∧ ∃ execution ∈ db.executions.rows,
    db.References session.id execution ∧
      (execution.state = .queued ∨ execution.state = .running)

/-- A session of the workspace that can be handed over. -/
def CanHandOff (db : Database) (workspaceId : WorkspaceId) (session : AgentSessionRow) : Prop :=
  session ∈ db.agentSessions.rows ∧ session.workspaceId = workspaceId ∧ db.Unfinished session

/-- The newest session that can be handed over, or that there is none. -/
def ChoosesSource (db : Database) (workspaceId : WorkspaceId) :
    Except Error AgentSessionDetail → Prop
  | .ok detail => db.CanHandOff workspaceId detail.session ∧
      ∀ other, db.CanHandOff workspaceId other →
        other.createdAtMs ≤ detail.session.createdAtMs
  | .error error => error = noHandoffSource ∧ ∀ session, ¬ db.CanHandOff workspaceId session

section

variable {db : Database} {id : SessionId} {session : AgentSessionRow}

/-- What `get_agent_session` selects is what the session references. -/
theorem mem_sessionExecutions {execution : ExecutionRow} :
    execution ∈ db.sessionExecutions id ↔
      execution ∈ db.executions.rows ∧ db.References id execution := by
  rw [sessionExecutions, List.mem_insertionSort, List.mem_filter]
  refine and_congr_right fun _ => ?_
  simp only [References, Bool.or_eq_true, decide_eq_true_eq, List.contains_iff_mem,
    List.mem_filterMap]
  refine or_congr_right (exists_congr fun action => and_congr_right fun _ => ?_)
  by_cases owned : (db.agentTurns.rows.any fun turn =>
      turn.id = action.turnId && turn.sessionId = id) = true
  · rw [if_pos owned]
    simp only [List.any_eq_true, Bool.and_eq_true, decide_eq_true_eq] at owned
    exact (and_iff_left owned).symm
  · rw [if_neg owned]
    simp only [List.any_eq_true, Bool.and_eq_true, decide_eq_true_eq] at owned
    simp [owned]

theorem hasActiveExecutions_detail (now : ExecutionId → Int) :
    hasActiveExecutions (db.sessionDetail now session) = true ↔
      ∃ execution ∈ db.executions.rows, db.References session.id execution ∧
        (execution.state = .queued ∨ execution.state = .running) := by
  have active : ∀ state : ExecutionState,
      (!state.isTerminal) = true ↔ state = .queued ∨ state = .running := by
    intro state
    cases state <;> decide
  simp only [hasActiveExecutions, sessionDetail, List.any_map, List.any_eq_true,
    Function.comp_apply, mem_sessionExecutions, active, and_assoc]
  rfl

/-! ## The listing -/

/-- Of two items of a list, one that is not behind the other stands before it. -/
private theorem mem_before {α : Type} {left right left' right' : List α} {a b : α}
    (same : left ++ a :: right = left' ++ b :: right') (behind : b ∉ left) (differ : a ≠ b) :
    a ∈ left' := by
  cases List.append_eq_append_iff.mp same with
  | inl longer =>
    obtain ⟨more, split, rest⟩ := longer
    cases more with
    | nil => exact (differ (List.cons.inj rest).1).elim
    | cons first more => simp [split, (List.cons.inj rest).1]
  | inr shorter =>
    obtain ⟨more, split, rest⟩ := shorter
    cases more with
    | nil => exact (differ (List.cons.inj rest).1.symm).elim
    | cons first more => exact (behind (by simp [split, (List.cons.inj rest).1])).elim

/-- The sessions that a listing by `workspace` shows, newest first. -/
def newestSessions (db : Database) (workspace : String) : List AgentSessionRow :=
  (db.agentSessions.rows.filter fun row => db.workspaces.rows.any fun w =>
    w.id = row.workspaceId && (row.workspaceId = workspace || w.name = workspace)).insertionSort
      fun left right => right.createdAtMs ≤ left.createdAtMs

theorem listedSessions_eq (workspace : String) (limit : Nat) :
    db.listedSessions (some workspace) limit = (db.newestSessions workspace).take limit := rfl

theorem newestSessions_sorted (db : Database) (workspace : String) :
    (db.newestSessions workspace).Pairwise
      fun left right => right.createdAtMs ≤ left.createdAtMs :=
  List.pairwise_insertionSort _ _

theorem mem_newestSessions {workspace : String} :
    session ∈ db.newestSessions workspace ↔ session ∈ db.agentSessions.rows ∧
      ∃ w ∈ db.workspaces.rows,
        w.id = session.workspaceId ∧ (session.workspaceId = workspace ∨ w.name = workspace) := by
  simp [newestSessions]

theorem mem_of_listedSessions {workspace : String} {limit : Nat}
    (listed : session ∈ db.listedSessions (some workspace) limit) :
    session ∈ db.agentSessions.rows :=
  (mem_newestSessions.mp (List.mem_of_mem_take listed)).1

/-- A session of the workspace that is newer than a listed one stands before it. -/
theorem listedSessions_newer {workspace : WorkspaceRow} {earlier later : List AgentSessionRow}
    {listed : AgentSessionRow} {limit : Nat} (known : workspace ∈ db.workspaces.rows)
    (split : db.listedSessions (some workspace.id) limit = earlier ++ listed :: later)
    (member : session ∈ db.agentSessions.rows) (own : session.workspaceId = workspace.id)
    (newer : listed.createdAtMs < session.createdAtMs) : session ∈ earlier := by
  have there : session ∈ db.newestSessions workspace.id :=
    mem_newestSessions.mpr ⟨member, workspace, known, own.symm, .inl own⟩
  have inOrder := db.newestSessions_sorted workspace.id
  rw [← List.take_append_drop limit (db.newestSessions workspace.id), ← listedSessions_eq, split,
    List.append_assoc, List.cons_append] at there inOrder
  have behind := (List.pairwise_cons.mp (List.pairwise_append.mp inOrder).2.1).1
  rcases List.mem_append.mp there with before | after
  · exact before
  · rcases List.mem_cons.mp after with same | after
    · rw [same] at newer
      omega
    · have older := behind session after
      omega

/-! ## What is chosen -/

theorem clientGetAgentSession_eq (now : ExecutionId → Int)
    (member : session ∈ db.agentSessions.rows) :
    db.clientGetAgentSession now session.id = .ok (db.sessionDetail now session) := by
  have found := Table.mem_rows_iff.mp member
  have read : getAgentSession now session.id db [] = ⟨.ok (db.sessionDetail now session), db, []⟩ :=
    readsAs_getAgentSession_some now found []
  rw [clientGetAgentSession, Store.run, List.map_nil, read]
  rfl

/-- The loop stops at the first session that is over and has work left. -/
theorem firstHandoffSource_spec (now : ExecutionId → Int) {sessions : List AgentSessionRow}
    (members : ∀ session ∈ sessions, session ∈ db.agentSessions.rows) :
    (∃ earlier session later, sessions = earlier ++ session :: later ∧
      (∀ passed ∈ earlier, ¬ db.Unfinished passed) ∧ db.Unfinished session ∧
      firstHandoffSource (db.clientGetAgentSession now) sessions =
        .ok (db.sessionDetail now session)) ∨
    (∀ session ∈ sessions, ¬ db.Unfinished session) ∧
      firstHandoffSource (db.clientGetAgentSession now) sessions = .error noHandoffSource := by
  induction sessions with
  | nil => exact .inr ⟨by simp, rfl⟩
  | cons session rest ih =>
    obtain ⟨member, others⟩ := List.forall_mem_cons.mp members
    by_cases chosen : db.Unfinished session
    · refine .inl ⟨[], session, rest, rfl, by simp, chosen, ?_⟩
      rw [firstHandoffSource, if_neg chosen.1, clientGetAgentSession_eq now member]
      exact if_pos ((hasActiveExecutions_detail now).mpr chosen.2)
    · have skipped : firstHandoffSource (db.clientGetAgentSession now) (session :: rest) =
          firstHandoffSource (db.clientGetAgentSession now) rest := by
        rw [firstHandoffSource]
        by_cases recording : session.state = .recording
        · exact if_pos recording
        · rw [if_neg recording, clientGetAgentSession_eq now member]
          refine if_neg fun active => chosen ⟨recording, ?_⟩
          exact (hasActiveExecutions_detail now).mp active
      rw [skipped]
      cases ih others with
      | inl found =>
        obtain ⟨earlier, next, later, split, passed, unfinished, answer⟩ := found
        refine .inl ⟨session :: earlier, next, later, by rw [split, List.cons_append], ?_,
          unfinished, answer⟩
        exact List.forall_mem_cons.mpr ⟨chosen, passed⟩
      | inr nowhere => exact .inr ⟨List.forall_mem_cons.mpr ⟨chosen, nowhere.1⟩, nowhere.2⟩

/-- A session that is asked for is taken exactly when it can be handed over. -/
theorem requested_source_iff (now : ExecutionId → Int) (workspaceId : WorkspaceId)
    (member : session ∈ db.agentSessions.rows) :
    db.selectHandoffSource now workspaceId (some session.id) =
        .ok (db.sessionDetail now session) ↔
      db.CanHandOff workspaceId session := by
  have active : hasActiveExecutions (db.sessionDetail now session) = true ↔ _ :=
    hasActiveExecutions_detail now
  rw [selectHandoffSource, clientGetAgentSession_eq now member]
  show validateHandoffSource (db.sessionDetail now session) workspaceId = _ ↔ _
  have shown : (db.sessionDetail now session).session = session := rfl
  rw [validateHandoffSource, shown, CanHandOff, Unfinished, ← active]
  by_cases elsewhere : session.workspaceId = workspaceId
  · by_cases recording : session.state = .recording
    · simp [elsewhere, recording]
    · cases work : hasActiveExecutions (db.sessionDetail now session) <;>
        simp [elsewhere, recording, member]
  · simp [elsewhere]

end

/-- `loom handoff` without `--from` takes the newest session of the workspace that is over and
has queued or running executions, and says that there is none only if there is none, exactly
when, among the hundred newest sessions that the id of the workspace lists, one of another
workspace comes after one that can be taken, and one can be taken if any can. -/
theorem handoff_source_iff (db : Database) (now : ExecutionId → Int) {workspace : WorkspaceRow}
    (known : workspace ∈ db.workspaces.rows) :
    db.ChoosesSource workspace.id (db.selectHandoffSource now workspace.id none) ↔
      (∀ earlier session later,
        db.listedSessions (some workspace.id) 100 = earlier ++ session :: later →
          session.workspaceId ≠ workspace.id → db.Unfinished session →
            ∃ own ∈ earlier, db.CanHandOff workspace.id own) ∧
      ∀ session, db.CanHandOff workspace.id session →
        ∃ listed ∈ db.listedSessions (some workspace.id) 100,
          db.CanHandOff workspace.id listed := by
  have members : ∀ session ∈ db.listedSessions (some workspace.id) 100,
      session ∈ db.agentSessions.rows := fun session listed => mem_of_listedSessions listed
  have chosen : db.selectHandoffSource now workspace.id none =
      firstHandoffSource (db.clientGetAgentSession now)
        (db.listedSessions (some workspace.id) 100) := rfl
  rw [chosen]
  cases firstHandoffSource_spec now members with
  | inl found =>
    obtain ⟨earlier, session, later, split, passed, unfinished, answer⟩ := found
    have listed : session ∈ db.listedSessions (some workspace.id) 100 := by simp [split]
    rw [answer]
    constructor
    · rintro ⟨can, -⟩
      refine ⟨?_, fun _ _ => ⟨session, listed, can⟩⟩
      intro before other after placed foreign work
      refine ⟨session, mem_before (split.symm.trans placed) ?_ ?_, can⟩
      · intro ahead
        exact passed other ahead work
      · rintro rfl
        exact foreign can.2.1
    · rintro ⟨placed, -⟩
      have own : session.workspaceId = workspace.id := by
        by_contra foreign
        obtain ⟨first, before, can⟩ := placed earlier session later split foreign unfinished
        exact passed first before can.2.2
      refine ⟨⟨members session listed, own, unfinished⟩, ?_⟩
      intro other can
      by_contra newer
      exact passed other
        (listedSessions_newer known split can.1 can.2.1 (Int.not_le.mp newer)) can.2.2
  | inr nowhere =>
    rw [nowhere.2]
    constructor
    · rintro ⟨-, none⟩
      refine ⟨?_, fun session can => (none session can).elim⟩
      intro earlier session later split foreign unfinished
      exact (nowhere.1 session (by simp [split]) unfinished).elim
    · rintro ⟨-, complete⟩
      refine ⟨rfl, fun session can => ?_⟩
      obtain ⟨listed, there, within⟩ := complete session can
      exact nowhere.1 listed there within.2.2

/-- No session with work is chosen if the hundred that are looked at have none. -/
theorem not_choosesSource {db : Database} {now : ExecutionId → Int} {workspaceId : WorkspaceId}
    {session : AgentSessionRow} (can : db.CanHandOff workspaceId session)
    (passed : ∀ listed ∈ db.listedSessions (some workspaceId) 100, ¬ db.Unfinished listed) :
    ¬ db.ChoosesSource workspaceId (db.selectHandoffSource now workspaceId none) := by
  cases firstHandoffSource_spec now
      (fun listed (there : listed ∈ db.listedSessions (some workspaceId) 100) =>
        mem_of_listedSessions there) with
  | inl found =>
    obtain ⟨earlier, listed, later, split, _, unfinished, _⟩ := found
    exact (passed listed (by simp [split]) unfinished).elim
  | inr nowhere =>
    have refused : db.selectHandoffSource now workspaceId none = .error noHandoffSource :=
      nowhere.2
    rw [refused]
    intro chooses
    exact chooses.2 session can

/-- Rows that are named by different ids. -/
theorem nodup_zipIdx {ids : List SessionId} (different : ids.Nodup)
    (row : SessionId × Nat → AgentSessionRow) (named : ∀ entry, (row entry).id = entry.1) :
    ((ids.zipIdx.map row).map AgentSessionRow.id).Nodup := by
  have same : (ids.zipIdx.map row).map AgentSessionRow.id = ids := by
    rw [List.map_map, show AgentSessionRow.id ∘ row = Prod.fst from funext named,
      List.zipIdx_map_fst]
  rw [same]
  exact different

/-- A workspace with sessions that are over, each older than the one before; the last one left
an execution running. -/
def sampleHandoffs (ids : List SessionId) (different : ids.Nodup) : Database where
  workspaces := ⟨[{ id := "w", name := "demo", root := "/demo", createdAtMs := 0 }],
    List.nodup_singleton _⟩
  agentSessions := ⟨ids.zipIdx.map fun (id, age) =>
    { id, workspaceId := "w", state := .finished, agentKind := "codex", name := none,
      command := .argv "codex" [], cwd := "/demo", createdAtMs := 1000 - age, recorderPid := 7,
      initialCols := 80, initialRows := 24, castPath := "", htmlPath := "" },
    nodup_zipIdx different _ fun _ => rfl⟩
  executions := ⟨[
    { id := "e", workspaceId := "w", state := .running, command := .argv "make" [], cwd := "/demo",
      envKeys := [], initiator := {}, createdAtMs := 1000, sessionId := ids.getLast? }],
    List.nodup_singleton _⟩
  events := .empty
  agentTurns := .empty
  agentActions := .empty

def sampleWorkspace : WorkspaceRow :=
  { id := "w", name := "demo", root := "/demo", createdAtMs := 0 }

theorem handoff_source_iff_sample :
    (sampleHandoffs ["s"] (by decide)).ChoosesSource "w"
      ((sampleHandoffs ["s"] (by decide)).selectHandoffSource (fun _ => 0) "w" none) := by
  have known : sampleWorkspace ∈ (sampleHandoffs ["s"] (by decide)).workspaces.rows :=
    List.mem_cons_self
  refine (handoff_source_iff (sampleHandoffs ["s"] (by decide)) (fun _ => 0) known).mpr ⟨?_, ?_⟩
  · intro earlier session later split foreign
    have first : session ∈ (sampleHandoffs ["s"] (by decide)).listedSessions (some "w") 100 := by
      have member : session ∈ earlier ++ session :: later := by simp
      exact split ▸ member
    have listed := mem_of_listedSessions first
    rw [List.mem_singleton.mp listed] at foreign
    exact (foreign rfl).elim
  · intro session can
    have one := List.mem_singleton.mp can.1
    exact ⟨session, by rw [one]; exact List.mem_cons_self, can⟩

theorem sampleIds_nodup : ((List.range 101).map toString).Nodup := by
  -- each text, read as a number again, is its own
  have value : ((List.range 101).all fun n => (toString n).toList.foldl
      (fun read c => 10 * read + (c.toNat - 48)) 0 = n) = true := by decide +kernel
  have back := fun n inside => of_decide_eq_true (List.all_eq_true.mp value n inside)
  refine List.Nodup.map_on ?_ List.nodup_range
  intro n inside m inside' same
  rw [← back n inside, same, back m inside']

def sampleHundredAndOne : Database :=
  sampleHandoffs ((List.range 101).map toString) sampleIds_nodup

/-- Of a hundred and one sessions only the oldest left work. -/
theorem handoff_misses_oldest :
    ¬ sampleHundredAndOne.ChoosesSource "w"
      (sampleHundredAndOne.selectHandoffSource (fun _ => 0) "w" none) := by
  have unlisted : (sampleHundredAndOne.listedSessions (some "w") 100).all (fun session =>
      session.id ≠ "100") = true := by decide +kernel
  have oldest : (sampleHundredAndOne.agentSessions.rows.any fun session =>
      session.id = "100" ∧ session.workspaceId = "w" ∧ session.state ≠ .recording) = true := by
    decide +kernel
  have owner : (sampleHundredAndOne.executions.rows.any fun execution =>
      execution.sessionId = some "100" ∧ execution.state = .running) = true := by decide +kernel
  have only : (sampleHundredAndOne.executions.rows.all fun execution =>
      execution.sessionId = some "100") = true := by decide +kernel
  obtain ⟨session, member, named⟩ := List.any_eq_true.mp oldest
  obtain ⟨execution, present, owned⟩ := List.any_eq_true.mp owner
  simp only [decide_eq_true_eq] at named owned
  have can : sampleHundredAndOne.CanHandOff "w" session := by
    refine ⟨member, named.2.1, named.2.2, execution, present, .inl ?_, .inr owned.2⟩
    rw [named.1]
    exact owned.1
  refine not_choosesSource can ?_
  rintro listed there ⟨_, execution, present, owns | ⟨action, acts, _⟩, _⟩
  · have left := of_decide_eq_true (List.all_eq_true.mp only execution present)
    rw [left, Option.some.injEq] at owns
    exact of_decide_eq_true (List.all_eq_true.mp unlisted listed there) owns.symm
  · cases acts

end Database

end Loomterm
