import Loomterm.Daemon.Artifacts
import Loomterm.Misc.Flock
import Loomterm.Session.Crash

/-!
# Who ends a session

A recorder takes the lock of its session's directory before the session is created, and the
kernel gives it up when the recorder is gone (`src/session.rs:36`, `src/bin/loom.rs:1188`). The
daemon lists the sessions that are recording, tries their locks, and finishes as interrupted what
it could lock (`src/daemon.rs:489`); it does so for several requests at a time, and its children
inherit descriptors meanwhile.
-/

namespace Loomterm

open Function (update)

/-! ## The recorder and the daemon -/

/-- Who may hold the lock of a directory: a recorder, or a pass of the daemon. -/
inductive LockParty where
  | recorder (id : SessionId)
  | task (n : Nat)
  deriving DecidableEq, Repr

/-- `RecordResult` (`src/session.rs:65`), but for the exit code. -/
structure RecordResult where
  outcome : ExecutionOutcome
  capturedBytes : Nat
  outputTruncated : Bool

def ExecutionOutcome.isInterrupted : ExecutionOutcome → Bool
  | .interrupted _ => true
  | _ => false

/-- What a session is finished with when its recording is over (`src/bin/loom.rs:1241`). -/
def recordedFinish : Except Error RecordResult → AgentSessionFinish
  | .ok result => {
      state := if result.outcome.isInterrupted then .interrupted else .finished
      outcome := result.outcome
      capturedBytes := result.capturedBytes
      outputTruncated := result.outputTruncated }
  | .error e => {
      state := .interrupted
      outcome := .interrupted e.toString
      capturedBytes := 0
      outputTruncated := false }

/-- Where a recorder is. -/
inductive RecorderPhase where
  /-- It holds the lock, and asks for the session to be created. -/
  | locked
  /-- It records the terminal. -/
  | recording
  /-- It asks for the session to be finished, for the second time if there was no daemon. -/
  | finishing (finish : AgentSessionFinish) (again : Bool)
  /-- The session is finished, and the answer has come. -/
  | finished
  | exited
  deriving DecidableEq

/-- The session is created and not finished. -/
def RecorderPhase.isOpen : RecorderPhase → Bool
  | .recording | .finishing _ _ => true
  | _ => false

structure SessionRecorder where
  directory : List (Component String)
  phase : RecorderPhase := .locked
  /-- The daemon has come to the request for the session. -/
  asked : Bool := false
  /-- What the recorder finished the session with, and the row that this left. It stays when the
  recorder is gone. -/
  ended : Option (AgentSessionFinish × AgentSessionRow) := none

/-- A pass of `reconcile_agent_sessions`. -/
structure Reconciliation where
  /-- What is left of the list; the first session is under way. -/
  sessions : List AgentSessionRow
  /-- `RECORDER_LOCK_ATTEMPTS` (`src/daemon.rs:477`), less those made for the first session. -/
  attempts : Nat := 3
  /-- The lock of the first session is taken. -/
  claimed : Bool := false
  /-- The sessions of the whole list. -/
  started : List SessionId
  /-- The sessions that were left, and who held the lock at the last attempt. -/
  skipped : List (SessionId × Option LockParty) := []

namespace Reconciliation

/-- The pass goes on with the next session. -/
def next (task : Reconciliation) : Reconciliation :=
  { task with sessions := task.sessions.tail, attempts := 3, claimed := false }

def skip (task : Reconciliation) (id : SessionId) (held : Option LockParty) : Reconciliation :=
  { task.next with skipped := (id, held) :: task.skipped }

end Reconciliation

structure Ownership where
  db : Database
  /-- The locks of the `active.lock` files, by their directories. -/
  locks : List (Component String) → Flock LockParty := fun _ => none
  recorders : SessionId → Option SessionRecorder := fun _ => none
  tasks : Nat → Option Reconciliation := fun _ => none
  /-- The ids that sessions have had; `new_id` returns another one. -/
  known : List SessionId
  /-- The sessions that a client has asked to delete. -/
  deleted : List SessionId := []

/-- `Operation::SessionCreate` (`src/daemon.rs:363`). -/
def sessionCreate (paths : AppPaths) (now : Int) (request : AgentSessionRequest)
    (cwd : Except Error String) : Store AgentSessionRow :=
  match validateSessionPaths paths request.id request.castPath request.htmlPath with
  | .error e => Sql.fail e
  | .ok () => Database.createAgentSession now request cwd

/-- `Operation::Shutdown` behind its reconciliation (`src/daemon.rs:438`). -/
def shutdown (force : Bool) : Store Unit := do
  let active ← Database.activeAgentSessions
  if !force && 0 < active.length then
    Sql.fail (.invalidRequest ("daemon has " ++ toString active.length ++
      " active agent session(s); wait for them or use --force"))
  else pure ()

namespace Ownership

/-- The recorder's process ends, however it does. -/
def exit (s : Ownership) (id : SessionId) (recorder : SessionRecorder) : Ownership :=
  { s with
    recorders := update s.recorders id (some { recorder with phase := .exited })
    locks := update s.locks recorder.directory
      ((s.locks recorder.directory).close (· = .recorder id)) }

def turn (s : Ownership) (id : SessionId) (recorder : SessionRecorder) (phase : RecorderPhase) :
    Ownership :=
  { s with recorders := update s.recorders id (some { recorder with phase }) }

/-- The daemon comes to the request for a session; without an answer that tells of success the
recorder removes the directory and returns the error. -/
def register (s : Ownership) (paths : AppPaths) (recorder : SessionRecorder)
    (request : AgentSessionRequest) (now : Int) (cwd : Except Error String)
    (faults : List (Option String)) (answered : Bool) : Ownership :=
  let recorder := { recorder with asked := true }
  match Store.run (sessionCreate paths now request cwd) faults s.db with
  | (.ok _, db) =>
      if answered then { s with db }.turn request.id recorder .recording
      else { s with db }.exit request.id recorder
  | (.error _, db) => { s with db }.exit request.id recorder

/-- `finish_session_resilient` (`src/bin/loom.rs:1295`), once there is a daemon to ask. -/
def finish (s : Ownership) (id : SessionId) (recorder : SessionRecorder)
    (ending : AgentSessionFinish) (now : Int) (faults : List (Option String)) (answered : Bool) :
    Ownership :=
  match Store.run (Database.finishAgentSession now id ending) faults s.db with
  | (.ok row, db) =>
      let recorder := { recorder with ended := some (ending, row) }
      if answered then { s with db }.turn id recorder .finished
      else { s with db }.exit id recorder
  | (.error _, db) => { s with db }.exit id recorder

/-- One attempt of `claim_released_session_lock` (`src/daemon.rs:489`). -/
def claim (s : Ownership) (n : Nat) (task : Reconciliation) (session : AgentSessionRow) :
    Ownership :=
  match Component.parent (components session.castPath) with
  | none => { s with tasks := update s.tasks n (some (task.skip session.id none)) }
  | some directory =>
      match (s.locks directory).tryLock (.task n) with
      | some lock => { s with
          locks := update s.locks directory lock
          tasks := update s.tasks n (some { task with claimed := true }) }
      | none =>
          let held := (s.locks directory).map Holding.party
          { s with tasks := update s.tasks n (some (
              if task.attempts ≤ 1 then task.skip session.id held
              else { task with attempts := task.attempts - 1 })) }

/-- The pass gives up the lock of the session. -/
def release (s : Ownership) (n : Nat) (session : AgentSessionRow) : Ownership :=
  match Component.parent (components session.castPath) with
  | none => s
  | some directory => { s with
      locks := update s.locks directory ((s.locks directory).close (· = .task n)) }

/-- The session is finished as interrupted, with its lock taken. -/
def interrupt (parse : String → Option Json) (s : Ownership) (n : Nat) (task : Reconciliation)
    (session : AgentSessionRow) (now : Int) (file : Option (List UInt8))
    (faults : List (Option String)) : Ownership :=
  match Store.run (Database.finishAgentSession now session.id
      (interruption parse (fun _ => file) session)) faults s.db with
  | (.ok _, db) =>
      { s with db, tasks := update s.tasks n (some task.next) }.release n session
  | (.error _, db) => { s with db, tasks := update s.tasks n none }.release n session

/-- Commands of others: they ask for sessions under ids of their own, and do not finish one whose
recorder is there. -/
def Foreign (s : Ownership) : StoreCommand → Prop
  | .createAgentSession _ request _ => request.id ∉ s.known
  | .finishAgentSession _ id _ => ∀ recorder ∈ s.recorders id, recorder.phase = .exited
  | _ => True

instance (s : Ownership) (command : StoreCommand) : Decidable (s.Foreign command) := by
  unfold Foreign
  cases command <;> dsimp only <;> infer_instance

end Ownership

/-- The id under which a command creates a session. -/
def StoreCommand.newSession : StoreCommand → List SessionId
  | .createAgentSession _ request _ => [request.id]
  | _ => []

/-- The id of the session that a command deletes. -/
def StoreCommand.goneSession : StoreCommand → List SessionId
  | .deleteAgentSession id => [id]
  | _ => []

/-- What recorders, the passes of the daemon and other clients do. A recorder may end anywhere,
also while a request of it is under way, and an answer may be lost on its way. -/
inductive OwnershipStep where
  /-- `SessionArtifacts::create` (`src/session.rs:37`). -/
  | start (id : SessionId)
  | register (request : AgentSessionRequest) (now : Int) (cwd : Except Error String)
      (faults : List (Option String)) (answered : Bool)
  | recorded (id : SessionId) (result : Except Error RecordResult)
  /-- There is no daemon to ask. -/
  | unavailable (id : SessionId)
  | finish (id : SessionId) (now : Int) (faults : List (Option String)) (answered : Bool)
  | exit (id : SessionId)
  /-- A process that has a lock file open forks. -/
  | inherit (directory : List (Component String))
  /-- Its child executes another program. -/
  | execed (directory : List (Component String))
  | reconcile (n : Nat) (faults : List (Option String))
  | claim (n : Nat)
  /-- The lock file cannot be opened. -/
  | fail (n : Nat)
  | interrupt (n : Nat) (now : Int) (file : Option (List UInt8)) (faults : List (Option String))
  /-- The daemon is gone; its database stays. -/
  | daemonExit
  | command (command : StoreCommand) (faults : List (Option String))

open Ownership in
/-- Recorders and passes of the daemon in any order. -/
def ownership (parse : String → Option Json) (paths : AppPaths) :
    System Ownership OwnershipStep where
  start s := (∀ row ∈ s.db.agentSessions.rows, row.id ∈ s.known) ∧
    s = { db := s.db, known := s.known }
  step s
    | .start id =>
        let directory := paths.sessionsDir ++ [.normal id]
        if id ∈ s.known then none
        else ((s.locks directory).tryLock (.recorder id)).map fun lock => { s with
          known := id :: s.known
          locks := update s.locks directory lock
          recorders := update s.recorders id (some { directory }) }
    | .register request now cwd faults answered =>
        match s.recorders request.id with
        | some ⟨directory, phase, false, ended⟩ =>
            if (phase = .locked ∨ phase = .exited ∧ answered = false) ∧
                components request.castPath = directory ++ [.normal "recording.cast"] ∧
                components request.htmlPath = directory ++ [.normal "replay.html"] then
              some (s.register paths ⟨directory, phase, false, ended⟩ request now cwd faults
                answered)
            else none
        | _ => none
    | .recorded id result =>
        match s.recorders id with
        | some ⟨directory, .recording, asked, ended⟩ =>
            some (s.turn id ⟨directory, .recording, asked, ended⟩
              (.finishing (recordedFinish result) false))
        | _ => none
    | .unavailable id =>
        match s.recorders id with
        | some ⟨directory, .finishing ending again, asked, ended⟩ =>
            if again then some (s.exit id ⟨directory, .finishing ending again, asked, ended⟩)
            else some (s.turn id ⟨directory, .finishing ending again, asked, ended⟩
              (.finishing ending true))
        | _ => none
    | .finish id now faults answered =>
        match s.recorders id with
        | some ⟨directory, .finishing ending again, asked, ended⟩ =>
            some (s.finish id ⟨directory, .finishing ending again, asked, ended⟩ ending now faults
              answered)
        | _ => none
    | .exit id => (s.recorders id).map (s.exit id)
    | .inherit directory =>
        some { s with locks := update s.locks directory (s.locks directory).inherit }
    | .execed directory =>
        some { s with locks := update s.locks directory (s.locks directory).execed }
    | .reconcile n faults =>
        match s.tasks n, (Store.run Database.activeAgentSessions faults s.db).1 with
        | none, .ok sessions =>
            some { s with tasks := update s.tasks n (some
              { sessions, started := sessions.map AgentSessionRow.id }) }
        | _, _ => none
    | .claim n =>
        match s.tasks n with
        | some ⟨session :: rest, attempts, false, started, skipped⟩ =>
            some (s.claim n ⟨session :: rest, attempts, false, started, skipped⟩ session)
        | _ => none
    | .fail n =>
        match s.tasks n with
        | some ⟨_, _, false, _, _⟩ => some { s with tasks := update s.tasks n none }
        | _ => none
    | .interrupt n now file faults =>
        match s.tasks n with
        | some ⟨session :: rest, attempts, true, started, skipped⟩ =>
            some (s.interrupt parse n ⟨session :: rest, attempts, true, started, skipped⟩ session
              now file faults)
        | _ => none
    | .daemonExit =>
        some { s with
          tasks := fun _ => none
          locks := fun directory => (s.locks directory).close fun party =>
            match party with
            | .task _ => true
            | .recorder _ => false }
    | .command command faults =>
        if s.Foreign command then
          some { s with
            db := (Store.run command.program faults s.db).2
            known := command.newSession ++ s.known
            deleted := command.goneSession ++ s.deleted }
        else none

/-! ## What becomes of the sessions -/

namespace Database

variable {db db' : Database} {id : SessionId}

/-- The session is as it was, or is gone, as one of those that were to be deleted, after it had
ended. -/
def Spared (gone : List SessionId) (id : SessionId) (db db' : Database) : Prop :=
  db'.agentSessions.find? id = db.agentSessions.find? id ∨
    id ∈ gone ∧ ¬ db.IsRecording id ∧ db'.agentSessions.find? id = none

theorem Spared.recording {gone : List SessionId} (spared : Spared gone id db db')
    (recording : db.IsRecording id) : db'.IsRecording id := by
  rcases spared with same | ⟨-, isOver, -⟩
  · obtain ⟨row, found, state⟩ := recording
    exact ⟨row, same.trans found, state⟩
  · exact absurd recording isOver

theorem find?_ended {now : Int} {other : SessionId} {finish : AgentSessionFinish}
    (different : id ≠ other) :
    (db.ended now other finish).agentSessions.find? id = db.agentSessions.find? id := by
  rw [ended, Table.find?_update]
  cases found : db.agentSessions.find? id with
  | none => rfl
  | some row =>
    have key := Table.find?_key found
    simp [key, different]

/-- No command creates a session but by its id, finishes one but by its id and while it is
recording, or deletes one that is recording. -/
theorem SessionMove.spared {command : StoreCommand} (move : SessionMove db command db')
    (new : ∀ now request cwd, command ≠ .createAgentSession now request cwd)
    (other : ∀ now finish, command = .finishAgentSession now id finish → ¬ db.IsRecording id) :
    Spared command.goneSession id db db' := by
  cases move with
  | aside aside => exact .inl (by rw [aside.1])
  | opened => exact absurd rfl (new _ _ _)
  | @ended _ _ _ recording _ =>
    exact .inl (find?_ended fun same => other _ _ (by rw [same]) (same ▸ recording))
  | @closed _ _ _ recording _ =>
    exact .inl (find?_ended fun same => other _ _ (by rw [same]) (same ▸ recording))
  | hooked _ hooked => exact .inl (by rw [hooked.sessions])
  | @removed gone _ isOver without =>
    have found : ∀ row, db'.agentSessions.find? id = some row ↔
        db.agentSessions.find? id = some row ∧ id ≠ gone := by
      intro row
      constructor
      · intro found
        have key := Table.find?_key found
        have member := Table.mem_of_find? found
        rw [without.sessions, List.mem_filter, Table.mem_rows_iff, key] at member
        exact ⟨member.1, by simpa [key] using member.2⟩
      · rintro ⟨found, different⟩
        have key := Table.find?_key found
        rw [← key] at found different ⊢
        rw [← Table.mem_rows_iff, without.sessions, List.mem_filter]
        exact ⟨Table.mem_rows_iff.mpr found, by simpa using different⟩
    by_cases same : id = gone
    · refine .inr ⟨List.mem_singleton.mpr same, same ▸ isOver,
        Option.eq_none_iff_forall_ne_some.mpr fun row there => ?_⟩
      exact ((found row).mp there).2 same
    · refine .inl (Option.ext fun row => ?_)
      rw [found row, and_iff_left same]

/-- What a request for a new session leaves: the row of the request, or nothing. -/
theorem createAgentSession_inserts (db : Database) (now : Int) (request : AgentSessionRequest)
    (cwd : Except Error String) :
    Sql.Post StorageFault (createAgentSession now request cwd) db fun r db' =>
      ((∃ e, r = .error e) ∧ db' = db) ∨
      ∃ row, row.state = .recording ∧ row.castPath = request.castPath ∧
        ∀ id, db'.agentSessions.find? id =
          if request.id = id then some row else db.agentSessions.find? id := by
  unfold createAgentSession
  cases request.validate with
  | error e => exact Sql.post_fail (.inl ⟨⟨e, rfl⟩, rfl⟩)
  | ok _ =>
    refine Sql.post_bind ?_
    unfold getWorkspace
    refine Sql.post_select (fun e _ => .inl ⟨⟨e, rfl⟩, rfl⟩) ?_
    split
    · cases cwd with
      | error e => exact Sql.post_fail (.inl ⟨⟨e, rfl⟩, rfl⟩)
      | ok cwd =>
        show Sql.Post _ (ite _ _ _) db _
        split
        · exact Sql.post_fail (.inl ⟨⟨_, rfl⟩, rfl⟩)
        · refine Sql.post_bind (Sql.post_statement (fun e _ => .inl ⟨⟨e, rfl⟩, rfl⟩) ?_)
          split
          · rename_i inserted
            split at inserted
            · cases inserted
            · split at inserted <;> cases inserted
              rename_i agentSessions joined
              have there := Table.find?_insert joined
              exact Sql.post_select (fun _ _ => .inr ⟨_, rfl, rfl, there⟩)
                (.inr ⟨_, rfl, rfl, there⟩)
          · exact .inl ⟨⟨_, rfl⟩, rfl⟩
    · exact .inl ⟨⟨_, rfl⟩, rfl⟩

/-- Another session is finished, or this one: the path of its recording stays, and so does all of
it when it was over. -/
theorem finishAgentSession_leaves (db : Database) (now : Int) (id : SessionId)
    (finish : AgentSessionFinish) :
    Sql.Post StorageFault (finishAgentSession now id finish) db fun _ db' =>
      (∀ other, other ≠ id → db'.agentSessions.find? other = db.agentSessions.find? other) ∧
      (∀ row', db'.agentSessions.find? id = some row' →
        ∃ row, db.agentSessions.find? id = some row ∧ row'.castPath = row.castPath) ∧
      (¬ db.IsRecording id → db' = db) := by
  have kept : ∀ db' : Database, db'.agentSessions.find? id =
        (db.agentSessions.find? id).map
          (fun row => if row.id = id then row.ended now finish else row) →
      ∀ row', db'.agentSessions.find? id = some row' →
        ∃ row, db.agentSessions.find? id = some row ∧ row'.castPath = row.castPath := by
    intro db' same row' found
    rw [same, Option.map_eq_some_iff] at found
    obtain ⟨row, there, rfl⟩ := found
    refine ⟨row, there, ?_⟩
    split <;> rfl
  have closed : ∀ other, other ≠ id → (db.closed now id finish).agentSessions.find? other =
      db.agentSessions.find? other := fun _ different => find?_ended different
  have atClosed := kept (db.closed now id finish) (closed_find? db now id id finish)
  refine (finishAgentSession_spec db now id finish).mono fun r db' done => ?_
  cases r with
  | ok row =>
    obtain ⟨rfl | ⟨recording, -, rfl⟩, -⟩ := done
    · exact ⟨fun _ _ => rfl, fun row' found => ⟨row', found, rfl⟩, fun _ => rfl⟩
    · exact ⟨closed, atClosed, fun isOver => absurd recording isOver⟩
  | error e =>
    -- the statement that ends the turns does not change the sessions
    obtain rfl | ⟨-, recording, -, rfl | rfl⟩ := done
    · exact ⟨fun _ _ => rfl, fun row' found => ⟨row', found, rfl⟩, fun _ => rfl⟩
    · exact ⟨closed, atClosed, fun isOver => absurd recording isOver⟩
    · exact ⟨closed, atClosed, fun isOver => absurd recording isOver⟩

/-- Every session after is one before, and none goes on that was over. -/
def Continues (id : SessionId) (db db' : Database) : Prop :=
  ∀ row', db'.agentSessions.find? id = some row' →
    ∃ row, db.agentSessions.find? id = some row ∧ row'.castPath = row.castPath ∧
      (row'.state = .recording → row.state = .recording)

theorem Continues.of_eq (same : db'.agentSessions.find? id = db.agentSessions.find? id) :
    Continues id db db' :=
  fun row' found => ⟨row', same ▸ found, rfl, fun recording => recording⟩

theorem Continues.recording (continues : Continues id db db') (recording : db'.IsRecording id) :
    db.IsRecording id := by
  obtain ⟨row', found, state⟩ := recording
  obtain ⟨row, there, -, before⟩ := continues row' found
  exact ⟨row, there, before state⟩

theorem continues_ended {now : Int} {other : SessionId} {finish : AgentSessionFinish}
    (valid : finish.Valid) : Continues id db (db.ended now other finish) := by
  intro row' found
  have found : (db.closed now other finish).agentSessions.find? id = some row' := found
  rw [closed_find?, Option.map_eq_some_iff] at found
  obtain ⟨row, there, rfl⟩ := found
  refine ⟨row, there, ?_, ?_⟩
  · split <;> rfl
  · split
    · exact fun recording => absurd recording valid.1
    · exact fun recording => recording

theorem continues_closed {now : Int} {other : SessionId} {finish : AgentSessionFinish}
    (valid : finish.Valid) : Continues id db (db.closed now other finish) :=
  fun row' found => continues_ended valid row' found

/-- What a command leaves of the sessions. -/
structure Commanded (command : StoreCommand) (db db' : Database) : Prop where
  spared : ∀ id ∉ command.newSession,
    (∀ now finish, command = .finishAgentSession now id finish → ¬ db.IsRecording id) →
      Spared command.goneSession id db db'
  continues : ∀ id ∉ command.newSession, Continues id db db'

theorem SessionMove.commanded {command : StoreCommand} (move : SessionMove db command db')
    (new : ∀ now request cwd, command ≠ .createAgentSession now request cwd) :
    Commanded command db db' where
  spared := fun _ _ other => move.spared new other
  continues := by
    intro id _
    cases move with
    | aside aside => exact .of_eq (by rw [aside.1])
    | opened => exact absurd rfl (new _ _ _)
    | ended _ valid => exact continues_ended valid
    | closed _ valid => exact continues_closed valid
    | hooked _ hooked => exact .of_eq (by rw [hooked.sessions])
    | @removed gone _ isOver without =>
      intro row' found
      have member := Table.mem_of_find? found
      rw [without.sessions, List.mem_filter, Table.mem_rows_iff, Table.find?_key found] at member
      exact ⟨row', member.1, rfl, fun recording => recording⟩

theorem command_commanded (db : Database) (command : StoreCommand) :
    Sql.Post StorageFault command.program db fun _ db' => Commanded command db db' := by
  by_cases new : ∃ now request cwd, command = .createAgentSession now request cwd
  · obtain ⟨now, request, cwd, rfl⟩ := new
    refine Sql.post_bind ((createAgentSession_inserts db now request cwd).mono
      fun r db' done => ?_)
    have left : Commanded (.createAgentSession now request cwd) db db' := by
      have same : ∀ id ∉ (StoreCommand.createAgentSession now request cwd).newSession,
          db'.agentSessions.find? id = db.agentSessions.find? id := by
        intro id other
        rcases done with ⟨-, rfl⟩ | ⟨row, -, -, rows⟩
        · rfl
        · rw [rows, if_neg fun same => other (List.mem_singleton.mpr same.symm)]
      exact ⟨fun id other _ => .inl (same id other), fun id other => .of_eq (same id other)⟩
    cases r with
    | ok _ => exact Sql.post_pure left
    | error _ => exact left
  · refine (command_moves db command).mono fun _ db' move => move.commanded ?_
    exact fun now request cwd same => new ⟨now, request, cwd, same⟩

/-- A session that is finished, or is not, does not go on that was over. -/
theorem finishAgentSession_continues (db : Database) (now : Int) (other : SessionId)
    (finish : AgentSessionFinish) :
    Sql.Post StorageFault (finishAgentSession now other finish) db fun r db' =>
      (∀ id, Continues id db db') ∧ ((∃ row, r = .ok row) → ¬ db'.IsRecording other) := by
  refine (finishAgentSession_spec db now other finish).mono fun r db' done => ?_
  cases r with
  | ok row =>
    obtain ⟨left, found, terminal⟩ := done
    refine ⟨fun id => ?_, ?_⟩
    · rcases left with rfl | ⟨-, valid, rfl⟩
      · exact .of_eq rfl
      · exact continues_closed valid
    · rintro - ⟨row', there, recording⟩
      rw [found, Option.some.injEq] at there
      rw [there, recording] at terminal
      exact absurd terminal Bool.noConfusion
  | error e =>
    refine ⟨fun id => ?_, ?_⟩
    · rcases done with rfl | ⟨-, -, valid, rfl | rfl⟩
      · exact .of_eq rfl
      · exact continues_ended valid
      · exact continues_closed valid
    · rintro ⟨row, failed⟩
      cases failed

theorem activeAgentSessions_ok {db : Database} {faults : List (Option String)}
    {sessions : List AgentSessionRow}
    (listed : (Store.run activeAgentSessions faults db).1 = .ok sessions) :
    ∀ row, row ∈ sessions ↔ row ∈ db.agentSessions.rows ∧ row.state = .recording := by
  have reads : Sql.Post StorageFault activeAgentSessions db fun r _ =>
      ∀ sessions, r = .ok sessions → ∀ row, row ∈ sessions ↔ row ∈ db.agentSessions.rows ∧ row.state = .recording := by
    refine Sql.post_select (fun e _ sessions failed => by cases failed) ?_
    rintro sessions ⟨⟩ row
    rw [List.mem_mergeSort, List.mem_filter, decide_eq_true_eq]
  exact run_of_post reads faults sessions listed

end Database

end Loomterm
