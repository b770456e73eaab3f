import Loomterm.Session.Ownership
import Loomterm.Store.Operations

/-!
# Recorders keep their sessions

What is kept of recorders, of the locks of their directories and of the passes of the daemon, from
any start and whatever the order of their steps: a recorder that is there owns its lock, and so no
pass finishes its session.
-/

namespace Loomterm

open Function (update)

/-- A path below the directory that is named by one more component. -/
theorem parent_concat {ν : Type*} (directory : List (Component ν)) (name : ν) :
    Component.parent (directory ++ [.normal name]) = some directory := by
  unfold Component.parent
  rw [List.getLast?_concat, List.dropLast_concat]

/-! ## What is kept -/

/-- The row is that of the recorder's session. -/
def SessionRecorder.Stores (recorder : SessionRecorder) (row : AgentSessionRow) : Prop :=
  Component.parent (components row.castPath) = some recorder.directory

namespace Ownership

/-- What a recorder finished its session with is stored, unless the session was deleted. -/
def Ended (s : Ownership) (id : SessionId)
    (ended : Option (AgentSessionFinish × AgentSessionRow)) : Prop :=
  ∀ ending row, ended = some (ending, row) → (row.state = ending.state ∧
    row.outcome = some ending.outcome ∧ row.state.isTerminal = true) ∧
    (s.db.agentSessions.find? id = some row ∨
      id ∈ s.deleted ∧ s.db.agentSessions.find? id = none)

/-- The id of the session is known, and its recorder, if it has one, has asked for it. -/
abbrev Knows (s : Ownership) (row : AgentSessionRow) : Prop :=
  row.id ∈ s.known ∧ ∀ recorder, s.recorders row.id = some recorder →
    recorder.asked = true ∧ recorder.Stores row

/-- What is kept of recorders, locks and passes. -/
structure Kept (s : Ownership) : Prop where
  rows : ∀ id row, s.db.agentSessions.find? id = some row → id ∈ s.known
  listed : ∀ n task, s.tasks n = some task → ∀ row ∈ task.sessions, row.id ∈ s.known
  recorders : ∀ id recorder, s.recorders id = some recorder → id ∈ s.known
  holds : ∀ id recorder, s.recorders id = some recorder → recorder.phase ≠ .exited →
    (s.locks recorder.directory).OwnedBy (.recorder id)
  claims : ∀ n task, s.tasks n = some task → task.claimed = true →
    ∃ row rest directory, task.sessions = row :: rest ∧
      Component.parent (components row.castPath) = some directory ∧
      (s.locks directory).OwnedBy (.task n)
  stored : ∀ id recorder row, s.recorders id = some recorder →
    s.db.agentSessions.find? id = some row → recorder.asked = true ∧ recorder.Stores row
  passed : ∀ n task, s.tasks n = some task → ∀ row ∈ task.sessions, ∀ recorder,
    s.recorders row.id = some recorder → recorder.asked = true ∧ recorder.Stores row
  open_ : ∀ id recorder, s.recorders id = some recorder → recorder.phase.isOpen = true →
    s.db.IsRecording id
  locked : ∀ id recorder, s.recorders id = some recorder → recorder.phase = .locked →
    recorder.asked = false
  fresh : ∀ id recorder, s.recorders id = some recorder → recorder.asked = false →
    recorder.ended = none
  finished : ∀ id recorder, s.recorders id = some recorder → recorder.phase = .finished →
    recorder.ended ≠ none
  ended : ∀ id recorder, s.recorders id = some recorder → s.Ended id recorder.ended

variable {s s' : Ownership} {id : SessionId} {recorder : SessionRecorder} {n : Nat}
  {task : Reconciliation} {parse : String → Option Json} {paths : AppPaths}

/-- What is known of the sessions of a pass. -/
theorem Kept.knows (kept : s.Kept) (there : s.tasks n = some task) {row : AgentSessionRow}
    (member : row ∈ task.sessions) : s.Knows row :=
  ⟨kept.listed n task there row member, kept.passed n task there row member⟩

theorem ended_none (s : Ownership) (id : SessionId) : s.Ended id none := fun _ _ nothing =>
  absurd nothing (by simp)

/-- A session that its recorder has finished is not recording. -/
theorem Ended.isOver {ended : Option (AgentSessionFinish × AgentSessionRow)}
    (stays : s.Ended id ended) (some : ended ≠ none) : ¬ s.db.IsRecording id := by
  obtain ⟨⟨ending, row⟩, rfl⟩ := Option.ne_none_iff_exists'.mp some
  obtain ⟨⟨-, -, terminal⟩, there⟩ := stays ending row rfl
  rintro ⟨row', found, recording⟩
  rcases there with stored | ⟨-, gone⟩
  · rw [stored, Option.some.injEq] at found
    rw [found, recording] at terminal
    exact absurd terminal Bool.noConfusion
  · rw [gone] at found
    cases found

/-- The database changes, and what it has of the sessions that recorders hold, or have finished,
does not. -/
theorem Kept.database (kept : s.Kept) {db : Database} {deleted : List SessionId}
    (more : ∀ id ∈ s.deleted, id ∈ deleted)
    (rows : ∀ id row, db.agentSessions.find? id = some row → id ∈ s.known ∧
      ∀ recorder, s.recorders id = some recorder → recorder.asked = true ∧ recorder.Stores row)
    (spared : ∀ id recorder, s.recorders id = some recorder →
      recorder.phase ≠ .exited ∨ recorder.ended ≠ none → Database.Spared deleted id s.db db) :
    ({ s with db, deleted } : Ownership).Kept where
  rows := fun id row found => (rows id row found).1
  listed := kept.listed
  recorders := kept.recorders
  holds := kept.holds
  claims := kept.claims
  stored := fun id recorder row there found => (rows id row found).2 recorder there
  passed := kept.passed
  open_ := by
    intro id recorder there opened
    refine (spared id recorder there (.inl ?_)).recording (kept.open_ id recorder there opened)
    intro ended
    rw [ended] at opened
    cases opened
  locked := kept.locked
  fresh := kept.fresh
  finished := kept.finished
  ended := by
    intro id recorder there ending row given
    obtain ⟨ends, stays⟩ := kept.ended id recorder there ending row given
    refine ⟨ends, ?_⟩
    rcases spared id recorder there (.inr (by simp [given])) with same | ⟨asked, -, gone⟩
    · rcases stays with stored | ⟨asked, gone⟩
      · exact .inl (same.trans stored)
      · exact .inr ⟨more id asked, same.trans gone⟩
    · exact .inr ⟨asked, gone⟩

/-- A recorder goes on; the locks of the others are as they were. -/
theorem Kept.turned (kept : s.Kept) (there : s.recorders id = some recorder)
    {next : SessionRecorder} (locks : List (Component String) → Flock LockParty)
    (directory : next.directory = recorder.directory)
    (asked : recorder.asked = true → next.asked = true) (unlocked : next.phase ≠ .locked)
    (owned : next.phase ≠ .exited → (locks next.directory).OwnedBy (.recorder id))
    (others : ∀ directory party, party ≠ .recorder id →
      (s.locks directory).OwnedBy party → (locks directory).OwnedBy party)
    (opened : next.phase.isOpen = true → s.db.IsRecording id)
    (finished : next.phase = .finished → next.ended ≠ none)
    (fresh : next.asked = false → next.ended = none) (ended : s.Ended id next.ended) :
    ({ s with recorders := update s.recorders id (some next), locks } : Ownership).Kept := by
  have stores : ∀ row, recorder.Stores row → next.Stores row := fun row stored => by
    rw [SessionRecorder.Stores, directory]
    exact stored
  have cases : ∀ {other : SessionId} {found : SessionRecorder},
      update s.recorders id (some next) other = some found →
      (other = id ∧ found = next) ∨ (other ≠ id ∧ s.recorders other = some found) := by
    intro other found at_
    by_cases same : other = id
    · subst same
      rw [Function.update_self, Option.some.injEq] at at_
      exact .inl ⟨rfl, at_.symm⟩
    · rw [Function.update_of_ne same] at at_
      exact .inr ⟨same, at_⟩
  refine ⟨kept.rows, kept.listed, ?_, ?_, ?_, ?_, ?_, ?_, ?_, ?_, ?_, ?_⟩
  · intro other found at_
    rcases cases at_ with ⟨rfl, -⟩ | ⟨-, at_⟩
    · exact kept.recorders _ _ there
    · exact kept.recorders _ _ at_
  · intro other found at_ alive
    rcases cases at_ with ⟨rfl, rfl⟩ | ⟨different, at_⟩
    · exact owned alive
    · exact others _ _ (by simpa using different) (kept.holds _ _ at_ alive)
  · intro m pass at_ claimed
    obtain ⟨row, rest, directory, list, parent, held⟩ := kept.claims m pass at_ claimed
    exact ⟨row, rest, directory, list, parent, others _ _ (by simp) held⟩
  · intro other found row at_ present
    rcases cases at_ with ⟨rfl, rfl⟩ | ⟨-, at_⟩
    · obtain ⟨taken, stored⟩ := kept.stored _ _ row there present
      exact ⟨asked taken, stores row stored⟩
    · exact kept.stored _ _ row at_ present
  · intro m pass at_ row member found there'
    rcases cases there' with ⟨same, rfl⟩ | ⟨-, there'⟩
    · obtain ⟨taken, stored⟩ := kept.passed m pass at_ row member recorder (same ▸ there)
      exact ⟨asked taken, stores row stored⟩
    · exact kept.passed m pass at_ row member found there'
  · intro other found at_ isOpen
    rcases cases at_ with ⟨rfl, rfl⟩ | ⟨-, at_⟩
    · exact opened isOpen
    · exact kept.open_ _ _ at_ isOpen
  · intro other found at_ phase
    rcases cases at_ with ⟨rfl, rfl⟩ | ⟨-, at_⟩
    · exact absurd phase unlocked
    · exact kept.locked _ _ at_ phase
  · intro other found at_ new
    rcases cases at_ with ⟨rfl, rfl⟩ | ⟨-, at_⟩
    · exact fresh new
    · exact kept.fresh _ _ at_ new
  · intro other found at_ phase
    rcases cases at_ with ⟨rfl, rfl⟩ | ⟨-, at_⟩
    · exact finished phase
    · exact kept.finished _ _ at_ phase
  · intro other found at_
    rcases cases at_ with ⟨rfl, rfl⟩ | ⟨-, at_⟩
    · exact ended
    · exact kept.ended _ _ at_

/-- A pass goes on, or is given up; the locks of the others are as they were. -/
theorem Kept.paced (kept : s.Kept) (next : Option Reconciliation)
    (locks : List (Component String) → Flock LockParty)
    (others : ∀ directory party, party ≠ .task n →
      (s.locks directory).OwnedBy party → (locks directory).OwnedBy party)
    (sessions : ∀ task, next = some task → ∀ row ∈ task.sessions, s.Knows row)
    (claims : ∀ task, next = some task → task.claimed = true →
      ∃ row rest directory, task.sessions = row :: rest ∧
        Component.parent (components row.castPath) = some directory ∧
        (locks directory).OwnedBy (.task n)) :
    ({ s with tasks := update s.tasks n next, locks } : Ownership).Kept := by
  have cases : ∀ {m : Nat} {found : Reconciliation}, update s.tasks n next m = some found →
      (m = n ∧ next = some found) ∨ (m ≠ n ∧ s.tasks m = some found) := by
    intro m found at_
    by_cases same : m = n
    · subst same
      rw [Function.update_self] at at_
      exact .inl ⟨rfl, at_⟩
    · rw [Function.update_of_ne same] at at_
      exact .inr ⟨same, at_⟩
  refine ⟨kept.rows, ?_, kept.recorders, ?_, ?_, kept.stored, ?_, kept.open_, kept.locked,
    kept.fresh, kept.finished, kept.ended⟩
  · intro m pass at_ row member
    rcases cases at_ with ⟨-, at_⟩ | ⟨-, at_⟩
    · exact (sessions pass at_ row member).1
    · exact kept.listed m pass at_ row member
  · intro other found at_ alive
    exact others _ _ (by simp) (kept.holds _ _ at_ alive)
  · intro m pass at_ claimed
    rcases cases at_ with ⟨rfl, new⟩ | ⟨different, at_⟩
    · exact claims pass new claimed
    · obtain ⟨row, rest, directory, list, parent, held⟩ := kept.claims m pass at_ claimed
      exact ⟨row, rest, directory, list, parent, others _ _ (by simpa using different) held⟩
  · intro m pass at_ row member
    rcases cases at_ with ⟨-, at_⟩ | ⟨-, at_⟩
    · exact (sessions pass at_ row member).2
    · exact kept.passed m pass at_ row member

theorem ownedBy_update_close {p : LockParty → Bool} {directory other : List (Component String)}
    {party : LockParty} (spared : p party = false)
    (owned : (s.locks other).OwnedBy party) :
    (update s.locks directory ((s.locks directory).close p) other).OwnedBy party := by
  by_cases same : other = directory
  · subst same
    rw [Function.update_self, Flock.ownedBy_close]
    exact ⟨owned, spared⟩
  · rwa [Function.update_of_ne same]

theorem Kept.exit (kept : s.Kept) (there : s.recorders id = some recorder) :
    (s.exit id recorder).Kept := by
  refine kept.turned there _ rfl (fun asked => asked) RecorderPhase.noConfusion
    (fun alive => absurd rfl alive) ?_ (fun opened => Bool.noConfusion opened)
    (fun phase => RecorderPhase.noConfusion phase) (kept.fresh id recorder there)
    (kept.ended id recorder there)
  intro directory party different owned
  exact ownedBy_update_close (decide_eq_false different) owned

/-- A recorder that is not locked any more turns to a phase that it keeps the lock in. -/
theorem Kept.turn (kept : s.Kept) (there : s.recorders id = some recorder)
    (alive : recorder.phase ≠ .exited) {phase : RecorderPhase} (unlocked : phase ≠ .locked)
    (opened : phase.isOpen = true → s.db.IsRecording id)
    (finished : phase = .finished → recorder.ended ≠ none) :
    (s.turn id recorder phase).Kept := by
  refine kept.turned there _ rfl (fun asked => asked) unlocked (fun _ => ?_)
    (fun _ _ _ owned => owned) opened finished (kept.fresh id recorder there)
    (kept.ended id recorder there)
  exact kept.holds id recorder there alive

theorem Kept.learns (kept : s.Kept) {known : List SessionId} (more : ∀ id ∈ s.known, id ∈ known) :
    ({ s with known } : Ownership).Kept where
  rows := fun id row found => more _ (kept.rows id row found)
  listed := fun n task there row member => more _ (kept.listed n task there row member)
  recorders := fun id recorder there => more _ (kept.recorders id recorder there)
  holds := kept.holds
  claims := kept.claims
  stored := kept.stored
  passed := kept.passed
  open_ := kept.open_
  locked := kept.locked
  fresh := kept.fresh
  finished := kept.finished
  ended := kept.ended

/-- The session of a recorder that has not finished it changes as it may; the recorder is over. -/
theorem Kept.rewritten (kept : s.Kept) (there : s.recorders id = some recorder)
    (fresh : recorder.ended = none) {db : Database}
    (stores : ∀ row, db.agentSessions.find? id = some row → recorder.Stores row)
    (others : ∀ other, other ≠ id →
      db.agentSessions.find? other = s.db.agentSessions.find? other) :
    (({ s with db } : Ownership).turn id { recorder with asked := true } .exited).Kept := by
  have ended : (s.turn id { recorder with asked := true } .exited).Kept :=
    kept.turned there s.locks rfl (fun _ => rfl) RecorderPhase.noConfusion
      (fun alive => absurd rfl alive) (fun _ _ _ owned => owned)
      (fun opened => Bool.noConfusion opened) (fun phase => RecorderPhase.noConfusion phase)
      (fun new => Bool.noConfusion new) (kept.ended id recorder there)
  refine ended.database (fun id (asked : id ∈ s.deleted) => asked) ?_ ?_
  · intro other row found
    by_cases same : other = id
    · subst same
      refine ⟨kept.recorders _ _ there, fun found' at_ => ?_⟩
      rw [show found' = { recorder with phase := .exited, asked := true } from
        Option.some.inj (at_.symm.trans (Function.update_self ..))]
      exact ⟨rfl, stores row found⟩
    · rw [others other same] at found
      exact ⟨kept.rows other row found, fun found' at_ => ended.stored other found' row at_ found⟩
  · intro other found at_ concerned
    by_cases same : other = id
    · subst same
      rw [show found = { recorder with phase := .exited, asked := true } from
        Option.some.inj (at_.symm.trans (Function.update_self ..))] at concerned
      rcases concerned with alive | finished
      · exact absurd rfl alive
      · exact absurd fresh finished
    · exact .inl (others other same)

theorem exit_turn (s : Ownership) (id : SessionId) (recorder next : SessionRecorder)
    (phase : RecorderPhase) : (s.turn id recorder phase).exit id next = s.exit id next := by
  unfold exit turn
  simp only [Function.update_idem]

theorem turn_turn (s : Ownership) (id : SessionId) (recorder next : SessionRecorder)
    (phase phase' : RecorderPhase) :
    (s.turn id recorder phase).turn id next phase' = s.turn id next phase' := by
  unfold turn
  simp only [Function.update_idem]

/-- The recorder goes on with its session as it was changed, or is gone. -/
theorem Kept.advanced (kept : s.Kept) (there : s.recorders id = some recorder)
    (fresh : recorder.ended = none) (db : Database)
    (stores : ∀ row, db.agentSessions.find? id = some row → recorder.Stores row)
    (others : ∀ other, other ≠ id →
      db.agentSessions.find? other = s.db.agentSessions.find? other)
    {ended : Option (AgentSessionFinish × AgentSessionRow)}
    (stays : ({ s with db } : Ownership).Ended id ended) :
    (({ s with db } : Ownership).exit id { recorder with asked := true, ended }).Kept ∧
    ∀ phase : RecorderPhase, recorder.phase ≠ .exited → phase ≠ .locked →
      (phase.isOpen = true → db.IsRecording id) → (phase = .finished → ended ≠ none) →
      (({ s with db } : Ownership).turn id { recorder with asked := true, ended } phase).Kept := by
  have left : (({ s with db } : Ownership).turn id
      { recorder with asked := true, ended } .exited).Kept := by
    rw [← turn_turn _ id { recorder with asked := true } _ .exited]
    exact (kept.rewritten there fresh stores others).turned (Function.update_self ..) s.locks rfl
      (fun _ => rfl) RecorderPhase.noConfusion (fun alive => absurd rfl alive)
      (fun _ _ _ owned => owned) (fun opened => Bool.noConfusion opened)
      (fun phase => RecorderPhase.noConfusion phase) (fun new => Bool.noConfusion new) stays
  constructor
  · rw [← exit_turn _ id { recorder with asked := true, ended } _ .exited]
    have closed := left.exit (Function.update_self ..)
    exact closed
  · intro phase alive unlocked opened finished
    rw [← turn_turn _ id { recorder with asked := true, ended } _ .exited]
    refine left.turned (Function.update_self ..) s.locks rfl (fun _ => rfl) unlocked (fun _ => ?_)
      (fun _ _ _ owned => owned) opened finished (fun new => Bool.noConfusion new) stays
    exact kept.holds id recorder there alive

theorem Kept.started (kept : s.Kept) {directory : List (Component String)}
    {lock : Flock LockParty} (new : id ∉ s.known)
    (taken : (s.locks directory).tryLock (.recorder id) = some lock) :
    ({ s with
        known := id :: s.known
        locks := update s.locks directory lock
        recorders := update s.recorders id (some { directory }) } : Ownership).Kept := by
  have owned : ∀ {other : List (Component String)} {party : LockParty},
      (s.locks other).OwnedBy party → (update s.locks directory lock other).OwnedBy party := by
    intro other party held
    by_cases same : other = directory
    · subst same
      exact absurd held (Flock.not_ownedBy_of_tryLock taken party)
    · rwa [Function.update_of_ne same]
  -- what is known of another session is not of this one
  have cases : ∀ {other : SessionId} {found : SessionRecorder},
      update s.recorders id (some { directory }) other = some found →
      (other = id ∧ found = { directory }) ∨ s.recorders other = some found := by
    intro other found at_
    by_cases same : other = id
    · subst same
      rw [Function.update_self, Option.some.injEq] at at_
      exact .inl ⟨rfl, at_.symm⟩
    · rw [Function.update_of_ne same] at at_
      exact .inr at_
  refine ⟨?_, ?_, ?_, ?_, ?_, ?_, ?_, ?_, ?_, ?_, ?_, ?_⟩
  · exact fun other row found => List.mem_cons_of_mem _ (kept.rows other row found)
  · exact fun m pass at_ row member => List.mem_cons_of_mem _ (kept.listed m pass at_ row member)
  · intro other found at_
    rcases cases at_ with ⟨rfl, -⟩ | at_
    · exact List.mem_cons_self
    · exact List.mem_cons_of_mem _ (kept.recorders other found at_)
  · intro other found at_ alive
    rcases cases at_ with ⟨rfl, rfl⟩ | at_
    · show (update s.locks directory lock directory).OwnedBy _
      rw [Function.update_self]
      exact (Flock.tryLock_eq_some taken).2
    · exact owned (kept.holds other found at_ alive)
  · intro m pass at_ claimed
    obtain ⟨row, rest, directory, list, parent, held⟩ := kept.claims m pass at_ claimed
    exact ⟨row, rest, directory, list, parent, owned held⟩
  · intro other found row at_ present
    rcases cases at_ with ⟨rfl, -⟩ | at_
    · exact absurd (kept.rows _ row present) new
    · exact kept.stored other found row at_ present
  · intro m pass at_ row member found at_'
    rcases cases at_' with ⟨rfl, -⟩ | at_'
    · exact absurd (kept.listed m pass at_ row member) new
    · exact kept.passed m pass at_ row member found at_'
  · intro other found at_ opened
    rcases cases at_ with ⟨-, rfl⟩ | at_
    · exact Bool.noConfusion opened
    · exact kept.open_ other found at_ opened
  · intro other found at_ phase
    rcases cases at_ with ⟨-, rfl⟩ | at_
    · rfl
    · exact kept.locked other found at_ phase
  · intro other found at_ new
    rcases cases at_ with ⟨-, rfl⟩ | at_
    · rfl
    · exact kept.fresh other found at_ new
  · intro other found at_ phase
    rcases cases at_ with ⟨-, rfl⟩ | at_
    · exact RecorderPhase.noConfusion phase
    · exact kept.finished other found at_ phase
  · intro other found at_
    rcases cases at_ with ⟨-, rfl⟩ | at_
    · exact ended_none _ _
    · exact kept.ended other found at_

theorem Kept.registered (kept : s.Kept) {request : AgentSessionRequest}
    (there : s.recorders request.id = some recorder) (new : recorder.asked = false)
    (path : Component.parent (components request.castPath) = some recorder.directory) (now : Int)
    (cwd : Except Error String) (faults : List (Option String)) {answered : Bool}
    (answers : answered = true → recorder.phase ≠ .exited) :
    (s.register paths recorder request now cwd faults answered).Kept := by
  have absent : s.db.agentSessions.find? request.id = none := by
    refine Option.eq_none_iff_forall_ne_some.mpr fun row found => ?_
    rw [(kept.stored _ _ row there found).1] at new
    cases new
  have fresh := kept.fresh _ recorder there new
  have refused : (s.exit request.id { recorder with asked := true }).Kept := by
    have stores : ∀ row, s.db.agentSessions.find? request.id = some row →
        recorder.Stores row := fun row found => by rw [absent] at found; cases found
    have left := (kept.advanced there fresh s.db stores (fun _ _ => rfl) (ended_none _ _)).1
    rwa [← fresh] at left
  have creates : Sql.Post Database.StorageFault (sessionCreate paths now request cwd) s.db
      fun r db' => (({ s with db := db' } : Ownership).exit request.id { recorder with asked := true }).Kept ∧
      ((∃ row, r = .ok row) → recorder.phase ≠ .exited →
        (({ s with db := db' } : Ownership).turn request.id { recorder with asked := true }
          .recording).Kept) := by
    unfold sessionCreate
    cases validateSessionPaths paths request.id request.castPath request.htmlPath with
    | error e =>
      refine Sql.post_fail ⟨refused, ?_⟩
      rintro ⟨row, created⟩
      cases created
    | ok _ =>
      refine (Database.createAgentSession_inserts s.db now request cwd).mono fun r db' done => ?_
      rcases done with ⟨⟨e, rfl⟩, rfl⟩ | ⟨row, recording, castPath, rows⟩
      · refine ⟨refused, ?_⟩
        rintro ⟨row, created⟩
        cases created
      · have found : db'.agentSessions.find? request.id = some row := by rw [rows, if_pos rfl]
        have stores : ∀ row', db'.agentSessions.find? request.id = some row' →
            recorder.Stores row' := by
          intro row' found'
          rw [found, Option.some.injEq] at found'
          rw [SessionRecorder.Stores, ← found', castPath, path]
        obtain ⟨ended, goes⟩ := kept.advanced there fresh db' stores (fun other different => by
          rw [rows, if_neg (Ne.symm different)]) (ended_none _ _)
        rw [← fresh] at ended goes
        exact ⟨ended, fun _ alive => goes .recording alive RecorderPhase.noConfusion
          (fun _ => ⟨row, found, recording⟩) (fun phase => RecorderPhase.noConfusion phase)⟩
  have ran := Database.run_of_post creates faults
  unfold register
  revert ran
  generalize Store.run (sessionCreate paths now request cwd) faults s.db = outcome
  obtain ⟨r, db'⟩ := outcome
  rintro ⟨ended, goes⟩
  cases r with
  | error e => exact ended
  | ok row =>
    cases answered with
    | true => exact goes ⟨row, rfl⟩ (answers rfl)
    | false => exact ended

theorem Kept.finish (kept : s.Kept) {ending : AgentSessionFinish} {again : Bool}
    (there : s.recorders id = some recorder) (phase : recorder.phase = .finishing ending again)
    (now : Int) (faults : List (Option String)) (answered : Bool) :
    (s.finish id recorder ending now faults answered).Kept := by
  have recording : s.db.IsRecording id := kept.open_ id recorder there (by rw [phase]; rfl)
  have alive : recorder.phase ≠ .exited := by
    rw [phase]
    exact RecorderPhase.noConfusion
  have fresh : recorder.ended = none := by
    by_contra some
    exact (kept.ended id recorder there).isOver some recording
  have asked : recorder.asked = true := by
    obtain ⟨row, found, -⟩ := recording
    exact (kept.stored id recorder row there found).1
  have finishes : Sql.Post Database.StorageFault (Database.finishAgentSession now id ending) s.db
      fun r db' => (({ s with db := db' } : Ownership).exit id recorder).Kept ∧
        ∀ row, r = .ok row →
          (({ s with db := db' } : Ownership).exit id
            { recorder with ended := some (ending, row) }).Kept ∧
          (({ s with db := db' } : Ownership).turn id
            { recorder with ended := some (ending, row) } .finished).Kept := by
    refine ((Database.finishAgentSession_leaves s.db now id ending).and
      (Database.finishAgentSession_spec s.db now id ending)).mono fun r db' done => ?_
    obtain ⟨⟨others, paths, -⟩, done⟩ := done
    have stores : ∀ row', db'.agentSessions.find? id = some row' → recorder.Stores row' := by
      intro row' found
      obtain ⟨old, there', castPath⟩ := paths row' found
      rw [SessionRecorder.Stores, castPath]
      exact (kept.stored id recorder old there there').2
    constructor
    · have ended := (kept.advanced there fresh db' stores others (ended_none _ _)).1
      rwa [← asked, ← fresh] at ended
    · rintro row rfl
      obtain ⟨old, found', state⟩ := recording
      obtain ⟨same | ⟨-, -, same⟩, found, terminal⟩ := done
      · rw [same, found', Option.some.injEq] at found
        rw [← found, state] at terminal
        exact absurd terminal Bool.noConfusion
      · have stays : ({ s with db := db' } : Ownership).Ended id (some (ending, row)) := by
          rintro ending row ⟨⟩
          have row_eq := found
          rw [same, Database.closed_find?, found', Option.map_some, Option.some.injEq,
            if_pos (Table.find?_key found')] at row_eq
          exact ⟨⟨row_eq ▸ rfl, row_eq ▸ rfl, terminal⟩, .inl found⟩
        obtain ⟨ended, goes⟩ := kept.advanced there fresh db' stores others stays
        have goes := goes .finished alive RecorderPhase.noConfusion
          (fun opened => Bool.noConfusion opened) fun _ => Option.some_ne_none _
        rw [← asked] at ended goes
        exact ⟨ended, goes⟩
  have ran := Database.run_of_post finishes faults
  unfold Ownership.finish
  revert ran
  generalize Store.run (Database.finishAgentSession now id ending) faults s.db = outcome
  obtain ⟨r, db'⟩ := outcome
  rintro ⟨ended, goes⟩
  cases r with
  | error e => exact ended
  | ok row =>
    cases answered with
    | true => exact (goes row rfl).2
    | false => exact (goes row rfl).1

theorem Kept.listing (kept : s.Kept) (n : Nat) {sessions : List AgentSessionRow}
    (listed : ∀ row ∈ sessions, s.db.agentSessions.find? row.id = some row) :
    ({ s with tasks := update s.tasks n (some
        { sessions, started := sessions.map AgentSessionRow.id }) } : Ownership).Kept := by
  refine kept.paced _ s.locks (fun _ _ _ owned => owned) ?_ ?_
  · rintro pass ⟨⟩ row member
    have found := listed row member
    exact ⟨kept.rows _ row found, fun recorder there => kept.stored _ recorder row there found⟩
  · rintro pass ⟨⟩ claimed
    exact Bool.noConfusion claimed

/-- The locks that a pass gives up, or takes, are not those of another. -/
theorem Kept.claim (kept : s.Kept) (there : s.tasks n = some task) {session : AgentSessionRow}
    {rest : List AgentSessionRow} (first : task.sessions = session :: rest)
    (free : task.claimed = false) : (s.claim n task session).Kept := by
  have behind : ∀ row ∈ task.sessions, s.Knows row := fun _ member => kept.knows there member
  have later : ∀ row ∈ task.sessions.tail, s.Knows row :=
    fun row member => behind row (List.mem_of_mem_tail member)
  unfold Ownership.claim
  cases parent : Component.parent (components session.castPath) with
  | none =>
    refine kept.paced _ s.locks (fun _ _ _ owned => owned) ?_ ?_
    · rintro pass ⟨⟩
      exact later
    · rintro pass ⟨⟩ claimed
      exact Bool.noConfusion claimed
  | some directory =>
    dsimp only
    cases taken : (s.locks directory).tryLock (.task n) with
    | some lock =>
      refine kept.paced _ _ ?_ ?_ ?_
      · intro other party _ owned
        by_cases same : other = directory
        · subst same
          exact absurd owned (Flock.not_ownedBy_of_tryLock taken party)
        · rwa [Function.update_of_ne same]
      · rintro pass ⟨⟩
        exact behind
      · rintro pass ⟨⟩ -
        refine ⟨session, rest, directory, first, parent, ?_⟩
        rw [Function.update_self]
        exact (Flock.tryLock_eq_some taken).2
    | none =>
      refine kept.paced _ s.locks (fun _ _ _ owned => owned) ?_ ?_
      · rintro pass ⟨⟩
        split
        · exact later
        · exact behind
      · rintro pass ⟨⟩ claimed
        split at claimed
        · exact Bool.noConfusion claimed
        · exact absurd claimed (by simp [free])

/-- The session that a pass has the lock of has no recorder any more. -/
theorem Kept.not_alive (kept : s.Kept) (there : s.tasks n = some task)
    {session : AgentSessionRow} {rest : List AgentSessionRow}
    (first : task.sessions = session :: rest) (claimed : task.claimed = true)
    (present : s.recorders session.id = some recorder) : recorder.phase = .exited := by
  by_contra alive
  obtain ⟨row, rest', directory, list, parent, held⟩ := kept.claims n task there claimed
  obtain ⟨rfl, -⟩ := List.cons.inj (first.symm.trans list)
  have stored := (kept.passed n task there session (by simp [first]) recorder present).2
  rw [SessionRecorder.Stores, parent, Option.some.injEq] at stored
  have owned := kept.holds _ recorder present alive
  rw [← stored] at owned
  cases owned.unique held

theorem Kept.interrupt (kept : s.Kept) (there : s.tasks n = some task)
    {session : AgentSessionRow} {rest : List AgentSessionRow}
    (first : task.sessions = session :: rest) (claimed : task.claimed = true) (now : Int)
    (file : Option (List UInt8)) (faults : List (Option String)) :
    (s.interrupt parse n task session now file faults).Kept := by
  have later : ∀ row ∈ task.next.sessions, s.Knows row := by
    intro row member
    exact kept.knows there (List.mem_of_mem_tail member)
  have finishes : Sql.Post Database.StorageFault (Database.finishAgentSession now session.id
      (interruption parse (fun _ => file) session)) s.db fun _ db' =>
        ({ s with db := db' } : Ownership).Kept := by
    refine (Database.finishAgentSession_leaves s.db now session.id _).mono fun _ db' left => ?_
    obtain ⟨others, own, isOver⟩ := left
    refine kept.database (fun id (asked : id ∈ s.deleted) => asked)
      (fun other row found => ?_) fun other found at_ concerned => ?_
    · by_cases same : other = session.id
      · subst same
        obtain ⟨old, found', castPath⟩ := own row found
        refine ⟨kept.rows _ old found', fun recorder at_ => ?_⟩
        obtain ⟨unlocked, stores⟩ := kept.stored _ recorder old at_ found'
        refine ⟨unlocked, ?_⟩
        rw [SessionRecorder.Stores, castPath]
        exact stores
      · rw [others other same] at found
        exact ⟨kept.rows other row found,
          fun recorder at_ => kept.stored other recorder row at_ found⟩
    · by_cases same : other = session.id
      · subst same
        rcases concerned with alive | finished
        · exact absurd (kept.not_alive there first claimed at_) alive
        · exact .inl (by rw [isOver ((kept.ended _ found at_).isOver finished)])
      · exact .inl (others other same)
  have released : ∀ (db : Database) (next : Option Reconciliation),
      ({ s with db } : Ownership).Kept → (∀ pass, next = some pass → pass = task.next) →
      (({ s with db, tasks := update s.tasks n next } : Ownership).release n session).Kept := by
    intro db next left new
    have paced := left.paced (n := n) next
    unfold release
    have sessions : ∀ pass, next = some pass → ∀ row ∈ pass.sessions, s.Knows row :=
      fun pass at_ => new pass at_ ▸ later
    have unclaimed : ∀ pass, next = some pass → ¬ pass.claimed = true := by
      intro pass at_ claimed
      rw [new pass at_] at claimed
      exact Bool.noConfusion claimed
    cases parent : Component.parent (components session.castPath) with
    | none =>
      exact paced s.locks (fun _ _ _ owned => owned) sessions fun pass at_ claimed =>
        absurd claimed (unclaimed pass at_)
    | some directory =>
      refine paced _ (fun other party different owned => ?_) sessions fun pass at_ claimed =>
        absurd claimed (unclaimed pass at_)
      exact ownedBy_update_close (s := s) (decide_eq_false different) owned
  have ran := Database.run_of_post finishes faults
  unfold Ownership.interrupt
  revert ran
  generalize Store.run (Database.finishAgentSession now session.id
    (interruption parse (fun _ => file) session)) faults s.db = outcome
  obtain ⟨r, db'⟩ := outcome
  intro left
  cases r with
  | error e => exact released db' none left fun _ none => (by cases none)
  | ok row => exact released db' (some task.next) left fun _ same => (Option.some.inj same).symm

theorem Kept.relocked (kept : s.Kept) (locks : List (Component String) → Flock LockParty)
    (owned : ∀ directory party, (s.locks directory).OwnedBy party →
      (locks directory).OwnedBy party) : ({ s with locks } : Ownership).Kept where
  rows := kept.rows
  listed := kept.listed
  recorders := kept.recorders
  holds := fun id recorder there alive => owned _ _ (kept.holds id recorder there alive)
  claims := by
    intro n task there claimed
    obtain ⟨row, rest, directory, list, parent, held⟩ := kept.claims n task there claimed
    exact ⟨row, rest, directory, list, parent, owned _ _ held⟩
  stored := kept.stored
  passed := kept.passed
  open_ := kept.open_
  locked := kept.locked
  fresh := kept.fresh
  finished := kept.finished
  ended := kept.ended

theorem Kept.daemonGone (kept : s.Kept) {locks : List (Component String) → Flock LockParty}
    (owned : ∀ directory id, (s.locks directory).OwnedBy (.recorder id) →
      (locks directory).OwnedBy (.recorder id)) :
    ({ s with tasks := fun _ => none, locks } : Ownership).Kept where
  rows := kept.rows
  listed := fun _ _ none => (by cases none)
  recorders := kept.recorders
  holds := fun id recorder there alive => owned _ _ (kept.holds id recorder there alive)
  claims := fun _ _ none => (by cases none)
  stored := kept.stored
  passed := fun _ _ none => (by cases none)
  open_ := kept.open_
  locked := kept.locked
  fresh := kept.fresh
  finished := kept.finished
  ended := kept.ended

/-- A command does not touch the sessions that recorders have. -/
theorem Kept.commanded (kept : s.Kept) {command : StoreCommand} (foreign : s.Foreign command)
    (faults : List (Option String)) :
    ({ s with
        db := (Store.run command.program faults s.db).2
        known := command.newSession ++ s.known
        deleted := command.goneSession ++ s.deleted } : Ownership).Kept := by
  have left := Database.run_of_post (Database.command_commanded s.db command) faults
  generalize (Store.run command.program faults s.db).2 = db at left
  have others : ∀ id recorder, s.recorders id = some recorder → id ∉ command.newSession := by
    intro id recorder there new
    cases command with
    | createAgentSession now request cwd =>
      rw [List.mem_singleton.mp new] at there
      exact foreign (kept.recorders _ recorder there)
    | _ => cases new
  have more : ∀ id ∈ s.known, id ∈ command.newSession ++ s.known :=
    fun _ member => List.mem_append_right _ member
  refine (kept.learns more).database (fun _ asked => List.mem_append_right _ asked) ?_ ?_
  · intro id row found
    by_cases new : id ∈ command.newSession
    · refine ⟨List.mem_append_left _ new, fun recorder there => ?_⟩
      exact absurd new (others id recorder there)
    · obtain ⟨old, there, castPath, -⟩ := left.continues id new row found
      refine ⟨more id (kept.rows id old there), fun recorder at_ => ?_⟩
      obtain ⟨unlocked, stores⟩ := kept.stored id recorder old at_ there
      rw [SessionRecorder.Stores, castPath]
      exact ⟨unlocked, stores⟩
  · intro id recorder there concerned
    refine (left.spared id (others id recorder there) ?_).imp_right fun gone => ?_
    · -- the recorder of a session that is finished is gone, and had finished it before
      rintro now finish rfl
      have gone : recorder.phase = .exited := foreign recorder there
      rcases concerned with alive | some
      · exact absurd gone alive
      · exact (kept.ended id recorder there).isOver some
    · exact ⟨List.mem_append_left _ gone.1, gone.2⟩

/-- Each step keeps what recorders and passes rest on. -/
theorem Kept.step (kept : s.Kept) {a : OwnershipStep}
    (next : (ownership parse paths).step s a = some s') : s'.Kept := by
  cases a with
  | start id =>
    simp only [ownership] at next
    by_cases known : id ∈ s.known
    · rw [if_pos known] at next
      cases next
    · rw [if_neg known] at next
      obtain ⟨lock, taken, rfl⟩ := Option.map_eq_some_iff.mp next
      exact kept.started known taken
  | register request now cwd faults answered =>
    simp only [ownership] at next
    split at next
    · rename_i directory phase ended there
      split at next
      · rename_i guard
        obtain ⟨under, castPath, -⟩ := guard
        cases next
        refine kept.registered there rfl (castPath ▸ parent_concat directory _) now cwd faults ?_
        rintro rfl
        rcases under with rfl | ⟨-, unanswered⟩
        · exact RecorderPhase.noConfusion
        · cases unanswered
      · cases next
    · cases next
  | recorded id result =>
    simp only [ownership] at next
    split at next
    · rename_i directory asked ended there
      cases next
      exact kept.turn there RecorderPhase.noConfusion RecorderPhase.noConfusion
        (fun _ => kept.open_ id _ there rfl) fun phase => RecorderPhase.noConfusion phase
    · cases next
  | unavailable id =>
    simp only [ownership] at next
    split at next
    · rename_i directory ending again asked ended there
      split at next
      · cases next
        exact kept.exit there
      · cases next
        exact kept.turn there RecorderPhase.noConfusion RecorderPhase.noConfusion
          (fun _ => kept.open_ id _ there rfl) fun phase => RecorderPhase.noConfusion phase
    · cases next
  | finish id now faults answered =>
    simp only [ownership] at next
    split at next
    · rename_i directory ending again asked ended there
      cases next
      exact kept.finish there rfl now faults answered
    · cases next
  | exit id =>
    obtain ⟨recorder, there, rfl⟩ := Option.map_eq_some_iff.mp next
    exact kept.exit there
  | inherit directory =>
    cases next
    refine kept.relocked _ fun other party owned => ?_
    by_cases same : other = directory
    · subst same
      rw [Function.update_self, Flock.ownedBy_inherit]
      exact owned
    · rwa [Function.update_of_ne same]
  | execed directory =>
    cases next
    refine kept.relocked _ fun other party owned => ?_
    by_cases same : other = directory
    · subst same
      rw [Function.update_self, Flock.ownedBy_execed]
      exact owned
    · rwa [Function.update_of_ne same]
  | reconcile n faults =>
    simp only [ownership] at next
    split at next
    · rename_i sessions free listed
      cases next
      refine kept.listing n fun row member => ?_
      exact Table.mem_rows_iff.mp ((Database.activeAgentSessions_ok listed row).mp member).1
    · cases next
  | claim n =>
    simp only [ownership] at next
    split at next
    · rename_i there
      cases next
      exact kept.claim there rfl rfl
    · cases next
  | fail n =>
    simp only [ownership] at next
    split at next
    · cases next
      exact kept.paced none s.locks (fun _ _ _ owned => owned) (fun _ none => (by cases none))
        fun _ none => (by cases none)
    · cases next
  | interrupt n now file faults =>
    simp only [ownership] at next
    split at next
    · rename_i there
      cases next
      exact kept.interrupt there rfl rfl now file faults
    · cases next
  | daemonExit =>
    cases next
    exact kept.daemonGone fun directory id owned => Flock.ownedBy_close.mpr ⟨owned, rfl⟩
  | command command faults =>
    simp only [ownership] at next
    split at next
    · rename_i foreign
      cases next
      exact kept.commanded foreign faults
    · cases next

theorem reachable_kept (reached : (ownership parse paths).Reachable s) : s.Kept := by
  refine reached.invariant Kept (fun s first => ?_) fun s a s' _ kept _ next => kept.step next
  obtain ⟨known, start⟩ := first
  rw [start]
  exact {
    rows := fun id row found => Table.find?_key found ▸ known row (Table.mem_of_find? found)
    listed := fun _ _ none => (by cases none)
    recorders := fun _ _ none => (by cases none)
    holds := fun _ _ none => (by cases none)
    claims := fun _ _ none => (by cases none)
    stored := fun _ _ _ none => (by cases none)
    passed := fun _ _ none => (by cases none)
    open_ := fun _ _ none => (by cases none)
    locked := fun _ _ none => (by cases none)
    fresh := fun _ _ none => (by cases none)
    finished := fun _ _ none => (by cases none)
    ended := fun _ _ none => (by cases none) }

end Ownership

/-- While a recorder is there no pass of the daemon has the lock of its session. A session whose
recorder asks for it to be created is not stored; as long as it goes on, it is stored as
recording; and once the recorder has finished it, whether or not the recorder is still there, it
stays stored as the recorder finished it, unless a client has deleted it. -/
theorem recorder_owns_session {parse : String → Option Json} {paths : AppPaths} {s : Ownership}
    (reached : (ownership parse paths).Reachable s) {id : SessionId} {recorder : SessionRecorder}
    (there : s.recorders id = some recorder) :
    (recorder.phase ≠ .exited → ∀ n task session rest, s.tasks n = some task →
      task.sessions = session :: rest → task.claimed = true → session.id ≠ id) ∧
    (recorder.phase = .locked → s.db.agentSessions.find? id = none) ∧
    (recorder.phase.isOpen = true → s.db.IsRecording id) ∧
    (recorder.phase = .finished → recorder.ended ≠ none) ∧
    ∀ ending row, recorder.ended = some (ending, row) →
      (row.state = ending.state ∧ row.outcome = some ending.outcome ∧
        row.state.isTerminal = true) ∧
      (s.db.agentSessions.find? id = some row ∨
        id ∈ s.deleted ∧ s.db.agentSessions.find? id = none) := by
  have kept := Ownership.reachable_kept reached
  refine ⟨?_, ?_, kept.open_ id recorder there, kept.finished id recorder there,
    kept.ended id recorder there⟩
  · rintro alive n task session rest at_ first claimed rfl
    exact alive (kept.not_alive at_ first claimed there)
  · intro locked
    refine Option.eq_none_iff_forall_ne_some.mpr fun row found => ?_
    have asked := (kept.stored id recorder row there found).1
    rw [kept.locked id recorder there locked] at asked
    cases asked

/-- A shutdown that is not forced, and is not refused, finds no recorder that records. -/
theorem shutdown_spares_recorders {parse : String → Option Json} {paths : AppPaths}
    {s : Ownership} (reached : (ownership parse paths).Reachable s)
    {faults : List (Option String)} (stops : (Store.run (shutdown false) faults s.db).1 = .ok ())
    {id : SessionId} {recorder : SessionRecorder} (there : s.recorders id = some recorder) :
    recorder.phase.isOpen = false := by
  have refuses : Sql.Post Database.StorageFault (shutdown false) s.db fun r _ =>
      r = .ok () → ¬ s.db.IsRecording id := by
    refine Sql.post_bind (Sql.post_select (fun _ _ failed => by cases failed) ?_)
    show Sql.Post _ (ite _ _ _) s.db _
    split
    · exact Sql.post_fail fun failed => by cases failed
    · rename_i idle
      refine Sql.post_pure fun _ ⟨row, found, recording⟩ => idle ?_
      have listed : row ∈ (s.db.agentSessions.rows.filter
          fun row => row.state = .recording).mergeSort
          fun left right => left.createdAtMs ≤ right.createdAtMs := by
        rw [List.mem_mergeSort, List.mem_filter, decide_eq_true_eq]
        exact ⟨Table.mem_of_find? found, recording⟩
      simpa using List.length_pos_of_mem listed
  by_contra isOpen
  exact Database.run_of_post refuses faults stops
    ((Ownership.reachable_kept reached).open_ id recorder there (by simpa using isOpen))

/-! ## A recorder that is gone, and one that is not -/

def handoverRequest (id : SessionId) : AgentSessionRequest where
  id := id
  workspaceId := "w"
  agentKind := "claude"
  name := none
  command := .argv "claude" []
  cwd := "/demo"
  recorderPid := 7
  initialCols := 80
  initialRows := 24
  castPath := "/state/sessions/" ++ id ++ "/recording.cast"
  htmlPath := "/state/sessions/" ++ id ++ "/replay.html"

def handoverPaths : AppPaths := ⟨"/state"⟩

def handoverSystem : System Ownership OwnershipStep := ownership (fun _ => none) handoverPaths

def handoverStart : Ownership := { db := sampleDatabase, known := [] }

/-- The first pass has its list. -/
def handoverListed (s : Ownership) : Ownership :=
  let sessions := s.db.agentSessions.rows.filter fun row => row.state = .recording
  { s with tasks := update s.tasks 0 (some
      { sessions, started := sessions.map AgentSessionRow.id }) }

theorem handoverListed_reachable {s : Ownership} (reached : handoverSystem.Reachable s)
    (one : (s.db.agentSessions.rows.filter fun row => row.state = .recording).length = 1)
    (free : s.tasks 0 = none) : handoverSystem.Reachable (handoverListed s) := by
  obtain ⟨row, only⟩ := List.length_eq_one_iff.mp one
  have listed : (Store.run Database.activeAgentSessions [] s.db).1 = .ok [row] := by
    unfold Database.activeAgentSessions
    simp only [Store.run, Sql.select, Sql.statement, List.map_nil, only, List.mergeSort_singleton]
    rfl
  refine .step reached trivial (a := .reconcile 0 []) ?_
  simp only [handoverSystem, ownership, free, listed]
  unfold handoverListed
  rw [only]

/-- A recorder has its session. -/
def lateBefore : List OwnershipStep :=
  [.start "t", .register (handoverRequest "t") 2 (.ok "/demo") [] true]

/-- The answer to its finish is lost, and a pass that has the session in its list gets the lock. -/
def lateRest : List OwnershipStep :=
  [.recorded "t" (.ok ⟨.exited 0, 12, false⟩), .finish "t" 5 [] false, .claim 0,
    .interrupt 0 9 none []]

/-- The pass ends, and the session is as the recorder, that is gone, has finished it. -/
theorem recorder_owns_session_handover : ∃ s task recorder ending row,
    handoverSystem.Reachable s ∧ s.tasks 0 = some task ∧ task.started = ["t"] ∧
    task.sessions = [] ∧ task.skipped = [] ∧ s.recorders "t" = some recorder ∧
    recorder.phase = .exited ∧ recorder.ended = some (ending, row) ∧
    ending.outcome = .exited 0 ∧ s.db.agentSessions.find? "t" = some row ∧
    row.outcome = some (.exited 0) := by
  have before : (handoverSystem.run handoverStart lateBefore).any (fun s =>
      (s.tasks 0).isNone && decide ((s.db.agentSessions.rows.filter fun row =>
        row.state = .recording).length = 1) &&
      (handoverSystem.run (handoverListed s) lateRest).any fun s =>
        s.deleted.isEmpty && (s.tasks 0).any (fun task => task.started == ["t"] &&
          task.sessions.isEmpty && task.skipped.isEmpty) &&
        (s.recorders "t").any fun recorder => decide (recorder.phase = .exited) &&
          recorder.ended.any fun ended => decide (ended.1.outcome = .exited 0)) = true := by
    decide +kernel
  obtain ⟨first, began, checked⟩ := (Option.any_eq_true _ _).mp before
  obtain ⟨checked, after⟩ := Bool.and_eq_true_iff.mp checked
  obtain ⟨free, one⟩ := Bool.and_eq_true_iff.mp checked
  obtain ⟨s, ran, checked⟩ := (Option.any_eq_true _ _).mp after
  obtain ⟨checked, ended⟩ := Bool.and_eq_true_iff.mp checked
  obtain ⟨undeleted, passed⟩ := Bool.and_eq_true_iff.mp checked
  obtain ⟨task, there, passed⟩ := (Option.any_eq_true _ _).mp passed
  obtain ⟨recorder, present, ended⟩ := (Option.any_eq_true _ _).mp ended
  obtain ⟨gone, kept⟩ := Bool.and_eq_true_iff.mp ended
  obtain ⟨⟨ending, row⟩, ended, exited⟩ := (Option.any_eq_true _ _).mp kept
  simp only [Bool.and_eq_true, List.isEmpty_iff, beq_iff_eq] at passed
  obtain ⟨⟨started, through⟩, skipped⟩ := passed
  have reached : handoverSystem.Reachable first :=
    System.run_reachable ⟨fun row member => (by cases member), rfl⟩ began
  have reached := (handoverListed_reachable reached (of_decide_eq_true one)
    (Option.isNone_iff_eq_none.mp free)).run (System.run_runVia ran)
  have exited : ending.outcome = .exited 0 := of_decide_eq_true exited
  obtain ⟨⟨-, outcome, -⟩, stored | ⟨asked, -⟩⟩ :=
    (recorder_owns_session reached present).2.2.2.2 ending row ended
  · exact ⟨s, task, recorder, ending, row, reached, there, started, through, skipped, present,
      of_decide_eq_true gone, ended, exited, stored, outcome.trans (congrArg some exited)⟩
  · rw [List.isEmpty_iff.mp undeleted] at asked
    cases asked

/-- A recorder that only has its lock does not keep the daemon from stopping. -/
theorem shutdown_spares_recorders_locked : ∃ s recorder, handoverSystem.Reachable s ∧
    s.recorders "s" = some recorder ∧ recorder.phase.isOpen = false := by
  have started : (handoverSystem.run handoverStart [.start "s"]).any (fun s =>
      s.db.agentSessions.rows.isEmpty && (s.recorders "s").isSome) = true := by decide +kernel
  obtain ⟨s, ran, checked⟩ := (Option.any_eq_true _ _).mp started
  obtain ⟨empty, present⟩ := Bool.and_eq_true_iff.mp checked
  obtain ⟨recorder, there⟩ := Option.isSome_iff_exists.mp present
  have reached : handoverSystem.Reachable s :=
    System.run_reachable ⟨fun row member => (by cases member), rfl⟩ ran
  have stops : (Store.run (shutdown false) [] s.db).1 = .ok () := by
    have none : s.db.agentSessions.rows = [] := List.isEmpty_iff.mp empty
    unfold shutdown Database.activeAgentSessions
    simp only [Store.run, bind, Sql.andThen, Sql.select, Sql.statement, List.map_nil, none,
      List.filter_nil, List.mergeSort_nil]
    rfl
  exact ⟨s, recorder, reached, there, shutdown_spares_recorders reached stops there⟩

end Loomterm
