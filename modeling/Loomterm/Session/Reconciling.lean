import Loomterm.Session.LockSafety

/-!
# What a pass of the daemon leaves

The daemon lists the sessions that are recording once, and goes through the list while sessions are
created, finished and deleted. A session that it came to is over, or was left because its lock was
held.
-/

namespace Loomterm

open Function (update)

namespace Ownership

variable {s s' : Ownership} {parse : String → Option Json} {paths : AppPaths} {id : SessionId}

/-- The session is not one that is still to be created. -/
def Settled (id : SessionId) (s : Ownership) : Prop :=
  id ∈ s.known ∧ ∀ recorder, s.recorders id = some recorder → recorder.asked = true

theorem Settled.turn (settled : s.Settled id) {other : SessionId} {recorder : SessionRecorder}
    (asked : id = other → recorder.asked = true) (phase : RecorderPhase) :
    (s.turn other recorder phase).Settled id := by
  refine ⟨settled.1, fun found there => ?_⟩
  by_cases same : id = other
  · subst same
    rw [show found = { recorder with phase } from
      Option.some.inj (there.symm.trans (Function.update_self ..))]
    exact asked rfl
  · exact settled.2 found ((Function.update_of_ne same ..).symm.trans there)

theorem Settled.exit (settled : s.Settled id) {other : SessionId} {recorder : SessionRecorder}
    (asked : id = other → recorder.asked = true) : (s.exit other recorder).Settled id :=
  settled.turn asked .exited

/-- The recorder of a session that is settled has asked for it. -/
theorem Settled.asked (settled : s.Settled id) {other : SessionId} {recorder : SessionRecorder}
    (there : s.recorders other = some recorder) (same : id = other) : recorder.asked = true :=
  settled.2 recorder (same ▸ there)

theorem settled_release {n : Nat} {session : AgentSessionRow} :
    (s.release n session).Settled id ↔ s.Settled id := by
  unfold release
  split <;> rfl

theorem release_db {n : Nat} {session : AgentSessionRow} : (s.release n session).db = s.db := by
  unfold release
  split <;> rfl

theorem release_tasks {n : Nat} {session : AgentSessionRow} :
    (s.release n session).tasks = s.tasks := by
  unfold release
  split <;> rfl

theorem register_settled {recorder : SessionRecorder} {request : AgentSessionRequest}
    (settled : s.Settled id) (there : s.recorders request.id = some recorder)
    (new : recorder.asked = false) (now : Int)
    (cwd : Except Error String) (faults : List (Option String)) (answered : Bool) :
    (s.register paths recorder request now cwd faults answered).Settled id ∧
      Database.Continues id s.db
        (s.register paths recorder request now cwd faults answered).db := by
  have different : request.id ≠ id := by
    rintro rfl
    rw [settled.asked there rfl] at new
    cases new
  have creates : Sql.Post Database.StorageFault (sessionCreate paths now request cwd) s.db
      fun _ db' => Database.Continues id s.db db' := by
    unfold sessionCreate
    cases validateSessionPaths paths request.id request.castPath request.htmlPath with
    | error e => exact Sql.post_fail (.of_eq rfl)
    | ok _ =>
      refine (Database.createAgentSession_inserts s.db now request cwd).mono fun r db' done => ?_
      rcases done with ⟨-, rfl⟩ | ⟨row, -, -, rows⟩
      · exact .of_eq rfl
      · exact .of_eq (by rw [rows, if_neg different])
  have ran := Database.run_of_post creates faults
  unfold register
  revert ran
  generalize Store.run (sessionCreate paths now request cwd) faults s.db = outcome
  obtain ⟨r, db'⟩ := outcome
  intro continues
  have settled : ({ s with db := db' } : Ownership).Settled id := settled
  cases r with
  | error e => exact ⟨settled.exit fun _ => rfl, continues⟩
  | ok row =>
    cases answered with
    | true => exact ⟨settled.turn (fun _ => rfl) .recording, continues⟩
    | false => exact ⟨settled.exit fun _ => rfl, continues⟩

theorem finish_settled {recorder : SessionRecorder} {other : SessionId}
    {ending : AgentSessionFinish} (settled : s.Settled id)
    (there : s.recorders other = some recorder) (now : Int) (faults : List (Option String))
    (answered : Bool) :
    (s.finish other recorder ending now faults answered).Settled id ∧
      Database.Continues id s.db (s.finish other recorder ending now faults answered).db := by
  have ran := Database.run_of_post
    (Database.finishAgentSession_continues s.db now other ending) faults
  unfold Ownership.finish
  revert ran
  generalize Store.run (Database.finishAgentSession now other ending) faults s.db = outcome
  obtain ⟨r, db'⟩ := outcome
  rintro ⟨continues, -⟩
  have asked := settled.asked there
  have settled : ({ s with db := db' } : Ownership).Settled id := settled
  cases r with
  | error e => exact ⟨settled.exit asked, continues id⟩
  | ok row =>
    cases answered with
    | true => exact ⟨settled.turn (by exact asked) .finished, continues id⟩
    | false => exact ⟨settled.exit (by exact asked), continues id⟩

end Ownership

/-- The pass has the session before it, has left it, or it does not go on. -/
def Reconciliation.Accounts (task : Reconciliation) (db : Database) (id : SessionId) : Prop :=
  (∃ row ∈ task.sessions, row.id = id) ∨ (∃ held, (id, held) ∈ task.skipped) ∨
    ¬ db.IsRecording id

namespace Reconciliation

variable {task : Reconciliation} {db : Database} {session : AgentSessionRow}
  {rest : List AgentSessionRow} {id : SessionId}

theorem accounts_skip (first : task.sessions = session :: rest) {held : Option LockParty}
    (accounts : task.Accounts db id) : (task.skip session.id held).Accounts db id := by
  rcases accounts with ⟨row, member, rfl⟩ | ⟨held', left⟩ | isOver
  · rw [first] at member
    rcases List.mem_cons.mp member with rfl | member
    · exact .inr (.inl ⟨held, List.mem_cons_self⟩)
    · refine .inl ⟨row, ?_, rfl⟩
      show row ∈ task.sessions.tail
      rwa [first]
  · exact .inr (.inl ⟨held', List.mem_cons_of_mem _ left⟩)
  · exact .inr (.inr isOver)

theorem accounts_next (first : task.sessions = session :: rest)
    (isOver : ¬ db.IsRecording session.id) (accounts : task.Accounts db id) :
    task.next.Accounts db id := by
  rcases accounts with ⟨row, member, rfl⟩ | left | isOver'
  · rw [first] at member
    rcases List.mem_cons.mp member with rfl | member
    · exact .inr (.inr isOver)
    · refine .inl ⟨row, ?_, rfl⟩
      show row ∈ task.sessions.tail
      rwa [first]
  · exact .inr (.inl left)
  · exact .inr (.inr isOver')

theorem Accounts.continues {db' : Database} (accounts : task.Accounts db id)
    (continues : Database.Continues id db db') : task.Accounts db' id := by
  rcases accounts with before | left | isOver
  · exact .inl before
  · exact .inr (.inl left)
  · exact .inr (.inr fun recording => isOver (continues.recording recording))

end Reconciliation

namespace Ownership

variable {s s' : Ownership} {parse : String → Option Json} {paths : AppPaths} {n : Nat}
  {task : Reconciliation}

/-- Every session of a pass is accounted for. -/
def Passing (s : Ownership) : Prop :=
  ∀ n task, s.tasks n = some task → ∀ id ∈ task.started, s.Settled id ∧ task.Accounts s.db id

theorem Passing.carried (passing : s.Passing) (tasks : s'.tasks = s.tasks)
    (settles : ∀ id, s.Settled id → s'.Settled id ∧ Database.Continues id s.db s'.db) :
    s'.Passing := by
  intro n task there id started
  obtain ⟨settled, accounts⟩ := passing n task (tasks ▸ there) id started
  obtain ⟨settled', continues⟩ := settles id settled
  exact ⟨settled', accounts.continues continues⟩

theorem Passing.paced (passing : s.Passing) (next : Option Reconciliation)
    (accounted : ∀ task, next = some task → ∀ id ∈ task.started,
      s.Settled id ∧ task.Accounts s.db id) :
    ({ s with tasks := update s.tasks n next } : Ownership).Passing := by
  intro m task there id started
  have there : update s.tasks n next m = some task := there
  by_cases same : m = n
  · subst same
    rw [Function.update_self] at there
    exact accounted task there id started
  · rw [Function.update_of_ne same] at there
    exact passing m task there id started

theorem Passing.claim (passing : s.Passing) (there : s.tasks n = some task)
    {session : AgentSessionRow} {rest : List AgentSessionRow}
    (first : task.sessions = session :: rest) : (s.claim n task session).Passing := by
  have skips : ∀ held id, id ∈ task.started →
      s.Settled id ∧ (task.skip session.id held).Accounts s.db id := by
    intro held id started
    obtain ⟨settled, accounts⟩ := passing n task there id started
    exact ⟨settled, Reconciliation.accounts_skip first accounts⟩
  unfold Ownership.claim
  cases parent : Component.parent (components session.castPath) with
  | none =>
    refine passing.paced _ ?_
    rintro pass ⟨⟩
    exact skips none
  | some directory =>
    dsimp only
    cases taken : (s.locks directory).tryLock (.task n) with
    | some lock =>
      refine passing.paced (some _) ?_
      rintro pass ⟨⟩
      exact passing n task there
    | none =>
      refine passing.paced _ ?_
      rintro pass ⟨⟩ id started
      split
      · rename_i last
        rw [if_pos last] at started
        exact skips _ id started
      · rename_i more
        rw [if_neg more] at started
        exact passing n task there id started

theorem Passing.interrupt (passing : s.Passing) (there : s.tasks n = some task)
    {session : AgentSessionRow} {rest : List AgentSessionRow}
    (first : task.sessions = session :: rest) (now : Int) (file : Option (List UInt8))
    (faults : List (Option String)) :
    (s.interrupt parse n task session now file faults).Passing := by
  have ran := Database.run_of_post (Database.finishAgentSession_continues s.db now session.id
    (interruption parse (fun _ => file) session)) faults
  unfold Ownership.interrupt
  revert ran
  generalize Store.run (Database.finishAgentSession now session.id
    (interruption parse (fun _ => file) session)) faults s.db = outcome
  obtain ⟨r, db'⟩ := outcome
  rintro ⟨continues, finished⟩
  have left : ({ s with db := db' } : Ownership).Passing :=
    passing.carried rfl fun id settled => ⟨settled, continues id⟩
  have released : ∀ state : Ownership, state.Passing → (state.release n session).Passing := by
    intro state passing
    refine passing.carried release_tasks fun id settled => ⟨settled_release.mpr settled, ?_⟩
    exact .of_eq (by rw [release_db])
  cases r with
  | error e => exact released _ (left.paced none fun _ none => (by cases none))
  | ok row =>
    refine released _ (left.paced _ ?_)
    rintro pass ⟨⟩ id started
    obtain ⟨settled, accounts⟩ := left n task there id started
    exact ⟨settled, Reconciliation.accounts_next first (finished ⟨row, rfl⟩) accounts⟩

theorem Passing.step (passing : s.Passing) (kept : s.Kept) {a : OwnershipStep}
    (next : (ownership parse paths).step s a = some s') : s'.Passing := by
  have aside : ∀ {id : SessionId}, Database.Continues id s.db s.db := .of_eq rfl
  cases a with
  | start other =>
    simp only [ownership] at next
    by_cases known : other ∈ s.known
    · rw [if_pos known] at next
      cases next
    · rw [if_neg known] at next
      obtain ⟨lock, -, rfl⟩ := Option.map_eq_some_iff.mp next
      refine passing.carried rfl fun id settled => ⟨⟨List.mem_cons_of_mem _ settled.1, ?_⟩, aside⟩
      intro recorder there
      have different : id ≠ other := fun same => known (same ▸ settled.1)
      exact settled.2 recorder ((Function.update_of_ne different ..).symm.trans there)
  | register request now cwd faults answered =>
    simp only [ownership] at next
    split at next
    · rename_i directory phase ended there
      split at next
      · cases next
        refine passing.carried ?_ fun id settled =>
          register_settled settled there rfl now cwd faults answered
        unfold register
        split
        · split <;> rfl
        · rfl
      · cases next
    · cases next
  | recorded id result =>
    simp only [ownership] at next
    split at next
    · rename_i there
      cases next
      exact passing.carried rfl fun id settled =>
        ⟨settled.turn (settled.asked there) (.finishing _ false), aside⟩
    · cases next
  | unavailable id =>
    simp only [ownership] at next
    split at next
    · rename_i there
      split at next
      · cases next
        exact passing.carried rfl fun id settled => ⟨settled.exit (settled.asked there), aside⟩
      · cases next
        exact passing.carried rfl fun id settled =>
          ⟨settled.turn (settled.asked there) (.finishing _ true), aside⟩
    · cases next
  | finish id now faults answered =>
    simp only [ownership] at next
    split at next
    · rename_i there
      cases next
      refine passing.carried ?_ fun id settled => finish_settled settled there now faults answered
      unfold Ownership.finish
      split
      · split <;> rfl
      · rfl
    · cases next
  | exit id =>
    obtain ⟨recorder, there, rfl⟩ := Option.map_eq_some_iff.mp next
    exact passing.carried rfl fun id settled => ⟨settled.exit (settled.asked there), aside⟩
  | inherit directory =>
    cases next
    exact passing.carried rfl fun id settled => ⟨settled, aside⟩
  | execed directory =>
    cases next
    exact passing.carried rfl fun id settled => ⟨settled, aside⟩
  | reconcile n faults =>
    simp only [ownership] at next
    split at next
    · rename_i sessions free listed
      cases next
      refine passing.paced _ ?_
      rintro pass ⟨⟩ id started
      obtain ⟨row, member, rfl⟩ := List.mem_map.mp started
      have found := Table.mem_rows_iff.mp
        ((Database.activeAgentSessions_ok listed row).mp member).1
      exact ⟨⟨kept.rows _ row found, fun recorder there =>
        (kept.stored _ recorder row there found).1⟩, .inl ⟨row, member, rfl⟩⟩
    · cases next
  | claim n =>
    simp only [ownership] at next
    split at next
    · rename_i there
      cases next
      exact passing.claim there rfl
    · cases next
  | fail n =>
    simp only [ownership] at next
    split at next
    · cases next
      exact passing.paced none fun _ none => (by cases none)
    · cases next
  | interrupt n now file faults =>
    simp only [ownership] at next
    split at next
    · rename_i there
      cases next
      exact passing.interrupt there rfl now file faults
    · cases next
  | daemonExit =>
    cases next
    exact fun _ _ none => (by cases none)
  | command command faults =>
    simp only [ownership] at next
    split at next
    · rename_i foreign
      cases next
      have left := Database.run_of_post (Database.command_commanded s.db command) faults
      refine passing.carried rfl fun id settled =>
        ⟨⟨List.mem_append_right _ settled.1, settled.2⟩, left.continues id fun new => ?_⟩
      cases command with
      | createAgentSession now request cwd =>
        exact foreign (List.mem_singleton.mp new ▸ settled.1)
      | _ => cases new
    · cases next

end Ownership

end Loomterm
