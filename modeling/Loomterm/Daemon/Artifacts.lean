import Loomterm.Store.Commands

/-!
# Session artifacts

The daemon lets a client choose where a session's recording lives, within limits that
`validate_session_paths` checks on the path as it is written, and removes that directory
when the session is deleted. The path is resolved only by the file system.
-/

namespace Loomterm

/-! ## The operations -/

/-- `AppPaths` (`src/config.rs:10`), as far as the operations here read it. -/
structure AppPaths where
  stateDir : String

/-- `sessions_dir: state_dir.join("sessions")`. -/
def AppPaths.sessionsDir (paths : AppPaths) : List (Component String) :=
  components paths.stateDir ++ [.normal "sessions"]

/-- `validate_session_paths` (`src/daemon.rs:453`). -/
def validateSessionPaths (paths : AppPaths) (sessionId castPath htmlPath : String) :
    Except Error Unit :=
  match Component.parent (components castPath) with
  | none => .error (.invalidRequest "cast_path has no parent")
  | some directory =>
      if directory = paths.sessionsDir ∨ ¬ paths.sessionsDir <+: directory ∨
          Component.parent (components htmlPath) ≠ some directory ∨
          Component.fileName directory ≠ some sessionId then
        .error (.invalidRequest
          "session artifacts must share a private directory under the Loomterm state directory")
      else .ok ()

/-- The directory that `Operation::SessionDelete` removes, if it is there
(`src/daemon.rs:393`). -/
def artifactDirectory (paths : AppPaths) (castPath : String) : Option (List (Component String)) :=
  (Component.parent (components castPath)).filter fun directory =>
    paths.sessionsDir <+: directory

/-- The daemon's store, and the directories that `remove_dir_all` was called on. -/
structure ArtifactState where
  db : Database
  removed : List (List (Component String)) := []

/-- What clients ask for. `SessionDelete` first removes the artifacts and then asks the
store to delete the row; other commands may come between. -/
inductive ArtifactOp where
  | sessionCreate (now : Int) (request : AgentSessionRequest) (cwd : Except Error String)
  | sessionDelete (clock : ExecutionId → Int) (id : SessionId) (there : Bool)
  | store (command : StoreCommand)

namespace ArtifactOp

/-- The operation has the daemon's conditions: sessions are created by `SessionCreate`
alone. -/
def allowed : ArtifactOp → Bool
  | .store (.createAgentSession ..) => false
  | _ => true

/-- `dispatch` (`src/daemon.rs:363`); `there` says whether the directory exists. -/
def run (paths : AppPaths) (state : ArtifactState) (faults : List (Option String)) :
    ArtifactOp → ArtifactState
  | .sessionCreate now request cwd =>
      match validateSessionPaths paths request.id request.castPath request.htmlPath with
      | .error _ => state
      | .ok () =>
          { state with
            db := (Store.run (Database.createAgentSession now request cwd) faults state.db).2 }
  | .sessionDelete clock id there =>
      match Store.run (Database.getAgentSession clock id) faults state.db with
      | (.error _, db) => { state with db }
      | (.ok detail, db) =>
          if !detail.session.state.isTerminal then { state with db }
          else
            match artifactDirectory paths detail.session.castPath with
            | some directory =>
                if there then { db, removed := state.removed ++ [directory] }
                else { state with db }
            | none => { state with db }
  | .store command => { state with db := (Store.run command.program faults state.db).2 }

end ArtifactOp

/-- Requests in any order, each under a schedule of failing statements. -/
def artifacts (paths : AppPaths) : System ArtifactState (ArtifactOp × List (Option String)) where
  start state := state.db = newDatabase ∧ state.removed = []
  step state op := if op.1.allowed then some (op.1.run paths state op.2) else none

/-! ## Where a directory leads -/

/-- The components of the artifact directory that follow `sessions_dir`. -/
def belowSessions (paths : AppPaths) (castPath : String) : List (Component String) :=
  ((Component.parent (components castPath)).getD []).drop paths.sessionsDir.length

/-- Read from `sessions_dir`, the path goes down, or it goes back down the directories that
it went up, and further. -/
def Descends (paths : AppPaths) (castPath : String) : Prop :=
  let top := Component.resolve paths.sessionsDir
  let rest := Component.resolve (belowSessions paths castPath)
  let climbed := top.names.drop (top.names.length - rest.ups)
  (top.absolute = true ∨ rest.ups ≤ top.names.length) ∧
    climbed <+: rest.names ∧ climbed ≠ rest.names

instance (paths : AppPaths) (castPath : String) : Decidable (Descends paths castPath) := by
  unfold Descends
  infer_instance

/-- What an accepted path is: `sessions_dir`, more components, and a last one. -/
theorem accepted_shape {paths : AppPaths} {id castPath htmlPath : String}
    (accepted : validateSessionPaths paths id castPath htmlPath = .ok ()) :
    ∃ last, components castPath = paths.sessionsDir ++ belowSessions paths castPath ++ [last] ∧
      artifactDirectory paths castPath =
        some (paths.sessionsDir ++ belowSessions paths castPath) := by
  unfold validateSessionPaths at accepted
  cases parent : Component.parent (components castPath) with
  | none => simp [parent] at accepted
  | some directory =>
    simp only [parent] at accepted
    split at accepted
    · cases accepted
    · rename_i checks
      simp only [not_or, Classical.not_not] at checks
      obtain ⟨_, inside, _, _⟩ := checks
      obtain ⟨rest, below⟩ := inside
      have tail : belowSessions paths castPath = rest := by
        simp [belowSessions, parent, ← below]
      have whole : ∃ last, components castPath = directory ++ [last] := by
        unfold Component.parent at parent
        cases ends : (components castPath).getLast? with
        | none => simp [ends] at parent
        | some last =>
          refine ⟨last, ?_⟩
          have kept : (components castPath).dropLast = directory := by
            cases last <;> simp_all
          rw [← kept]
          exact (List.dropLast_append_getLast? last ends).symm
      obtain ⟨last, whole⟩ := whole
      refine ⟨last, by rw [whole, tail, below], ?_⟩
      simp [artifactDirectory, parent, tail, ← below]

theorem sessionsDir_ne_nil (paths : AppPaths) : paths.sessionsDir ≠ [] := by
  simp [AppPaths.sessionsDir]

/-- The directory of an accepted path is strictly inside `sessions_dir` exactly when the
path descends. -/
theorem accepted_inside_iff {paths : AppPaths} {id castPath htmlPath : String}
    (accepted : validateSessionPaths paths id castPath htmlPath = .ok ()) :
    ∃ directory, artifactDirectory paths castPath = some directory ∧
      (Component.StrictlyInside (Component.resolve directory)
        (Component.resolve paths.sessionsDir) ↔ Descends paths castPath) := by
  obtain ⟨last, whole, directory⟩ := accepted_shape accepted
  refine ⟨_, directory, ?_⟩
  have inner : ∀ c ∈ belowSessions paths castPath, c.Inner := by
    intro c member
    apply components_tail_inner castPath
    rw [whole]
    cases top : paths.sessionsDir with
    | nil => exact absurd top (sessionsDir_ne_nil paths)
    | cons first rest => simp [member]
  rw [Component.resolve_append _ _ inner, Component.strictlyInside_enter]
  rfl

/-! ## Runs -/

namespace AppPaths

/-- What a removed directory has to be. -/
def Holds (paths : AppPaths) (directory : List (Component String)) : Prop :=
  Component.StrictlyInside (Component.resolve directory) (Component.resolve paths.sessionsDir)

/-- The artifacts of a session are inside `sessions_dir`. -/
def Keeps (paths : AppPaths) (castPath : String) : Prop :=
  ∀ directory, artifactDirectory paths castPath = some directory → paths.Holds directory

end AppPaths

/-- A session is created only with a path that descends. -/
def ArtifactOp.CreatesInside (paths : AppPaths) : ArtifactOp → Prop
  | .sessionCreate _ request _ =>
      validateSessionPaths paths request.id request.castPath request.htmlPath = .ok () →
        Descends paths request.castPath
  | _ => True

instance (paths : AppPaths) : (op : ArtifactOp) → Decidable (op.CreatesInside paths)
  | .sessionCreate .. => inferInstanceAs (Decidable (_ → _))
  | .sessionDelete .. => .isTrue trivial
  | .store _ => .isTrue trivial

/-- Every stored path and every removed directory is inside `sessions_dir`. -/
structure ArtifactState.Inside (paths : AppPaths) (state : ArtifactState) : Prop where
  stored : state.db.CastPaths paths.Keeps
  removed : ∀ directory ∈ state.removed, paths.Holds directory

open Database in
theorem ArtifactState.Inside.run {paths : AppPaths} {state : ArtifactState}
    (inside : state.Inside paths) (faults : List (Option String)) {op : ArtifactOp}
    (allowed : op.allowed = true) (creates : op.CreatesInside paths) :
    (op.run paths state faults).Inside paths := by
  cases op with
  | sessionCreate now request cwd =>
    simp only [ArtifactOp.run]
    cases accepted : validateSessionPaths paths request.id request.castPath request.htmlPath with
    | error e => exact inside
    | ok _ =>
      have fits : paths.Keeps request.castPath := by
        obtain ⟨directory, there, exactly⟩ := accepted_inside_iff accepted
        intro other same
        rw [there] at same
        exact Option.some.inj same ▸ exactly.mpr (creates accepted)
      have kept := createAgentSession_castPaths fits now cwd state.db inside.stored
      exact ⟨run_of_post kept faults, inside.removed⟩
  | sessionDelete clock id there =>
    have read := run_of_post (post_getAgentSession_row state.db clock id) faults
    simp only [ArtifactOp.run]
    cases ran : Store.run (getAgentSession clock id) faults state.db with
    | mk result db =>
      rw [ran] at read
      obtain ⟨same, found⟩ := read
      change db = state.db at same
      have stored : db.CastPaths paths.Keeps := same ▸ inside.stored
      cases result with
      | error e => exact ⟨stored, inside.removed⟩
      | ok detail =>
        dsimp only
        split
        · exact ⟨stored, inside.removed⟩
        · split
          · rename_i directory artifact
            split
            · have own := inside.stored _ (Table.mem_of_find? (found detail rfl)) directory artifact
              refine ⟨stored, fun other member => ?_⟩
              rw [List.mem_append, List.mem_singleton] at member
              cases member with
              | inl old => exact inside.removed other old
              | inr new => exact new ▸ own
            · exact ⟨stored, inside.removed⟩
          · exact ⟨stored, inside.removed⟩
  | store command =>
    have other : ∀ now request cwd, command ≠ .createAgentSession now request cwd := by
      intro now request cwd equal
      simp [equal, ArtifactOp.allowed] at allowed
    exact ⟨run_of_post (program_castPaths other state.db inside.stored) faults, inside.removed⟩

/-- The directory of an accepted path is strictly inside `sessions_dir` exactly when the
path descends; and as long as every session is created with such a path, no directory is
removed that is not strictly inside. -/
theorem session_artifacts_contained_iff (paths : AppPaths) :
    (∀ id castPath htmlPath, validateSessionPaths paths id castPath htmlPath = .ok () →
      ∃ directory, artifactDirectory paths castPath = some directory ∧
        (Component.StrictlyInside (Component.resolve directory)
          (Component.resolve paths.sessionsDir) ↔ Descends paths castPath)) ∧
    ∀ state, (artifacts paths).ReachableVia (fun _ op => op.1.CreatesInside paths) state →
      ∀ directory ∈ state.removed, Component.StrictlyInside (Component.resolve directory)
        (Component.resolve paths.sessionsDir) := by
  refine ⟨fun _ _ _ accepted => accepted_inside_iff accepted, fun state reached => ?_⟩
  have inside : state.Inside paths := by
    refine reached.invariant (ArtifactState.Inside paths) ?_ ?_
    · rintro first ⟨new, none⟩
      refine ⟨fun row member => ?_, fun directory member => ?_⟩
      · rw [new] at member
        cases member
      · rw [none] at member
        cases member
    · intro before op after _ inside creates enabled
      simp only [artifacts] at enabled
      split at enabled
      · rename_i allowed
        cases enabled
        exact inside.run op.2 allowed creates
      · cases enabled
  exact inside.removed

/-- A session in a directory of its own, and its removal. -/
def recordOps (id castPath htmlPath : String) : List (ArtifactOp × List (Option String)) :=
  [(.store (.addWorkspace 1 "w" "demo" (.ok ("/demo", true))), []),
   (.sessionCreate 2
      { id, workspaceId := "w", agentKind := "codex", name := none, command := .argv "codex" [],
        cwd := "/demo", recorderPid := 7, initialCols := 80, initialRows := 24, castPath,
        htmlPath } (.ok "/demo"), []),
   (.store (.finishAgentSession 3 id ⟨.finished, .exited 0, 10, false⟩), []),
   (.sessionDelete (fun _ => 4) id true, []),
   (.store (.deleteAgentSession id), [])]

theorem session_artifacts_contained_own :
    ∃ state, (artifacts ⟨"/state"⟩).runIf (fun _ op => op.1.CreatesInside ⟨"/state"⟩)
        { db := newDatabase }
        (recordOps "s" "/state/sessions/./x/../s/session.cast" "/state/sessions/x/../s/replay.html")
        = some state ∧
      state.removed.map Component.resolve = [⟨true, 0, ["state", "sessions", "s"]⟩] ∧
      ∀ directory ∈ state.removed, Component.StrictlyInside (Component.resolve directory)
        (Component.resolve (AppPaths.sessionsDir ⟨"/state"⟩)) := by
  have ran : ((artifacts ⟨"/state"⟩).runIf (fun _ op => op.1.CreatesInside ⟨"/state"⟩)
      { db := newDatabase }
      (recordOps "s" "/state/sessions/./x/../s/session.cast" "/state/sessions/x/../s/replay.html")).map
        (fun state => state.removed.map Component.resolve) =
      some [⟨true, 0, ["state", "sessions", "s"]⟩] := by decide +kernel
  obtain ⟨state, replay, removed⟩ := Option.map_eq_some_iff.mp ran
  have start : (artifacts ⟨"/state"⟩).start { db := newDatabase } := ⟨rfl, rfl⟩
  have reached := (System.ReachableVia.start start).run (System.runIf_runVia replay)
  exact ⟨state, replay, removed, (session_artifacts_contained_iff ⟨"/state"⟩).2 state reached⟩

/-- The path leaves `sessions_dir` again by `..`, is accepted, and its directory is removed. -/
theorem session_artifacts_escape :
    validateSessionPaths ⟨"/state"⟩ "home" "/state/sessions/../../home/session.cast"
        "/state/sessions/../../home/replay.html" = .ok () ∧
    ∃ state, (artifacts ⟨"/state"⟩).run { db := newDatabase }
        (recordOps "home" "/state/sessions/../../home/session.cast"
          "/state/sessions/../../home/replay.html") = some state ∧
      ∃ directory ∈ state.removed, Component.resolve directory = ⟨true, 0, ["home"]⟩ ∧
        ¬ Component.StrictlyInside (Component.resolve directory)
          (Component.resolve (AppPaths.sessionsDir ⟨"/state"⟩)) := by
  have accepted : validateSessionPaths ⟨"/state"⟩ "home" "/state/sessions/../../home/session.cast"
      "/state/sessions/../../home/replay.html" = .ok () := by decide +kernel
  have ran : ((artifacts ⟨"/state"⟩).run { db := newDatabase }
      (recordOps "home" "/state/sessions/../../home/session.cast"
        "/state/sessions/../../home/replay.html")).map
          (fun state => state.removed.map Component.resolve) =
      some [⟨true, 0, ["home"]⟩] := by decide +kernel
  obtain ⟨state, replay, removed⟩ := Option.map_eq_some_iff.mp ran
  have some_directory : ⟨true, 0, ["home"]⟩ ∈ state.removed.map Component.resolve := by
    rw [removed]
    exact List.mem_singleton.mpr rfl
  obtain ⟨directory, member, leads⟩ := List.mem_map.mp some_directory
  refine ⟨accepted, state, replay, directory, member, leads, ?_⟩
  have top : Component.resolve (AppPaths.sessionsDir ⟨"/state"⟩) =
      ⟨true, 0, ["state", "sessions"]⟩ := by decide +kernel
  rw [leads, top]
  rintro ⟨_, _, more, _, names⟩
  simp at names

end Loomterm
