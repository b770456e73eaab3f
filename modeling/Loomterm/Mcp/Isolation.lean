import Loomterm.Mcp.Tools

/-!
# Workspaces by identifier

What the lookups by id or by name answer after any sequence of registrations, in the store
and through the MCP server of one workspace.
-/

namespace Loomterm

/-- Every lookup by the id of a registered workspace is about that workspace, unless
statements of its own fail. -/
structure Database.LooksUp (db : Database) (row : WorkspaceRow) : Prop where
  get : row.active = true → ∀ faults,
    (Store.run (getWorkspace row.id) faults db).1 = .ok row.toWorkspace ∨
      ∃ e, StorageFault e ∧ (Store.run (getWorkspace row.id) faults db).1 = .error e
  remove : ∀ faults,
    match Store.run (removeWorkspace row.id) faults db with
    | (.ok _, db') =>
        db' = { db with workspaces := db'.workspaces } ∧
        db'.workspaces.rows = db.workspaces.rows.map fun other =>
          if other.id = row.id then { other with active := false } else other
    | (.error e, db') => StorageFault e ∧ db' = db
  list : ∀ clock limit faults executions,
    (Store.run (listExecutions clock (some row.id) limit) faults db).1 = .ok executions →
      ∀ execution ∈ executions, execution.workspaceId = row.id
  tool : ∀ (server : LoomMcpServer) limit (moment : Moment) clock executions,
    server.workspace = row.toWorkspace → moment.db = db →
      server.list limit moment clock = .ok executions →
        ∀ execution ∈ executions, execution.workspaceId = row.id

open Database in
theorem Database.Isolated.looksUp {db : Database} (isolated : db.Isolated) {row : WorkspaceRow}
    (member : row ∈ db.workspaces.rows) : db.LooksUp row where
  get active faults := (run_of_post (isolated.post_getWorkspace member active) faults).2
  remove faults := by
    have done := run_of_post (isolated.post_removeWorkspace member) faults
    cases ran : Store.run (removeWorkspace row.id) faults db with
    | mk result db' =>
      rw [ran] at done
      cases result with
      | ok _ =>
        have left : db' = _ := done
        rw [left]
        refine ⟨rfl, ?_⟩
        simp [Table.update]
      | error e => exact done
  list clock limit faults executions listed :=
    (run_of_post (isolated.post_listExecutions member clock limit) faults).2 executions listed
  tool server limit moment clock executions own same answered := by
    obtain ⟨faults, ran⟩ := Moment.call_ok answered
    rw [own, same] at ran
    have asked := run_of_post (isolated.post_listExecutions member clock
      (max 1 (min (min (limit.getD 100) 1000) 1000))) faults
    exact asked.2 executions ran

/-- As long as no workspace gets a name that is the id of another, or an id that is the name
of another, every identifier stands for at most one workspace and every lookup by an id is
about that workspace; the first registration that breaks this leaves an identifier that
stands for two. -/
theorem workspace_isolation_iff {db : Database}
    (reached : registry.ReachableVia (fun db command => command.1.NamesApart db) db) :
    (∀ identifier, (db.matching identifier).length ≤ 1) ∧
    (∀ row ∈ db.workspaces.rows, db.LooksUp row) ∧
    ∀ now id name root, isBlank name = false →
      ((WorkspaceOp.add now id name (.ok (root, true))).NamesApart db ↔
        ∀ identifier, ((Store.run (Database.addWorkspace now id name (.ok (root, true)))
          [] db).2.matching identifier).length ≤ 1) := by
  have isolated := registry_isolated reached
  refine ⟨isolated.matching_le, fun row member => isolated.looksUp member, ?_⟩
  intro now id name root named
  constructor
  · intro apart
    have registered := Database.run_of_post (Database.post_addWorkspace db now id name root) []
    exact (isolated.registers registered apart).matching_le
  · intro few
    by_contra collides
    obtain ⟨identifier, two⟩ := registry_collides named collides
    have one := few identifier
    omega

/-- Two workspaces under names of their own, one of them removed. -/
def apartOps : List (WorkspaceOp × List (Option String)) :=
  [(.add 1 "w1" "demo" (.ok ("/demo", true)), []),
   (.add 2 "w2" "docs" (.ok ("/docs", true)), []),
   (.remove "docs", [])]

theorem workspace_isolation_apart :
    ∃ db, registry.runIf (fun db command => command.1.NamesApart db) newDatabase apartOps =
        some db ∧ db.labels = [("w1", "demo"), ("w2", "docs")] ∧
      (∀ identifier, (db.matching identifier).length ≤ 1) ∧
      ∀ row ∈ db.workspaces.rows, db.LooksUp row := by
  have ran : (registry.runIf (fun db command => command.1.NamesApart db) newDatabase
      apartOps).map Database.labels = some [("w1", "demo"), ("w2", "docs")] := by decide +kernel
  obtain ⟨db, replay, labels⟩ := Option.map_eq_some_iff.mp ran
  have start : registry.start newDatabase := rfl
  have reached := (System.ReachableVia.start start).run (System.runIf_runVia replay)
  have isolated := workspace_isolation_iff reached
  exact ⟨db, replay, labels, isolated.1, isolated.2.1⟩

/-- The name of the second workspace is the id of the first, which is then removed by its
own name; an execution of the second is there. -/
def takenOps : List (WorkspaceOp × List (Option String)) :=
  [(.add 1 "0192f0c1-7e4a" "demo" (.ok ("/demo", true)), []),
   (.add 2 "0192f0c2-11b7" "0192f0c1-7e4a" (.ok ("/docs", true)), []),
   (.elsewhere .empty
      ⟨[{ id := "a", workspaceId := "0192f0c2-11b7", command := .argv "make" [], cwd := "/docs",
          envKeys := [], initiator := {}, createdAtMs := 3 }], by decide⟩
      .empty .empty .empty, []),
   (.remove "demo", [])]

theorem workspace_isolation_taken :
    ∃ db, registry.run newDatabase takenOps = some db ∧
      db.labels = [("0192f0c1-7e4a", "demo"), ("0192f0c2-11b7", "0192f0c1-7e4a")] ∧
      (db.matching "0192f0c1-7e4a").length = 2 ∧
      ((Store.run (Database.getWorkspace "0192f0c1-7e4a") [] db).1.toOption.map Workspace.id) =
        some "0192f0c2-11b7" ∧
      (Store.run (Database.listExecutions (fun _ => 9) (some "0192f0c1-7e4a") 100) []
        db).1.toOption.map (List.map Execution.workspaceId) = some ["0192f0c2-11b7"] := by
  have ran : (registry.run newDatabase takenOps).map (fun db =>
      (db.labels, (db.matching "0192f0c1-7e4a").length,
        (Store.run (Database.getWorkspace "0192f0c1-7e4a") [] db).1.toOption.map Workspace.id,
        (Store.run (Database.listExecutions (fun _ => 9) (some "0192f0c1-7e4a") 100) []
          db).1.toOption.map (List.map Execution.workspaceId))) =
      some ([("0192f0c1-7e4a", "demo"), ("0192f0c2-11b7", "0192f0c1-7e4a")], 2,
        some "0192f0c2-11b7", some ["0192f0c2-11b7"]) := by decide +kernel
  obtain ⟨db, replay, seen⟩ := Option.map_eq_some_iff.mp ran
  simp only [Prod.mk.injEq] at seen
  obtain ⟨labels, two, got, listed⟩ := seen
  exact ⟨db, replay, labels, two, got, listed⟩

end Loomterm
