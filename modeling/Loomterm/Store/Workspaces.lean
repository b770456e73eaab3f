import Loomterm.Misc.System
import Loomterm.Store.Refinement

/-!
# The workspace registry

`add_workspace`, `remove_workspace` and the listing of executions by workspace. A
workspace is looked up by its id or by its name with one query, and rows stay in the table
when a workspace is removed, so what an identifier finds depends on all registrations so
far.
-/

namespace Loomterm

namespace Database

/-! ## Operations -/

/-- `INSERT INTO workspaces`: id, name and root are each unique. -/
def insertWorkspace (workspace : Workspace) : Store Unit :=
  Sql.statement fun db =>
    if db.workspaces.rows.any fun row => row.name = workspace.name then
      .error (.database "UNIQUE constraint failed: workspaces.name")
    else if db.workspaces.rows.any fun row => row.root = workspace.root then
      .error (.database "UNIQUE constraint failed: workspaces.root")
    else
      match db.workspaces.insert? { workspace with } with
      | none => .error (.database "UNIQUE constraint failed: workspaces.id")
      | some workspaces => .ok ((), { db with workspaces })

/-- `UPDATE workspaces SET active = .. WHERE id = ?1`. -/
def setActive (active : Bool) (id : WorkspaceId) : Store Unit :=
  Sql.statement fun db =>
    .ok ((), { db with
      workspaces := db.workspaces.update (fun row => row.id = id)
        (fun row => { row with active }) (by intros; rfl) })

/-- `Database::add_workspace` (`src/store.rs:682`); `root` is what the path canonicalizes
to, and whether that is a directory. -/
def addWorkspace (now : Int) (id : WorkspaceId) (name : String)
    (root : Except Error (String × Bool)) : Store Workspace :=
  if isBlank name then
    Sql.fail (.invalidRequest "workspace name must not be empty")
  else
    match root with
    | .error e => Sql.fail e
    | .ok (root, false) =>
        Sql.fail (.invalidRequest ("workspace root is not a directory: " ++ root))
    | .ok (root, true) => do
        let existingRoot ← Sql.select fun db =>
          .ok (db.workspaces.rows.find? fun row => row.root = root)
        match existingRoot with
        | some row =>
            if row.name ≠ name then
              Sql.fail (.invalidRequest ("workspace root " ++ row.root ++
                " is already registered as " ++ row.name))
            else do
              if !row.active then setActive true row.id
              pure row.toWorkspace
        | none => do
            let existingName ← Sql.select fun db =>
              .ok (db.workspaces.rows.find? fun row => row.name = name)
            match existingName with
            | some row =>
                Sql.fail (.invalidRequest ("workspace name " ++ name ++
                  " is already registered for " ++ row.root))
            | none => do
                let workspace : Workspace := { id, name, root, createdAtMs := now }
                insertWorkspace workspace
                pure workspace

/-- `Database::remove_workspace` (`src/store.rs:750`). -/
def removeWorkspace (identifier : String) : Store Unit := do
  let workspace ← Sql.select fun db =>
    .ok (db.namedWorkspace identifier fun _ => true)
  match workspace with
  | none => Sql.fail (.workspaceNotFound identifier)
  | some row => setActive false row.id

/-- `Database::list_executions` (`src/store.rs:1004`); every row reads the clock anew. -/
def listExecutions (now : ExecutionId → Int) (workspace : Option String) (limit : Nat) :
    Store (List Execution) :=
  Sql.select fun db =>
    let rows : List ExecutionRow := match workspace with
      | some identifier => db.executions.rows.filter fun row =>
          db.workspaces.rows.any fun w =>
            w.id = row.workspaceId && (row.workspaceId = identifier || w.name = identifier)
      | none => db.executions.rows
    let newest := rows.insertionSort fun left right => right.createdAtMs ≤ left.createdAtMs
    .ok ((newest.take limit).map fun row => executionFromRow (now row.id) row)

/-! ## Identifiers -/

/-- The id and the name of every registered workspace, which no operation changes. -/
def labels (db : Database) : List (WorkspaceId × String) :=
  db.workspaces.rows.map fun row => (row.id, row.name)

/-- The rows that the lookups by id or by name find. -/
def matching (db : Database) (identifier : String) : List WorkspaceRow :=
  db.workspaces.rows.filter fun row => row.id = identifier || row.name = identifier

/-- No identifier stands for both labels. -/
def Apart (label other : WorkspaceId × String) : Prop :=
  label.1 ≠ other.1 ∧ label.1 ≠ other.2 ∧ label.2 ≠ other.1 ∧ label.2 ≠ other.2

/-- No identifier stands for two workspaces, removed ones included. -/
def Isolated (db : Database) : Prop := db.labels.Pairwise Apart

theorem Isolated.matching_le {db : Database} (isolated : db.Isolated) (identifier : String) :
    (db.matching identifier).length ≤ 1 := by
  have apart := (List.pairwise_map.mp isolated).filter
    fun row : WorkspaceRow => row.id = identifier || row.name = identifier
  have named : ∀ row ∈ db.matching identifier, row.id = identifier ∨ row.name = identifier :=
    fun row member => by simpa using (List.mem_filter.mp member).2
  match found : db.matching identifier with
  | [] => simp
  | [row] => simp
  | row :: other :: rest =>
    have first : Apart (row.id, row.name) (other.id, other.name) := by
      have all : (row :: other :: rest).Pairwise fun row other : WorkspaceRow =>
          Apart (row.id, row.name) (other.id, other.name) := found ▸ apart
      exact (List.pairwise_cons.mp all).1 other (by simp)
    have one := named row (by simp [found])
    have two := named other (by simp [found])
    simp only [Apart] at first
    grind

theorem Isolated.eq_of_matches {db : Database} (isolated : db.Isolated) {identifier : String}
    {row other : WorkspaceRow} (member : row ∈ db.matching identifier)
    (also : other ∈ db.matching identifier) : other = row := by
  have few := isolated.matching_le identifier
  match found : db.matching identifier with
  | [] =>
    rw [found] at member
    cases member
  | [only] =>
    rw [found, List.mem_singleton] at member also
    rw [member, also]
  | _ :: _ :: _ =>
    rw [found] at few
    simp at few

theorem mem_matching {db : Database} {identifier : String} {row : WorkspaceRow} :
    row ∈ db.matching identifier ↔
      row ∈ db.workspaces.rows ∧ (row.id = identifier ∨ row.name = identifier) := by
  simp [matching]

/-- In an isolated registry a lookup by the id of a row finds that row. -/
theorem Isolated.namedWorkspace_id {db : Database} (isolated : db.Isolated) {row : WorkspaceRow}
    (member : row ∈ db.workspaces.rows) (p : WorkspaceRow → Bool) (kept : p row = true) :
    db.namedWorkspace row.id p = some row := by
  cases found : db.namedWorkspace row.id p with
  | none => exact absurd (.inl rfl) (namedWorkspace_eq_none found member kept)
  | some other =>
    obtain ⟨present, matched, _⟩ := namedWorkspace_eq_some found
    have itself : row ∈ db.matching row.id := mem_matching.mpr ⟨member, .inl rfl⟩
    rw [isolated.eq_of_matches itself (mem_matching.mpr ⟨present, matched⟩)]

/-! ## What the operations do -/

/-- How one command changes the labels: not at all, or by one workspace whose id, name and
root are new. -/
def Registers (db db' : Database) (id : WorkspaceId) (name root : String) : Prop :=
  db'.labels = db.labels ∨
    (∀ row ∈ db.workspaces.rows, row.id ≠ id ∧ row.name ≠ name ∧ row.root ≠ root) ∧
      db'.labels = db.labels ++ [(id, name)]

theorem labels_update (table : Table fun row : WorkspaceRow => row.id)
    (p : WorkspaceRow → Bool) (active : Bool) :
    (table.update p (fun row => { row with active }) (by intros; rfl)).rows.map
      (fun row => (row.id, row.name)) = table.rows.map fun row => (row.id, row.name) := by
  simp only [Table.update, List.map_map]
  refine List.map_congr_left fun row _ => ?_
  simp only [Function.comp_apply]
  split <;> rfl

theorem post_setActive {db : Database} (active : Bool) (id : WorkspaceId) :
    Sql.Post StorageFault (setActive active id) db fun r db' =>
      match r with
      | .ok _ => db' = { db with
          workspaces := db.workspaces.update (fun row => row.id = id)
            (fun row => { row with active }) (by intros; rfl) }
      | .error e => StorageFault e ∧ db' = db :=
  Sql.post_statement (fun _ allowed => ⟨allowed, rfl⟩) rfl

theorem post_insertWorkspace {db : Database} (workspace : Workspace) :
    Sql.Post StorageFault (insertWorkspace workspace) db fun r db' =>
      match r with
      | .ok _ =>
          (∀ row ∈ db.workspaces.rows, row.id ≠ workspace.id ∧ row.name ≠ workspace.name ∧
            row.root ≠ workspace.root) ∧
          db'.workspaces.rows = db.workspaces.rows ++ [{ workspace with }]
      | .error e => StorageFault e ∧ db' = db := by
  refine Sql.post_statement (fun _ allowed => ⟨allowed, rfl⟩) ?_
  by_cases name : db.workspaces.rows.any fun row => row.name = workspace.name
  · simp [name, StorageFault, Error.isStorage]
  by_cases root : db.workspaces.rows.any fun row => row.root = workspace.root
  · simp [name, root, StorageFault, Error.isStorage]
  simp only [name, root, if_false, Bool.false_eq_true]
  cases inserted : db.workspaces.insert? { workspace with } with
  | none => simp [StorageFault, Error.isStorage]
  | some workspaces =>
    obtain ⟨fresh, rows⟩ := Table.insert?_eq_some.mp inserted
    have unused := Table.find?_eq_none.mp fresh
    simp only [List.any_eq_true, decide_eq_true_eq, not_exists, not_and] at name root
    exact ⟨fun row member => ⟨unused row member, name row member, root row member⟩, rows⟩

theorem post_addWorkspace (db : Database) (now : Int) (id : WorkspaceId) (name root : String) :
    Sql.Post StorageFault (addWorkspace now id name (.ok (root, true))) db fun _ db' =>
      db.Registers db' id name root := by
  have idle : db.Registers db id name root := .inl rfl
  unfold addWorkspace
  by_cases blank : isBlank name
  · rw [if_pos blank]
    exact Sql.post_fail idle
  rw [if_neg blank]
  refine Sql.post_bind (Sql.post_select (fun _ _ => idle) ?_)
  dsimp only
  cases same : db.workspaces.rows.find? fun row => row.root = root with
  | some row =>
    by_cases renamed : row.name ≠ name
    · simp only [renamed, if_true, ne_eq, not_false_eq_true]
      exact Sql.post_fail idle
    · simp only [renamed, if_false]
      by_cases inactive : (!row.active) = true
      · simp only [inactive, if_true]
        refine Sql.post_bind ((post_setActive true row.id).mono fun r db' done => ?_)
        cases r with
        | ok _ =>
          refine Sql.post_pure (.inl ?_)
          rw [done]
          exact labels_update _ _ true
        | error e => exact done.2 ▸ idle
      · simp only [inactive]
        exact Sql.post_pure idle
  | none =>
    refine Sql.post_bind (Sql.post_select (fun _ _ => idle) ?_)
    dsimp only
    cases taken : db.workspaces.rows.find? fun row => row.name = name with
    | some row => exact Sql.post_fail idle
    | none =>
      refine Sql.post_bind ((post_insertWorkspace _).mono fun r db' done => ?_)
      cases r with
      | ok _ =>
        refine Sql.post_pure (.inr ⟨done.1, ?_⟩)
        simp [labels, done.2]
      | error e => exact done.2 ▸ idle

theorem post_removeWorkspace {db : Database} (identifier : String) :
    Sql.Post StorageFault (removeWorkspace identifier) db fun _ db' =>
      db'.labels = db.labels := by
  refine Sql.post_bind (Sql.post_select (fun _ _ => rfl) ?_)
  dsimp only
  cases found : db.namedWorkspace identifier fun _ => true with
  | none => exact Sql.post_fail rfl
  | some row =>
    refine (post_setActive false row.id).mono fun r db' done => ?_
    cases r with
    | ok _ =>
      rw [done]
      exact labels_update _ _ false
    | error e => rw [done.2]

/-- In an isolated registry the id of an active workspace is answered with that workspace. -/
theorem Isolated.post_getWorkspace {db : Database} (isolated : db.Isolated) {row : WorkspaceRow}
    (member : row ∈ db.workspaces.rows) (active : row.active = true) :
    Sql.Post StorageFault (getWorkspace row.id) db fun r db' =>
      db' = db ∧ (r = .ok row.toWorkspace ∨ ∃ e, StorageFault e ∧ r = .error e) := by
  have found := isolated.namedWorkspace_id member (·.active) active
  refine Sql.post_select_of_ok ?_
  simp only [found]

/-- In an isolated registry removing by the id of a workspace clears its flag alone. -/
theorem Isolated.post_removeWorkspace {db : Database} (isolated : db.Isolated)
    {row : WorkspaceRow} (member : row ∈ db.workspaces.rows) :
    Sql.Post StorageFault (removeWorkspace row.id) db fun r db' =>
      match r with
      | .ok _ => db' = { db with
          workspaces := db.workspaces.update (fun other => other.id = row.id)
            (fun other => { other with active := false }) (by intros; rfl) }
      | .error e => StorageFault e ∧ db' = db := by
  have found := isolated.namedWorkspace_id member (fun _ => true) rfl
  refine Sql.post_bind (Sql.post_select (fun _ allowed => ⟨allowed, rfl⟩) ?_)
  simp only [found]
  exact post_setActive false row.id

/-- In an isolated registry the executions listed by the id of a workspace are its own. -/
theorem Isolated.post_listExecutions {db : Database} (isolated : db.Isolated)
    {row : WorkspaceRow} (member : row ∈ db.workspaces.rows) (now : ExecutionId → Int)
    (limit : Nat) :
    Sql.Post StorageFault (listExecutions now (some row.id) limit) db fun r db' =>
      db' = db ∧ ∀ executions, r = .ok executions →
        ∀ execution ∈ executions, execution.workspaceId = row.id := by
  refine Sql.post_select (fun _ _ => ⟨rfl, by simp⟩) ⟨rfl, fun executions listed => ?_⟩
  rw [← Except.ok.inj listed]
  intro execution present
  obtain ⟨record, taken, rfl⟩ := List.mem_map.mp present
  have selected := (List.perm_insertionSort _ _).mem_iff.mp (List.mem_of_mem_take taken)
  obtain ⟨_, joined⟩ := List.mem_filter.mp selected
  simp only [List.any_eq_true, Bool.and_eq_true, Bool.or_eq_true, decide_eq_true_eq] at joined
  obtain ⟨other, there, owner, named⟩ := joined
  show record.workspaceId = row.id
  cases named with
  | inl direct => exact direct
  | inr byName =>
    have itself : row ∈ db.matching row.id := mem_matching.mpr ⟨member, .inl rfl⟩
    have same := isolated.eq_of_matches itself (mem_matching.mpr ⟨there, .inr byName⟩)
    rw [← owner, same]

end Database

/-! ## Sequences of registrations -/

/-- The commands on workspaces; the others write only the remaining tables. -/
inductive WorkspaceOp where
  | add (now : Int) (id : WorkspaceId) (name : String) (root : Except Error (String × Bool))
  | remove (identifier : String)
  | elsewhere (agentSessions : Table AgentSessionRow.id) (executions : Table ExecutionRow.id)
      (events : Table ExecutionEvent.key) (agentTurns : Table AgentTurnRow.id)
      (agentActions : Table AgentActionRow.id)

namespace WorkspaceOp

/-- The program of a command, without its reply. -/
def program : WorkspaceOp → Store Unit
  | .add now id name root => do
      let _ ← Database.addWorkspace now id name root
  | .remove identifier => Database.removeWorkspace identifier
  | .elsewhere agentSessions executions events agentTurns agentActions =>
      Sql.statement fun db =>
        .ok ((), { db with agentSessions, executions, events, agentTurns, agentActions })

/-- A workspace that the command registers anew has no name that is the id of another, and
gets no id that is the name of another. -/
def NamesApart (db : Database) : WorkspaceOp → Prop
  | .add _ id name (.ok (root, true)) =>
      (∀ row ∈ db.workspaces.rows, row.id ≠ id ∧ row.name ≠ name ∧ row.root ≠ root) →
        ∀ row ∈ db.workspaces.rows, row.id ≠ name ∧ row.name ≠ id
  | _ => True

instance (db : Database) : (op : WorkspaceOp) → Decidable (op.NamesApart db)
  | .add _ _ _ (.ok (_, true)) => inferInstanceAs (Decidable (_ → _))
  | .add _ _ _ (.ok (_, false)) => .isTrue trivial
  | .add _ _ _ (.error _) => .isTrue trivial
  | .remove _ => .isTrue trivial
  | .elsewhere .. => .isTrue trivial

open Database in
theorem post_labels (db : Database) (op : WorkspaceOp) :
    Sql.Post StorageFault op.program db fun _ db' =>
      db'.labels = db.labels ∨ ∃ now id name root, op = .add now id name (.ok (root, true)) ∧
        db.Registers db' id name root := by
  cases op with
  | add now id name root =>
    match root with
    | .error e =>
      refine Sql.post_bind ?_
      unfold Database.addWorkspace
      split <;> exact Sql.post_fail (.inl rfl)
    | .ok (root, false) =>
      refine Sql.post_bind ?_
      unfold Database.addWorkspace
      split <;> exact Sql.post_fail (.inl rfl)
    | .ok (root, true) =>
      refine Sql.post_bind ((Database.post_addWorkspace db now id name root).mono ?_)
      intro r db' registered
      have held : db'.labels = db.labels ∨ ∃ now' id' name' root',
          (WorkspaceOp.add now id name (.ok (root, true))) =
            .add now' id' name' (.ok (root', true)) ∧ db.Registers db' id' name' root' :=
        .inr ⟨now, id, name, root, rfl, registered⟩
      cases r with
      | ok _ => exact Sql.post_pure held
      | error e => exact held
  | remove identifier =>
    refine (Database.post_removeWorkspace identifier).mono fun _ _ same => ?_
    exact .inl same
  | elsewhere =>
    unfold program
    exact Sql.post_statement (fun _ _ => .inl rfl) (.inl rfl)

end WorkspaceOp

/-- Registering keeps the lookups apart when the new name and the new id do. -/
theorem Database.Isolated.registers {db db' : Database} (isolated : db.Isolated) {now : Int}
    {id : WorkspaceId} {name root : String} (registered : db.Registers db' id name root)
    (apart : (WorkspaceOp.add now id name (.ok (root, true))).NamesApart db) :
    db'.Isolated := by
  obtain same | ⟨fresh, added⟩ := registered
  · rw [Isolated, same]
    exact isolated
  · have distinct := apart fresh
    rw [Isolated, added]
    refine List.pairwise_append.mpr ⟨isolated, List.pairwise_singleton _ _, ?_⟩
    intro label member new only
    obtain ⟨row, present, rfl⟩ := List.mem_map.mp member
    rw [List.mem_singleton.mp only]
    have unused := fresh row present
    have cross := distinct row present
    exact ⟨unused.1, cross.1, cross.2, unused.2.1⟩

/-- The registry: commands in any order, each with its schedule of failing statements. -/
def registry : System Database (WorkspaceOp × List (Option String)) where
  start db := db.workspaces.rows = []
  step db command := some (Store.run command.1.program command.2 db).2

theorem registry_isolated {db : Database}
    (reached : registry.ReachableVia (fun db command => command.1.NamesApart db) db) :
    db.Isolated := by
  refine reached.invariant Database.Isolated ?_ ?_
  · intro first empty
    have rows : first.workspaces.rows = [] := empty
    have none_yet : first.labels = [] := by simp [Database.labels, rows]
    rw [Database.Isolated, none_yet]
    exact .nil
  · intro before command after _ isolated apart enabled
    obtain ⟨op, faults⟩ := command
    have done := Database.run_of_post (WorkspaceOp.post_labels before op) faults
    rw [Option.some.inj enabled] at done
    obtain same | ⟨now, id, name, root, rfl, registered⟩ := done
    · rw [Database.Isolated, same]
      exact isolated
    · exact isolated.registers registered apart

/-- Without a fault, a new workspace joins the rows at their end. -/
theorem Database.post_addWorkspace_new {db : Database} {now : Int} {id : WorkspaceId}
    {name root : String} (named : isBlank name = false)
    (fresh : ∀ row ∈ db.workspaces.rows, row.id ≠ id ∧ row.name ≠ name ∧ row.root ≠ root) :
    Sql.Post (fun _ => False) (addWorkspace now id name (.ok (root, true))) db fun _ db' =>
      db'.workspaces.rows =
        db.workspaces.rows ++ [{ id, name, root, createdAtMs := now, active := true }] := by
  have noRoot : (db.workspaces.rows.find? fun row => row.root = root) = none := by
    simpa using fun row member => (fresh row member).2.2
  have noName : (db.workspaces.rows.find? fun row => row.name = name) = none := by
    simpa using fun row member => (fresh row member).2.1
  unfold addWorkspace
  rw [if_neg (by simp [named])]
  refine Sql.post_bind (Sql.post_select (fun _ never => never.elim) ?_)
  simp only [noRoot]
  refine Sql.post_bind (Sql.post_select (fun _ never => never.elim) ?_)
  simp only [noName]
  refine Sql.post_bind (Sql.post_statement (fun _ never => never.elim) ?_)
  have anyName : (db.workspaces.rows.any fun row => row.name = name) = false := by
    simpa using fun row member => (fresh row member).2.1
  have anyRoot : (db.workspaces.rows.any fun row => row.root = root) = false := by
    simpa using fun row member => (fresh row member).2.2
  simp only [anyName, anyRoot, Bool.false_eq_true, if_false]
  have free : db.workspaces.find? id = none :=
    Table.find?_eq_none.mpr fun row member => (fresh row member).1
  cases inserted : db.workspaces.insert? { id, name, root, createdAtMs := now } with
  | none =>
    obtain ⟨row, taken⟩ := Table.insert?_eq_none.mp inserted
    simp [free] at taken
  | some workspaces => exact Sql.post_pure (Table.insert?_eq_some.mp inserted).2

/-- Registering a workspace whose name is the id of another, or whose id is the name of
another, leaves an identifier that stands for both. -/
theorem registry_collides {db : Database} {now : Int} {id : WorkspaceId} {name root : String}
    (named : isBlank name = false)
    (collides : ¬ (WorkspaceOp.add now id name (.ok (root, true))).NamesApart db) :
    ∃ identifier, 2 ≤ ((Store.run (Database.addWorkspace now id name (.ok (root, true)))
      [] db).2.matching identifier).length := by
  simp only [WorkspaceOp.NamesApart, Classical.not_imp, not_forall] at collides
  obtain ⟨fresh, row, member, cross⟩ := collides
  have added := ((Database.post_addWorkspace_new named fresh : Sql.Post _
    (Database.addWorkspace now id name (.ok (root, true))) db _) [] (by simp)).1
  -- the row that is there and the new one, in this order
  have both (identifier : String) (old : row.id = identifier ∨ row.name = identifier)
      (new : id = identifier ∨ name = identifier) :
      2 ≤ ((Store.run (Database.addWorkspace now id name (.ok (root, true))) [] db).2.matching
        identifier).length := by
    have there : 1 ≤ (db.matching identifier).length :=
      List.length_pos_of_mem (Database.mem_matching.mpr ⟨member, old⟩)
    have grown : (Store.run (Database.addWorkspace now id name (.ok (root, true))) [] db).2.matching
        identifier = db.matching identifier ++
          [{ id, name, root, createdAtMs := now, active := true }] := by
      simp only [Database.matching, Store.run, List.map_nil, added, List.filter_append]
      simp [new]
    rw [grown, List.length_append, List.length_singleton]
    omega
  by_cases byId : row.id = name
  · exact ⟨name, both name (.inl byId) (.inr rfl)⟩
  · have byName : row.name = id := by
      by_contra different
      exact cross ⟨byId, different⟩
    exact ⟨id, both id (.inr byName) (.inl rfl)⟩

end Loomterm
