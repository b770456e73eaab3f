import Loomterm.Misc.Migration
import Loomterm.Model

/-!
# Opening a database

`Database::initialize` (`src/store.rs:485`) creates the tables of an empty database, and brings an
older one up to date, one transaction for each version. `opening_resumes` says that it does not
matter where it was stopped before, and `older_migrates` what becomes of the rows of the older
schemas.
-/

namespace Loomterm

open Ddl

namespace Schema

/-- `SCHEMA_VERSION` (`src/store.rs:17`). -/
def schemaVersion : Int := 4

/-! ## Columns -/

def key : Column := { name := "id", type := "TEXT", primaryKey := true }

def text (name : String) : Column := { name, type := "TEXT", notNull := true }

def textOrNull (name : String) : Column := { name, type := "TEXT" }

def number (name : String) : Column := { name, type := "INTEGER", notNull := true }

def numberOrNull (name : String) : Column := { name, type := "INTEGER" }

def counter (name : String) : Column := { number name with default := .integer 0 }

def reference (name table : String) (onDelete : Option String) : Column :=
  { text name with references := some ⟨table, "id", onDelete⟩ }

def activeColumn : Column := { number "active" with default := .integer 1 }

def sessionColumn : Column :=
  { textOrNull "session_id" with references := some ⟨"agent_sessions", "id", some "SET NULL"⟩ }

/-! ## Tables -/

def workspaceColumns : List Column :=
  [key, { text "name" with unique := true }, { text "root" with unique := true },
    number "created_at_ms"]

def sessionColumns : List Column := [
  key, reference "workspace_id" "workspaces" none, text "state", text "agent_kind",
  textOrNull "name", text "command_json", text "cwd", number "created_at_ms",
  numberOrNull "ended_at_ms", number "recorder_pid", textOrNull "outcome_json",
  counter "captured_bytes", counter "output_truncated", number "initial_cols",
  number "initial_rows", text "cast_path", text "html_path"]

def executionColumns : List Column := [
  key, reference "workspace_id" "workspaces" none, text "state", text "command_json", text "cwd",
  text "env_keys_json", text "initiator_json", number "created_at_ms",
  numberOrNull "started_at_ms", numberOrNull "ended_at_ms", numberOrNull "pid",
  numberOrNull "pgid", textOrNull "outcome_json", counter "captured_bytes",
  counter "output_truncated", counter "last_seq"]

def eventColumns : List Column := [
  reference "execution_id" "executions" (some "CASCADE"), number "seq", number "timestamp_ms",
  text "kind", textOrNull "stream", { name := "data", type := "BLOB" },
  textOrNull "payload_json"]

def turnColumns : List Column := [
  key, reference "session_id" "agent_sessions" (some "CASCADE"), text "provider",
  text "provider_session_id", textOrNull "provider_turn_id", text "state", text "prompt",
  number "created_at_ms", numberOrNull "ended_at_ms", textOrNull "last_assistant_message"]

def actionColumns : List Column := [
  key, reference "turn_id" "agent_turns" (some "CASCADE"), text "provider_action_id",
  text "tool_name", text "state",
  { textOrNull "execution_id" with references := some ⟨"executions", "id", some "SET NULL"⟩ },
  number "created_at_ms", numberOrNull "ended_at_ms"]

/-- An index on a column and a time. -/
def timeIndex (table column : String) (descending : Bool) : Index :=
  { table, columns := [(column, false), ("created_at_ms", descending)] }

def createSessions : List Statement := [
  .createTable "agent_sessions" sessionColumns [],
  .createIndex "agent_sessions_workspace_created" (timeIndex "agent_sessions" "workspace_id" true),
  .createIndex "agent_sessions_state_created" (timeIndex "agent_sessions" "state" false)]

def createTurns : List Statement := [
  .createTable "agent_turns" turnColumns [],
  .createIndex "agent_turns_provider_turn" {
    table := "agent_turns"
    columns := [("session_id", false), ("provider", false), ("provider_session_id", false),
      ("provider_turn_id", false)]
    unique := true
    condition := some "provider_turn_id IS NOT NULL" },
  .createIndex "agent_turns_session_created" (timeIndex "agent_turns" "session_id" false),
  .createTable "agent_actions" actionColumns [.unique ["turn_id", "provider_action_id"]],
  .createIndex "agent_actions_turn_created" (timeIndex "agent_actions" "turn_id" false)]

/-! ## Opening -/

/-- The batch for an empty database (`src/store.rs:500`). -/
def createAll : List Statement :=
  [.createTable "workspaces" (workspaceColumns ++ [activeColumn]) []] ++ createSessions ++ [
    .createTable "executions" (executionColumns ++ [sessionColumn]) [],
    .createIndex "executions_session_created" (timeIndex "executions" "session_id" false),
    .createIndex "executions_workspace_created" (timeIndex "executions" "workspace_id" true),
    .createIndex "executions_state_created" (timeIndex "executions" "state" false),
    .createTable "events" eventColumns [.primaryKey ["execution_id", "seq"]]] ++ createTurns

/-- The batch for version 1. -/
def addActive : List Statement := [.addColumn "workspaces" activeColumn]

/-- The batch for version 2. -/
def addSessions : List Statement :=
  createSessions ++ [
    .addColumn "executions" sessionColumn,
    .createIndex "executions_session_created" (timeIndex "executions" "session_id" false)]

/-- The batch of a migration: it is one transaction, which sets the version. -/
def migration (statements : List Statement) (version : Int) : Sql File Error Unit :=
  .transaction (execAll Error.database (statements ++ [.userVersion version]))

/-- What `initialize` does about a version. -/
def migrate (version : Int) : Sql File Error Unit := do
  if schemaVersion < version then
    Sql.fail (.config ("database schema " ++ toString version ++
      " is newer than supported schema " ++ toString schemaVersion))
  if version = 0 then migration createAll 4
  else if version = 1 then migration addActive 2
  if version ≤ 2 ∧ version ≠ 0 then migration addSessions 3
  if version ≤ 3 ∧ version ≠ 0 then migration createTurns 4

/-- `Database::initialize` (`src/store.rs:485`). -/
def initializeDatabase : Sql File Error Unit :=
  Sql.select (fun file => .ok file.version) >>= migrate

/-! ## Stopped and begun again -/

theorem migrate_newer {version : Int} (newer : schemaVersion < version) :
    migrate version = Sql.fail (.config ("database schema " ++ toString version ++
      " is newer than supported schema " ++ toString schemaVersion)) := by
  unfold migrate
  rw [if_pos newer]
  rfl

theorem migrate_three : migrate 3 = migration createTurns 4 >>= pure :=
  (Sql.bind_pure _).symm

theorem migrate_older {version : Int} (older : version ≤ 2) (used : version ≠ 0)
    (active : version ≠ 1) : migrate version = migration addSessions 3 >>= fun _ => migrate 3 := by
  unfold migrate
  rw [if_neg (by unfold schemaVersion; omega), if_neg used, if_neg active, if_pos ⟨older, used⟩,
    if_pos ⟨by omega, used⟩]
  rfl

theorem migrate_one : migrate 1 = migration addActive 2 >>= fun _ => migrate 2 := rfl

theorem migrate_zero : migrate 0 = migration createAll 4 >>= fun _ => migrate 4 := rfl

theorem initializeDatabase_nil (file : File) :
    initializeDatabase file [] = migrate file.version file [] := rfl

/-- What follows a batch is what its version asks for. -/
theorem resumes_migration {file : File} {statements : List Statement} {next : Int}
    (chain : migrate file.version = migration statements next >>= fun _ => migrate next)
    (more : ∀ file' : File, file'.version = next →
      Sql.Resumes initializeDatabase (migrate file'.version) file') :
    Sql.Resumes initializeDatabase (migrate file.version) file := by
  have begun := initializeDatabase_nil file
  rw [chain] at begun ⊢
  apply Sql.Resumes.transaction begun (steady_execAll _ _)
  intro _ file' ran
  have version := version_execAll _ ran
  have later := more file' version
  rwa [version] at later

theorem resumes_four {file : File} (current : file.version = 4) :
    Sql.Resumes initializeDatabase (migrate file.version) file := by
  have begun := initializeDatabase_nil file
  rw [current] at begun ⊢
  exact Sql.resumes_pure begun

theorem resumes_three {file : File} (version : file.version = 3) :
    Sql.Resumes initializeDatabase (migrate file.version) file := by
  have chain : migrate file.version = migration createTurns 4 >>= fun _ => migrate 4 := by
    rw [version]
    exact migrate_three
  apply resumes_migration chain
  exact fun file' => resumes_four

theorem resumes_older {file : File} (older : file.version ≤ 2) (used : file.version ≠ 0)
    (active : file.version ≠ 1) :
    Sql.Resumes initializeDatabase (migrate file.version) file :=
  resumes_migration (migrate_older older used active) fun _ => resumes_three

theorem resumes_one {file : File} (version : file.version = 1) :
    Sql.Resumes initializeDatabase (migrate file.version) file := by
  apply resumes_migration (version ▸ migrate_one)
  intro file' version
  exact resumes_older (by omega) (by omega) (by omega)

theorem resumes_zero {file : File} (empty : file.version = 0) :
    Sql.Resumes initializeDatabase (migrate file.version) file :=
  resumes_migration (empty ▸ migrate_zero) fun _ => resumes_four

theorem resumes_migrate (file : File) :
    Sql.Resumes initializeDatabase (migrate file.version) file := by
  by_cases newer : schemaVersion < file.version
  · have begun := initializeDatabase_nil file
    rw [migrate_newer newer] at begun ⊢
    exact Sql.resumes_fail begun
  have supported : file.version ≤ 4 := not_lt.mp newer
  by_cases current : file.version = 4
  · exact resumes_four current
  by_cases three : file.version = 3
  · exact resumes_three three
  by_cases empty : file.version = 0
  · exact resumes_zero empty
  by_cases one : file.version = 1
  · exact resumes_one one
  exact resumes_older (by omega) empty one

theorem resumes_initializeDatabase (file : File) :
    Sql.Resumes initializeDatabase initializeDatabase file :=
  Sql.Resumes.select rfl fun version found _ => by
    cases found
    exact resumes_migrate file

/-- Opens that were stopped at their faults, one after the other. -/
def opened (file : File) (opens : List (Faults Error)) : File :=
  opens.foldl (fun file faults => (initializeDatabase file faults).state) file

theorem initializeDatabase_opened (file : File) (opens : List (Faults Error)) :
    initializeDatabase (opened file opens) [] = initializeDatabase file [] := by
  induction opens generalizing file with
  | nil => rfl
  | cons faults rest ih => exact (ih _).trans (resumes_initializeDatabase file faults)

theorem newer_refused {file : File} (newer : schemaVersion < file.version)
    (faults : Faults Error) :
    ∃ e rest, initializeDatabase file faults = ⟨.error e, file, rest⟩ := by
  have refused : ∀ faults, ∃ e, migrate file.version file faults = ⟨.error e, file, faults⟩ := by
    rw [migrate_newer newer]
    exact fun faults => ⟨_, rfl⟩
  show ∃ e rest, Sql.andThen (Sql.select fun file => .ok file.version) migrate file faults = _
  unfold Sql.andThen Sql.select
  have cases := Sql.statement_cases (fun file : File =>
    Except.map (·, file) (.ok file.version : Except Error Int)) faults (s := file)
  rcases cases with ⟨e, rest, _, failed⟩ | ⟨_, goes⟩
  · rw [failed]
    exact ⟨e, rest, rfl⟩
  · rw [goes]
    obtain ⟨e, ended⟩ := refused faults.tail
    exact ⟨e, faults.tail, ended⟩

theorem opened_newer {file : File} (newer : schemaVersion < file.version)
    (opens : List (Faults Error)) : opened file opens = file := by
  induction opens with
  | nil => rfl
  | cons faults rest ih =>
    obtain ⟨e, left, ended⟩ := newer_refused newer faults
    show opened (initializeDatabase file faults).state rest = file
    rw [ended]
    exact ih

end Schema

open Schema in
/-- However often the daemon was stopped while it opened a database, and wherever, what it makes of
it in the end is what it would have made of it at first: the same schema, the same rows, or the
same error. A database of a newer schema it leaves alone. -/
theorem opening_resumes (file : File) (opens : List (Faults Error)) :
    initializeDatabase (opened file opens) [] = initializeDatabase file [] ∧
      (schemaVersion < file.version → opened file opens = file) :=
  ⟨initializeDatabase_opened file opens, fun newer => opened_newer newer opens⟩

/-! ## The rows of older schemas -/

namespace Schema

section

variable (workspaces executions events sessions : List (List Value))

/-- The indexes that no migration adds. -/
def firstIndexes : List (String × Index) := [
  ("executions_workspace_created", timeIndex "executions" "workspace_id" true),
  ("executions_state_created", timeIndex "executions" "state" false)]

def eventTable : String × Ddl.Table :=
  ("events", {
    columns := eventColumns
    constraints := [.primaryKey ["execution_id", "seq"]]
    rows := events })

/-- A database of version 1, as the test of the migrations has it (`src/store.rs:2646`), with the
table and the indexes that no migration adds. -/
def versionOne : File where
  version := 1
  tables := [("workspaces", { columns := workspaceColumns, rows := workspaces }),
    ("executions", { columns := executionColumns, rows := executions }), eventTable events]
  indexes := firstIndexes

def versionTwo : File where
  version := 2
  tables := [
    ("workspaces", { columns := workspaceColumns ++ [activeColumn], rows := workspaces }),
    ("executions", { columns := executionColumns, rows := executions }), eventTable events]
  indexes := firstIndexes

def sessionIndexes : List (String × Index) := [
  ("agent_sessions_workspace_created", timeIndex "agent_sessions" "workspace_id" true),
  ("agent_sessions_state_created", timeIndex "agent_sessions" "state" false),
  ("executions_session_created", timeIndex "executions" "session_id" false)]

def versionThree : File where
  version := 3
  tables := [
    ("workspaces", { columns := workspaceColumns ++ [activeColumn], rows := workspaces }),
    ("executions", { columns := executionColumns ++ [sessionColumn], rows := executions }),
    eventTable events, ("agent_sessions", { columns := sessionColumns, rows := sessions })]
  indexes := firstIndexes ++ sessionIndexes

/-- The rows of every table, by its name. -/
def rowsOf (file : File) (name : String) : Option (List (List Value)) :=
  (file.table name).map Ddl.Table.rows

/-- The file is of the newest schema. -/
def Current (file : File) : Prop :=
  file.version = schemaVersion ∧
    file.schema.1.Perm (initializeDatabase {} []).state.schema.1 ∧
    file.schema.2.Perm (initializeDatabase {} []).state.schema.2

end

def versionFour (workspaces executions events sessions : List (List Value)) : File :=
  (initializeDatabase (versionThree workspaces executions events sessions) []).state

theorem current_versionFour (workspaces executions events sessions : List (List Value)) :
    Current (versionFour workspaces executions events sessions) := by
  have same : (versionFour workspaces executions events sessions).schema =
    (versionFour [] [] [] []).schema := rfl
  refine ⟨rfl, ?_, ?_⟩
  · rw [same]
    decide +kernel
  · rw [same]
    decide +kernel

/-- A database of an older schema, and the rows of its tables as the newest schema has them. -/
inductive Older : File → (workspaces executions events sessions : List (List Value)) → Prop
  | one (workspaces executions events : List (List Value)) :
      Older (versionOne workspaces executions events) (workspaces.map (· ++ [.integer 1]))
        (executions.map (· ++ [.null])) events []
  | two (workspaces executions events : List (List Value)) :
      Older (versionTwo workspaces executions events) workspaces
        (executions.map (· ++ [.null])) events []
  | three (workspaces executions events sessions : List (List Value)) :
      Older (versionThree workspaces executions events sessions) workspaces executions events
        sessions

variable {file : File} {workspaces executions events sessions : List (List Value)}

theorem addActive_versionOne (workspaces executions events : List (List Value)) :
    migration addActive 2 (versionOne workspaces executions events) [] =
      ⟨.ok (), versionTwo (workspaces.map (· ++ [.integer 1])) executions events, []⟩ := rfl

theorem addSessions_versionTwo (workspaces executions events : List (List Value)) :
    migration addSessions 3 (versionTwo workspaces executions events) [] =
      ⟨.ok (), versionThree workspaces (executions.map (· ++ [.null])) events [], []⟩ := rfl

theorem createTurns_versionThree (workspaces executions events sessions : List (List Value)) :
    initializeDatabase (versionThree workspaces executions events sessions) [] =
      ⟨.ok (), versionFour workspaces executions events sessions, []⟩ := rfl

theorem initializeDatabase_versionTwo (workspaces executions events : List (List Value)) :
    initializeDatabase (versionTwo workspaces executions events) [] =
      initializeDatabase
        (versionThree workspaces (executions.map (· ++ [.null])) events []) [] := by
  have two : (versionTwo workspaces executions events).version = 2 := rfl
  rw [initializeDatabase_nil, initializeDatabase_nil, two,
    migrate_older le_rfl (by decide) (by decide), Sql.bind_of_ok (addSessions_versionTwo ..)]
  rfl

theorem initializeDatabase_versionOne (workspaces executions events : List (List Value)) :
    initializeDatabase (versionOne workspaces executions events) [] =
      initializeDatabase
        (versionTwo (workspaces.map (· ++ [.integer 1])) executions events) [] := by
  have one : (versionOne workspaces executions events).version = 1 := rfl
  rw [initializeDatabase_nil, initializeDatabase_nil, one, migrate_one,
    Sql.bind_of_ok (addActive_versionOne ..)]
  rfl

theorem Older.migrates (older : Older file workspaces executions events sessions) :
    initializeDatabase file [] =
      ⟨.ok (), versionFour workspaces executions events sessions, []⟩ := by
  cases older with
  | one workspaces executions events =>
    rw [initializeDatabase_versionOne, initializeDatabase_versionTwo, createTurns_versionThree]
  | two workspaces executions events =>
    rw [initializeDatabase_versionTwo, createTurns_versionThree]
  | three workspaces executions events sessions => exact createTurns_versionThree ..

theorem rowsOf_versionFour (workspaces executions events sessions : List (List Value)) :
    rowsOf (versionFour workspaces executions events sessions) "workspaces" = some workspaces ∧
    rowsOf (versionFour workspaces executions events sessions) "executions" = some executions ∧
    rowsOf (versionFour workspaces executions events sessions) "events" = some events ∧
    rowsOf (versionFour workspaces executions events sessions) "agent_sessions" = some sessions ∧
    rowsOf (versionFour workspaces executions events sessions) "agent_turns" = some [] ∧
    rowsOf (versionFour workspaces executions events sessions) "agent_actions" = some [] :=
  ⟨rfl, rfl, rfl, rfl, rfl, rfl⟩

end Schema

open Schema in
/-- A database of an older schema becomes one of the newest, whatever stopped that before. Its
workspaces, executions, events and sessions are what they were, but that every workspace of version
1 is active and no execution of versions 1 and 2 belongs to a session. There are no turns and no
actions in it. -/
theorem older_migrates {file : File} {workspaces executions events sessions : List (List Value)}
    (older : Older file workspaces executions events sessions) (opens : List (Faults Error)) :
    (initializeDatabase (opened file opens) []).result = .ok () ∧
      Current (initializeDatabase (opened file opens) []).state ∧
      (initializeDatabase (opened file opens) []).state =
        versionFour workspaces executions events sessions ∧
      rowsOf (versionFour workspaces executions events sessions) "workspaces" = some workspaces ∧
      rowsOf (versionFour workspaces executions events sessions) "executions" = some executions ∧
      rowsOf (versionFour workspaces executions events sessions) "events" = some events ∧
      rowsOf (versionFour workspaces executions events sessions) "agent_sessions" =
        some sessions ∧
      rowsOf (versionFour workspaces executions events sessions) "agent_turns" = some [] ∧
      rowsOf (versionFour workspaces executions events sessions) "agent_actions" = some [] := by
  rw [initializeDatabase_opened, older.migrates]
  exact ⟨rfl, current_versionFour .., rfl, rowsOf_versionFour ..⟩

open Schema in
/-- The first open fails when it adds the sessions. -/
theorem older_migrates_legacy :
    rowsOf (initializeDatabase (opened
        (versionOne [[.text "legacy-id", .text "legacy", .text "/w", .integer 1]] [] [])
        [[none, none, none, none, none, none, some (.database "disk full")]]) []).state
      "workspaces" = some [[.text "legacy-id", .text "legacy", .text "/w", .integer 1,
        .integer 1]] := by
  rw [(older_migrates (.one _ _ _) _).2.2.1]
  exact (older_migrates (.one [[.text "legacy-id", .text "legacy", .text "/w", .integer 1]] [] [])
    []).2.2.2.1

end Loomterm
