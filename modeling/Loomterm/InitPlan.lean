import Loomterm.Misc.Edits
import Loomterm.Misc.Sql
import Loomterm.Onboarding

/-!
# Initialising a repository

`loom init` (`src/onboarding.rs`) plans the configuration of both agents from four files and then
replaces those that change, one after the other, each by a temporary file that is renamed. Any call
of the file system may fail, and so may the removal of the temporary file; a run that is killed is
one whose calls fail from some point on.
-/

namespace Loomterm

/-- What reading a file gives, by its path. -/
abbrev ConfigFiles := Edits.Files String (Except Error String)

/-- `read_optional` (`src/onboarding.rs:432`), of what is there. -/
def readOptional : Option (Except Error String) → Except Error (Option String)
  | none => .ok none
  | some content => content.map some

/-- `skipped` (`src/onboarding.rs:440`). -/
def skipped (path : String) : ConfigPlan := ⟨path, .skip, none⟩

/-- `AgentSelection` (`src/onboarding.rs:12`). -/
structure AgentSelection where
  codex : Bool
  claude : Bool
  deriving DecidableEq, Repr

/-- `InitPlan` (`src/onboarding.rs:35`). -/
structure InitPlan where
  root : String
  name : String
  mcpCommand : String
  loomCommand : String
  codex : ConfigPlan
  codexHooks : ConfigPlan
  claude : ConfigPlan
  claudeHooks : ConfigPlan
  deriving DecidableEq, Repr

/-- What `plan_codex` uses of `toml_edit`. `lookup` is a table within a table and `insert` sets
one; the error of `insert` is a panic. -/
structure TomlEdit where
  Document : Type
  Item : Type
  parse : String → Except String Document
  print : Document → String
  value : String → String
  lookup : Document → String → String → Option Item
  text : Item → String
  insert : Document → String → String → Item → Except Error Document

/-- An item that was set is read back from the text `content`, and prints as before. -/
def TomlEdit.ReadsBack (toml : TomlEdit) (content : String) : Prop :=
  ∀ document table key item document', toml.insert document table key item = .ok document' →
    content = toml.print document' → ∃ document'' item', toml.parse content = .ok document'' ∧
      toml.lookup document'' table key = some item' ∧ toml.text item' = toml.text item

/-- What `loom init` uses of its environment. -/
structure InitTools where
  read : String → Except String Json
  print : Json → String
  toml : TomlEdit
  env : String → Option String
  canonicalize : String → Except Error String
  isDir : String → Bool
  fileName : String → Option String

/-! ## The plans -/

/-- The configuration that `plan_codex` wants. -/
def codexServer (command : String) : String :=
  "[mcp_servers.loomterm]\n" ++
  "command = " ++ command ++ "\n" ++
  "cwd = \".\"\n" ++
  "env_vars = [\"LOOMTERM_CONFIG\", \"LOOMTERM_STATE_DIR\", " ++
  "\"LOOMTERM_RUNTIME_DIR\", \"LOOMTERM_SESSION_ID\", " ++
  "\"LOOMTERM_AGENT_KIND\"]\n" ++
  "startup_timeout_sec = 30\n" ++
  "tool_timeout_sec = 90\n" ++
  "required = true\n" ++
  "default_tools_approval_mode = \"writes\"\n"

/-- `plan_codex` (`src/onboarding.rs:311`). -/
def planCodex (toml : TomlEdit) (path : String) (source : Except Error (Option String))
    (command : String) (force : Bool) : Except Error ConfigPlan := do
  let source ← source
  let document ← (toml.parse (source.getD "")).mapError fun error =>
    .config (path ++ ": " ++ error)
  let desired ← (toml.parse (codexServer (toml.value command))).mapError fun error =>
    .config ("could not build Codex configuration: " ++ error)
  -- the source indexes the document that it has just parsed, and would panic
  let some desiredItem := toml.lookup desired "mcp_servers" "loomterm"
    | .error (.config "index not found")
  let write (action : ConfigAction) : Except Error ConfigPlan := do
    let document ← toml.insert document "mcp_servers" "loomterm" desiredItem
    .ok ⟨path, action, some (toml.print document)⟩
  match toml.lookup document "mcp_servers" "loomterm" with
  | some item =>
      if toml.text item = toml.text desiredItem then .ok ⟨path, .unchanged, none⟩
      else if !force then .error (collision path)
      else write .replace
  | none => write .create

/-- The server that `plan_claude` wants. -/
def claudeServer (command : String) : Json :=
  .object [("args", .array []), ("command", .string command), ("env", .object []),
    ("type", .string "stdio")]

/-- `plan_claude` (`src/onboarding.rs:365`). -/
def planClaude (read : String → Except String Json) (print : Json → String) (path : String)
    (source : Except Error (Option String)) (command : String) (force : Bool) :
    Except Error ConfigPlan := do
  let root ← readDocument read path (← source)
  let some fields := root.asObject
    | .error (.config (path ++ ": root must be a JSON object"))
  let some servers := ((Json.field "mcpServers" fields).getD (.object [])).asObject
    | .error (.config (path ++ ": mcpServers must be a JSON object"))
  let desired := claudeServer command
  let root := Json.object (Json.putField "mcpServers"
    (.object (Json.putField "loomterm" desired servers)) fields)
  match Json.field "loomterm" servers with
  | some current =>
      if current = desired then .ok ⟨path, .unchanged, none⟩
      else if !force then .error (collision path)
      else .ok ⟨path, .replace, some (print root ++ "\n")⟩
  | none => .ok ⟨path, .create, some (print root ++ "\n")⟩

/-- `Path::join`, of a relative path. -/
def joinPath (root relative : String) : String :=
  if root.endsWith "/" then root ++ relative else root ++ "/" ++ relative

/-- `Path::with_file_name`. -/
def withFileName (path name : String) : String :=
  .ofList ((path.toList.reverse.dropWhile (· ≠ '/')).reverse ++ name.toList)

/-- The plan of one file, from what the file holds. -/
structure ConfigPlanner where
  path : String
  plan : Except Error (Option String) → Except Error ConfigPlan

def ConfigPlanner.run (planner : ConfigPlanner) (files : ConfigFiles) : Except Error ConfigPlan :=
  planner.plan (readOptional (files planner.path))

section

variable (tools : InitTools) (root mcpCommand : String) (chosen force : Bool)

/-! The four plans of `plan_with_command`; nothing is read for an agent that is not chosen. -/

def codexPlanner : ConfigPlanner :=
  let path := joinPath root ".codex/config.toml"
  { path
    plan := fun source =>
      if chosen then planCodex tools.toml path source mcpCommand force else .ok (skipped path) }

def codexHooksPlanner : ConfigPlanner :=
  let path := joinPath root ".codex/hooks.json"
  { path
    plan := fun source =>
      if chosen then
        planHooks tools.read tools.print path source (withFileName mcpCommand "loom") "codex"
          tools.env force
      else .ok (skipped path) }

def claudePlanner : ConfigPlanner :=
  let path := joinPath root ".mcp.json"
  { path
    plan := fun source =>
      if chosen then planClaude tools.read tools.print path source mcpCommand force
      else .ok (skipped path) }

def claudeHooksPlanner : ConfigPlanner :=
  let path := joinPath root ".claude/settings.json"
  { path
    plan := fun source =>
      if chosen then
        planHooks tools.read tools.print path source (withFileName mcpCommand "loom") "claude"
          tools.env force
      else .ok (skipped path) }

end

/-- The arguments of `plan` (`src/onboarding.rs:46`). -/
structure InitArgs where
  root : String
  name : Option String
  agents : AgentSelection
  force : Bool
  deriving DecidableEq, Repr

/-- The name of the workspace. -/
def InitArgs.workspaceName (args : InitArgs) (tools : InitTools) (root : String) : String :=
  args.name.getD ((tools.fileName root).getD "workspace")

/-- `plan_with_command` (`src/onboarding.rs:55`). -/
def planWithCommand (tools : InitTools) (mcpCommand : String) (args : InitArgs)
    (files : ConfigFiles) : Except Error InitPlan := do
  let root ← tools.canonicalize args.root
  if !tools.isDir root then
    .error (.invalidRequest ("workspace root is not a directory: " ++ root))
  else if isBlank (args.workspaceName tools root) then
    .error (.invalidRequest "workspace name must not be empty")
  else
    let codex ← (codexPlanner tools root mcpCommand args.agents.codex args.force).run files
    let codexHooks ←
      (codexHooksPlanner tools root mcpCommand args.agents.codex args.force).run files
    let claude ← (claudePlanner tools root mcpCommand args.agents.claude args.force).run files
    let claudeHooks ←
      (claudeHooksPlanner tools root mcpCommand args.agents.claude args.force).run files
    .ok {
      root, mcpCommand, codex, codexHooks, claude, claudeHooks
      name := args.workspaceName tools root
      loomCommand := withFileName mcpCommand "loom" }

/-- The files in the order in which `apply` writes them. -/
def InitPlan.configs (plan : InitPlan) : List ConfigPlan :=
  [plan.codex, plan.codexHooks, plan.claude, plan.claudeHooks]

/-! ## Writing -/

abbrev Script := Sql ConfigFiles Error Unit

/-- A call of the file system. -/
def fileCall (effect : ConfigFiles → Except Error ConfigFiles) : Script :=
  Sql.statement fun files => (effect files).map fun files' => ((), files')

/-- Runs the second script if the first fails, whose error is returned. -/
def withCleanup (script cleanup : Script) : Script := fun files faults =>
  match script files faults with
  | ⟨.ok value, files', faults'⟩ => ⟨.ok value, files', faults'⟩
  | ⟨.error e, files', faults'⟩ =>
      let left := cleanup files' faults'
      ⟨.error e, left.state, left.faults⟩

/-- `write_all`, in the pieces that the calls take. -/
def writeAll (temporary written : String) : List String → Script
  | [] => pure ()
  | piece :: rest => do
      fileCall fun files =>
        .ok (Function.update files temporary (some (.ok (written ++ piece))))
      writeAll temporary (written ++ piece) rest

/-- The name of a temporary file beside `path`. -/
def temporaryPath (path uuid : String) : String :=
  withFileName path (".loomterm-" ++ uuid ++ ".tmp")

def IsTemporary (path : String) : Prop := ∃ target uuid, path = temporaryPath target uuid

/-- Gives the temporary file the mode of the one that it is to replace. What a file holds is not
changed by it. -/
def copyPermissions (path : String) : Script := fun files =>
  if (files path).isSome then fileCall .ok files else Sql.ret () files

/-- `write_atomic` (`src/onboarding.rs:455`), of a text in pieces. -/
def writeAtomic (path temporary : String) (pieces : List String) : Script := do
  fileCall .ok
  withCleanup
    (do
      fileCall fun files =>
        if (files temporary).isSome then .error (.io "File exists")
        else .ok (Function.update files temporary (some (.ok "")))
      writeAll temporary "" pieces
      fileCall .ok
      copyPermissions path
      fileCall fun files =>
        .ok (Function.update (Function.update files path (files temporary)) temporary none))
    (fileCall fun files => .ok (Function.update files temporary none))

/-- How a text is cut into what single calls write, and the names of temporary files. -/
structure Writing where
  split : String → List String
  whole : ∀ text, (split text).foldl (· ++ ·) "" = text
  uuid : Nat → String

/-- The loop of `apply`. -/
def applyConfigs (writing : Writing) : Nat → List ConfigPlan → Script
  | _, [] => pure ()
  | n, config :: rest => do
      match config.content with
      | some content =>
          writeAtomic config.path (temporaryPath config.path (writing.uuid n))
            (writing.split content)
      | none => pure ()
      applyConfigs writing (n + 1) rest

/-- `apply` (`src/onboarding.rs:117`). -/
def InitPlan.apply (plan : InitPlan) (writing : Writing) : Script :=
  applyConfigs writing 0 plan.configs

/-! ## The commands -/

/-- `loom init` (`src/bin/loom.rs:403`), up to what it prints; `registered` is what the daemon
answers to `add_workspace`. -/
def initialise (tools : InitTools) (writing : Writing) (mcpCommand : String) (args : InitArgs)
    (registered : Except Error Unit) : Script := fun files faults =>
  match planWithCommand tools mcpCommand args files with
  | .error e => ⟨.error e, files, faults⟩
  | .ok plan =>
      match registered with
      | .error e => ⟨.error e, files, faults⟩
      | .ok _ => plan.apply writing files faults

/-- `AgentProviderArg` (`src/bin/loom.rs:141`). -/
inductive AgentProviderArg where
  | codex
  | claude
  deriving DecidableEq, Repr

def AgentProviderArg.asStr : AgentProviderArg → String
  | .codex => "codex"
  | .claude => "claude"

def AgentProviderArg.selection : AgentProviderArg → AgentSelection
  | .codex => ⟨true, false⟩
  | .claude => ⟨false, true⟩

/-- `ensure_agent_integration` (`src/bin/loom.rs:1033`). -/
def ensureAgentIntegration (tools : InitTools) (mcpCommand root : String)
    (provider : AgentProviderArg) (files : ConfigFiles) : Except Error Unit := do
  let plan ← (planWithCommand tools mcpCommand
      { root, name := none, agents := provider.selection, force := false } files).mapError
    fun error => .config (provider.asStr ++ " integration is not ready: " ++ error.toString ++
      "; run `loom init --agent " ++ provider.asStr ++ "`")
  let ready : Bool := match provider with
    | .codex =>
        decide (plan.codex.action = .unchanged) && decide (plan.codexHooks.action = .unchanged)
    | .claude =>
        decide (plan.claude.action = .unchanged) && decide (plan.claudeHooks.action = .unchanged)
  if ready then .ok ()
  else
    .error (.config (provider.asStr ++ " integration is not initialized; run `loom init --agent " ++
      provider.asStr ++ "`"))

/-! ## Writing one file -/

section

variable {files : ConfigFiles} {path temporary text : String}

/-- A file is replaced as a whole or not at all, and nothing else changes but the temporary one. -/
def Replaced (path temporary text : String) (files : ConfigFiles) (result : Except Error Unit)
    (files' : ConfigFiles) : Prop :=
  (∀ other, other ≠ path → other ≠ temporary → files' other = files other) ∧
    match result with
    | .ok _ => files' path = some (.ok text) ∧ files' temporary = none
    | .error _ => files' path = files path

theorem post_fileCall {effect : ConfigFiles → Except Error ConfigFiles}
    {Q : Except Error Unit → ConfigFiles → Prop} (failed : ∀ e, Q (.error e) files)
    (done : ∀ files', effect files = .ok files' → Q (.ok ()) files') :
    Sql.Post (fun _ => True) (fileCall effect) files Q := by
  refine Sql.post_statement (fun e _ => failed e) ?_
  cases ran : effect files with
  | ok files' => exact done files' ran
  | error e => exact failed e

theorem post_withCleanup {script cleanup : Script} {Q : Except Error Unit → ConfigFiles → Prop}
    (holds : Sql.Post (fun _ => True) script files fun r files' => match r with
      | .ok value => Q (.ok value) files'
      | .error e => Sql.Post (fun _ => True) cleanup files' fun _ files'' => Q (.error e) files'') :
    Sql.Post (fun _ => True) (withCleanup script cleanup) files Q := by
  intro faults allowed
  have all := holds faults allowed
  unfold withCleanup
  cases ran : script files faults with
  | mk result files' rest =>
    rw [ran] at all
    cases result with
    | ok value => exact all
    | error e => exact all.1 rest all.2

theorem post_writeAll (pieces : List String) {written : String}
    (held : files temporary = some (.ok written)) :
    Sql.Post (fun _ => True) (writeAll temporary written pieces) files fun r files' =>
      (∀ other, other ≠ temporary → files' other = files other) ∧
        (r = .ok () → files' temporary = some (.ok (pieces.foldl (· ++ ·) written))) := by
  induction pieces generalizing files written with
  | nil => exact Sql.post_pure ⟨fun _ _ => rfl, fun _ => held⟩
  | cons piece rest ih =>
    refine Sql.post_bind (post_fileCall (fun e => ⟨fun _ _ => rfl, by rintro ⟨⟩⟩) ?_)
    rintro files' ⟨⟩
    have later := ih (Function.update_self temporary (some (.ok (written ++ piece))) files)
    refine later.mono fun r files'' ⟨others, whole⟩ => ⟨fun other different => ?_, whole⟩
    rw [others other different, Function.update_of_ne different]

theorem post_copyPermissions (path : String) :
    Sql.Post (fun _ => True) (copyPermissions path) files fun _ files' => files' = files := by
  intro faults allowed
  unfold copyPermissions
  by_cases there : (files path).isSome
  · rw [if_pos there]
    have called : Sql.Post (fun _ => True) (fileCall .ok) files fun _ files' => files' = files :=
      post_fileCall (fun _ => rfl) fun _ same => (Except.ok.inj same).symm
    exact called faults allowed
  · rw [if_neg there]
    exact ⟨rfl, allowed⟩

theorem post_writeAtomic (pieces : List String) (different : path ≠ temporary)
    (whole : pieces.foldl (· ++ ·) "" = text) :
    Sql.Post (fun _ => True) (writeAtomic path temporary pieces) files
      (Replaced path temporary text files) := by
  have unchanged (e : Error) : Replaced path temporary text files (.error e) files :=
    ⟨fun _ _ _ => rfl, rfl⟩
  -- whatever fails behind the creation of the temporary file, only that file has changed
  have cleaned {files' : ConfigFiles} (e : Error)
      (others : ∀ other, other ≠ temporary → files' other = files other) :
      Sql.Post (fun _ => True)
        (fileCall fun files => .ok (Function.update files temporary none)) files'
        fun _ files'' => Replaced path temporary text files (.error e) files'' := by
    refine post_fileCall (fun _ => ⟨fun other _ => others other, others path different⟩) ?_
    rintro files'' ⟨⟩
    refine ⟨fun other _ outside => ?_, ?_⟩
    · rw [Function.update_of_ne outside, others other outside]
    · show Function.update files' temporary none path = files path
      rw [Function.update_of_ne different, others path different]
  refine Sql.post_bind (post_fileCall unchanged ?_)
  rintro _ ⟨⟩
  refine post_withCleanup (Sql.post_bind (post_fileCall (fun e => cleaned e fun _ _ => rfl) ?_))
  intro created opened
  have fresh : created = Function.update files temporary (some (.ok "")) := by
    split at opened
    · cases opened
    · exact (Except.ok.inj opened).symm
  subst fresh
  refine Sql.post_bind ((post_writeAll pieces (Function.update_self ..)).mono ?_)
  intro r files' ⟨kept, written⟩
  have others (other : String) (outside : other ≠ temporary) : files' other = files other := by
    rw [kept other outside, Function.update_of_ne outside]
  cases r with
  | error e => exact cleaned e others
  | ok _ =>
    refine Sql.post_bind (post_fileCall (fun e => cleaned e others) ?_)
    rintro _ ⟨⟩
    refine Sql.post_bind ((post_copyPermissions path).mono ?_)
    rintro r now rfl
    cases r with
    | error e => exact cleaned e others
    | ok _ =>
      refine post_fileCall (fun e => cleaned e others) ?_
      rintro _ ⟨⟩
      refine ⟨fun other apart outside => ?_, ?_⟩
      · rw [Function.update_of_ne outside, Function.update_of_ne apart, others other outside]
      · refine ⟨?_, Function.update_self ..⟩
        show Function.update (Function.update now path (now temporary)) temporary none path =
          some (Except.ok text)
        rw [Function.update_of_ne different, Function.update_self, written rfl, whole]

/-- Where no call fails, the script does not fail. -/
def Ends (script : Script) (files : ConfigFiles) : Prop :=
  ∃ files', script files [] = ⟨.ok (), files', []⟩

theorem ends_bind {first : Script} {rest : Unit → Script} {files' : ConfigFiles}
    (done : first files [] = ⟨.ok (), files', []⟩) (later : Ends (rest ()) files') :
    Ends (first >>= rest) files := by
  obtain ⟨files'', ran⟩ := later
  refine ⟨files'', ?_⟩
  show Sql.andThen first rest files [] = _
  unfold Sql.andThen
  rw [done]
  exact ran

theorem fileCall_nil {effect : ConfigFiles → Except Error ConfigFiles} {files' : ConfigFiles}
    (done : effect files = .ok files') : fileCall effect files [] = ⟨.ok (), files', []⟩ := by
  unfold fileCall Sql.statement
  simp only [done, Except.map, List.tail_nil]

theorem writeAll_ends (files : ConfigFiles) (temporary written : String) (pieces : List String) :
    Ends (writeAll temporary written pieces) files := by
  induction pieces generalizing files written with
  | nil => exact ⟨files, rfl⟩
  | cons piece rest ih => exact ends_bind (fileCall_nil rfl) (ih _ (written ++ piece))

theorem copyPermissions_nil (path : String) :
    copyPermissions path files [] = ⟨.ok (), files, []⟩ := by
  unfold copyPermissions
  by_cases there : (files path).isSome
  · rw [if_pos there, fileCall_nil rfl]
  · rw [if_neg there]
    rfl

theorem withCleanup_ends {script cleanup : Script} (ends : Ends script files) :
    Ends (withCleanup script cleanup) files := by
  obtain ⟨files', ran⟩ := ends
  refine ⟨files', ?_⟩
  unfold withCleanup
  rw [ran]

/-- A temporary file of a new name is enough. -/
theorem writeAtomic_ends (path : String) (pieces : List String) (fresh : files temporary = none) :
    Ends (writeAtomic path temporary pieces) files := by
  have opened : (if (files temporary).isSome then Except.error (Error.io "File exists")
      else Except.ok (Function.update files temporary (some (.ok "")))) =
        .ok (Function.update files temporary (some (.ok ""))) := by
    rw [fresh]
    rfl
  obtain ⟨written, wrote⟩ :=
    writeAll_ends (Function.update files temporary (some (.ok ""))) temporary "" pieces
  refine ends_bind (fileCall_nil rfl) (withCleanup_ends ?_)
  refine ends_bind (fileCall_nil opened) (ends_bind wrote ?_)
  refine ends_bind (fileCall_nil rfl) (ends_bind (copyPermissions_nil path) ?_)
  exact ⟨_, fileCall_nil rfl⟩

end

/-! ## Planning again -/

/-- A file for which nothing is to be written is left alone with any force, and so is one that
holds what was to be written. -/
structure Settling (planner : Bool → ConfigPlanner) (readsBack : String → Prop) : Prop where
  quiet : ∀ force source config, (planner force).plan source = .ok config →
    config.content = none → ∀ force', (planner force').plan source =
      .ok ⟨(planner force').path, .unchanged, none⟩
  again : ∀ force source config content, (planner force).plan source = .ok config →
    config.content = some content → readsBack content → ∀ force',
      (planner force').plan (.ok (some content)) = .ok ⟨(planner force').path, .unchanged, none⟩

section

variable {toml : TomlEdit} {path command : String} {source : Except Error (Option String)}
  {force : Bool} {config : ConfigPlan}

theorem planCodex_ok (planned : planCodex toml path source command force = .ok config) :
    ∃ text document desired item, source = .ok text ∧
      toml.parse (text.getD "") = .ok document ∧
      toml.parse (codexServer (toml.value command)) = .ok desired ∧
      toml.lookup desired "mcp_servers" "loomterm" = some item ∧
      ((∃ current, toml.lookup document "mcp_servers" "loomterm" = some current ∧
          toml.text current = toml.text item ∧ config = ⟨path, .unchanged, none⟩) ∨
        ∃ action document', toml.insert document "mcp_servers" "loomterm" item = .ok document' ∧
          config = ⟨path, action, some (toml.print document')⟩) := by
  unfold planCodex at planned
  cases source with
  | error e => cases planned
  | ok text =>
    cases parsed : toml.parse (text.getD "") with
    | error e =>
      simp only [parsed, bind, Except.bind, Except.mapError] at planned
      cases planned
    | ok document =>
      cases wanted : toml.parse (codexServer (toml.value command)) with
      | error e =>
        simp only [parsed, wanted, bind, Except.bind, Except.mapError] at planned
        cases planned
      | ok desired =>
        cases found : toml.lookup desired "mcp_servers" "loomterm" with
        | none =>
          simp only [parsed, wanted, found, bind, Except.bind, Except.mapError] at planned
          cases planned
        | some item =>
          simp only [parsed, wanted, found, bind, Except.bind, Except.mapError] at planned
          refine ⟨text, document, desired, item, rfl, parsed, rfl, found, ?_⟩
          cases inserted : toml.insert document "mcp_servers" "loomterm" item with
          | error e =>
            simp only [inserted] at planned
            split at planned
            · rename_i current there
              split at planned
              · rename_i same
                exact .inl ⟨current, there, same, (Except.ok.inj planned).symm⟩
              · split at planned <;> cases planned
            · cases planned
          | ok document' =>
            simp only [inserted] at planned
            split at planned
            · rename_i current there
              split at planned
              · rename_i same
                exact .inl ⟨current, there, same, (Except.ok.inj planned).symm⟩
              · split at planned
                · cases planned
                · exact .inr ⟨_, document', rfl, (Except.ok.inj planned).symm⟩
            · exact .inr ⟨_, document', rfl, (Except.ok.inj planned).symm⟩

theorem planCodex_settled {text : Option String} {document desired : toml.Document}
    {current item : toml.Item} (parsed : toml.parse (text.getD "") = .ok document)
    (wanted : toml.parse (codexServer (toml.value command)) = .ok desired)
    (found : toml.lookup desired "mcp_servers" "loomterm" = some item)
    (there : toml.lookup document "mcp_servers" "loomterm" = some current)
    (same : toml.text current = toml.text item) :
    planCodex toml path (.ok text) command force = .ok ⟨path, .unchanged, none⟩ := by
  unfold planCodex
  simp only [parsed, wanted, found, there, same, bind, Except.bind, Except.mapError, if_true]

theorem planCodex_path (planned : planCodex toml path source command force = .ok config) :
    config.path = path := by
  obtain ⟨_, _, _, _, -, -, -, -, ⟨_, -, -, rfl⟩ | ⟨_, _, -, rfl⟩⟩ := planCodex_ok planned
  · rfl
  · rfl

theorem planCodex_settling (toml : TomlEdit) (path command : String)
    (planner : Bool → ConfigPlanner)
    (same : ∀ force, planner force =
      ⟨path, fun source => planCodex toml path source command force⟩) :
    Settling planner toml.ReadsBack := by
  simp only [funext same]
  refine ⟨fun force source config planned quiet force' => ?_,
    fun force source config content planned written reads force' => ?_⟩
  · obtain ⟨text, document, desired, item, rfl, parsed, wanted, found, kept | changed⟩ :=
      planCodex_ok planned
    · obtain ⟨current, there, alike, -⟩ := kept
      exact planCodex_settled parsed wanted found there alike
    · obtain ⟨action, document', -, rfl⟩ := changed
      cases quiet
  · obtain ⟨text, document, desired, item, rfl, parsed, wanted, found, kept | changed⟩ :=
      planCodex_ok planned
    · obtain ⟨current, there, alike, rfl⟩ := kept
      cases written
    · obtain ⟨action, document', inserted, rfl⟩ := changed
      cases written
      obtain ⟨again, item', back, there, alike⟩ := reads _ _ _ _ _ inserted rfl
      exact planCodex_settled back wanted found there alike

end

section

variable {read : String → Except String Json} {print : Json → String} {path command : String}
  {source : Except Error (Option String)} {force : Bool} {config : ConfigPlan}

/-- The document with the server of Loomterm. -/
def claudeDocument (command : String) (fields servers : List (String × Json)) : Json :=
  .object (Json.putField "mcpServers"
    (.object (Json.putField "loomterm" (claudeServer command) servers)) fields)

theorem planClaude_ok (planned : planClaude read print path source command force = .ok config) :
    ∃ text fields servers, source = .ok text ∧
      readDocument read path text = .ok (.object fields) ∧
      (Json.field "mcpServers" fields).getD (.object []) = .object servers ∧
      ((Json.field "loomterm" servers = some (claudeServer command) ∧
          config = ⟨path, .unchanged, none⟩) ∨
        ∃ action, config =
          ⟨path, action, some (print (claudeDocument command fields servers) ++ "\n")⟩) := by
  unfold planClaude at planned
  cases source with
  | error e => cases planned
  | ok text =>
    cases document : readDocument read path text with
    | error e =>
      simp only [document, bind, Except.bind] at planned
      cases planned
    | ok root =>
      simp only [document, bind, Except.bind] at planned
      cases root with
      | object fields =>
        simp only [Json.asObject] at planned
        cases entry : (Json.field "mcpServers" fields).getD (.object []) with
        | object servers =>
          simp only [entry] at planned
          refine ⟨text, fields, servers, rfl, document, entry, ?_⟩
          split at planned
          · rename_i current there
            split at planned
            · rename_i same
              exact .inl ⟨same ▸ there, (Except.ok.inj planned).symm⟩
            · split at planned
              · cases planned
              · exact .inr ⟨_, (Except.ok.inj planned).symm⟩
          · exact .inr ⟨_, (Except.ok.inj planned).symm⟩
        | _ =>
          simp only [entry] at planned
          cases planned
      | _ => cases planned

theorem planClaude_settled {text : Option String} {fields servers : List (String × Json)}
    (document : readDocument read path text = .ok (.object fields))
    (entry : (Json.field "mcpServers" fields).getD (.object []) = .object servers)
    (there : Json.field "loomterm" servers = some (claudeServer command)) :
    planClaude read print path (.ok text) command force = .ok ⟨path, .unchanged, none⟩ := by
  unfold planClaude
  simp only [document, bind, Except.bind, Json.asObject, entry, there, if_true]

theorem mapFloats_claudeServer (round : UInt64 → UInt64) (command : String) :
    (claudeServer command).mapFloats round = claudeServer command := by
  simp [claudeServer, Json.mapFloats, Json.mapFloatsFields, Json.mapFloatsValues]

/-- What `serde_json` reads of a text that it has printed. -/
def JsonReadsBack (read : String → Except String Json) (print : Json → String)
    (content : String) : Prop :=
  ∀ document, content = print document ++ "\n" →
    ∃ round, read content = .ok (document.mapFloats round)

theorem planClaude_path (planned : planClaude read print path source command force = .ok config) :
    config.path = path := by
  obtain ⟨_, _, _, -, -, -, ⟨-, rfl⟩ | ⟨_, rfl⟩⟩ := planClaude_ok planned
  · rfl
  · rfl

theorem planClaude_settling (path command : String) (planner : Bool → ConfigPlanner)
    (same : ∀ force, planner force =
      ⟨path, fun source => planClaude read print path source command force⟩) :
    Settling planner (JsonReadsBack read print) := by
  simp only [funext same]
  refine ⟨fun force source config planned quiet force' => ?_,
    fun force source config content planned written reads force' => ?_⟩
  · obtain ⟨text, fields, servers, rfl, document, entry, kept | changed⟩ := planClaude_ok planned
    · exact planClaude_settled document entry kept.1
    · obtain ⟨action, rfl⟩ := changed
      cases quiet
  · obtain ⟨text, fields, servers, rfl, document, entry, kept | changed⟩ := planClaude_ok planned
    · obtain ⟨-, rfl⟩ := kept
      cases written
    · obtain ⟨action, rfl⟩ := changed
      cases written
      obtain ⟨round, back⟩ := reads _ rfl
      rw [claudeDocument, Json.mapFloats_object] at back
      have document' : readDocument read path
          (some (print (claudeDocument command fields servers) ++ "\n")) =
            .ok (.object (Json.mapFloatsFields round (Json.putField "mcpServers"
              (.object (Json.putField "loomterm" (claudeServer command) servers)) fields))) := by
        rw [readDocument, claudeDocument, back]
        rfl
      have entry' : (Json.field "mcpServers" (Json.mapFloatsFields round
          (Json.putField "mcpServers" (.object (Json.putField "loomterm" (claudeServer command)
            servers)) fields))).getD (.object []) =
              .object (Json.mapFloatsFields round
                (Json.putField "loomterm" (claudeServer command) servers)) := by
        rw [Json.field_mapFloatsFields, Json.field_putField_self, Option.map_some,
          Option.getD_some, Json.mapFloats_object]
      refine planClaude_settled document' entry' ?_
      rw [Json.field_mapFloatsFields, Json.field_putField_self, Option.map_some,
        mapFloats_claudeServer]

end

section

variable {read : String → Except String Json} {print : Json → String} {path command : String}
  {provider : String} {env : String → Option String} {source : Except Error (Option String)}
  {force : Bool} {config : ConfigPlan}

theorem planHooks_quiet
    (planned : planHooks read print path source command provider env force = .ok config)
    (quiet : config.content = none) (force' : Bool) :
    planHooks read print path source command provider env force' =
      .ok ⟨path, .unchanged, none⟩ := by
  obtain ⟨text, fields, hooks, survey, rfl, document, entry, passed, -, -⟩ := planHooks_ok planned
  unfold planHooks at planned ⊢
  simp only [document, bind, Except.bind, Json.asObject, entry, passed] at planned ⊢
  split at planned
  · cases planned
  · split at planned
    · rename_i settled
      obtain ⟨fresh, exact_⟩ : survey.stale = false ∧
          survey.exactEvents = (hookEvents provider).length := by simpa using settled
      simp [fresh, exact_]
    · cases planned
      cases quiet

theorem planHooks_path
    (planned : planHooks read print path source command provider env force = .ok config) :
    config.path = path := by
  obtain ⟨text, fields, hooks, survey, rfl, document, entry, passed, -, -⟩ := planHooks_ok planned
  unfold planHooks at planned
  simp only [document, bind, Except.bind, Json.asObject, entry, passed] at planned
  split at planned
  · cases planned
  · split at planned
    · exact (Except.ok.inj planned) ▸ rfl
    · exact (Except.ok.inj planned) ▸ rfl

theorem planHooks_settling (path command provider : String) (env : String → Option String)
    (planner : Bool → ConfigPlanner)
    (same : ∀ force, planner force =
      ⟨path, fun source => planHooks read print path source command provider env force⟩) :
    Settling planner (JsonReadsBack read print) := by
  simp only [funext same]
  exact ⟨fun force source config planned quiet force' => planHooks_quiet planned quiet force',
    fun force source config content planned written reads force' =>
      planHooks_again planned written reads⟩

end

end Loomterm
