import Loomterm.InitPlan

/-!
# Initialising again

`loom init` registers the workspace between its plans and its writes, and may end anywhere. Its
four editors settle, so it can be run again until it succeeds.
-/

namespace Loomterm

/-! ## The editors -/

def ConfigPlan.edit (config : ConfigPlan) : Edits.Edit String (Except Error String) :=
  ⟨config.path, config.content.map .ok⟩

def ConfigPlanner.editor (planner : ConfigPlanner) :
    Edits.Editor String (Except Error String) Error where
  path := planner.path
  plan := fun held => (planner.plan (readOptional held)).map fun config => config.content.map .ok

/-- The planners in the order in which `plan_with_command` calls them. -/
def planners (tools : InitTools) (root mcpCommand : String) (agents : AgentSelection)
    (force : Bool) : List ConfigPlanner :=
  [codexPlanner tools root mcpCommand agents.codex force,
    codexHooksPlanner tools root mcpCommand agents.codex force,
    claudePlanner tools root mcpCommand agents.claude force,
    claudeHooksPlanner tools root mcpCommand agents.claude force]

def editors (tools : InitTools) (root mcpCommand : String) (agents : AgentSelection)
    (force : Bool) : List (Edits.Editor String (Except Error String) Error) :=
  (planners tools root mcpCommand agents force).map ConfigPlanner.editor

def InitPlan.edits (plan : InitPlan) : List (Edits.Edit String (Except Error String)) :=
  plan.configs.map ConfigPlan.edit

/-- The planner of one file, for an agent that is chosen or not and with force or without. -/
structure PlansFile (planner : Bool → Bool → ConfigPlanner) (path : String)
    (readsBack : String → Prop) : Prop where
  place : ∀ chosen force, (planner chosen force).path = path
  named : ∀ chosen force source config, (planner chosen force).plan source = .ok config →
    config.path = path
  unchosen : ∀ force source, (planner false force).plan source = .ok (skipped path)
  settling : Settling (planner true) readsBack

section

variable {planner : Bool → Bool → ConfigPlanner} {path : String} {readsBack : String → Prop}
  {chosen force : Bool} {files files' : ConfigFiles} {config : ConfigPlan}

theorem ConfigPlanner.editor_run {planner : ConfigPlanner}
    (planned : planner.run files = .ok config) :
    planner.editor.plan (files planner.editor.path) = .ok (config.content.map .ok) :=
  congrArg (Except.map fun config : ConfigPlan => config.content.map Except.ok) planned

theorem ConfigPlanner.run_of_editor {planner : ConfigPlanner}
    {content : Option (Except Error String)}
    (planned : planner.editor.plan (files planner.editor.path) = .ok content) :
    ∃ config, planner.run files = .ok config := by
  have mapped : (planner.run files).map (fun config => config.content.map Except.ok) =
      .ok content := planned
  cases ran : planner.run files with
  | error e =>
    rw [ran] at mapped
    cases mapped
  | ok config =>
    exact ⟨config, rfl⟩

theorem PlansFile.settles (plans : PlansFile planner path readsBack)
    (planned : (planner chosen force).run files = .ok config)
    (reads : ∀ content, config.content = some content → readsBack content) :
    (planner chosen force).editor.Settles (files (planner chosen force).editor.path) := by
  intro content wanted
  rw [ConfigPlanner.editor_run planned] at wanted
  cases chosen with
  | false =>
    rw [ConfigPlanner.run, plans.unchosen] at planned
    cases planned
    cases wanted
  | true =>
    obtain ⟨text, written, rfl⟩ : ∃ text, config.content = some text ∧ Except.ok text = content :=
      Option.map_eq_some_iff.mp (Except.ok.inj wanted)
    have again := plans.settling.again _ _ _ _ planned written (reads text written) force
    exact congrArg (Except.map fun config : ConfigPlan => config.content.map Except.ok) again

/-- Where the content was written, or none was to be, the file is as it should be. -/
theorem PlansFile.kept (plans : PlansFile planner path readsBack)
    (planned : (planner true force).run files = .ok config)
    (reads : ∀ content, config.content = some content → readsBack content)
    (held : files' config.path = (config.content.map .ok).or (files config.path))
    (force' : Bool) : (planner true force').run files' = .ok ⟨path, .unchanged, none⟩ := by
  rw [plans.named _ _ _ _ planned] at held
  rw [ConfigPlanner.run, plans.place] at planned ⊢
  rw [held]
  cases written : config.content with
  | none =>
    have again := plans.settling.quiet _ _ _ planned written force'
    rwa [plans.place] at again
  | some content =>
    have again := plans.settling.again _ _ _ _ planned written (reads content written) force'
    rwa [plans.place] at again

end

/-! ## The four files -/

section

variable (tools : InitTools) (root mcpCommand : String)

theorem codexPlanner_plans : PlansFile (codexPlanner tools root mcpCommand)
    (joinPath root ".codex/config.toml") tools.toml.ReadsBack where
  place _ _ := rfl
  named chosen force source config planned := by
    cases chosen with
    | false => exact (Except.ok.inj planned) ▸ rfl
    | true => exact @planCodex_path tools.toml _ _ _ _ _ planned
  unchosen _ _ := rfl
  settling := planCodex_settling tools.toml _ mcpCommand _ fun _ => rfl

theorem codexHooksPlanner_plans : PlansFile (codexHooksPlanner tools root mcpCommand)
    (joinPath root ".codex/hooks.json") (JsonReadsBack tools.read tools.print) where
  place _ _ := rfl
  named chosen force source config planned := by
    cases chosen with
    | false => exact (Except.ok.inj planned) ▸ rfl
    | true => exact planHooks_path planned
  unchosen _ _ := rfl
  settling := planHooks_settling _ (withFileName mcpCommand "loom") "codex" tools.env _ fun _ => rfl

theorem claudePlanner_plans : PlansFile (claudePlanner tools root mcpCommand)
    (joinPath root ".mcp.json") (JsonReadsBack tools.read tools.print) where
  place _ _ := rfl
  named chosen force source config planned := by
    cases chosen with
    | false => exact (Except.ok.inj planned) ▸ rfl
    | true => exact planClaude_path planned
  unchosen _ _ := rfl
  settling := planClaude_settling _ mcpCommand _ fun _ => rfl

theorem claudeHooksPlanner_plans : PlansFile (claudeHooksPlanner tools root mcpCommand)
    (joinPath root ".claude/settings.json") (JsonReadsBack tools.read tools.print) where
  place _ _ := rfl
  named chosen force source config planned := by
    cases chosen with
    | false => exact (Except.ok.inj planned) ▸ rfl
    | true => exact planHooks_path planned
  unchosen _ _ := rfl
  settling := planHooks_settling _ (withFileName mcpCommand "loom") "claude" tools.env _ fun _ =>
    rfl

end

/-! ## The paths -/

/-- The paths of the four files in a repository. -/
def configNames : List String :=
  [".codex/config.toml", ".codex/hooks.json", ".mcp.json", ".claude/settings.json"]

theorem editors_paths (tools : InitTools) (root mcpCommand : String) (agents : AgentSelection)
    (force : Bool) : (editors tools root mcpCommand agents force).map Edits.Editor.path =
      configNames.map (joinPath root) := rfl

theorem joinPath_eq (root : String) : ∃ front, ∀ relative, joinPath root relative =
    front ++ relative := by
  unfold joinPath
  by_cases closed : root.endsWith "/"
  · exact ⟨root, fun relative => if_pos closed⟩
  · exact ⟨root ++ "/", fun relative => if_neg closed⟩

theorem configNames_distinct (root : String) : (configNames.map (joinPath root)).Nodup := by
  obtain ⟨front, joined⟩ := joinPath_eq root
  refine List.Nodup.map (fun left right same => ?_) (by decide : configNames.Nodup)
  rw [joined, joined] at same
  have chars := congrArg String.toList same
  rw [String.toList_append, String.toList_append] at chars
  exact String.toList_inj.mp (List.append_cancel_left chars)

theorem IsTemporary.last {path : String} (temporary : IsTemporary path) :
    path.toList.getLast? = some 'p' := by
  obtain ⟨target, uuid, rfl⟩ := temporary
  unfold temporaryPath withFileName
  rw [String.toList_ofList, String.toList_append, String.toList_append, ← List.append_assoc,
    List.getLast?_append]
  rfl

theorem ne_temporaryPath {path : String} (outside : ¬ IsTemporary path) (target uuid : String) :
    path ≠ temporaryPath target uuid :=
  fun same => outside ⟨target, uuid, same⟩

theorem configName_known {root name : String} (member : name ∈ configNames) :
    ¬ IsTemporary (joinPath root name) := by
  intro temporary
  obtain ⟨front, joined⟩ := joinPath_eq root
  have last := temporary.last
  rw [joined, String.toList_append, List.getLast?_append] at last
  have ends : ∀ name ∈ configNames,
      name.toList.getLast?.isSome ∧ name.toList.getLast? ≠ some 'p' := by decide
  obtain ⟨some_, other⟩ := ends name member
  rw [Option.or_of_isSome some_] at last
  exact other last

/-! ## Planning -/

section

variable {tools : InitTools} {mcpCommand root : String} {args : InitArgs} {files : ConfigFiles}
  {plan : InitPlan}

/-- What `plan_with_command` has checked, and what it has planned. -/
structure Planned (tools : InitTools) (mcpCommand : String) (args : InitArgs)
    (files : ConfigFiles) (plan : InitPlan) : Prop where
  root : tools.canonicalize args.root = .ok plan.root
  directory : tools.isDir plan.root = true
  name : isBlank (args.workspaceName tools plan.root) = false
  codex : (codexPlanner tools plan.root mcpCommand args.agents.codex args.force).run files =
    .ok plan.codex
  codexHooks : (codexHooksPlanner tools plan.root mcpCommand args.agents.codex args.force).run
    files = .ok plan.codexHooks
  claude : (claudePlanner tools plan.root mcpCommand args.agents.claude args.force).run files =
    .ok plan.claude
  claudeHooks : (claudeHooksPlanner tools plan.root mcpCommand args.agents.claude args.force).run
    files = .ok plan.claudeHooks

theorem planWithCommand_ok (planned : planWithCommand tools mcpCommand args files = .ok plan) :
    Planned tools mcpCommand args files plan := by
  unfold planWithCommand at planned
  cases canonical : tools.canonicalize args.root with
  | error e =>
    rw [canonical] at planned
    cases planned
  | ok root =>
    simp only [canonical, bind, Except.bind] at planned
    cases directory : tools.isDir root with
    | false => simp [directory] at planned
    | true =>
      cases named : isBlank (args.workspaceName tools root) with
      | true => simp [directory, named] at planned
      | false =>
        simp only [directory, named, Bool.not_true, Bool.false_eq_true, if_false] at planned
        cases codex : (codexPlanner tools root mcpCommand args.agents.codex args.force).run
            files with
        | error e => simp [codex] at planned
        | ok codex' =>
          cases codexHooks : (codexHooksPlanner tools root mcpCommand args.agents.codex
              args.force).run files with
          | error e => simp [codex, codexHooks] at planned
          | ok codexHooks' =>
            cases claude : (claudePlanner tools root mcpCommand args.agents.claude
                args.force).run files with
            | error e => simp [codex, codexHooks, claude] at planned
            | ok claude' =>
              cases claudeHooks : (claudeHooksPlanner tools root mcpCommand args.agents.claude
                  args.force).run files with
              | error e => simp [codex, codexHooks, claude, claudeHooks] at planned
              | ok claudeHooks' =>
                simp only [codex, codexHooks, claude, claudeHooks, Except.ok.injEq] at planned
                subst planned
                exact ⟨canonical, directory, named, codex, codexHooks, claude, claudeHooks⟩

theorem planWithCommand_of {codex codexHooks claude claudeHooks : ConfigPlan}
    (canonical : tools.canonicalize args.root = .ok root) (directory : tools.isDir root = true)
    (named : isBlank (args.workspaceName tools root) = false)
    (codexRun : (codexPlanner tools root mcpCommand args.agents.codex args.force).run files =
      .ok codex)
    (codexHooksRun : (codexHooksPlanner tools root mcpCommand args.agents.codex args.force).run
      files = .ok codexHooks)
    (claudeRun : (claudePlanner tools root mcpCommand args.agents.claude args.force).run files =
      .ok claude)
    (claudeHooksRun : (claudeHooksPlanner tools root mcpCommand args.agents.claude args.force).run
      files = .ok claudeHooks) :
    planWithCommand tools mcpCommand args files = .ok
      ⟨root, args.workspaceName tools root, mcpCommand, withFileName mcpCommand "loom", codex,
        codexHooks, claude, claudeHooks⟩ := by
  simp only [planWithCommand, canonical, directory, named, codexRun, codexHooksRun, claudeRun,
    claudeHooksRun, bind, Except.bind, Bool.not_true, Bool.false_eq_true, if_false]

theorem editor_of_run {planner : Bool → Bool → ConfigPlanner} {path : String}
    {readsBack : String → Prop} {chosen force : Bool} {config : ConfigPlan}
    (plans : PlansFile planner path readsBack)
    (planned : (planner chosen force).run files = .ok config) :
    (⟨(planner chosen force).editor.path, config.content.map .ok⟩ :
      Edits.Edit String (Except Error String)) = config.edit := by
  unfold ConfigPlan.edit
  rw [plans.named _ _ _ _ planned, ← plans.place chosen force]
  rfl

theorem Planned.planAll (planned : Planned tools mcpCommand args files plan) :
    Edits.planAll (editors tools plan.root mcpCommand args.agents args.force) files =
      .ok plan.edits := by
  unfold editors planners InitPlan.edits InitPlan.configs
  simp only [List.map_cons, List.map_nil]
  rw [← editor_of_run (codexPlanner_plans ..) planned.codex,
    ← editor_of_run (codexHooksPlanner_plans ..) planned.codexHooks,
    ← editor_of_run (claudePlanner_plans ..) planned.claude,
    ← editor_of_run (claudeHooksPlanner_plans ..) planned.claudeHooks]
  exact Edits.planAll_cons (ConfigPlanner.editor_run planned.codex)
    (Edits.planAll_cons (ConfigPlanner.editor_run planned.codexHooks)
      (Edits.planAll_cons (ConfigPlanner.editor_run planned.claude)
        (Edits.planAll_cons (ConfigPlanner.editor_run planned.claudeHooks) rfl)))

/-- Where the four editors plan, the command plans. -/
theorem planWithCommand_of_planAll {edits : List (Edits.Edit String (Except Error String))}
    (canonical : tools.canonicalize args.root = .ok root) (directory : tools.isDir root = true)
    (named : isBlank (args.workspaceName tools root) = false)
    (planned : Edits.planAll (editors tools root mcpCommand args.agents args.force) files =
      .ok edits) :
    ∃ plan, planWithCommand tools mcpCommand args files = .ok plan ∧ plan.root = root ∧
      plan.edits = edits := by
  have plans := Edits.planAll_ok planned
  unfold editors planners at plans
  simp only [List.map_cons, List.map_nil] at plans
  rcases plans with _ | ⟨⟨-, first⟩, _ | ⟨⟨-, second⟩, _ | ⟨⟨-, third⟩, _ | ⟨⟨-, fourth⟩, _⟩⟩⟩⟩
  obtain ⟨codex, codexRun⟩ := ConfigPlanner.run_of_editor first
  obtain ⟨codexHooks, codexHooksRun⟩ := ConfigPlanner.run_of_editor second
  obtain ⟨claude, claudeRun⟩ := ConfigPlanner.run_of_editor third
  obtain ⟨claudeHooks, claudeHooksRun⟩ := ConfigPlanner.run_of_editor fourth
  have done := planWithCommand_of canonical directory named codexRun codexHooksRun claudeRun
    claudeHooksRun
  refine ⟨_, done, rfl, ?_⟩
  have again := (planWithCommand_ok done).planAll
  exact Except.ok.inj (again.symm.trans planned)

end

/-! ## Writing all files -/

section

variable {files files' : ConfigFiles} {configs : List ConfigPlan}

theorem ConfigPlan.edit_apply_some {config : ConfigPlan} {content : String}
    (written : config.content = some content) :
    config.edit.apply files = Function.update files config.path (some (.ok content)) := by
  unfold ConfigPlan.edit Edits.Edit.apply
  rw [written]
  rfl

theorem ConfigPlan.edit_apply_none {config : ConfigPlan} (quiet : config.content = none) :
    config.edit.apply files = files := by
  unfold ConfigPlan.edit Edits.Edit.apply
  rw [quiet]
  rfl

/-- However the writes end, the files up to some one are written and the others are not. -/
theorem post_applyConfigs (writing : Writing) (n : Nat)
    (known : ∀ config ∈ configs, ¬ IsTemporary config.path) :
    Sql.Post (fun _ => True) (applyConfigs writing n configs) files fun r files' =>
      ∃ k, (∀ path, ¬ IsTemporary path →
          files' path = Edits.applyAll files ((configs.map ConfigPlan.edit).take k) path) ∧
        (r = .ok () → k = configs.length) := by
  induction configs generalizing files n with
  | nil => exact Sql.post_pure ⟨0, fun _ _ => rfl, fun _ => rfl⟩
  | cons config rest ih =>
    have later (files : ConfigFiles) := @ih files (n + 1)
      fun config member => known config (List.mem_cons_of_mem _ member)
    -- one more file is done before those of the rest
    have behind {now files' : ConfigFiles} {r : Except Error Unit}
        (here : ∀ path, ¬ IsTemporary path → now path = config.edit.apply files path)
        (rest_ : ∃ k, (∀ path, ¬ IsTemporary path →
            files' path = Edits.applyAll now ((rest.map ConfigPlan.edit).take k) path) ∧
          (r = .ok () → k = rest.length)) :
        ∃ k, (∀ path, ¬ IsTemporary path → files' path =
            Edits.applyAll files (((config :: rest).map ConfigPlan.edit).take k) path) ∧
          (r = .ok () → k = (config :: rest).length) := by
      obtain ⟨k, written, whole⟩ := rest_
      refine ⟨k + 1, fun path outside => ?_, fun done => congrArg (· + 1) (whole done)⟩
      rw [written path outside]
      exact Edits.applyAll_congr _ (here path outside)
    unfold applyConfigs
    cases written : config.content with
    | none =>
      refine (later files).mono fun r files' => behind fun path _ => ?_
      rw [ConfigPlan.edit_apply_none written]
    | some content =>
      have outside := known config List.mem_cons_self
      have different := ne_temporaryPath outside config.path (writing.uuid n)
      refine Sql.post_bind ((post_writeAtomic _ different (writing.whole content)).mono ?_)
      rintro r now ⟨others, result⟩
      have apart {path : String} (other : path ≠ config.path) (outside : ¬ IsTemporary path) :
          now path = files path := others path other (ne_temporaryPath outside _ _)
      cases r with
      | error e =>
        refine ⟨0, fun path outside => ?_, by rintro ⟨⟩⟩
        by_cases here : path = config.path
        · rw [here]
          exact result
        · exact apart here outside
      | ok _ =>
        refine (later now).mono fun r files' => behind fun path outside => ?_
        rw [ConfigPlan.edit_apply_some written]
        by_cases here : path = config.path
        · rw [here, Function.update_self]
          exact result.1
        · rw [Function.update_of_ne here]
          exact apart here outside

/-- No call fails, and no temporary file of the name that is tried is there. -/
theorem applyConfigs_ends (writing : Writing) (n : Nat)
    (known : ∀ config ∈ configs, ¬ IsTemporary config.path)
    (fresh : ∀ config ∈ configs, ∀ n,
      files (temporaryPath config.path (writing.uuid n)) = none) :
    Ends (applyConfigs writing n configs) files := by
  induction configs generalizing files n with
  | nil => exact ⟨files, rfl⟩
  | cons config rest ih =>
    have outside := known config List.mem_cons_self
    have known' (config : ConfigPlan) (member : config ∈ rest) :=
      known config (List.mem_cons_of_mem _ member)
    have fresh' (config : ConfigPlan) (member : config ∈ rest) :=
      fresh config (List.mem_cons_of_mem _ member)
    unfold applyConfigs
    cases written : config.content with
    | none => exact ih (n + 1) known' fresh'
    | some content =>
      have different := ne_temporaryPath outside config.path (writing.uuid n)
      obtain ⟨now, ran⟩ := writeAtomic_ends config.path (writing.split content)
        (fresh config List.mem_cons_self n)
      have replaced := (@post_writeAtomic files _ _ content (writing.split content) different
        (writing.whole content) [] fun _ member => absurd member List.not_mem_nil).1
      rw [ran] at replaced
      obtain ⟨others, -, removed⟩ := replaced
      refine ends_bind ran (ih (n + 1) known' fun config' member m => ?_)
      by_cases same : temporaryPath config'.path (writing.uuid m) =
          temporaryPath config.path (writing.uuid n)
      · rw [same]
        exact removed
      · have apart := ne_temporaryPath outside config'.path (writing.uuid m)
        exact (others _ apart.symm same).trans (fresh' config' member m)

end

/-! ## Running the command again -/

/-- Runs of `loom init` with the same arguments, each of which ended somewhere: at its plans, at the
daemon, which did not register the workspace, or at a call of the file system. -/
inductive InitRuns (tools : InitTools) (mcpCommand : String) (args : InitArgs)
    (files : ConfigFiles) : ConfigFiles → Prop
  | none : InitRuns tools mcpCommand args files files
  | more {files' : ConfigFiles} (writing : Writing) (registered : Except Error Unit)
      (faults : Faults Error) : InitRuns tools mcpCommand args files files' →
      InitRuns tools mcpCommand args files
        (initialise tools writing mcpCommand args registered files' faults).state

/-- The contents that are to be written are read back as they were meant. -/
structure InitPlan.ReadsBack (plan : InitPlan) (tools : InitTools) : Prop where
  codex : ∀ content, plan.codex.content = some content → tools.toml.ReadsBack content
  codexHooks : ∀ content, plan.codexHooks.content = some content →
    JsonReadsBack tools.read tools.print content
  claude : ∀ content, plan.claude.content = some content →
    JsonReadsBack tools.read tools.print content
  claudeHooks : ∀ content, plan.claudeHooks.content = some content →
    JsonReadsBack tools.read tools.print content

def AgentSelection.has (agents : AgentSelection) : AgentProviderArg → Bool
  | .codex => agents.codex
  | .claude => agents.claude

section

variable {tools : InitTools} {mcpCommand : String} {args : InitArgs} {files files' : ConfigFiles}
  {plan : InitPlan}

theorem Planned.edits_paths (planned : Planned tools mcpCommand args files plan) :
    plan.edits.map Edits.Edit.path = configNames.map (joinPath plan.root) :=
  Edits.paths_of_forall₂ (Edits.planAll_ok planned.planAll)

theorem Planned.placed (planned : Planned tools mcpCommand args files plan)
    {config : ConfigPlan} (member : config ∈ plan.configs) :
    ∃ name ∈ configNames, joinPath plan.root name = config.path := by
  have listed : config.edit.path ∈ plan.edits.map Edits.Edit.path :=
    List.mem_map_of_mem (List.mem_map_of_mem member)
  rw [planned.edits_paths] at listed
  exact List.mem_map.mp listed

theorem Planned.known (planned : Planned tools mcpCommand args files plan)
    (config : ConfigPlan) (member : config ∈ plan.configs) : ¬ IsTemporary config.path := by
  obtain ⟨name, named, same⟩ := planned.placed member
  rw [← same]
  exact configName_known named

theorem editors_known {root : String} {editor : Edits.Editor String (Except Error String) Error}
    (member : editor ∈ editors tools root mcpCommand args.agents args.force) :
    ¬ IsTemporary editor.path := by
  have listed : editor.path ∈ (editors tools root mcpCommand args.agents args.force).map
      Edits.Editor.path := List.mem_map_of_mem member
  rw [editors_paths] at listed
  obtain ⟨name, named, same⟩ := List.mem_map.mp listed
  rw [← same]
  exact configName_known named

theorem Planned.settles (planned : Planned tools mcpCommand args files plan)
    (reads : plan.ReadsBack tools) (editor : Edits.Editor String (Except Error String) Error)
    (member : editor ∈ editors tools plan.root mcpCommand args.agents args.force) :
    editor.Settles (files editor.path) := by
  unfold editors planners at member
  simp only [List.map_cons, List.map_nil, List.mem_cons, List.not_mem_nil, or_false] at member
  rcases member with rfl | rfl | rfl | rfl
  · exact (codexPlanner_plans ..).settles planned.codex reads.codex
  · exact (codexHooksPlanner_plans ..).settles planned.codexHooks reads.codexHooks
  · exact (claudePlanner_plans ..).settles planned.claude reads.claude
  · exact (claudeHooksPlanner_plans ..).settles planned.claudeHooks reads.claudeHooks

/-- A run writes the files up to some one, and all of them if it ends well. -/
theorem initialise_edits {root : String} (canonical : tools.canonicalize args.root = .ok root)
    (writing : Writing) (registered : Except Error Unit) (files : ConfigFiles)
    (faults : Faults Error) :
    ((initialise tools writing mcpCommand args registered files faults).state = files ∧
        (initialise tools writing mcpCommand args registered files faults).result ≠ .ok ()) ∨
      ∃ plan k, planWithCommand tools mcpCommand args files = .ok plan ∧ plan.root = root ∧
        (∀ path, ¬ IsTemporary path →
          (initialise tools writing mcpCommand args registered files faults).state path =
            Edits.applyAll files (plan.edits.take k) path) ∧
        ((initialise tools writing mcpCommand args registered files faults).result = .ok () →
          k = plan.edits.length) := by
  unfold initialise
  cases planned : planWithCommand tools mcpCommand args files with
  | error e => exact .inl ⟨rfl, by rintro ⟨⟩⟩
  | ok plan =>
    cases registered with
    | error e => exact .inl ⟨rfl, by rintro ⟨⟩⟩
    | ok _ =>
      have checked := planWithCommand_ok planned
      obtain ⟨k, written, whole⟩ :=
        (@post_applyConfigs files plan.configs writing 0 checked.known faults fun _ _ => trivial).1
      exact .inr ⟨plan, k, rfl, Except.ok.inj (checked.root.symm.trans canonical), written,
        fun done => whole done⟩

theorem InitRuns.attempts {root : String} (canonical : tools.canonicalize args.root = .ok root)
    (runs : InitRuns tools mcpCommand args files files') :
    Edits.Attempts (editors tools root mcpCommand args.agents args.force) IsTemporary files
      files' := by
  induction runs with
  | none => exact .none
  | @more files' writing registered faults _ ih =>
    rcases initialise_edits canonical writing registered files' faults with
      ⟨same, -⟩ | ⟨plan, k, planned, rfl, written, -⟩
    · rw [same]
      exact ih
    · exact .more k ih (planWithCommand_ok planned).planAll written

/-- Files that hold what was planned are ready for every agent that was chosen. -/
theorem Planned.ready (planned : Planned tools mcpCommand args files plan)
    (reads : plan.ReadsBack tools)
    (done : ∀ path, ¬ IsTemporary path → files' path = Edits.applyAll files plan.edits path)
    (canonical : tools.canonicalize plan.root = .ok plan.root)
    (named : isBlank ((tools.fileName plan.root).getD "workspace") = false)
    {provider : AgentProviderArg} (chosen : args.agents.has provider = true) :
    ensureAgentIntegration tools mcpCommand plan.root provider files' = .ok () := by
  have distinct : (plan.edits.map Edits.Edit.path).Nodup :=
    planned.edits_paths ▸ configNames_distinct plan.root
  have held (config : ConfigPlan) (member : config ∈ plan.configs) :
      files' config.path = (config.content.map .ok).or (files config.path) := by
    rw [done _ (planned.known config member)]
    exact Edits.applyAll_self distinct (List.mem_map_of_mem member)
  have codexHeld := held plan.codex (by simp [InitPlan.configs])
  have codexHooksHeld := held plan.codexHooks (by simp [InitPlan.configs])
  have claudeHeld := held plan.claude (by simp [InitPlan.configs])
  have claudeHooksHeld := held plan.claudeHooks (by simp [InitPlan.configs])
  obtain ⟨-, directory, -, codex, codexHooks, claude, claudeHooks⟩ := planned
  have named' : isBlank (InitArgs.workspaceName ⟨plan.root, none, provider.selection, false⟩ tools
      plan.root) = false := named
  unfold ensureAgentIntegration
  cases provider with
  | codex =>
    rw [show args.agents.codex = true from chosen] at codex codexHooks
    rw [planWithCommand_of canonical directory named'
      ((codexPlanner_plans ..).kept codex reads.codex codexHeld false)
      ((codexHooksPlanner_plans ..).kept codexHooks reads.codexHooks codexHooksHeld false)
      ((claudePlanner_plans ..).unchosen false _) ((claudeHooksPlanner_plans ..).unchosen false _)]
    rfl
  | claude =>
    rw [show args.agents.claude = true from chosen] at claude claudeHooks
    rw [planWithCommand_of canonical directory named'
      ((codexPlanner_plans ..).unchosen false _) ((codexHooksPlanner_plans ..).unchosen false _)
      ((claudePlanner_plans ..).kept claude reads.claude claudeHeld false)
      ((claudeHooksPlanner_plans ..).kept claudeHooks reads.claudeHooks claudeHooksHeld false)]
    rfl

/-- However many runs of `loom init` have ended early, another one plans, and ends well where
nothing fails; then all files hold what the first run was to write, nothing is left to do, and the
agents that were chosen can be started. -/
theorem init_resumes (planned : planWithCommand tools mcpCommand args files = .ok plan)
    (reads : plan.ReadsBack tools) (runs : InitRuns tools mcpCommand args files files') :
    (∀ writing : Writing, (∀ name ∈ configNames, ∀ n,
        files' (temporaryPath (joinPath plan.root name) (writing.uuid n)) = none) →
      Ends (initialise tools writing mcpCommand args (.ok ())) files') ∧
    ∀ writing registered faults, ∀ last : Outcome ConfigFiles Error Unit,
      initialise tools writing mcpCommand args registered files' faults = last →
      last.result = .ok () →
        (∀ path, ¬ IsTemporary path → last.state path = Edits.applyAll files plan.edits path) ∧
        (∃ plan', planWithCommand tools mcpCommand args last.state = .ok plan' ∧
          ∀ config ∈ plan'.configs, config.content = none) ∧
        (tools.canonicalize plan.root = .ok plan.root →
          isBlank ((tools.fileName plan.root).getD "workspace") = false →
          ∀ provider, args.agents.has provider = true →
            ensureAgentIntegration tools mcpCommand plan.root provider last.state = .ok ()) := by
  have first := planWithCommand_ok planned
  have distinct : ((editors tools plan.root mcpCommand args.agents args.force).map
      Edits.Editor.path).Nodup := configNames_distinct plan.root
  have known : ∀ editor ∈ editors tools plan.root mcpCommand args.agents args.force,
      ¬ IsTemporary editor.path := fun _ member => editors_known member
  have settles := first.settles reads
  obtain ⟨edits', planned', ends, settled⟩ := Edits.resumes settles known distinct first.planAll
    (runs.attempts first.root)
  obtain ⟨plan', again, root, rfl⟩ :=
    planWithCommand_of_planAll first.root first.directory first.name planned'
  have second := planWithCommand_ok again
  refine ⟨fun writing fresh => ?_, fun writing registered faults last ran done => ?_⟩
  · have fresh' (config : ConfigPlan) (member : config ∈ plan'.configs) (n : Nat) :
        files' (temporaryPath config.path (writing.uuid n)) = none := by
      obtain ⟨name, named, same⟩ := second.placed member
      rw [← same, root]
      exact fresh name named n
    obtain ⟨files'', written⟩ := applyConfigs_ends writing 0 second.known fresh'
    refine ⟨files'', ?_⟩
    unfold initialise
    rw [again]
    exact written
  · subst ran
    rcases initialise_edits first.root writing registered files' faults with
      ⟨-, failed⟩ | ⟨plan'', k, planned'', -, written, whole⟩
    · exact absurd done failed
    · obtain rfl : plan'' = plan' := Except.ok.inj (planned''.symm.trans again)
      have after {path : String} (outside : ¬ IsTemporary path) :
          (initialise tools writing mcpCommand args registered files' faults).state path =
            Edits.applyAll files' plan''.edits path := by
        rw [written path outside, whole done, List.take_length]
      have result {path : String} (outside : ¬ IsTemporary path) := (after outside).trans
        (ends path outside)
      refine ⟨fun path outside => result outside, ?_, fun canonical named provider chosen =>
        first.ready reads (fun path outside => result outside) canonical named chosen⟩
      have quiet := (Edits.planAll_congr known fun path outside => after outside).trans settled
      obtain ⟨rest, replanned, -, nothing⟩ :=
        planWithCommand_of_planAll first.root first.directory first.name quiet
      refine ⟨rest, replanned, fun config member => ?_⟩
      have listed : config.edit ∈ rest.edits := List.mem_map_of_mem member
      rw [nothing] at listed
      obtain ⟨edit, -, same⟩ := List.mem_map.mp listed
      have none_ : config.content.map Except.ok = none := congrArg Edits.Edit.content same.symm
      exact Option.map_eq_none_iff.mp none_

end

/-! ## A cut run -/

/-- The document that is written for the server of Loomterm. -/
def serverDocument : Json := claudeDocument "/bin/loom-mcp" [] []

/-- Settings of Claude that hold the hooks of Loomterm. -/
def sampleSettings : Json :=
  let group := Json.array [.object [
    ("hooks", .array [hookHandler "/bin/loom" "claude" fun _ => none])]]
  let events := ["PostToolUse", "PostToolUseFailure", "PreToolUse", "Stop", "StopFailure",
    "UserPromptSubmit"]
  .object [("hooks", .object (events.map fun event => (event, group)))]

def readInit (text : String) : Except String Json :=
  if text = prettyAt 0 serverDocument ++ "\n" then .ok serverDocument
  else if text = prettyAt 0 sampleSettings then .ok sampleSettings
  else .error "expected value at line 1 column 1"

def printInit (document : Json) : String :=
  if document = serverDocument then prettyAt 0 document else ""

/-- There is no Codex, and JSON is only met in the two documents. -/
def sampleTools : InitTools where
  read := readInit
  print := printInit
  toml := {
    Document := Empty
    Item := Empty
    parse := fun _ => .error "TOML parse error at line 1, column 1"
    print := Empty.elim
    value := fun text => "\"" ++ text ++ "\""
    lookup := Empty.elim
    text := Empty.elim
    insert := Empty.elim }
  env _ := none
  canonicalize _ := .ok "/repo"
  isDir _ := true
  fileName _ := some "repo"

def sampleInit : InitArgs := ⟨".", none, ⟨false, true⟩, false⟩

def sampleConfigs : ConfigFiles := fun path =>
  if path = "/repo/.claude/settings.json" then some (.ok (prettyAt 0 sampleSettings)) else none

def sampleWriting : Writing where
  split text := [text]
  whole text := by simp
  uuid n := toString n

def sampleInitPlan : InitPlan where
  root := "/repo"
  name := "repo"
  mcpCommand := "/bin/loom-mcp"
  loomCommand := "/bin/loom"
  codex := skipped "/repo/.codex/config.toml"
  codexHooks := skipped "/repo/.codex/hooks.json"
  claude := ⟨"/repo/.mcp.json", .create, some (prettyAt 0 serverDocument ++ "\n")⟩
  claudeHooks := ⟨"/repo/.claude/settings.json", .unchanged, none⟩

theorem readInit_settings :
    readInit (prettyAt 0 sampleSettings) = .ok sampleSettings := by
  obtain ⟨server, printed⟩ : ∃ inner, prettyAt 0 serverDocument = _ := prettyAt_object 0 _ _
  obtain ⟨settings, pretty⟩ : ∃ inner, prettyAt 0 sampleSettings = _ := prettyAt_object 0 _ _
  have different : prettyAt 0 sampleSettings ≠ prettyAt 0 serverDocument ++ "\n" := by
    intro same
    rw [printed, pretty] at same
    have last := congrArg (fun text => text.toList.reverse.head?) same
    simp at last
  exact (if_neg different).trans (if_pos rfl)

theorem printInit_server : printInit serverDocument = prettyAt 0 serverDocument :=
  if_pos rfl

theorem sampleInitPlan_planned :
    planWithCommand sampleTools "/bin/loom-mcp" sampleInit sampleConfigs = .ok sampleInitPlan := by
  have codexPath : joinPath "/repo" ".codex/config.toml" = "/repo/.codex/config.toml" := by
    decide +kernel
  have codexHooksPath : joinPath "/repo" ".codex/hooks.json" = "/repo/.codex/hooks.json" := by
    decide +kernel
  have claudePath : joinPath "/repo" ".mcp.json" = "/repo/.mcp.json" := by decide +kernel
  have claudeHooksPath : joinPath "/repo" ".claude/settings.json" =
      "/repo/.claude/settings.json" := by decide +kernel
  have loom : withFileName "/bin/loom-mcp" "loom" = "/bin/loom" := by decide +kernel
  have server : (claudePlanner sampleTools "/repo" "/bin/loom-mcp" true false).run sampleConfigs =
      .ok sampleInitPlan.claude := by
    unfold claudePlanner ConfigPlanner.run
    simp only [claudePath]
    rw [show sampleConfigs "/repo/.mcp.json" = none from if_neg (by decide)]
    show Except.ok (ConfigPlan.mk "/repo/.mcp.json" .create
      (some (printInit serverDocument ++ "\n"))) = _
    rw [printInit_server]
    rfl
  have settings : (claudeHooksPlanner sampleTools "/repo" "/bin/loom-mcp" true false).run
      sampleConfigs = .ok sampleInitPlan.claudeHooks := by
    unfold claudeHooksPlanner ConfigPlanner.run planHooks readDocument
    simp only [claudeHooksPath, loom]
    rw [show sampleConfigs "/repo/.claude/settings.json" =
      some (.ok (prettyAt 0 sampleSettings)) from if_pos rfl]
    have read : sampleTools.read = readInit := rfl
    simp only [readOptional, Except.map, bind, Except.bind, if_true, read, readInit_settings]
    rfl
  have named : isBlank (sampleInit.workspaceName sampleTools "/repo") = false := by decide +kernel
  have plan := planWithCommand_of (rfl : sampleTools.canonicalize sampleInit.root = .ok "/repo") rfl
    named ((codexPlanner_plans sampleTools "/repo" "/bin/loom-mcp").unchosen false _)
    ((codexHooksPlanner_plans sampleTools "/repo" "/bin/loom-mcp").unchosen false _) server settings
  rw [plan, loom, codexPath, codexHooksPath]
  rfl

theorem sampleInitPlan_readsBack : sampleInitPlan.ReadsBack sampleTools := by
  refine ⟨fun _ written => ?_, fun _ written => ?_, fun content written document same => ?_,
    fun _ written => ?_⟩
  · cases written
  · cases written
  · cases written
    by_cases server : document = serverDocument
    · subst server
      exact ⟨id, (if_pos rfl : readInit (prettyAt 0 serverDocument ++ "\n") = _).trans
        (by decide +kernel)⟩
    · obtain ⟨inner, printed⟩ : ∃ inner, prettyAt 0 serverDocument = _ := prettyAt_object 0 _ _
      have blank : sampleTools.print document = "" := if_neg server
      rw [blank, printed] at same
      have first := congrArg (fun text => text.toList.head?) same
      simp at first
  · cases written

/-- The directory of the first file cannot be made, and a second run does the rest. -/
theorem init_resumes_sample : ∃ done,
    initialise sampleTools sampleWriting "/bin/loom-mcp" sampleInit (.ok ())
        (initialise sampleTools sampleWriting "/bin/loom-mcp" sampleInit (.ok ()) sampleConfigs
          [some (.io "No space left on device")]).state [] = ⟨.ok (), done, []⟩ ∧
      ensureAgentIntegration sampleTools "/bin/loom-mcp" "/repo" .claude done = .ok () := by
  have cut : InitRuns sampleTools "/bin/loom-mcp" sampleInit sampleConfigs _ :=
    .more sampleWriting (.ok ()) [some (.io "No space left on device")] .none
  have resumed := init_resumes sampleInitPlan_planned sampleInitPlan_readsBack cut
  have left : (initialise sampleTools sampleWriting "/bin/loom-mcp" sampleInit (.ok ())
      sampleConfigs [some (.io "No space left on device")]).state = sampleConfigs := by
    unfold initialise
    rw [sampleInitPlan_planned]
    rfl
  have fresh (name : String) (_ : name ∈ configNames) (n : Nat) : sampleConfigs
      (temporaryPath (joinPath sampleInitPlan.root name) (sampleWriting.uuid n)) = none := by
    apply if_neg
    intro there
    have last := IsTemporary.last ⟨_, _, there.symm⟩
    revert last
    decide +kernel
  obtain ⟨done, ran⟩ := resumed.1 sampleWriting (by rw [left]; exact fresh)
  refine ⟨done, ran, ?_⟩
  exact (resumed.2 _ _ _ _ ran rfl).2.2 rfl (by decide +kernel) .claude rfl

end Loomterm
