import Loomterm.Session.Detail
import Loomterm.Ui.Pane
import Mathlib.Data.List.Infix

/-!
# The operator interface

The state of `loom ui` (`src/ui.rs`) and what keys, the mouse and a snapshot of the daemon do
to it. Where the pointer hits is decided by the last drawing; a mouse event comes with the
region it hit.
-/

namespace Loomterm

namespace Ui

/-- `AgentProvider`. -/
inductive AgentProvider where
  | codex
  | claude
  deriving DecidableEq, Repr

/-- `AgentProvider::toggled`. -/
def AgentProvider.toggled : AgentProvider → AgentProvider
  | .codex => .claude
  | .claude => .codex

/-- `UiAction`. -/
inductive UiAction where
  | quit
  | launch (provider : AgentProvider) (prompt : Option String)
  | handoff (provider : AgentProvider) (sourceSessionId : SessionId)
  deriving DecidableEq, Repr

/-- `Focus`. -/
inductive Focus where
  | sessions
  | executions
  | output
  deriving DecidableEq, Repr

/-- `Focus::next`. -/
def Focus.next : Focus → Focus
  | .sessions => .executions
  | .executions => .output
  | .output => .sessions

/-- `Focus::previous`. -/
def Focus.previous : Focus → Focus
  | .sessions => .output
  | .executions => .sessions
  | .output => .executions

/-- `AgentModalField`. -/
inductive AgentModalField where
  | provider
  | prompt
  deriving DecidableEq, Repr

/-- `AgentModalPurpose`. -/
inductive AgentModalPurpose where
  | launch
  | handoff (sourceSessionId : SessionId) (sourceProvider : String) (activeCount : Nat)
      (commandPreview : String)
  deriving DecidableEq, Repr

/-- `PaletteAction`. -/
inductive PaletteAction where
  | newAgent | handoff | cancel | openReplay | exportReplay | toggleFollow | refresh | help | quit
  deriving DecidableEq, Repr

/-- `PaletteAction::ALL`. -/
def PaletteAction.all : List PaletteAction :=
  [.newAgent, .handoff, .cancel, .openReplay, .exportReplay, .toggleFollow, .refresh, .help, .quit]

/-- `Modal`. -/
inductive Modal where
  | help
  | confirmCancel (executionId : ExecutionId)
  | palette (selected : Nat)
  | agent (purpose : AgentModalPurpose) (provider : AgentProvider) (field : AgentModalField)
      (prompt : String)
  deriving DecidableEq, Repr

/-- `HitTarget`. -/
inductive HitTarget where
  | allWork
  | session (id : SessionId)
  | execution (id : ExecutionId)
  | pane (focus : Focus)
  deriving DecidableEq, Repr

/-- `Command`. -/
inductive Command where
  | none
  | quit
  | refresh
  | reloadOutput
  | cancel (executionId : ExecutionId)
  | openReplay (sessionId : SessionId)
  | exportReplay (sessionId : SessionId)
  | prepareHandoff (sessionId : SessionId)
  | launch (provider : AgentProvider) (prompt : Option String)
  | handoff (provider : AgentProvider) (sourceSessionId : SessionId)
  deriving DecidableEq, Repr

/-- `OperatorState` (`src/ui.rs:224`). -/
structure OperatorState extends OutputPane where
  workspace : Workspace
  sessions : List AgentSession := []
  workspaceExecutions : List DisplayedExecution := []
  detail : Option ReplayDetail := none
  selectedSessionId : Option SessionId := none
  selectedExecutionId : Option ExecutionId := none
  sessionOffset : Nat := 0
  executionOffset : Nat := 0
  focus : Focus := .sessions
  query : String := ""
  editingSearch : Bool := false
  modal : Option Modal := none
  error : Option String := none

/-! ## Searching -/

/-- `value.to_ascii_lowercase().contains(&query)`. -/
def containsText (query value : String) : Bool :=
  query.toList.map Char.toLower <:+: value.toList.map Char.toLower

/-- `format_outcome`. -/
def formatOutcome : Option ExecutionOutcome → String
  | some (.exited code) => "exit " ++ toString code
  | some (.signaled signal) => "signal " ++ toString signal
  | some (.spawnError message) => "spawn error: " ++ message
  | some (.cancelled (some value)) => "cancelled | signal " ++ toString value
  | some (.cancelled none) => "cancelled"
  | some (.interrupted reason) => "interrupted: " ++ reason
  | none => "in progress"

/-- `sort_by_key(|item| Reverse(item.created_at_ms))`. -/
def newestFirst {α : Type} (createdAtMs : α → Int) (items : List α) : List α :=
  items.insertionSort fun a b => createdAtMs b ≤ createdAtMs a

namespace OperatorState

/-- `OperatorState::matches_session`. -/
def matchesSession (state : OperatorState) (session : AgentSession) : Bool :=
  state.query = "" ||
    [session.id, session.agentKind, session.state.asStr, session.name.getD "",
      session.commandDisplay].any (containsText state.query)

/-- `OperatorState::matches_execution`. -/
def matchesExecution (state : OperatorState) (execution : DisplayedExecution) : Bool :=
  state.query = "" ||
    [execution.id, execution.commandDisplay, execution.cwd, execution.state.asStr,
      execution.initiator.kind, execution.initiator.name.getD "",
      formatOutcome execution.outcome].any (containsText state.query)

/-- `OperatorState::scoped_executions`. -/
def scopedExecutions (state : OperatorState) : List DisplayedExecution :=
  match state.detail with
  | some detail => detail.executions
  | none => state.workspaceExecutions

/-- `OperatorState::visible_session_ids`. -/
def visibleSessionIds (state : OperatorState) : List (Option SessionId) :=
  none :: (state.sessions.filter state.matchesSession).map fun session => some session.id

/-- `OperatorState::visible_execution_ids`. -/
def visibleExecutionIds (state : OperatorState) : List ExecutionId :=
  (newestFirst (·.createdAtMs) (state.scopedExecutions.filter state.matchesExecution)).map (·.id)

/-! ## Selecting -/

/-- `OperatorState::reset_output`. -/
def resetOutput (state : OperatorState) : OperatorState :=
  { state with toOutputPane := state.toOutputPane.resetOutput }

/-- The selected execution while it is visible, else the first visible one. -/
def visibleSelection (state : OperatorState) : Option ExecutionId :=
  let visible := state.visibleExecutionIds
  match state.selectedExecutionId with
  | some selected => if selected ∈ visible then some selected else visible.head?
  | none => visible.head?

/-- `OperatorState::ensure_execution_selection`. -/
def ensureExecutionSelection (state : OperatorState) : OperatorState :=
  let next := { state with selectedExecutionId := state.visibleSelection }
  if state.selectedExecutionId = next.selectedExecutionId then next else next.resetOutput

/-- The part of `OperatorState::apply_snapshot` before the selection. -/
def placeSnapshot (state : OperatorState) (sessions : List AgentSession)
    (executions : List DisplayedExecution) (detail : Option ReplayDetail) : OperatorState :=
  let sessions := newestFirst (·.createdAtMs) sessions
  let selectedSessionId := state.selectedSessionId.filter fun id => sessions.any (·.id = id)
  { state with
    sessions
    workspaceExecutions := newestFirst (·.createdAtMs) executions
    selectedSessionId
    detail := detail.filter fun detail => selectedSessionId = some detail.session.id }

/-- `OperatorState::apply_snapshot`, and whether another execution is selected. -/
def applySnapshot (state : OperatorState) (sessions : List AgentSession)
    (executions : List DisplayedExecution) (detail : Option ReplayDetail) :
    OperatorState × Bool :=
  let next := (state.placeSnapshot sessions executions detail).ensureExecutionSelection
  (next, state.selectedExecutionId ≠ next.selectedExecutionId)

/-- `OperatorState::selected_execution`. -/
def selectedExecution (state : OperatorState) : Option DisplayedExecution :=
  state.selectedExecutionId.bind fun selected => state.scopedExecutions.find? (·.id = selected)

/-- `OperatorState::selected_source_session_id`. -/
def selectedSourceSessionId (state : OperatorState) : Option SessionId :=
  state.selectedSessionId.or (state.selectedExecution.bind (·.initiator.sessionId))

/-- `OperatorState::select_session`, and whether another session is selected. -/
def selectSession (state : OperatorState) (id : Option SessionId) : OperatorState × Bool :=
  if state.selectedSessionId = id then (state, false)
  else
    ({ state with
      selectedSessionId := id, selectedExecutionId := none, executionOffset := 0,
      detail := none }.resetOutput, true)

/-- `OperatorState::select_session_relative`. -/
def selectSessionRelative (state : OperatorState) (amount : Int) : OperatorState × Bool :=
  let visible := state.visibleSessionIds
  let current := (visible.findIdx? (· = state.selectedSessionId)).getD 0
  match visible[clampIndex current amount (visible.length - 1)]? with
  | some id => state.selectSession id
  | none => (state, false)

/-- `OperatorState::select_execution`, and whether another execution is selected. -/
def selectExecution (state : OperatorState) (id : ExecutionId) : OperatorState × Bool :=
  if state.selectedExecutionId = some id then (state, false)
  else ({ state with selectedExecutionId := some id }.resetOutput, true)

/-- `OperatorState::select_execution_relative`. -/
def selectExecutionRelative (state : OperatorState) (amount : Int) : OperatorState × Bool :=
  let visible := state.visibleExecutionIds
  let current := (state.selectedExecutionId.bind fun selected =>
    visible.findIdx? (· = selected)).getD 0
  match visible[clampIndex current amount (visible.length - 1)]? with
  | some id => state.selectExecution id
  | none => (state, false)

/-! ## Keys -/

/-- `OperatorState::navigate`. -/
def navigate (state : OperatorState) (amount : Int) : OperatorState × Command :=
  match state.focus with
  | .sessions =>
      let (state, changed) := state.selectSessionRelative amount
      (state, if changed then .refresh else .none)
  | .executions =>
      let (state, changed) := state.selectExecutionRelative amount
      (state, if changed then .reloadOutput else .none)
  | .output =>
      ({ state with
        follow := false, outputScroll := (state.outputScroll + amount).toNat }, .none)

/-- `OperatorState::invoke`. -/
def invoke (state : OperatorState) : PaletteAction → OperatorState × Command
  | .newAgent => ({ state with modal := some (.agent .launch .codex .provider "") }, .none)
  | .handoff =>
      match state.selectedSourceSessionId with
      | some sessionId => (state, .prepareHandoff sessionId)
      | none =>
          ({ state with notice := some "select a recorded session before handoff" }, .none)
  | .cancel =>
      match state.selectedExecution with
      | some execution =>
          if execution.state = .queued ∨ execution.state = .running then
            ({ state with modal := some (.confirmCancel execution.id) }, .none)
          else
            ({ state with
              notice := some "only queued or running executions can be cancelled" }, .none)
      | none => ({ state with notice := some "select an execution first" }, .none)
  | .openReplay =>
      match state.selectedSourceSessionId with
      | some sessionId => (state, .openReplay sessionId)
      | none => ({ state with notice := some "select a recorded session first" }, .none)
  | .exportReplay =>
      match state.selectedSourceSessionId with
      | some sessionId => (state, .exportReplay sessionId)
      | none => ({ state with notice := some "select a recorded session first" }, .none)
  | .toggleFollow => ({ state with follow := !state.follow }, .none)
  | .refresh => (state, .refresh)
  | .help => ({ state with modal := some .help }, .none)
  | .quit => (state, .quit)

/-- A change of the search text, which may hide the selected execution. -/
def searched (state : OperatorState) (query : String) : OperatorState × Command :=
  ({ state with query }.ensureExecutionSelection, .reloadOutput)

/-- `OperatorState::handle_search_key`. -/
def handleSearchKey (state : OperatorState) (key : KeyEvent) : OperatorState × Command :=
  match key.code with
  | .esc | .enter =>
      ({ state with editingSearch := false }.ensureExecutionSelection, .reloadOutput)
  | .backspace => state.searched (String.ofList state.query.toList.dropLast)
  | .char c =>
      if !key.control && !key.alt then state.searched (state.query.push c) else (state, .none)
  | _ => (state, .none)

/-- `text.trim()`. -/
def trimText (text : String) : String :=
  let front := text.toList.dropWhile isWhitespace
  String.ofList (front.reverse.dropWhile isWhitespace).reverse

/-- A key in the dialog that starts an agent or hands work over. -/
def handleAgentKey (state : OperatorState) (key : KeyEvent) (purpose : AgentModalPurpose)
    (provider : AgentProvider) (field : AgentModalField) (prompt : String) :
    OperatorState × Command :=
  let agent (provider : AgentProvider) (field : AgentModalField) (prompt : String) :
      OperatorState × Command :=
    ({ state with modal := some (.agent purpose provider field prompt) }, .none)
  match key.code with
  | .esc => ({ state with modal := none }, .none)
  | .left | .right =>
      if field = .provider then agent provider.toggled field prompt
      else agent provider field prompt
  | .tab =>
      if purpose = .launch then
        agent provider (if field = .provider then .prompt else .provider) prompt
      else agent provider field prompt
  | .backspace =>
      if field = .prompt then agent provider field (String.ofList prompt.toList.dropLast)
      else agent provider field prompt
  | .char c =>
      if field = .prompt ∧ !key.control ∧ !key.alt then agent provider field (prompt.push c)
      else agent provider field prompt
  | .enter =>
      match purpose with
      | .launch =>
          ({ state with modal := none },
            .launch provider (if isBlank prompt then none else some (trimText prompt)))
      | .handoff sourceSessionId _ _ _ =>
          ({ state with modal := none }, .handoff provider sourceSessionId)
  | _ => agent provider field prompt

/-- `OperatorState::handle_modal_key`. -/
def handleModalKey (state : OperatorState) (key : KeyEvent) (modal : Modal) :
    OperatorState × Command :=
  let closed := { state with modal := none }
  match modal with
  | .help =>
      if key.code = .esc ∨ key.code = .char '?' then (closed, .none)
      else ({ state with modal := some .help }, .none)
  | .confirmCancel executionId =>
      match key.code with
      | .char 'y' | .char 'Y' | .enter => (closed, .cancel executionId)
      | .char 'n' | .char 'N' | .esc => (closed, .none)
      | _ => ({ state with modal := some (.confirmCancel executionId) }, .none)
  | .palette selected =>
      match key.code with
      | .esc => (closed, .none)
      | .up | .char 'k' => ({ state with modal := some (.palette (selected - 1)) }, .none)
      | .down | .char 'j' =>
          ({ state with
            modal := some (.palette (min (selected + 1) (PaletteAction.all.length - 1))) }, .none)
      | .enter =>
          match PaletteAction.all[selected]? with
          | some action => closed.invoke action
          | none => (closed, .none)
      | _ => ({ state with modal := some (.palette selected) }, .none)
  | .agent purpose provider field prompt => state.handleAgentKey key purpose provider field prompt

/-- What `/` does before it selects an execution. -/
def searchAll (state : OperatorState) : OperatorState :=
  { state with
    editingSearch := true, selectedSessionId := none, detail := none,
    selectedExecutionId := none, sessionOffset := 0, executionOffset := 0 }

/-- A key with neither the search nor a dialog open. -/
def handlePlainKey (state : OperatorState) (key : KeyEvent) : OperatorState × Command :=
  match key.code, state.focus with
  | .char 'q', _ => (state, .quit)
  | .char '/', _ => (state.searchAll.ensureExecutionSelection, .reloadOutput)
  | .char ':', _ => ({ state with modal := some (.palette 0) }, .none)
  | .char '?', _ => ({ state with modal := some .help }, .none)
  | .tab, _ => ({ state with focus := state.focus.next }, .none)
  | .backTab, _ => ({ state with focus := state.focus.previous }, .none)
  | .up, _ | .char 'k', _ => state.navigate (-1)
  | .down, _ | .char 'j', _ => state.navigate 1
  | .home, .output => ({ state with follow := false, outputScroll := 0 }, .none)
  | .fin, .output => ({ state with follow := true }, .none)
  | .enter, .sessions => ({ state with focus := .executions }, .none)
  | .enter, .executions => ({ state with focus := .output }, .none)
  | .enter, .output => (state, .none)
  | .char 'n', _ => state.invoke .newAgent
  | .char 'h', _ => state.invoke .handoff
  | .char 'c', _ => state.invoke .cancel
  | .char 'o', _ => state.invoke .openReplay
  | .char 'e', _ => state.invoke .exportReplay
  | .char 'f', _ => state.invoke .toggleFollow
  | .char 'r', _ => (state, .refresh)
  | .esc, _ => if state.query = "" then (state, .none) else state.searched ""
  | _, _ => (state, .none)

/-- `OperatorState::handle_key` (`src/ui.rs:532`). -/
def handleKey (state : OperatorState) (key : KeyEvent) : OperatorState × Command :=
  if key.kind ≠ .press then (state, .none)
  else if key.control ∧ (key.code = .char 'c' ∨ key.code = .char 'C') then (state, .quit)
  else if state.editingSearch then state.handleSearchKey key
  else
    match state.modal with
    | some modal => state.handleModalKey key modal
    | none =>
        if key.control ∧ (key.code = .char 'p' ∨ key.code = .char 'P') then
          ({ state with modal := some (.palette 0) }, .none)
        else state.handlePlainKey key

/-! ## The mouse -/

end OperatorState

/-- `MouseEventKind`. -/
inductive MouseEventKind where
  | downLeft
  | scrollUp
  | scrollDown
  | other
  deriving DecidableEq, Repr

/-- `MouseEvent`, with the pane and the region it hit. -/
structure MouseEvent where
  kind : MouseEventKind
  pane : Option Focus := none
  target : Option HitTarget := none
  deriving DecidableEq, Repr

namespace OperatorState

/-- `OperatorState::handle_mouse` (`src/ui.rs:843`). -/
def handleMouse (state : OperatorState) (event : MouseEvent) : OperatorState × Command :=
  match event.kind with
  | .downLeft =>
      match event.target with
      | some .allWork =>
          let (state, changed) := { state with focus := .sessions }.selectSession none
          (state, if changed then .refresh else .none)
      | some (.session id) =>
          let (state, changed) := { state with focus := .sessions }.selectSession (some id)
          (state, if changed then .refresh else .none)
      | some (.execution id) =>
          let (state, changed) := { state with focus := .executions }.selectExecution id
          (state, if changed then .reloadOutput else .none)
      | some (.pane focus) => ({ state with focus }, .none)
      | none => (state, .none)
  | .scrollUp => { state with focus := event.pane.getD state.focus }.navigate (-1)
  | .scrollDown => { state with focus := event.pane.getD state.focus }.navigate 1
  | .other => (state, .none)

end OperatorState

/-! ## What an input does to the selection -/

/-- The same execution is shown, as before. -/
structure SameView (before after : OperatorState) : Prop where
  selected : after.selectedExecutionId = before.selectedExecutionId
  output : after.output = before.output
  outputBytes : after.outputBytes = before.outputBytes
  outputCursor : after.outputCursor = before.outputCursor

/-- Nothing is shown yet. -/
structure Emptied (state : OperatorState) : Prop where
  output : state.output = []
  outputBytes : state.outputBytes = 0
  outputCursor : state.outputCursor = 0

/-- What a change of the state may do to what is shown: nothing, or another execution is
selected and its output begins anew, or no execution is selected. -/
inductive Effect (before after : OperatorState) : Prop
  | same : SameView before after → Effect before after
  | moved : after.selectedExecutionId ≠ before.selectedExecutionId → Emptied after →
      Effect before after
  | dropped : after.selectedExecutionId = none → Effect before after

/-- An input and the command it becomes. Only a change of the session asks for a refresh
after it has dropped the selection. -/
inductive Handling (before : OperatorState) (handled : OperatorState × Command) : Prop
  | effect : handled.2 ≠ .refresh → Effect before handled.1 → Handling before handled
  | again : handled.2 = .refresh → SameView before handled.1 →
      handled.1.selectedSessionId = before.selectedSessionId → Handling before handled
  | session : handled.2 = .refresh → handled.1.selectedExecutionId = none →
      handled.1.selectedSessionId ≠ before.selectedSessionId → Handling before handled

theorem SameView.refl (state : OperatorState) : SameView state state := ⟨rfl, rfl, rfl, rfl⟩

theorem emptied_resetOutput (state : OperatorState) : Emptied state.resetOutput :=
  ⟨rfl, rfl, rfl⟩

theorem SameView.trans {first second third : OperatorState} (left : SameView first second)
    (right : SameView second third) : SameView first third :=
  ⟨right.selected.trans left.selected, right.output.trans left.output,
    right.outputBytes.trans left.outputBytes, right.outputCursor.trans left.outputCursor⟩

theorem SameView.emptied {before after : OperatorState} (same : SameView before after)
    (emptied : Emptied before) : Emptied after :=
  ⟨same.output.trans emptied.output, same.outputBytes.trans emptied.outputBytes,
    same.outputCursor.trans emptied.outputCursor⟩

/-- What follows without a change of the view. -/
theorem Effect.then {first second third : OperatorState} (effect : Effect first second)
    (same : SameView second third) : Effect first third := by
  cases effect with
  | same view => exact .same (view.trans same)
  | moved other emptied => exact .moved (same.selected ▸ other) (same.emptied emptied)
  | dropped none => exact .dropped (same.selected.trans none)

theorem Effect.after {first second third : OperatorState} (same : SameView first second)
    (effect : Effect second third) : Effect first third := by
  cases effect with
  | same view => exact .same (same.trans view)
  | moved other emptied => exact .moved (same.selected ▸ other) emptied
  | dropped none => exact .dropped none

/-- A change that touches neither the selection nor the output. -/
theorem Handling.still {before : OperatorState} {handled : OperatorState × Command}
    (command : handled.2 ≠ .refresh) (same : SameView before handled.1) :
    Handling before handled :=
  .effect command (.same same)

namespace OperatorState

theorem ensureExecutionSelection_effect (state : OperatorState) :
    Effect state state.ensureExecutionSelection := by
  unfold ensureExecutionSelection
  simp only
  split
  · next same => exact .same ⟨same.symm, rfl, rfl, rfl⟩
  · next other => exact .moved (fun same => other same.symm) (emptied_resetOutput _)

/-- Without a selection the first visible execution is selected, and its output begins
anew. -/
theorem ensureExecutionSelection_none {state : OperatorState}
    (none : state.selectedExecutionId = none) :
    state.ensureExecutionSelection.selectedExecutionId = state.visibleExecutionIds.head? ∧
      (state.visibleExecutionIds.head? ≠ Option.none →
        Emptied state.ensureExecutionSelection) := by
  have first : state.visibleSelection = state.visibleExecutionIds.head? := by
    simp only [visibleSelection, none]
  unfold ensureExecutionSelection
  simp only [none, first]
  split
  · next same => exact ⟨rfl, fun other => absurd same.symm other⟩
  · exact ⟨rfl, fun _ => emptied_resetOutput _⟩

theorem selectExecution_effect (state : OperatorState) (id : ExecutionId) :
    Effect state (state.selectExecution id).1 := by
  unfold selectExecution
  split
  · exact .same (.refl _)
  · next other => exact .moved (fun same => other same.symm) (emptied_resetOutput _)

theorem selectExecutionRelative_effect (state : OperatorState) (amount : Int) :
    Effect state (state.selectExecutionRelative amount).1 := by
  unfold selectExecutionRelative
  simp only
  split
  · exact selectExecution_effect _ _
  · exact .same (.refl _)

/-- A session is either already selected, or it is and no execution. -/
theorem selectSession_cases (state : OperatorState) (id : Option SessionId) :
    state.selectSession id = (state, false) ∨
      (state.selectSession id).2 = true ∧
        (state.selectSession id).1.selectedExecutionId = none ∧
        (state.selectSession id).1.selectedSessionId ≠ state.selectedSessionId := by
  unfold selectSession
  split
  · exact .inl rfl
  · next other => exact .inr ⟨rfl, rfl, fun same => other same.symm⟩

/-- The command behind a choice of session. -/
theorem selectSession_handling {before state : OperatorState} (view : SameView before state)
    (session : state.selectedSessionId = before.selectedSessionId) (id : Option SessionId) :
    Handling before ((state.selectSession id).1,
      if (state.selectSession id).2 then .refresh else .none) := by
  obtain same | ⟨changed, none, other⟩ := selectSession_cases state id
  · rw [same]
    exact .still (by simp) view
  · rw [changed]
    exact .session rfl none (session ▸ other)

theorem selectSessionRelative_cases (state : OperatorState) (amount : Int) :
    state.selectSessionRelative amount = (state, false) ∨
      ∃ id, state.selectSessionRelative amount = state.selectSession id := by
  unfold selectSessionRelative
  simp only
  split
  · next id _ => exact .inr ⟨id, rfl⟩
  · exact .inl rfl

theorem selectSessionRelative_handling {before state : OperatorState}
    (view : SameView before state) (session : state.selectedSessionId = before.selectedSessionId)
    (amount : Int) :
    Handling before ((state.selectSessionRelative amount).1,
      if (state.selectSessionRelative amount).2 then .refresh else .none) := by
  obtain same | ⟨id, same⟩ := selectSessionRelative_cases state amount
  · rw [same]
    exact .still (by simp) view
  · rw [same]
    exact selectSession_handling view session id

theorem navigate_handling {before state : OperatorState} (view : SameView before state)
    (session : state.selectedSessionId = before.selectedSessionId) (amount : Int) :
    Handling before (state.navigate amount) := by
  unfold navigate
  split
  · exact selectSessionRelative_handling view session amount
  · apply Handling.effect
    · simp only
      split <;> simp
    · exact .after view (selectExecutionRelative_effect state amount)
  · exact .still (by simp) (view.trans ⟨rfl, rfl, rfl, rfl⟩)

theorem invoke_handling {before state : OperatorState} (view : SameView before state)
    (session : state.selectedSessionId = before.selectedSessionId) (action : PaletteAction) :
    Handling before (state.invoke action) := by
  have still : ∀ {after : OperatorState} {command : Command}, command ≠ .refresh →
      SameView state after → Handling before (after, command) :=
    fun other same => .still other (view.trans same)
  unfold invoke
  cases action with
  | refresh => exact .again rfl view session
  | handoff => simp only; split <;> exact still (by simp) ⟨rfl, rfl, rfl, rfl⟩
  | openReplay => simp only; split <;> exact still (by simp) ⟨rfl, rfl, rfl, rfl⟩
  | exportReplay => simp only; split <;> exact still (by simp) ⟨rfl, rfl, rfl, rfl⟩
  | cancel =>
    simp only
    split
    · split <;> exact still (by simp) ⟨rfl, rfl, rfl, rfl⟩
    · exact still (by simp) ⟨rfl, rfl, rfl, rfl⟩
  | newAgent => exact still (by simp) ⟨rfl, rfl, rfl, rfl⟩
  | toggleFollow => exact still (by simp) ⟨rfl, rfl, rfl, rfl⟩
  | help => exact still (by simp) ⟨rfl, rfl, rfl, rfl⟩
  | quit => exact still (by simp) ⟨rfl, rfl, rfl, rfl⟩

theorem searched_handling (state : OperatorState) (query : String) :
    Handling state (state.searched query) := by
  have typed : SameView state { state with query } := ⟨rfl, rfl, rfl, rfl⟩
  have effect := Effect.after typed (ensureExecutionSelection_effect _)
  exact .effect (by simp [searched]) effect

theorem handleSearchKey_handling (state : OperatorState) (key : KeyEvent) :
    Handling state (state.handleSearchKey key) := by
  have left : Handling state
      ({ state with editingSearch := false }.ensureExecutionSelection, .reloadOutput) := by
    have closed : SameView state { state with editingSearch := false } := ⟨rfl, rfl, rfl, rfl⟩
    have effect := Effect.after closed (ensureExecutionSelection_effect _)
    exact .effect (by simp) effect
  unfold handleSearchKey
  split
  · exact left
  · exact left
  · exact searched_handling state _
  · split
    · exact searched_handling state _
    · exact .still (by simp) (.refl _)
  · exact .still (by simp) (.refl _)

theorem handleAgentKey_handling (state : OperatorState) (key : KeyEvent)
    (purpose : AgentModalPurpose) (provider : AgentProvider) (field : AgentModalField)
    (prompt : String) :
    Handling state (state.handleAgentKey key purpose provider field prompt) := by
  -- every branch only sets the dialog
  have shown : ∀ (modal : Option Modal) (command : Command), command ≠ .refresh →
      Handling state ({ state with modal }, command) :=
    fun modal command quiet => .still quiet ⟨rfl, rfl, rfl, rfl⟩
  have either : ∀ (c : Prop) [Decidable c] (first second : OperatorState × Command),
      Handling state first → Handling state second → Handling state (if c then first else second) := by
    intro c _ first second left right
    split
    · exact left
    · exact right
  have agent : ∀ provider field prompt,
      Handling state ({ state with modal := some (.agent purpose provider field prompt) }, .none) :=
    fun _ _ _ => shown _ _ Command.noConfusion
  unfold handleAgentKey
  cases key.code with
  | esc => exact shown _ _ Command.noConfusion
  | left => exact either _ _ _ (agent _ _ _) (agent _ _ _)
  | right => exact either _ _ _ (agent _ _ _) (agent _ _ _)
  | tab => exact either _ _ _ (agent _ _ _) (agent _ _ _)
  | backspace => exact either _ _ _ (agent _ _ _) (agent _ _ _)
  | char c => exact either _ _ _ (agent _ _ _) (agent _ _ _)
  | enter =>
    cases purpose with
    | launch => exact shown _ _ Command.noConfusion
    | handoff => exact shown _ _ Command.noConfusion
  | _ => exact agent _ _ _

theorem handleModalKey_handling (state : OperatorState) (key : KeyEvent) (modal : Modal) :
    Handling state (state.handleModalKey key modal) := by
  unfold handleModalKey
  simp only
  cases modal with
  | help => simp only; split <;> exact .still (by simp) ⟨rfl, rfl, rfl, rfl⟩
  | confirmCancel executionId =>
    simp only
    split <;> exact .still (by simp) ⟨rfl, rfl, rfl, rfl⟩
  | palette selected =>
    simp only
    split
    case h_6 =>
      have closed : SameView state { state with modal := none } := ⟨rfl, rfl, rfl, rfl⟩
      split
      · exact invoke_handling closed rfl _
      · exact .still (by simp) ⟨rfl, rfl, rfl, rfl⟩
    all_goals exact .still (by simp) ⟨rfl, rfl, rfl, rfl⟩
  | agent purpose provider field prompt =>
    exact handleAgentKey_handling state key purpose provider field prompt

/-- Every plain key but `/`. -/
theorem handlePlainKey_handling (state : OperatorState) (key : KeyEvent)
    (other : key.code ≠ .char '/') : Handling state (state.handlePlainKey key) := by
  have same : SameView state state := .refl state
  unfold handlePlainKey
  split
  case h_2 => exact absurd ‹key.code = .char '/'› other
  case h_7 => exact navigate_handling same rfl (-1)
  case h_8 => exact navigate_handling same rfl (-1)
  case h_9 => exact navigate_handling same rfl 1
  case h_10 => exact navigate_handling same rfl 1
  case h_22 => exact .again rfl same rfl
  case h_23 =>
    split
    · exact .still (by simp) same
    · exact searched_handling state _
  all_goals first
    | exact invoke_handling same rfl _
    | exact .still (by simp) ⟨rfl, rfl, rfl, rfl⟩

/-- The key that opens the search. -/
def slash (state : OperatorState) (key : KeyEvent) : Bool :=
  key.kind = .press && key.code = .char '/' && !state.editingSearch && state.modal.isNone

/-- `/` drops the selection and selects the first execution of the workspace; what every
other key does is a handling. -/
theorem handleKey_cases (state : OperatorState) (key : KeyEvent) :
    state.slash key = true ∧
        state.handleKey key = (state.searchAll.ensureExecutionSelection, .reloadOutput) ∨
      state.slash key = false ∧ Handling state (state.handleKey key) := by
  by_cases opens : state.slash key = true
  · have keys := opens
    simp only [slash, Bool.and_eq_true, decide_eq_true_eq, Bool.not_eq_true',
      Option.isNone_iff_eq_none] at keys
    obtain ⟨⟨⟨pressed, code⟩, browsing⟩, plain⟩ := keys
    refine .inl ⟨opens, ?_⟩
    simp [handleKey, handlePlainKey, pressed, code, browsing, plain]
  · refine .inr ⟨Bool.not_eq_true _ ▸ opens, ?_⟩
    unfold handleKey
    split
    · exact .still (by simp) (.refl _)
    · next pressed =>
      split
      · exact .still (by simp) (.refl _)
      · split
        · exact handleSearchKey_handling state key
        · next browsing =>
          cases plain : state.modal with
          | some modal => exact handleModalKey_handling state key modal
          | none =>
            simp only
            split
            · exact .still (by simp) ⟨rfl, rfl, rfl, rfl⟩
            · apply handlePlainKey_handling
              intro code
              apply opens
              simp_all [slash]

theorem handleMouse_handling (state : OperatorState) (event : MouseEvent) :
    Handling state (state.handleMouse event) := by
  have focused : ∀ focus, SameView state { state with focus } := fun _ => ⟨rfl, rfl, rfl, rfl⟩
  unfold handleMouse
  split
  · split
    · exact selectSession_handling (focused .sessions) rfl none
    · exact selectSession_handling (focused .sessions) rfl (some _)
    · next id _ =>
      have effect := Effect.after (focused .executions) (selectExecution_effect _ id)
      apply Handling.effect _ effect
      simp only
      split <;> simp
    · exact .still (by simp) (focused _)
    · exact .still (by simp) (.refl _)
  · exact navigate_handling (focused (event.pane.getD state.focus)) rfl (-1)
  · exact navigate_handling (focused (event.pane.getD state.focus)) rfl 1
  · exact .still (by simp) (.refl _)

end OperatorState

end Ui

end Loomterm
