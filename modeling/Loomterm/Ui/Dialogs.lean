import Loomterm.Ui.Loop

/-!
# The dialogs of the operator interface

A dialog of `loom ui` stays open while snapshots arrive, executions end and the pointer selects
something else. What a key accepts is what the dialog was opened for.
-/

namespace Loomterm

namespace Ui

/-- What a dialog asks about: an execution to cancel, or a session to hand over, as it is shown. -/
inductive Subject where
  | execution (id : ExecutionId)
  | session (id : SessionId) (provider : String) (activeCount : Nat) (commandPreview : String)
  deriving DecidableEq, Repr

def Modal.subject : Modal → Option Subject
  | .confirmCancel id => some (.execution id)
  | .agent (.handoff id provider activeCount commandPreview) _ _ _ =>
      some (.session id provider activeCount commandPreview)
  | .agent .launch _ _ _ | .palette _ | .help => none

/-- The line of the palette that is selected is one of its lines. -/
def Modal.Valid : Modal → Prop
  | .palette selected => selected < PaletteAction.all.length
  | _ => True

namespace OperatorState

def subject (state : OperatorState) : Option Subject := state.modal.bind Modal.subject

def ModalValid (state : OperatorState) : Prop := ∀ modal, state.modal = some modal → modal.Valid

/-- No dialog is open, but for the palette. -/
def Unasked (state : OperatorState) : Prop :=
  state.modal = none ∨ ∃ selected, state.modal = some (.palette selected)

end OperatorState

/-- A command that neither cancels nor hands over, nor asks whether to. -/
def Command.Idle : Command → Prop
  | .cancel _ | .handoff .. | .prepareHandoff _ => False
  | _ => True

/-- What an input does to the dialog. -/
inductive Answer (before : OperatorState) : OperatorState × Command → Prop
  | turns {after : OperatorState} {command : Command}
      (subject : after.subject = none ∨ after.subject = before.subject)
      (valid : before.ModalValid → after.ModalValid) (idle : command.Idle) :
      Answer before (after, command)
  | asks {after : OperatorState} {execution : DisplayedExecution} (plain : before.Unasked)
      (selected : before.selectedExecution = some execution)
      (active : execution.state = .queued ∨ execution.state = .running)
      (opened : after.modal = some (.confirmCancel execution.id)) : Answer before (after, .none)
  | prepares {after : OperatorState} {id : SessionId} (plain : before.Unasked)
      (source : before.selectedSourceSessionId = some id) (closed : after.modal = none) :
      Answer before (after, .prepareHandoff id)
  | cancels {after : OperatorState} {id : ExecutionId}
      (shown : before.subject = some (.execution id)) (closed : after.modal = none) :
      Answer before (after, .cancel id)
  | handsOver {after : OperatorState} {provider : AgentProvider} {id : SessionId}
      {kind : String} {activeCount : Nat} {commandPreview : String}
      (shown : before.subject = some (.session id kind activeCount commandPreview))
      (closed : after.modal = none) : Answer before (after, .handoff provider id)

namespace OperatorState

variable {before after state : OperatorState} {command : Command}

theorem subject_of_modal {modal : Modal} (opened : state.modal = some modal) :
    state.subject = modal.subject := by
  unfold subject
  rw [opened]
  rfl

theorem subject_of_closed (closed : state.modal = none) : state.subject = none := by
  unfold subject
  rw [closed]
  rfl

theorem subject_congr (same : after.modal = before.modal) : after.subject = before.subject := by
  unfold subject
  rw [same]

theorem ModalValid.congr (valid : before.ModalValid) (same : after.modal = before.modal) :
    after.ModalValid := by
  unfold ModalValid
  rw [same]
  exact valid

theorem modalValid_of_closed (closed : state.modal = none) : state.ModalValid := by
  intro modal opened
  rw [closed] at opened
  cases opened

theorem modalValid_of_modal {modal : Modal} (opened : state.modal = some modal)
    (valid : modal.Valid) : state.ModalValid := by
  intro modal' opened'
  rw [opened] at opened'
  exact Option.some.inj opened' ▸ valid

/-! ## What leaves the dialog alone -/

@[simp] theorem ensureExecutionSelection_modal (state : OperatorState) :
    state.ensureExecutionSelection.modal = state.modal := by
  unfold ensureExecutionSelection
  simp only
  split <;> rfl

@[simp] theorem selectSession_modal (state : OperatorState) (id : Option SessionId) :
    (state.selectSession id).1.modal = state.modal := by
  unfold selectSession
  split <;> rfl

@[simp] theorem selectExecution_modal (state : OperatorState) (id : ExecutionId) :
    (state.selectExecution id).1.modal = state.modal := by
  unfold selectExecution
  split <;> rfl

@[simp] theorem selectSessionRelative_modal (state : OperatorState) (amount : Int) :
    (state.selectSessionRelative amount).1.modal = state.modal := by
  unfold selectSessionRelative
  simp only
  split
  · exact selectSession_modal ..
  · rfl

@[simp] theorem selectExecutionRelative_modal (state : OperatorState) (amount : Int) :
    (state.selectExecutionRelative amount).1.modal = state.modal := by
  unfold selectExecutionRelative
  simp only
  split
  · exact selectExecution_modal ..
  · rfl

/-! ## Keys and the mouse -/

theorem answer_keeps (same : after.modal = before.modal) (idle : command.Idle) :
    Answer before (after, command) :=
  .turns (.inr (subject_congr same)) (·.congr same) idle

/-- A dialog is opened that neither cancels nor hands over. -/
theorem answer_opens {modal : Modal} (opened : after.modal = some modal)
    (plain : modal.subject = none) (valid : modal.Valid) : Answer before (after, .none) :=
  .turns (.inl ((subject_of_modal opened).trans plain))
    (fun _ => modalValid_of_modal opened valid) trivial

/-- The dialog that is open changes what it does not ask about. -/
theorem answer_changes {modal modal' : Modal} (open_ : before.modal = some modal)
    (opened : after.modal = some modal') (same : modal'.subject = modal.subject)
    (valid : modal.Valid → modal'.Valid) : Answer before (after, .none) := by
  refine .turns (.inr ?_) (fun before => ?_) trivial
  · rw [subject_of_modal opened, subject_of_modal open_, same]
  · exact modalValid_of_modal opened (valid (before _ open_))

theorem answer_closes (closed : after.modal = none) (idle : command.Idle) :
    Answer before (after, command) :=
  .turns (.inl (subject_of_closed closed)) (fun _ => modalValid_of_closed closed) idle

theorem idle_if {first second : Command} (changed : Bool) (idle : first.Idle)
    (idle' : second.Idle) : (if changed then first else second).Idle := by
  split
  · exact idle
  · exact idle'

theorem navigate_answer (same : state.modal = before.modal) (amount : Int) :
    Answer before (state.navigate amount) := by
  unfold navigate
  cases state.focus with
  | sessions =>
    exact answer_keeps ((selectSessionRelative_modal ..).trans same) (idle_if _ trivial trivial)
  | executions =>
    exact answer_keeps ((selectExecutionRelative_modal ..).trans same) (idle_if _ trivial trivial)
  | output => exact answer_keeps same trivial

/-- What the palette and the keys of its actions do once no dialog is open. -/
theorem invoke_answer (plain : before.Unasked) (closed : state.modal = none)
    (selected : state.selectedExecution = before.selectedExecution)
    (source : state.selectedSourceSessionId = before.selectedSourceSessionId)
    (action : PaletteAction) : Answer before (state.invoke action) := by
  cases action with
  | newAgent => exact answer_opens rfl rfl trivial
  | help => exact answer_opens rfl rfl trivial
  | toggleFollow => exact answer_closes closed trivial
  | refresh => exact answer_closes closed trivial
  | quit => exact answer_closes closed trivial
  | handoff =>
    simp only [invoke]
    split
    · rename_i id found
      exact .prepares plain (source ▸ found) closed
    · exact answer_closes closed trivial
  | cancel =>
    simp only [invoke]
    split
    · rename_i execution found
      split
      · rename_i active
        exact .asks plain (selected ▸ found) active rfl
      · exact answer_closes closed trivial
    · exact answer_closes closed trivial
  | openReplay =>
    simp only [invoke]
    split <;> exact answer_closes closed trivial
  | exportReplay =>
    simp only [invoke]
    split <;> exact answer_closes closed trivial

theorem handleSearchKey_answer (state : OperatorState) (key : KeyEvent) :
    Answer state (state.handleSearchKey key) := by
  have searched (query : String) : Answer state (state.searched query) :=
    answer_keeps (ensureExecutionSelection_modal _) trivial
  unfold handleSearchKey
  split
  · exact answer_keeps (ensureExecutionSelection_modal _) trivial
  · exact answer_keeps (ensureExecutionSelection_modal _) trivial
  · exact searched _
  · split
    · exact searched _
    · exact answer_keeps rfl trivial
  · exact answer_keeps rfl trivial

theorem subject_agent (purpose : AgentModalPurpose) (provider provider' : AgentProvider)
    (field field' : AgentModalField) (prompt prompt' : String) :
    (Modal.agent purpose provider' field' prompt').subject =
      (Modal.agent purpose provider field prompt).subject := by
  cases purpose <;> rfl

theorem handleAgentKey_answer (key : KeyEvent) {purpose : AgentModalPurpose}
    {provider : AgentProvider} {field : AgentModalField} {prompt : String}
    (open_ : state.modal = some (.agent purpose provider field prompt)) :
    Answer state (state.handleAgentKey key purpose provider field prompt) := by
  have changes (provider' : AgentProvider) (field' : AgentModalField) (prompt' : String) :
      Answer state
        ({ state with modal := some (.agent purpose provider' field' prompt') }, .none) :=
    answer_changes open_ rfl (subject_agent ..) id
  have either (c : Prop) [Decidable c] {first second : OperatorState × Command}
      (left : Answer state first) (right : Answer state second) :
      Answer state (if c then first else second) := by
    split
    · exact left
    · exact right
  unfold handleAgentKey
  cases key.code with
  | esc => exact answer_closes rfl trivial
  | left => exact either _ (changes ..) (changes ..)
  | right => exact either _ (changes ..) (changes ..)
  | tab => exact either _ (changes ..) (changes ..)
  | backspace => exact either _ (changes ..) (changes ..)
  | char c => exact either _ (changes ..) (changes ..)
  | enter =>
    cases purpose with
    | launch => exact answer_closes rfl trivial
    | handoff id kind activeCount commandPreview =>
      exact .handsOver (subject_of_modal open_) rfl
  | _ => exact changes ..

theorem handleModalKey_answer (key : KeyEvent) {modal : Modal} (open_ : state.modal = some modal) :
    Answer state (state.handleModalKey key modal) := by
  unfold handleModalKey
  cases modal with
  | help =>
    simp only
    split
    · exact answer_closes rfl trivial
    · exact answer_opens rfl rfl trivial
  | confirmCancel id =>
    simp only
    split
    · exact .cancels (subject_of_modal open_) rfl
    · exact .cancels (subject_of_modal open_) rfl
    · exact .cancels (subject_of_modal open_) rfl
    · exact answer_closes rfl trivial
    · exact answer_closes rfl trivial
    · exact answer_closes rfl trivial
    · exact answer_changes open_ rfl rfl fun _ => trivial
  | palette selected =>
    have lines : 0 < PaletteAction.all.length := by decide
    have up : Answer state
        ({ state with modal := some (.palette (selected - 1)) }, .none) :=
      answer_changes open_ rfl rfl fun inside => lt_of_le_of_lt (Nat.sub_le ..) inside
    have down : Answer state
        ({ state with
          modal := some (.palette (min (selected + 1) (PaletteAction.all.length - 1))) }, .none) :=
      answer_opens rfl rfl (lt_of_le_of_lt (Nat.min_le_right ..) (Nat.sub_lt lines Nat.one_pos))
    simp only
    split
    · exact answer_closes rfl trivial
    · exact up
    · exact up
    · exact down
    · exact down
    · split
      · exact invoke_answer (.inr ⟨selected, open_⟩) (by rfl) (by rfl) (by rfl) _
      · exact answer_closes rfl trivial
    · exact answer_changes open_ rfl rfl id
  | agent purpose provider field prompt => exact handleAgentKey_answer key open_

theorem palette_first : (Modal.palette 0).Valid := Nat.zero_lt_succ _

theorem handlePlainKey_answer (closed : state.modal = none) (key : KeyEvent) :
    Answer state (state.handlePlainKey key) := by
  have invoked (action : PaletteAction) : Answer state (state.invoke action) :=
    invoke_answer (.inl closed) closed rfl rfl action
  have palette : Answer state ({ state with modal := some (.palette 0) }, .none) :=
    answer_opens rfl rfl palette_first
  unfold handlePlainKey
  split
  case h_2 => exact answer_keeps (ensureExecutionSelection_modal _) trivial
  case h_3 => exact palette
  case h_4 => exact answer_opens rfl rfl trivial
  case h_7 | h_8 | h_9 | h_10 => exact navigate_answer rfl _
  case h_16 | h_17 | h_18 | h_19 | h_20 | h_21 => exact invoked _
  case h_23 =>
    split
    · exact answer_keeps rfl trivial
    · exact answer_keeps (ensureExecutionSelection_modal _) trivial
  all_goals exact answer_keeps rfl trivial

theorem handleKey_answer (state : OperatorState) (key : KeyEvent) :
    Answer state (state.handleKey key) := by
  unfold handleKey
  split
  · exact answer_keeps rfl trivial
  split
  · exact answer_keeps rfl trivial
  split
  · exact handleSearchKey_answer state key
  split
  · rename_i modal open_
    exact handleModalKey_answer key open_
  · rename_i closed
    split
    · exact answer_opens rfl rfl palette_first
    · exact handlePlainKey_answer closed key

theorem handleMouse_answer (state : OperatorState) (event : MouseEvent) :
    Answer state (state.handleMouse event) := by
  unfold handleMouse
  split
  · split
    · exact answer_keeps (selectSession_modal ..) (idle_if _ trivial trivial)
    · exact answer_keeps (selectSession_modal ..) (idle_if _ trivial trivial)
    · exact answer_keeps (selectExecution_modal ..) (idle_if _ trivial trivial)
    · exact answer_keeps rfl trivial
    · exact answer_keeps rfl trivial
  · exact navigate_answer (by rfl) _
  · exact navigate_answer (by rfl) _
  · exact answer_keeps rfl trivial

end OperatorState

/-! ## The loop -/

theorem placed_modal (state : OperatorState) (replies : Replies) :
    (placed state replies).1.modal = state.modal := by
  unfold placed
  split
  · rfl
  · simp only
    split
    · rfl
    · split <;> rfl

theorem refresh_modal (state : OperatorState) (replies : Replies) :
    (refresh state replies).1.modal = state.modal := by
  have same := placed_modal state replies
  rw [refresh_eq]
  split
  · rename_i failed
    rwa [failed] at same
  · rename_i done
    rw [done] at same
    exact (OperatorState.ensureExecutionSelection_modal _).trans same

theorem exportReplay_modal {state next : OperatorState} {detail : ReplayDetail} {replies : Replies}
    (written : exportReplay state detail replies = .ok next) : next.modal = state.modal := by
  unfold exportReplay at written
  repeat' split at written
  all_goals cases written
  all_goals rfl

theorem openReplay_modal (state : OperatorState) (detail : ReplayDetail) (replies : Replies) :
    (openReplay state detail replies).modal = state.modal := by
  unfold openReplay
  split
  · rfl
  · split <;> rfl

/-- Only `PrepareHandoff` opens a dialog. -/
theorem handleCommand_modal (state : OperatorState) (replies : Replies) {command : Command}
    (other : ∀ id, command ≠ .prepareHandoff id) :
    (handleCommand state replies command).1.modal = state.modal := by
  cases command with
  | none => rfl
  | quit => rfl
  | reloadOutput => rfl
  | launch => rfl
  | handoff => rfl
  | prepareHandoff id => exact absurd rfl (other id)
  | refresh =>
    have same := refresh_modal state replies
    simp only [handleCommand]
    split
    all_goals
      rename_i refreshed
      rw [refreshed] at same
      exact same
  | cancel =>
    simp only [handleCommand]
    split <;> rfl
  | openReplay =>
    simp only [handleCommand]
    split
    · rfl
    · exact openReplay_modal ..
  | exportReplay =>
    simp only [handleCommand]
    split
    · rfl
    · split
      · rename_i written
        exact exportReplay_modal written
      · rfl

theorem loadPages_modal {id : ExecutionId} {state state' : OperatorState} {logs logs' : Logs}
    {reads : List Read} (loaded : loadPages id state logs reads = some (state', logs')) :
    state'.modal = state.modal := by
  induction reads generalizing state logs with
  | nil => cases loaded
  | cons read rest ih =>
    unfold loadPages at loaded
    simp only at loaded
    split at loaded
    · cases loaded
      rfl
    · split at loaded
      · cases loaded
        rfl
      · have later := ih loaded
        exact later

theorem attach_modal {ui : OperatorState} {logs : Logs} {replies : Replies} {s : Operator}
    (attached : attach ui logs replies = some s) : s.ui.modal = ui.modal := by
  have subscribed (state : OperatorState) :
      (subscribeOutput state replies.subscribed).1.modal = state.modal := by
    unfold subscribeOutput
    split
    · rfl
    · split <;> rfl
  unfold attach at attached
  split at attached
  · cases attached
  · rename_i loaded
    cases attached
    refine (subscribed _).trans ?_
    unfold loadOutput at loaded
    split at loaded
    · cases loaded
      rfl
    · exact loadPages_modal loaded

theorem finishInput_modal {s s' : Operator} {handled : OperatorState × Command}
    {replies : Replies} (finished : finishInput s handled replies = some s') :
    s'.ui.modal = (handleCommand handled.1 replies handled.2).1.modal := by
  unfold finishInput at finished
  simp only at finished
  split at finished
  · cases finished
    rfl
  · unfold syncSubscription at finished
    split at finished
    · cases finished
      rfl
    · exact attach_modal finished

theorem handleTick_modal {s s' : Operator} {replies : Replies} {ready : Bool}
    (ticked : handleTick s replies ready = some s') : s'.ui.modal = s.ui.modal := by
  have same := refresh_modal s.ui replies
  unfold handleTick at ticked
  split at ticked
  · rename_i failed
    cases ticked
    rwa [failed] at same
  · rename_i changed done
    rw [done] at same
    cases changed
    all_goals
      simp only [Bool.false_eq_true, if_false, if_true] at ticked
      split at ticked
      · exact (attach_modal ticked).trans same
      · cases ticked
        exact same

/-! ## What is asked -/

/-- The answers that an input of the terminal meets. -/
def Input.replies : Input → Option Replies
  | .key _ replies | .mouse _ replies | .otherEvent replies | .inputFailed _ replies => some replies
  | _ => none

/-- The command that the loop passes to `handle_command`. -/
def Operator.command (s : Operator) : Input → Command
  | .key key _ => (s.ui.handleKey key).2
  | .mouse event _ => (s.ui.handleMouse event).2
  | .inputEnded => .quit
  | _ => .none

/-- The selected execution is one that can be cancelled; or a session with active executions
whose agent is gone is the selected one, or that of the selected execution. -/
def Asks (ui : OperatorState) (replies : Replies) : Subject → Prop
  | .execution id => ∃ execution, ui.selectedExecution = some execution ∧ execution.id = id ∧
      (execution.state = .queued ∨ execution.state = .running)
  | .session id provider activeCount commandPreview => ui.selectedSourceSessionId = some id ∧
      ∃ detail first rest, replies.session = .ok detail ∧ detail.session.state ≠ .recording ∧
        detail.session.agentKind = provider ∧
        detail.executions.filter (fun execution => !execution.state.isTerminal) = first :: rest ∧
        activeCount = rest.length + 1 ∧ commandPreview = truncateText first.commandDisplay 56

/-- An input of the run opened the dialog about the subject, which has stood since: after it and
after every input that followed. -/
def Asked (s₀ : Operator) (inputs : List Input) (subject : Subject) : Prop :=
  ∃ before input after s replies, inputs = before ++ input :: after ∧
    operator.run s₀ before = some s ∧ s.ui.Unasked ∧ input.replies = some replies ∧
    Asks s.ui replies subject ∧
    ∀ taken s', taken <+: after → operator.run s (input :: taken) = some s' →
      s'.ui.subject = some subject

theorem prepareHandoff_asks {ui state : OperatorState} {id : SessionId} {detail : ReplayDetail}
    {replies : Replies} (source : ui.selectedSourceSessionId = some id)
    (answered : replies.session = .ok detail) (closed : state.modal = none) {subject : Subject}
    (shown : (prepareHandoff state id detail).subject = some subject) :
    Asks ui replies subject := by
  have silent (same : state.subject = some subject) : False := by
    rw [OperatorState.subject_of_closed closed] at same
    cases same
  unfold prepareHandoff at shown
  simp only at shown
  split at shown
  · exact absurd shown silent
  · rename_i ended
    split at shown
    · exact absurd shown silent
    · rename_i first rest active
      cases shown
      exact ⟨source, detail, first, rest, answered, ended, rfl, active, by rw [active]; rfl, rfl⟩

theorem prepareHandoff_valid {state : OperatorState} {id : SessionId} {detail : ReplayDetail}
    (closed : state.modal = none) : (prepareHandoff state id detail).ModalValid := by
  unfold prepareHandoff
  simp only
  split
  · exact OperatorState.modalValid_of_closed closed
  · split
    · exact OperatorState.modalValid_of_closed closed
    · exact OperatorState.modalValid_of_modal rfl trivial

/-- After an input the dialog is the one there was, or one that the input asked for; and none
after a dialog is accepted. -/
theorem finishInput_answer {s s' : Operator} {handled : OperatorState × Command}
    {replies : Replies} (answer : Answer s.ui handled)
    (finished : finishInput s handled replies = some s') :
    (s.ui.ModalValid → s'.ui.ModalValid) ∧
    (∀ subject, s'.ui.subject = some subject →
      s.ui.subject = some subject ∨ s.ui.Unasked ∧ Asks s.ui replies subject) ∧
    (¬ handled.2.Idle → (∀ id, handled.2 ≠ .prepareHandoff id) → s'.ui.subject = none) := by
  have modal := finishInput_modal finished
  have kept {after : OperatorState} {command : Command} (other : ∀ id, command ≠ .prepareHandoff id)
      (same : s'.ui.modal = (handleCommand after replies command).1.modal) :
      s'.ui.modal = after.modal :=
    same.trans (handleCommand_modal after replies other)
  cases answer with
  | turns subject valid idle =>
    have same := kept (fun id => by rintro rfl; exact idle) modal
    refine ⟨fun before => (valid before).congr same, fun shown found => .inl ?_,
      fun active => absurd idle active⟩
    rw [OperatorState.subject_congr same] at found
    rcases subject with closed | unchanged
    · rw [closed] at found
      cases found
    · rwa [unchanged] at found
  | asks plain selected active opened =>
    have same := (kept (by rintro id ⟨⟩) modal).trans opened
    refine ⟨fun _ => OperatorState.modalValid_of_modal same trivial, fun shown found => .inr ?_,
      fun active => absurd trivial active⟩
    rw [OperatorState.subject_of_modal same] at found
    cases found
    exact ⟨plain, _, selected, rfl, active⟩
  | @prepares after id plain source closed =>
    simp only [handleCommand] at modal
    cases answered : replies.session with
    | error e =>
      rw [answered] at modal
      have same : s'.ui.modal = none := modal.trans closed
      refine ⟨fun _ => OperatorState.modalValid_of_closed same, fun shown found => ?_,
        fun _ other => absurd rfl (other id)⟩
      rw [OperatorState.subject_of_closed same] at found
      cases found
    | ok detail =>
      rw [answered] at modal
      refine ⟨fun _ => (prepareHandoff_valid closed).congr modal, fun shown found => .inr ?_,
        fun _ other => absurd rfl (other id)⟩
      rw [OperatorState.subject_congr modal] at found
      exact ⟨plain, prepareHandoff_asks source answered closed found⟩
  | cancels shown closed =>
    have same := (kept (by rintro id ⟨⟩) modal).trans closed
    have gone := OperatorState.subject_of_closed same
    refine ⟨fun _ => OperatorState.modalValid_of_closed same, fun _ found => ?_, fun _ _ => gone⟩
    rw [gone] at found
    cases found
  | handsOver shown closed =>
    have same := (kept (by rintro id ⟨⟩) modal).trans closed
    have gone := OperatorState.subject_of_closed same
    refine ⟨fun _ => OperatorState.modalValid_of_closed same, fun _ found => ?_, fun _ _ => gone⟩
    rw [gone] at found
    cases found

/-- One round of the loop. -/
theorem handle_answer {s s' : Operator} {input : Input} (handled : handle s input = some s') :
    (s.ui.ModalValid → s'.ui.ModalValid) ∧
    (∀ subject, s'.ui.subject = some subject → s.ui.subject = some subject ∨
      ∃ replies, input.replies = some replies ∧ s.ui.Unasked ∧ Asks s.ui replies subject) ∧
    (¬ (s.command input).Idle → (∀ id, s.command input ≠ .prepareHandoff id) →
      s'.ui.subject = none) := by
  have stays (same : s'.ui.modal = s.ui.modal) (idle : (s.command input).Idle) :
      (s.ui.ModalValid → s'.ui.ModalValid) ∧
      (∀ subject, s'.ui.subject = some subject → s.ui.subject = some subject ∨
        ∃ replies, input.replies = some replies ∧ s.ui.Unasked ∧ Asks s.ui replies subject) ∧
      (¬ (s.command input).Idle → (∀ id, s.command input ≠ .prepareHandoff id) →
        s'.ui.subject = none) :=
    ⟨(·.congr same), fun _ shown => .inl (OperatorState.subject_congr same ▸ shown),
      fun active => absurd idle active⟩
  cases input with
  | key key replies =>
    obtain ⟨valid, asked, gone⟩ := finishInput_answer (s.ui.handleKey_answer key) handled
    exact ⟨valid, fun subject shown => (asked subject shown).imp_right fun asks =>
      ⟨_, rfl, asks⟩, gone⟩
  | mouse event replies =>
    obtain ⟨valid, asked, gone⟩ := finishInput_answer (s.ui.handleMouse_answer event) handled
    exact ⟨valid, fun subject shown => (asked subject shown).imp_right fun asks =>
      ⟨_, rfl, asks⟩, gone⟩
  | otherEvent replies =>
    have done : finishInput s (s.ui, .none) replies = some s' := handled
    exact stays (finishInput_modal done) trivial
  | inputFailed error replies =>
    have done : finishInput s ({ s.ui with error := some ("terminal input: " ++ error) }, .none)
        replies = some s' := handled
    exact stays (finishInput_modal done) trivial
  | inputEnded =>
    have done : finishInput s (s.ui, .quit) {} = some s' := handled
    exact stays (finishInput_modal done) trivial
  | event =>
    refine stays ?_ trivial
    simp only [handle] at handled
    split at handled
    · cases handled
    · split at handled <;> cases handled
      rfl
  | streamEnded =>
    refine stays ?_ trivial
    simp only [handle] at handled
    split at handled <;> cases handled
    rfl
  | streamFailed error =>
    refine stays ?_ trivial
    simp only [handle] at handled
    split at handled <;> cases handled
    rfl
  | tick replies ready => exact stays (handleTick_modal handled) trivial
  | arrived arrival =>
    cases handled
    exact stays rfl trivial

theorem handle_of_step {s s' : Operator} {input : Input}
    (enabled : operator.step s input = some s') : handle s input = some s' := by
  simp only [operator] at enabled
  split at enabled
  · cases enabled
  · exact enabled

theorem run_concat {s₀ s s' : Operator} {inputs : List Input} {input : Input}
    (ran : operator.run s₀ inputs = some s) (enabled : operator.step s input = some s') :
    operator.run s₀ (inputs ++ [input]) = some s' := by
  rw [System.run_append, ran]
  simp [System.run, enabled]

/-- The dialog that stood still stands after one input more. -/
theorem Asked.kept {s₀ s s' : Operator} {inputs : List Input} {input : Input} {subject : Subject}
    (asked : Asked s₀ inputs subject) (ran : operator.run s₀ inputs = some s)
    (enabled : operator.step s input = some s') (shown : s'.ui.subject = some subject) :
    Asked s₀ (inputs ++ [input]) subject := by
  obtain ⟨before, opener, after, t, replies, rfl, reached, plain, met, asks, stood⟩ := asked
  refine ⟨before, opener, after ++ [input], t, replies, by simp, reached, plain, met, asks, ?_⟩
  intro taken u begun taking
  rcases List.prefix_concat_iff.mp begun with rfl | earlier
  · have whole := run_concat ran enabled
    rw [List.append_assoc, System.run_append, reached] at whole
    have same : some u = some s' := taking.symm.trans whole
    cases same
    exact shown
  · exact stood taken u earlier taking

theorem asked_step {s₀ s s' : Operator} {inputs : List Input} {input : Input}
    (ran : operator.run s₀ inputs = some s)
    (asked : ∀ subject, s.ui.subject = some subject → Asked s₀ inputs subject)
    (enabled : operator.step s input = some s') {subject : Subject}
    (shown : s'.ui.subject = some subject) : Asked s₀ (inputs ++ [input]) subject := by
  rcases (handle_answer (handle_of_step enabled)).2.1 subject shown with
    before | ⟨replies, met, plain, asks⟩
  · exact (asked subject before).kept ran enabled shown
  · refine ⟨inputs, input, [], s, replies, rfl, ran, plain, met, asks, ?_⟩
    intro taken t begun taking
    rw [List.prefix_nil.mp begun, System.run, enabled] at taking
    cases taking
    exact shown

theorem start_closed {s : Operator} (first : operator.start s) : s.ui.modal = none := by
  obtain ⟨workspace, selected, notice, logs, replies, ui, changed, -, refreshed, attached⟩ := first
  have same := refresh_modal { workspace, selectedSessionId := selected, notice } replies
  rw [refreshed] at same
  exact (attach_modal attached).trans same

theorem asked_run {s₀ s : Operator} {inputs : List Input} (first : operator.start s₀)
    (ran : operator.run s₀ inputs = some s) :
    ∀ subject, s.ui.subject = some subject → Asked s₀ inputs subject := by
  induction inputs using List.reverseRecOn generalizing s with
  | nil =>
    intro subject shown
    cases ran
    rw [OperatorState.subject_of_closed (start_closed first)] at shown
    cases shown
  | append_singleton inputs input ih =>
    intro subject shown
    rw [System.run_append] at ran
    obtain ⟨t, before, last⟩ := Option.bind_eq_some_iff.mp ran
    obtain ⟨t', enabled, ended⟩ := Option.bind_eq_some_iff.mp last
    cases ended
    exact asked_step before (ih before) enabled shown

theorem modalValid_operator {s : Operator} (reached : operator.Reachable s) : s.ui.ModalValid := by
  apply reached.invariant fun s => s.ui.ModalValid
  · exact fun s first => OperatorState.modalValid_of_closed (start_closed first)
  · exact fun s input s' _ valid _ enabled => (handle_answer (handle_of_step enabled)).1 valid

/-- What a command acts on is the subject of the dialog. -/
theorem command_subject (s : Operator) (input : Input) :
    (∀ id, s.command input = .cancel id → s.ui.subject = some (.execution id)) ∧
    ∀ provider id, s.command input = .handoff provider id →
      ∃ kind activeCount commandPreview,
        s.ui.subject = some (.session id kind activeCount commandPreview) := by
  have answered {handled : OperatorState × Command} (answer : Answer s.ui handled) :
      (∀ id, handled.2 = .cancel id → s.ui.subject = some (.execution id)) ∧
      ∀ provider id, handled.2 = .handoff provider id →
        ∃ kind activeCount commandPreview,
          s.ui.subject = some (.session id kind activeCount commandPreview) := by
    cases answer with
    | turns _ _ idle =>
      refine ⟨?_, ?_⟩
      · rintro id rfl
        exact idle.elim
      · rintro provider id rfl
        exact idle.elim
    | asks => exact ⟨by rintro id ⟨⟩, by rintro provider id ⟨⟩⟩
    | prepares => exact ⟨by rintro id ⟨⟩, by rintro provider id ⟨⟩⟩
    | cancels shown =>
      refine ⟨?_, by rintro provider id ⟨⟩⟩
      rintro id ⟨⟩
      exact shown
    | handsOver shown =>
      refine ⟨by rintro id ⟨⟩, ?_⟩
      rintro provider id ⟨⟩
      exact ⟨_, _, _, shown⟩
  cases input with
  | key key replies => exact answered (s.ui.handleKey_answer key)
  | mouse event replies => exact answered (s.ui.handleMouse_answer event)
  | _ => exact ⟨by rintro id ⟨⟩, by rintro provider id ⟨⟩⟩

/-- `loom ui` cancels an execution, or hands a session over, only from a dialog about it: an input
of the run opened it, where no dialog but the palette was open, while the execution was the selected
one and active, or the session the selected one with active executions and without its agent; it has
stood since, whatever arrived; and it is closed with that. The palette never leaves its lines. -/
theorem operator_confirms {s₀ s : Operator} {inputs : List Input} (first : operator.start s₀)
    (ran : operator.run s₀ inputs = some s) :
    s.ui.ModalValid ∧
    ∀ input,
      (∀ id, s.command input = .cancel id → Asked s₀ inputs (.execution id) ∧
        ∀ s', operator.step s input = some s' → s'.ui.subject = none) ∧
      ∀ provider id, s.command input = .handoff provider id →
        ∃ kind activeCount commandPreview,
          Asked s₀ inputs (.session id kind activeCount commandPreview) ∧
          ∀ s', operator.step s input = some s' → s'.ui.subject = none := by
  have valid := modalValid_operator (System.run_reachable first ran)
  refine ⟨valid, fun input => ⟨fun id sent => ?_, fun provider id sent => ?_⟩⟩
  · refine ⟨asked_run first ran _ ((command_subject s input).1 id sent), fun s' enabled => ?_⟩
    apply (handle_answer (handle_of_step enabled)).2.2 <;> rw [sent]
    · exact fun idle => idle
    · exact fun other => by rintro ⟨⟩
  · obtain ⟨kind, activeCount, commandPreview, shown⟩ :=
      (command_subject s input).2 provider id sent
    refine ⟨kind, activeCount, commandPreview, asked_run first ran _ shown, fun s' enabled => ?_⟩
    apply (handle_answer (handle_of_step enabled)).2.2 <;> rw [sent]
    · exact fun idle => idle
    · exact fun other => by rintro ⟨⟩

/-- `c` and a click elsewhere. -/
def sampleInputs : List Input := [
  .key { code := .char 'c' } {},
  .mouse { kind := .downLeft, target := some (.execution "b") } { reads := [⟨[], .ok 0⟩] }]

/-- Then comes Enter. -/
theorem operator_confirms_clicked : ∃ s₀ s, operator.start s₀ ∧
    operator.run s₀ sampleInputs = some s ∧ s.ui.selectedExecutionId = some "b" ∧
    s.command (.key { code := .enter } {}) = .cancel "a" ∧
    Asked s₀ sampleInputs (.execution "a") := by
  have first : operator.start _ := ⟨⟨"w", "demo", "/demo", 0⟩, none, none, sampleLogs,
    sampleReplies, _, _, sampleLogs_numbered, rfl, rfl⟩
  have confirms {s : Operator} (ran : operator.run _ sampleInputs = some s) :=
    operator_confirms first ran
  exact ⟨_, _, first, rfl, rfl, rfl,
    (((confirms rfl).2 (.key { code := .enter } {})).1 "a" rfl).1⟩

end Ui

end Loomterm
