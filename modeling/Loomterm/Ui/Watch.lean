import Loomterm.Session.Detail
import Loomterm.Ui.Pane

/-!
# `loom watch`

The live observer of `src/watch.rs`: keys, the poll that reads the session again, and the
commands that follow. The dialog that asks before an execution is cancelled keeps the
execution's id, but the command reads the selection: `watch_cancels_confirmed` says when the
two are the same.
-/

namespace Loomterm

/-- Whether an execution of this id is listed. -/
def ReplayDetail.lists (detail : ReplayDetail) (id : ExecutionId) : Bool :=
  detail.executions.any (·.id = id)

namespace Watch

/-- `Focus`. -/
inductive Focus where
  | executions
  | output
  deriving DecidableEq, Repr

/-- `Confirmation`. -/
inductive Confirmation where
  | cancel (executionId : ExecutionId)
  deriving DecidableEq, Repr

/-- `Command`. -/
inductive Command where
  | none
  | quit
  | reloadOutput
  | cancel
  | openReplay
  | exportReplay
  deriving DecidableEq, Repr

/-- `WatchState` (`src/watch.rs:64`). -/
structure WatchState extends OutputPane where
  detail : ReplayDetail
  selectedId : Option ExecutionId
  focus : Focus := .executions
  confirmation : Option Confirmation := none
  error : Option String := none

namespace WatchState

/-- `WatchState::new`. -/
def new (detail : ReplayDetail) : WatchState where
  detail
  selectedId := detail.executions.getLast?.map (·.id)

/-- `WatchState::selected_index`. -/
def selectedIndex (state : WatchState) : Option Nat :=
  state.selectedId.bind fun selected => state.detail.executions.findIdx? (·.id = selected)

/-- `WatchState::selected`. -/
def selected (state : WatchState) : Option DisplayedExecution :=
  state.selectedIndex.bind fun index => state.detail.executions[index]?

/-- `WatchState::refresh`, and whether another execution is selected. -/
def refresh (state : WatchState) (detail : ReplayDetail) : WatchState × Bool :=
  let selectedId :=
    match state.selectedId with
    | some id =>
        if detail.lists id then some id else detail.executions.getLast?.map (·.id)
    | none => detail.executions.getLast?.map (·.id)
  ({ state with detail, selectedId }, state.selectedId ≠ selectedId)

/-- `WatchState::reset_output`. -/
def resetOutput (state : WatchState) : WatchState :=
  { state with toOutputPane := state.toOutputPane.resetOutput }

/-- `WatchState::select_relative`, and whether another execution is selected. -/
def selectRelative (state : WatchState) (amount : Int) : WatchState × Bool :=
  let last := state.detail.executions.length - 1
  let next := clampIndex (state.selectedIndex.getD 0) amount last
  match state.detail.executions[next]? with
  | none => (state, false)
  | some execution =>
      if state.selectedId = some execution.id then (state, false)
      else ({ state with selectedId := some execution.id }.resetOutput, true)

/-- `Up` and `Down` in the list of executions. -/
def reselect (state : WatchState) (amount : Int) : WatchState × Command :=
  let (state, changed) := state.selectRelative amount
  (state, if changed then .reloadOutput else .none)

/-- A key while the dialog is open. -/
def answer (state : WatchState) : KeyCode → WatchState × Command
  | .char 'y' | .char 'Y' | .enter => ({ state with confirmation := none }, .cancel)
  | .char 'n' | .char 'N' | .esc => ({ state with confirmation := none }, .none)
  | _ => (state, .none)

/-- `c`: the dialog for the selected execution, if it can be cancelled. -/
def askCancel (state : WatchState) : WatchState :=
  match state.selected with
  | none => state
  | some execution =>
      if execution.state = .queued ∨ execution.state = .running then
        { state with confirmation := some (.cancel execution.id) }
      else { state with notice := some "only queued or running executions can be cancelled" }

/-- `WatchState::handle_key` (`src/watch.rs:183`). -/
def handleKey (state : WatchState) (key : KeyEvent) : WatchState × Command :=
  if key.kind ≠ .press then (state, .none)
  else if state.confirmation.isSome then state.answer key.code
  else
    match key.code, state.focus with
    | .char 'q', _ => (state, .quit)
    | .tab, .executions => ({ state with focus := .output }, .none)
    | .tab, .output => ({ state with focus := .executions }, .none)
    | .up, .executions => state.reselect (-1)
    | .down, .executions => state.reselect 1
    | .up, .output =>
        ({ state with follow := false, outputScroll := state.outputScroll - 1 }, .none)
    | .down, .output =>
        ({ state with follow := false, outputScroll := state.outputScroll + 1 }, .none)
    | .home, .output => ({ state with follow := false, outputScroll := 0 }, .none)
    | .fin, .output => ({ state with follow := true }, .none)
    | .char 'f', _ => ({ state with follow := !state.follow }, .none)
    | .char 'c', _ => (state.askCancel, .none)
    | .char 'o', _ => (state, .openReplay)
    | .char 'e', _ => (state, .exportReplay)
    | _, _ => (state, .none)

/-! ## The loop -/

/-- The rounds of `load_output`, with the daemon's answers to its reads. -/
def loadPages (state : WatchState) : List (Except String ReadOutputResponse) → WatchState
  | [] => state
  | .error error :: _ =>
      { state with error := some ("output read failed; retrying: " ++ error) }
  | .ok response :: rest =>
      let before := state.outputCursor
      let state := { state with
        toOutputPane := state.toOutputPane.ingest response.events response.nextSeq }
      if !response.hasMore || state.outputCursor ≤ before then state
      else state.loadPages rest

/-- `load_output`. -/
def loadOutput (state : WatchState) (pages : List (Except String ReadOutputResponse)) :
    WatchState :=
  if state.selectedId.isSome then state.loadPages pages else state

end WatchState

/-- What the daemon and the file system answer to a command. -/
structure Answers where
  cancelled : Except String Unit := .ok ()
  pages : List (Except String ReadOutputResponse) := []
  directory : Except String String := .ok ""
  present : Bool := false
  replay : Except String Unit := .ok ()

/-- What a command did: the state, whether the loop ends, and the execution whose
cancellation was asked for. -/
structure Handled where
  state : WatchState
  ended : Bool := false
  sent : Option ExecutionId := none

/-- `handle_command` (`src/watch.rs:391`). -/
def handleCommand (state : WatchState) (answers : Answers) : Command → Handled
  | .none => ⟨state, false, none⟩
  | .quit => ⟨state, true, none⟩
  | .reloadOutput => ⟨state.loadOutput answers.pages, false, none⟩
  | .cancel =>
      match state.selectedId with
      | none => ⟨state, false, none⟩
      | some executionId =>
          match answers.cancelled with
          | .ok _ => ⟨{ state with notice := some "cancel requested" }, false, some executionId⟩
          | .error error =>
              ⟨{ state with error := some ("cancel failed: " ++ error) }, false, some executionId⟩
  | .openReplay =>
      if state.detail.session.state = .recording then
        ⟨{ state with notice := some "replay is available after recording finishes" }, false, none⟩
      else
        match answers.replay with
        | .ok _ =>
            ⟨{ state with notice := some ("opened " ++ state.detail.session.htmlPath) }, false, none⟩
        | .error error => ⟨{ state with error := some ("open failed: " ++ error) }, false, none⟩
  | .exportReplay =>
      if state.detail.session.state = .recording then
        ⟨{ state with notice := some "export is available after recording finishes" }, false, none⟩
      else
        match answers.directory with
        | .error _ => ⟨state, true, none⟩
        | .ok directory =>
            let output := directory ++ "/loomterm-session-" ++ state.detail.session.id ++ ".html"
            if answers.present then
              ⟨{ state with error := some ("refusing to overwrite " ++ output) }, false, none⟩
            else
              match answers.replay with
              | .ok _ =>
                  ⟨{ state with
                    notice := some ("exported " ++ output ++ " (review for sensitive data)") },
                    false, none⟩
              | .error error =>
                  ⟨{ state with error := some ("export failed: " ++ error) }, false, none⟩

/-- What the loop waits for. -/
inductive Input where
  | key (key : KeyEvent) (answers : Answers)
  | otherEvent
  | inputFailed (error : String)
  | inputEnded
  | tickSkipped
  | refreshed (detail : ReplayDetail) (pages : List (Except String ReadOutputResponse))
  | refreshFailed (error : String)

/-- One round of `run_loop` (`src/watch.rs:306`). -/
def handle (state : WatchState) : Input → Handled
  | .key key answers =>
      let (state, command) := state.handleKey key
      handleCommand state answers command
  | .otherEvent => ⟨state, false, none⟩
  | .inputFailed error => ⟨{ state with error := some ("terminal input: " ++ error) }, false, none⟩
  | .inputEnded => ⟨state, true, none⟩
  | .tickSkipped => ⟨state, false, none⟩
  | .refreshed detail pages =>
      let (state, changed) := state.refresh detail
      let state := if changed then state.resetOutput else state
      ⟨{ state with error := none }.loadOutput pages, false, none⟩
  | .refreshFailed error =>
      ⟨{ state with error := some ("daemon read failed; retrying: " ++ error) }, false, none⟩

/-- The runs of the loop, from any session. -/
def watch : System Handled Input where
  start s := ∃ detail pages, s = ⟨(WatchState.new detail).loadOutput pages, false, none⟩
  step s input := if s.ended then none else some (handle s.state input)

/-! ## What a round leaves alone -/

/-- The dialog is for the selected execution. -/
def Aimed (state : WatchState) : Prop :=
  ∀ x, state.confirmation = some (.cancel x) → state.selectedId = some x

/-- Reading output changes neither the selection nor the dialog. -/
theorem loadPages_frame (state : WatchState) (pages : List (Except String ReadOutputResponse)) :
    (state.loadPages pages).selectedId = state.selectedId ∧
      (state.loadPages pages).confirmation = state.confirmation := by
  induction pages generalizing state with
  | nil => exact ⟨rfl, rfl⟩
  | cons page rest ih =>
    cases page with
    | error error => exact ⟨rfl, rfl⟩
    | ok response =>
      unfold WatchState.loadPages
      simp only
      split
      · exact ⟨rfl, rfl⟩
      · exact ih _

theorem loadOutput_frame (state : WatchState) (pages : List (Except String ReadOutputResponse)) :
    (state.loadOutput pages).selectedId = state.selectedId ∧
      (state.loadOutput pages).confirmation = state.confirmation := by
  unfold WatchState.loadOutput
  split
  · exact loadPages_frame state pages
  · exact ⟨rfl, rfl⟩

theorem handleCommand_frame (state : WatchState) (answers : Answers) (command : Command) :
    (handleCommand state answers command).state.selectedId = state.selectedId ∧
      (handleCommand state answers command).state.confirmation = state.confirmation := by
  unfold handleCommand
  cases command with
  | reloadOutput => exact loadOutput_frame state answers.pages
  | none => exact ⟨rfl, rfl⟩
  | quit => exact ⟨rfl, rfl⟩
  | cancel => simp only; split <;> [skip; split] <;> exact ⟨rfl, rfl⟩
  | openReplay => simp only; split <;> [skip; split] <;> exact ⟨rfl, rfl⟩
  | exportReplay =>
    simp only
    split
    · exact ⟨rfl, rfl⟩
    · split
      · exact ⟨rfl, rfl⟩
      · split <;> [skip; split] <;> exact ⟨rfl, rfl⟩

/-- The selected execution has the selected id. -/
theorem selected_id {state : WatchState} {execution : DisplayedExecution}
    (found : state.selected = some execution) : state.selectedId = some execution.id := by
  unfold WatchState.selected WatchState.selectedIndex at found
  cases chosen : state.selectedId with
  | none => simp [chosen] at found
  | some id =>
    simp only [chosen, Option.bind_some] at found
    obtain ⟨index, place, entry⟩ := Option.bind_eq_some_iff.mp found
    obtain ⟨inside, here, -⟩ := List.findIdx?_eq_some_iff_getElem.mp place
    obtain ⟨bound, same⟩ := List.getElem?_eq_some_iff.mp entry
    rw [same] at here
    simpa using (decide_eq_true_eq.mp here).symm

/-! ## The keys -/

/-- The keys that accept the dialog. -/
def KeyEvent.accepts (key : KeyEvent) : Bool :=
  key.kind = .press && (key.code = .char 'y' || key.code = .char 'Y' || key.code = .enter)

/-- With the dialog open a key closes it or does nothing, and only accepting it cancels. -/
theorem handleKey_open {state : WatchState} {dialog : Confirmation} (key : KeyEvent)
    (shown : state.confirmation = some dialog) :
    (state.handleKey key).1.selectedId = state.selectedId ∧
      ((state.handleKey key).1.confirmation = none ∨
        (state.handleKey key).1.confirmation = some dialog) ∧
      ((state.handleKey key).2 = .cancel ↔ KeyEvent.accepts key = true) := by
  have present : state.confirmation.isSome = true := by rw [shown]; rfl
  by_cases pressed : key.kind = .press
  · have taken : state.handleKey key = state.answer key.code := by
      simp [WatchState.handleKey, pressed, present]
    have accepted : KeyEvent.accepts key =
        (key.code = .char 'y' || key.code = .char 'Y' || key.code = .enter) := by
      simp [KeyEvent.accepts, pressed]
    rw [taken, accepted]
    unfold WatchState.answer
    split <;> simp_all
  · have ignored : state.handleKey key = (state, .none) := by
      simp [WatchState.handleKey, pressed]
    rw [ignored]
    simp [KeyEvent.accepts, pressed, shown]

theorem selectRelative_confirmation (state : WatchState) (amount : Int) :
    (state.selectRelative amount).1.confirmation = state.confirmation := by
  unfold WatchState.selectRelative
  simp only
  split
  · rfl
  · split <;> rfl

theorem reselect_closed {state : WatchState} (amount : Int) (closed : state.confirmation = none) :
    Aimed (state.reselect amount).1 ∧ (state.reselect amount).2 ≠ .cancel := by
  have kept := selectRelative_confirmation state amount
  constructor
  · intro x shown
    have same : (state.reselect amount).1.confirmation = none := kept.trans closed
    rw [same] at shown
    cases shown
  · unfold WatchState.reselect
    simp only
    split <;> simp

/-- A dialog opens for the selected execution. -/
theorem askCancel_aimed {state : WatchState} (closed : state.confirmation = none) :
    Aimed state.askCancel := by
  unfold WatchState.askCancel
  split
  · intro x shown
    rw [closed] at shown
    cases shown
  · next execution found =>
    split
    · rintro x shown
      obtain rfl : execution.id = x := by simpa using shown
      exact selected_id found
    · intro x shown
      have same : state.confirmation = some (.cancel x) := shown
      rw [closed] at same
      cases same

/-- Without the dialog no key cancels. -/
theorem handleKey_closed {state : WatchState} (key : KeyEvent)
    (closed : state.confirmation = none) :
    Aimed (state.handleKey key).1 ∧ (state.handleKey key).2 ≠ .cancel := by
  have aimed : ∀ {other : WatchState}, other.confirmation = none → Aimed other := by
    intro other same x shown
    rw [same] at shown
    cases shown
  unfold WatchState.handleKey
  by_cases pressed : key.kind = .press
  · rw [if_neg (by simp [pressed]), if_neg (by simp [closed])]
    split
    case h_4 => exact reselect_closed (-1) closed
    case h_5 => exact reselect_closed 1 closed
    case h_11 => exact ⟨askCancel_aimed closed, by simp⟩
    all_goals exact ⟨aimed closed, by simp⟩
  · rw [if_pos pressed]
    exact ⟨aimed closed, by simp⟩

/-! ## What is sent -/

/-- A refresh while the dialog is open lists its execution. -/
def Kept (s : Handled) : Input → Prop
  | .refreshed detail _ =>
      match s.state.confirmation with
      | some (.cancel x) => detail.lists x = true
      | none => True
  | _ => True

instance (s : Handled) (input : Input) : Decidable (Kept s input) := by
  unfold Kept
  split
  · split <;> infer_instance
  · infer_instance

theorem refresh_frame (state : WatchState) (detail : ReplayDetail) (pages) :
    (handle state (.refreshed detail pages)).state.selectedId =
        (state.refresh detail).1.selectedId ∧
      (handle state (.refreshed detail pages)).state.confirmation = state.confirmation := by
  have read := loadOutput_frame
    { (if (state.refresh detail).2 then (state.refresh detail).1.resetOutput
        else (state.refresh detail).1) with error := none } pages
  unfold handle
  simp only
  rw [read.1, read.2]
  split <;> exact ⟨rfl, rfl⟩

/-- The selected execution stays selected while it is listed. -/
theorem refresh_listed {state : WatchState} {detail : ReplayDetail} {x : ExecutionId}
    (selected : state.selectedId = some x) (listed : detail.lists x = true) :
    (state.refresh detail).1.selectedId = some x := by
  simp [WatchState.refresh, selected, listed]

/-- No refresh selects an execution that it does not list. -/
theorem refresh_unlisted (state : WatchState) {detail : ReplayDetail} {x : ExecutionId}
    (missing : detail.lists x = false) : (state.refresh detail).1.selectedId ≠ some x := by
  have last : detail.executions.getLast?.map (·.id) ≠ some x := by
    intro found
    obtain ⟨execution, here, same⟩ := Option.map_eq_some_iff.mp found
    have listed : detail.lists x = true :=
      List.any_eq_true.mpr ⟨execution, List.mem_of_getLast? here, by simpa using same⟩
    rw [missing] at listed
    cases listed
  simp only [WatchState.refresh]
  cases state.selectedId with
  | none => exact last
  | some id =>
    simp only
    split
    · next listed =>
      rintro same
      obtain rfl : id = x := by simpa using same
      rw [missing] at listed
      cases listed
    · exact last

theorem aimed_handle {s : Handled} {input : Input} (aimed : Aimed s.state) (kept : Kept s input) :
    Aimed (handle s.state input).state := by
  cases input with
  | key key answers =>
    have frame := handleCommand_frame (s.state.handleKey key).1 answers (s.state.handleKey key).2
    have stays : Aimed (s.state.handleKey key).1 := by
      cases shown : s.state.confirmation with
      | none => exact (handleKey_closed key shown).1
      | some dialog =>
        obtain ⟨selection, closed | same, -⟩ := handleKey_open key shown
        · intro x later
          rw [closed] at later
          cases later
        · intro x later
          rw [same, ← shown] at later
          rw [selection]
          exact aimed x later
    intro x later
    rw [handle, frame.2] at later
    rw [handle, frame.1]
    exact stays x later
  | refreshed detail pages =>
    intro x shown
    obtain ⟨selection, same⟩ := refresh_frame s.state detail pages
    rw [same] at shown
    have listed : detail.lists x = true := by simpa only [Kept, shown] using kept
    rw [selection]
    exact refresh_listed (aimed x shown) listed
  | otherEvent => exact aimed
  | inputFailed error => exact aimed
  | inputEnded => exact aimed
  | tickSkipped => exact aimed
  | refreshFailed error => exact aimed

theorem aimed_watch {s : Handled} (reached : watch.ReachableVia Kept s) : Aimed s.state := by
  apply reached.invariant fun s => Aimed s.state
  · rintro s ⟨detail, pages, rfl⟩ x shown
    have frame := loadOutput_frame (WatchState.new detail) pages
    rw [frame.2] at shown
    cases shown
  · intro s input s' _ aimed kept enabled
    simp only [watch] at enabled
    split at enabled
    · cases enabled
    · obtain rfl := Option.some.inj enabled
      exact aimed_handle aimed kept

/-- What accepting the dialog sends: the selection. -/
theorem sent_of_accepted {state : WatchState} {dialog : Confirmation} {key : KeyEvent}
    (answers : Answers) (shown : state.confirmation = some dialog)
    (accepted : KeyEvent.accepts key = true) :
    (handle state (.key key answers)).sent = state.selectedId := by
  obtain ⟨selection, -, cancels⟩ := handleKey_open key shown
  unfold handle
  simp only
  rw [cancels.mpr accepted, ← selection]
  unfold handleCommand
  cases (state.handleKey key).1.selectedId with
  | none => rfl
  | some x =>
    simp only
    cases answers.cancelled <;> rfl

/-- In a run whose refreshes list the execution of an open dialog, accepting the dialog
cancels that execution. A refresh that does not list it changes what is cancelled. -/
theorem watch_cancels_confirmed {s : Handled} {x : ExecutionId} {key : KeyEvent}
    (answers : Answers) (shown : s.state.confirmation = some (.cancel x))
    (accepted : KeyEvent.accepts key = true) :
    (watch.ReachableVia Kept s → (handle s.state (.key key answers)).sent = some x) ∧
    ∀ detail pages, ¬ Kept s (.refreshed detail pages) →
      (handle (handle s.state (.refreshed detail pages)).state (.key key answers)).sent ≠
        some x := by
  constructor
  · intro reached
    rw [sent_of_accepted answers shown accepted]
    exact aimed_watch reached x shown
  · intro detail pages missing
    obtain ⟨selection, same⟩ := refresh_frame s.state detail pages
    have unlisted : detail.lists x = false := by simpa [Kept, shown] using missing
    rw [sent_of_accepted answers (same.trans shown) accepted, selection]
    exact refresh_unlisted s.state unlisted

/-- A session with running executions. -/
def sampleListing (ids : List ExecutionId) : ReplayDetail :=
  { sampleDetail with executions := ids.map sampleExecution }

theorem sample_start : watch.start
    ⟨(WatchState.new (sampleListing ["a", "b"])).loadOutput [], false, none⟩ := ⟨_, _, rfl⟩

/-- The dialog stays aimed when another execution comes. -/
theorem watch_cancels_confirmed_sample :
    ∃ s : Handled, s.state.detail = sampleListing ["a", "b", "c"] ∧
      (handle s.state (.key { code := .enter } {})).sent = some "b" := by
  have asked := System.ReachableVia.step (.start sample_start : watch.ReachableVia Kept _)
    (show Kept _ (.key { code := .char 'c' } {}) from trivial) rfl
  have listed := System.ReachableVia.step asked
    (a := .refreshed (sampleListing ["a", "b", "c"]) []) (by decide) rfl
  exact ⟨_, rfl, (watch_cancels_confirmed {} rfl rfl).1 listed⟩

/-- The execution of the dialog is pruned, and the other one is cancelled. -/
theorem watch_cancels_another :
    ∃ s, watch.Reachable s ∧ s.state.confirmation = some (.cancel "b") ∧
      ∃ key answers, KeyEvent.accepts key = true ∧
        (handle s.state (.key key answers)).sent = some "a" := by
  have asked := System.ReachableVia.step (.start sample_start : watch.Reachable _) trivial
    (a := .key { code := .char 'c' } {}) rfl
  have pruned := System.ReachableVia.step asked trivial
    (a := .refreshed (sampleListing ["a"]) []) rfl
  exact ⟨_, pruned, rfl, { code := .enter }, {}, rfl, rfl⟩

end Watch

end Loomterm
