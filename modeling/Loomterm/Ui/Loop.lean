import Loomterm.Misc.System
import Loomterm.Ui.Operator

/-!
# The loop of the operator interface

`run` of `src/ui.rs`: input, the subscription to the output of the selected execution, and
the poll. Around it the daemon appends events to the logs of its executions, answers reads
from them, and sends a subscriber the events behind its cursor, in order.
-/

namespace Loomterm

namespace Ui

/-! ## The daemon -/

/-- The events of each execution, in order. -/
abbrev Logs := ExecutionId → List ExecutionEvent

/-- An event that the daemon appends. -/
structure Arrival where
  executionId : ExecutionId
  timestampMs : Int
  payload : ExecutionEventPayload

/-- Appends an event to the log of its execution. -/
def Logs.append (logs : Logs) (arrival : Arrival) : Logs :=
  Function.update logs arrival.executionId
    (logs arrival.executionId ++
      [⟨arrival.executionId, (logs arrival.executionId).length + 1, arrival.timestampMs,
        arrival.payload⟩])

/-- Appends events one after the other. -/
def Logs.arrive (logs : Logs) (arrivals : List Arrival) : Logs := arrivals.foldl Logs.append logs

/-- What the loop reads of a `ReadOutputResponse`. -/
structure Page where
  events : List ExecutionEvent
  nextSeq : Nat
  hasMore : Bool
  deriving DecidableEq, Repr

/-- The page of `rows + 1` events behind `afterSeq`, if there are so many. `pageOf_of_isPage` says
that the daemon answers with no others. -/
def pageOf (log : List ExecutionEvent) (afterSeq rows : Nat) : Page :=
  let events := (log.drop afterSeq).take (rows + 1)
  ⟨events, afterSeq + events.length, afterSeq + events.length < log.length⟩

/-- A page goes on where the log was left. -/
theorem pageOf_next {log : List ExecutionEvent} {afterSeq : Nat} (rows : Nat)
    (inside : afterSeq ≤ log.length) :
    log.take (pageOf log afterSeq rows).nextSeq =
        log.take afterSeq ++ (pageOf log afterSeq rows).events ∧
      (pageOf log afterSeq rows).nextSeq ≤ log.length := by
  constructor
  · simp only [pageOf]
    rw [List.take_add, List.length_take, ← List.take_eq_take_min]
  · simp only [pageOf, List.length_take, List.length_drop]
    omega

/-- Whatever its limit is, a page of the store is one of some number of rows. -/
theorem pageOf_of_isPage {log : List ExecutionEvent} {afterSeq maxBytes : Nat}
    {response : ReadOutputResponse} (page : Database.IsPage log log.length afterSeq maxBytes response) :
    ∃ rows, pageOf log afterSeq rows =
      ⟨response.events, response.nextSeq, response.hasMore⟩ := by
  refine ⟨response.events.length - 1, ?_⟩
  have run : (log.drop afterSeq).take (response.events.length - 1 + 1) = response.events := by
    cases empty : response.events with
    | nil =>
      have ended : log.length ≤ afterSeq := by
        by_contra more
        exact page.nonempty.mpr (by omega) empty
      rw [List.drop_eq_nil_of_le ended, List.take_nil]
    | cons event rest =>
      have same := page.run
      rw [empty] at same
      rw [List.length_cons, Nat.add_sub_cancel]
      exact same.symm
  have more : (decide (afterSeq + response.events.length < log.length)) = response.hasMore := by
    rw [← page.nextSeq_eq]
    exact Bool.eq_iff_iff.mpr (decide_eq_true_iff.trans page.more.symm)
  simp only [pageOf, run, more, page.nextSeq_eq]

/-- One read: what was appended before it, and a page of `rows + 1` events or an error. -/
structure Read where
  arrived : List Arrival := []
  rows : Except String Nat

/-- The answers of `list_agent_sessions`, `list` and `get_agent_session`. -/
structure Snapshot where
  sessions : List AgentSession
  executions : List DisplayedExecution
  detail : SessionId → Except String ReplayDetail

/-- The answers of the daemon and the file system to what one input starts. -/
structure Replies where
  snapshot : Except String Snapshot := .error ""
  session : Except String ReplayDetail := .error ""
  cancelled : Except String Unit := .ok ()
  replay : Except String Unit := .ok ()
  directory : Except String String := .ok ""
  present : Bool := false
  reads : List Read := []
  subscribed : Except String Unit := .ok ()

/-! ## Refreshing -/

/-- What `refresh` does up to the selection: the state with the snapshot, or the error after which
nothing else happens. -/
def placed (state : OperatorState) (replies : Replies) : OperatorState × Except String Unit :=
  match replies.snapshot with
  | .error error => (state, .error error)
  | .ok snapshot =>
      let state := { state with
        selectedSessionId := state.selectedSessionId.filter fun id =>
          snapshot.sessions.any (·.id = id) }
      match state.selectedSessionId with
      | none => (state.placeSnapshot snapshot.sessions snapshot.executions none, .ok ())
      | some id =>
          match snapshot.detail id with
          | .error error => (state, .error error)
          | .ok detail =>
              (state.placeSnapshot snapshot.sessions snapshot.executions (some detail), .ok ())

/-- `refresh` (`src/ui.rs:984`), and whether another execution is selected. -/
def refresh (state : OperatorState) (replies : Replies) : OperatorState × Except String Bool :=
  match replies.snapshot with
  | .error error => (state, .error error)
  | .ok snapshot =>
      let state := { state with
        selectedSessionId := state.selectedSessionId.filter fun id =>
          snapshot.sessions.any (·.id = id) }
      let applied (detail : Option ReplayDetail) : OperatorState × Except String Bool :=
        let (next, changed) :=
          state.applySnapshot snapshot.sessions snapshot.executions detail
        (next, .ok changed)
      match state.selectedSessionId with
      | none => applied none
      | some id =>
          match snapshot.detail id with
          | .error error => (state, .error error)
          | .ok detail => applied (some detail)

theorem refresh_eq (state : OperatorState) (replies : Replies) :
    refresh state replies =
      match placed state replies with
      | (state, .error error) => (state, .error error)
      | (before, .ok _) =>
          let next := before.ensureExecutionSelection
          (next, .ok (state.selectedExecutionId ≠ next.selectedExecutionId)) := by
  unfold refresh placed
  split
  · rfl
  · simp only
    split
    · rfl
    · split <;> rfl

/-! ## Commands -/

/-- `truncate`. -/
def truncateText (value : String) (maxChars : Nat) : String :=
  let truncated := String.ofList (value.toList.take maxChars)
  if maxChars < value.toList.length then truncated ++ "..." else truncated

/-- The dialog that `PrepareHandoff` opens, or why it does not. -/
def prepareHandoff (state : OperatorState) (sessionId : SessionId) (detail : ReplayDetail) :
    OperatorState :=
  let active := detail.executions.filter fun execution => !execution.state.isTerminal
  if detail.session.state = .recording then
    { state with notice := some "exit the source agent before handoff" }
  else
    match active with
    | [] => { state with notice := some "this session has no active durable work to hand off" }
    | first :: _ =>
        let provider : AgentProvider :=
          if detail.session.agentKind = "codex" then .claude else .codex
        { state with
          modal := some (.agent (.handoff sessionId detail.session.agentKind active.length
            (truncateText first.commandDisplay 56)) provider .provider "") }

/-- Writing a replay, and what is said about it. -/
def exportReplay (state : OperatorState) (detail : ReplayDetail) (replies : Replies) :
    Except String OperatorState :=
  if detail.session.state = .recording then
    .ok { state with notice := some "export is available after recording finishes" }
  else
    match replies.directory with
    | .error error => .error error
    | .ok directory =>
        let output := directory ++ "/loomterm-session-" ++ detail.session.id ++ ".html"
        if replies.present then
          .ok { state with error := some ("refusing to overwrite " ++ output) }
        else
          match replies.replay with
          | .ok _ => .ok { state with
              notice := some ("exported " ++ output ++ " (review for sensitive data)") }
          | .error error => .ok { state with error := some ("export failed: " ++ error) }

/-- Opening a replay, and what is said about it. -/
def openReplay (state : OperatorState) (detail : ReplayDetail) (replies : Replies) :
    OperatorState :=
  if detail.session.state = .recording then
    { state with notice := some "replay is available after recording finishes" }
  else
    match replies.replay with
    | .ok _ => { state with notice := some ("opened " ++ detail.session.htmlPath) }
    | .error error => { state with error := some ("open failed: " ++ error) }

/-- How the loop ends. -/
abbrev Ending := Except String UiAction

/-- `handle_command` (`src/ui.rs:1072`): the state, and the end of the loop if it ends. -/
def handleCommand (state : OperatorState) (replies : Replies) :
    Command → OperatorState × Option Ending
  | .none | .reloadOutput => (state, none)
  | .quit => (state, some (.ok .quit))
  | .refresh =>
      match refresh state replies with
      | (state, .error error) => (state, some (.error error))
      | (state, .ok true) => (state.resetOutput, none)
      | (state, .ok false) => (state, none)
  | .cancel _ =>
      match replies.cancelled with
      | .ok _ => ({ state with notice := some "cancel requested" }, none)
      | .error error => ({ state with error := some ("cancel failed: " ++ error) }, none)
  | .openReplay _ =>
      match replies.session with
      | .error error => (state, some (.error error))
      | .ok detail => (openReplay state detail replies, none)
  | .exportReplay _ =>
      match replies.session with
      | .error error => (state, some (.error error))
      | .ok detail =>
          match exportReplay state detail replies with
          | .ok state => (state, none)
          | .error error => (state, some (.error error))
  | .prepareHandoff sessionId =>
      match replies.session with
      | .error error => (state, some (.error error))
      | .ok detail => (prepareHandoff state sessionId detail, none)
  | .launch provider prompt => (state, some (.ok (.launch provider prompt)))
  | .handoff provider sourceSessionId => (state, some (.ok (.handoff provider sourceSessionId)))

/-! ## Output -/

/-- The rounds of `load_output`; `none` while the daemon owes an answer. -/
def loadPages (id : ExecutionId) (state : OperatorState) (logs : Logs) :
    List Read → Option (OperatorState × Logs)
  | [] => none
  | read :: rest =>
      let logs := logs.arrive read.arrived
      match read.rows with
      | .error error =>
          some ({ state with error := some ("output read failed; retrying: " ++ error) }, logs)
      | .ok rows =>
          let before := state.outputCursor
          let page := pageOf (logs id) before rows
          let state := { state with
            toOutputPane := state.toOutputPane.ingest page.events page.nextSeq }
          if !page.hasMore || state.outputCursor ≤ before then some (state, logs)
          else loadPages id state logs rest

/-- `load_output` (`src/ui.rs:1004`). -/
def loadOutput (state : OperatorState) (logs : Logs) (reads : List Read) :
    Option (OperatorState × Logs) :=
  match state.selectedExecutionId with
  | none => some (state, logs)
  | some id => loadPages id state logs reads

/-- `ExecutionSubscription`: whose events it carries, and the last one it has handed out. -/
structure Subscription where
  executionId : ExecutionId
  nextSeq : Nat
  deriving DecidableEq, Repr

/-- `subscribe_output`. -/
def subscribeOutput (state : OperatorState) (subscribed : Except String Unit) :
    OperatorState × Option Subscription :=
  match state.selectedExecutionId with
  | none => (state, none)
  | some id =>
      match subscribed with
      | .ok _ => (state, some ⟨id, state.outputCursor⟩)
      | .error error =>
          ({ state with error := some ("output stream unavailable; retrying: " ++ error) }, none)

/-! ## The loop -/

/-- The loop between two inputs, and the logs of the daemon. -/
structure Operator where
  ui : OperatorState
  subscription : Option Subscription
  logs : Logs
  ended : Option Ending := none

/-- Reading up to the end and subscribing behind it. -/
def attach (ui : OperatorState) (logs : Logs) (replies : Replies) : Option Operator :=
  match loadOutput ui logs replies.reads with
  | none => none
  | some (ui, logs) =>
      let (ui, subscription) := subscribeOutput ui replies.subscribed
      some { ui, subscription, logs }

/-- `sync_subscription`. -/
def syncSubscription (s : Operator) (replies : Replies) : Option Operator :=
  if s.ui.selectedExecutionId = s.subscription.map (·.executionId) then some s
  else attach s.ui s.logs replies

/-- The rest of the loop's first branch, once the input has become a command. -/
def finishInput (s : Operator) (handled : OperatorState × Command) (replies : Replies) :
    Option Operator :=
  let (ui, ended) := handleCommand handled.1 replies handled.2
  if ended.isSome then some { s with ui, ended }
  else syncSubscription { s with ui } replies

/-- What the loop waits for, and what the daemon does meanwhile. -/
inductive Input where
  | key (key : KeyEvent) (replies : Replies)
  | mouse (event : MouseEvent) (replies : Replies)
  | otherEvent (replies : Replies)
  | inputFailed (error : String) (replies : Replies)
  | inputEnded
  | event
  | streamEnded
  | streamFailed (error : String)
  | tick (replies : Replies) (ready : Bool)
  | arrived (arrival : Arrival)

/-- The third branch: the poll; `ready` says whether the time to retry has come. -/
def handleTick (s : Operator) (replies : Replies) (ready : Bool) : Option Operator :=
  match refresh s.ui replies with
  | (ui, .error error) =>
      some { s with ui := { ui with error := some ("daemon unavailable; retrying: " ++ error) } }
  | (ui, .ok changed) =>
      let ui := { ui with error := none }
      let s := if changed then { s with ui := ui.resetOutput, subscription := none }
        else { s with ui }
      if s.subscription.isNone && ready then attach s.ui s.logs replies else some s

/-- One round of `run` (`src/ui.rs:909`). -/
def handle (s : Operator) : Input → Option Operator
  | .key key replies => finishInput s (s.ui.handleKey key) replies
  | .mouse event replies => finishInput s (s.ui.handleMouse event) replies
  | .otherEvent replies => finishInput s (s.ui, .none) replies
  | .inputFailed error replies =>
      finishInput s ({ s.ui with error := some ("terminal input: " ++ error) }, .none) replies
  | .inputEnded => finishInput s (s.ui, .quit) {}
  | .event =>
      match s.subscription with
      | none => none
      | some subscription =>
          match (s.logs subscription.executionId)[subscription.nextSeq]? with
          | none => none
          | some event =>
              some { s with
                ui := { s.ui with toOutputPane := s.ui.toOutputPane.ingest [event] event.seq }
                subscription := some { subscription with nextSeq := event.seq } }
  | .streamEnded => if s.subscription.isSome then some { s with subscription := none } else none
  | .streamFailed error =>
      if s.subscription.isSome then
        some { s with
          ui := { s.ui with
            error := some ("output stream disconnected; retrying: " ++ error) }
          subscription := none }
      else none
  | .tick replies ready => handleTick s replies ready
  | .arrived arrival => some { s with logs := s.logs.append arrival }

/-- The runs of the interface on a workspace: `run` before its loop, and its rounds. The logs
number their events from one. -/
def operator : System Operator Input where
  start s := ∃ workspace selectedSessionId notice logs replies ui changed,
    (∀ id, (logs id).map ExecutionEvent.seq = List.range' 1 (logs id).length) ∧
    refresh { workspace, selectedSessionId, notice } replies = (ui, .ok changed) ∧
    attach ui logs replies = some s
  step s input := if s.ended.isSome then none else handle s input

/-! ## What the interface shows -/

/-- With a live subscription the buffer is the retained tail of the events of the selected
execution up to the cursor, which is the subscription's. -/
def Faithful (s : Operator) : Prop :=
  s.ended = none → ∀ subscription, s.subscription = some subscription →
    s.ui.selectedExecutionId = some subscription.executionId ∧
      s.ui.output = retained (chunksOf
        ((s.logs subscription.executionId).filter (·.seq ≤ s.ui.outputCursor))) ∧
      s.ui.outputCursor = subscription.nextSeq

/-- The execution that a change of the session selects once the snapshot is there. -/
def landAfter (ui : OperatorState) (handled : OperatorState × Command) (replies : Replies) :
    Option ExecutionId :=
  if handled.2 = .refresh ∧ handled.1.selectedSessionId ≠ ui.selectedSessionId then
    match placed handled.1 replies with
    | (placed, .ok _) => placed.visibleExecutionIds.head?
    | (_, .error _) => none
  else none

/-- The execution that an input selects after it has dropped the selection: the first one
visible after `/`, or after a change of the session. -/
def landing (ui : OperatorState) : Input → Option ExecutionId
  | .key key replies =>
      if ui.slash key then ui.searchAll.visibleExecutionIds.head?
      else landAfter ui (ui.handleKey key) replies
  | .mouse event replies => landAfter ui (ui.handleMouse event) replies
  | _ => none

/-- The input does not come back to the execution that the live subscription follows; or
the subscription has handed out nothing yet. -/
def Held (s : Operator) (input : Input) : Prop :=
  ∀ subscription, s.subscription = some subscription →
    subscription.nextSeq = 0 ∨ landing s.ui input ≠ some subscription.executionId

/-! ## Logs -/

/-- The events are numbered from one. -/
def Logs.Numbered (logs : Logs) : Prop :=
  ∀ id, (logs id).map ExecutionEvent.seq = List.range' 1 (logs id).length

/-- Only new events at the ends. -/
def Logs.Grows (logs logs' : Logs) : Prop := ∀ id, logs id <+: logs' id

theorem Logs.append_grows (logs : Logs) (arrival : Arrival) : logs.Grows (logs.append arrival) := by
  intro id
  unfold Logs.append
  by_cases own : id = arrival.executionId
  · subst own
    rw [Function.update_self]
    exact List.prefix_append _ _
  · exact ⟨[], by rw [List.append_nil, Function.update_of_ne own]⟩

theorem Logs.arrive_grows (logs : Logs) (arrivals : List Arrival) :
    logs.Grows (logs.arrive arrivals) := by
  induction arrivals generalizing logs with
  | nil => exact fun _ => List.prefix_rfl
  | cons arrival rest ih => exact fun id => (append_grows logs arrival id).trans (ih _ id)

theorem Logs.Numbered.append {logs : Logs} (numbered : logs.Numbered) (arrival : Arrival) :
    (logs.append arrival).Numbered := by
  intro id
  unfold Logs.append
  by_cases own : id = arrival.executionId
  · subst own
    rw [Function.update_self, List.map_append, numbered, List.length_append, List.length_singleton,
      List.range'_concat]
    simp [Nat.add_comm]
  · rw [Function.update_of_ne own]
    exact numbered id

theorem Logs.Numbered.arrive {logs : Logs} (numbered : logs.Numbered) (arrivals : List Arrival) :
    (logs.arrive arrivals).Numbered := by
  induction arrivals generalizing logs with
  | nil => exact numbered
  | cons arrival rest ih => exact ih (numbered.append arrival)

theorem seq_of_numbered {log : List ExecutionEvent} {i : Nat} {event : ExecutionEvent}
    (numbered : log.map ExecutionEvent.seq = List.range' 1 log.length)
    (found : log[i]? = some event) : event.seq = i + 1 := by
  have number := congrArg (fun seqs : List Nat => seqs[i]?) numbered
  obtain ⟨inside, -⟩ := List.getElem?_eq_some_iff.mp found
  simp only [List.getElem?_map, found, Option.map_some, List.getElem?_range' inside,
    Option.some.injEq] at number
  omega

/-- The events up to a number are the first ones. -/
theorem take_eq_filter {log : List ExecutionEvent} {first : Nat} (n : Nat)
    (numbered : log.map ExecutionEvent.seq = List.range' first log.length) :
    log.take n = log.filter fun event => event.seq < first + n := by
  induction log generalizing first n with
  | nil => simp
  | cons event rest ih =>
    cases n with
    | zero =>
      have beyond : ∀ later ∈ event :: rest, ¬ later.seq < first := by
        intro later member
        have number := List.mem_map_of_mem (f := ExecutionEvent.seq) member
        rw [numbered, List.mem_range'_1] at number
        omega
      rw [List.take_zero, Nat.add_zero, eq_comm, List.filter_eq_nil_iff]
      simpa using beyond
    | succ n =>
      rw [List.map_cons, List.length_cons, List.range'_succ] at numbered
      obtain ⟨here, later⟩ := List.cons.inj numbered
      have inside : event.seq < first + (n + 1) := by omega
      have same : first + (n + 1) = first + 1 + n := by omega
      rw [List.take_succ_cons, List.filter_cons, if_pos (by simpa using inside), same,
        ← ih n later]

/-! ## The invariant -/

/-- What every step keeps: the pane shows the log of the selected execution, and a live
subscription follows it from the pane's cursor on. -/
structure Sound (s : Operator) : Prop where
  numbered : s.logs.Numbered
  shows : s.ended = none →
    ∀ id, s.ui.selectedExecutionId = some id → s.ui.toOutputPane.Shows (s.logs id)
  attached : s.ended = none → ∀ subscription, s.subscription = some subscription →
    s.ui.selectedExecutionId = some subscription.executionId ∧
      s.ui.outputCursor = subscription.nextSeq

theorem Sound.faithful {s : Operator} (sound : Sound s) : Faithful s := by
  intro running subscription live
  obtain ⟨selected, cursor⟩ := sound.attached running subscription live
  have shows := sound.shows running _ selected
  have same := take_eq_filter s.ui.outputCursor (sound.numbered subscription.executionId)
  have bounds : (fun event : ExecutionEvent => decide (event.seq ≤ s.ui.outputCursor)) =
      fun event => decide (event.seq < 1 + s.ui.outputCursor) := by
    funext event
    exact decide_eq_decide.mpr (by omega)
  refine ⟨selected, ?_, cursor⟩
  rw [bounds, ← same]
  exact shows.holds.output

theorem shows_of_prefix {pane : OutputPane} {log log' : List ExecutionEvent}
    (shows : pane.Shows log) (grown : log <+: log') : pane.Shows log' := by
  obtain ⟨more, rfl⟩ := grown
  exact shows.append more

theorem shows_of_emptied {state : OperatorState} (emptied : Emptied state)
    (log : List ExecutionEvent) : state.toOutputPane.Shows log := by
  obtain ⟨output, bytes, cursor⟩ := emptied
  refine ⟨⟨?_, by rw [bytes, output]; rfl⟩, by rw [cursor]; exact Nat.zero_le _⟩
  rw [output, cursor, List.take_zero]
  rfl

theorem SameView.shows {before after : OperatorState} {log : List ExecutionEvent}
    (same : SameView before after) (shows : before.toOutputPane.Shows log) :
    after.toOutputPane.Shows log :=
  shows.congr same.output same.outputBytes same.outputCursor

/-- Whatever an effect shows is a log. -/
theorem Effect.shows {before after : OperatorState} {logs : Logs} (effect : Effect before after)
    (shows : ∀ id, before.selectedExecutionId = some id → before.toOutputPane.Shows (logs id))
    (id : ExecutionId) (selected : after.selectedExecutionId = some id) :
    after.toOutputPane.Shows (logs id) := by
  cases effect with
  | same view => exact view.shows (shows id (view.selected ▸ selected))
  | moved _ emptied => exact shows_of_emptied emptied _
  | dropped none =>
    rw [none] at selected
    cases selected

/-! ## Commands -/

theorem placed_view (state : OperatorState) (replies : Replies) :
    SameView state (placed state replies).1 := by
  unfold placed
  split
  · exact .refl _
  · simp only
    split
    · exact ⟨rfl, rfl, rfl, rfl⟩
    · split <;> exact ⟨rfl, rfl, rfl, rfl⟩

/-- A refresh that does not fail selects a visible execution. -/
theorem refresh_ok {state next : OperatorState} {replies : Replies} {changed : Bool}
    (refreshed : refresh state replies = (next, .ok changed)) :
    ∃ before, placed state replies = (before, .ok ()) ∧ SameView state before ∧
      next = before.ensureExecutionSelection ∧
      changed = decide (state.selectedExecutionId ≠ next.selectedExecutionId) := by
  have view := placed_view state replies
  rw [refresh_eq] at refreshed
  split at refreshed
  · cases refreshed
  · next before _ done =>
    rw [done] at view
    obtain ⟨rfl, same⟩ := Prod.mk.inj refreshed
    exact ⟨before, done, view, rfl, (Except.ok.inj same).symm⟩

theorem refresh_error {state next : OperatorState} {replies : Replies} {error : String}
    (refreshed : refresh state replies = (next, .error error)) : SameView state next := by
  have view := placed_view state replies
  rw [refresh_eq] at refreshed
  split at refreshed
  · next failed =>
    rw [failed] at view
    obtain ⟨rfl, -⟩ := Prod.mk.inj refreshed
    exact view
  · cases refreshed

theorem refresh_effect {state next : OperatorState} {replies : Replies} {changed : Bool}
    (refreshed : refresh state replies = (next, .ok changed)) : Effect state next := by
  obtain ⟨before, -, view, rfl, -⟩ := refresh_ok refreshed
  exact .after view before.ensureExecutionSelection_effect

/-- Every command but a refresh leaves the view as it is. -/
theorem handleCommand_view (state : OperatorState) (replies : Replies) {command : Command}
    (other : command ≠ .refresh) : SameView state (handleCommand state replies command).1 := by
  have opened : ∀ detail, SameView state (openReplay state detail replies) := by
    intro detail
    unfold openReplay
    split <;> [skip; split] <;> exact ⟨rfl, rfl, rfl, rfl⟩
  have exported : ∀ detail next, exportReplay state detail replies = .ok next →
      SameView state next := by
    intro detail next done
    unfold exportReplay at done
    split at done
    · cases done
      exact ⟨rfl, rfl, rfl, rfl⟩
    · split at done
      · cases done
      · simp only at done
        split at done
        · cases done
          exact ⟨rfl, rfl, rfl, rfl⟩
        · split at done <;> cases done <;> exact ⟨rfl, rfl, rfl, rfl⟩
  have prepared : ∀ id detail, SameView state (prepareHandoff state id detail) := by
    intro id detail
    unfold prepareHandoff
    simp only
    split <;> [skip; split] <;> exact ⟨rfl, rfl, rfl, rfl⟩
  unfold handleCommand
  cases command with
  | refresh => exact absurd rfl other
  | none => exact .refl _
  | reloadOutput => exact .refl _
  | quit => exact .refl _
  | launch provider prompt => exact .refl _
  | handoff provider id => exact .refl _
  | cancel id => simp only; split <;> exact ⟨rfl, rfl, rfl, rfl⟩
  | openReplay id =>
    simp only
    split
    · exact .refl _
    · exact opened _
  | prepareHandoff id =>
    simp only
    split
    · exact .refl _
    · exact prepared _ _
  | exportReplay id =>
    simp only
    split
    · exact .refl _
    · next detail _ =>
      split
      · next done => exact exported detail _ done
      · exact .refl _

/-- A refresh after a key: where no execution was selected, the first visible one is, and its
output begins anew. -/
theorem handleCommand_refresh {state next : OperatorState} {replies : Replies}
    (handled : handleCommand state replies .refresh = (next, none)) :
    ∃ before, placed state replies = (before, .ok ()) ∧ Effect state next ∧
      (state.selectedExecutionId = none →
        next.selectedExecutionId = before.visibleExecutionIds.head? ∧
          (before.visibleExecutionIds.head? ≠ none → Emptied next)) := by
  unfold handleCommand at handled
  cases refreshed : refresh state replies with
  | mk middle outcome =>
    cases outcome with
    | error error => simp [refreshed] at handled
    | ok changed =>
      obtain ⟨before, done, view, rfl, compared⟩ := refresh_ok refreshed
      have effect := refresh_effect refreshed
      have first : state.selectedExecutionId = none →
          before.ensureExecutionSelection.selectedExecutionId =
              before.visibleExecutionIds.head? ∧
            (before.visibleExecutionIds.head? ≠ none →
              Emptied before.ensureExecutionSelection) := fun unselected =>
        OperatorState.ensureExecutionSelection_none (view.selected.trans unselected)
      rw [refreshed] at handled
      refine ⟨before, done, ?_⟩
      cases changed with
      | false =>
        obtain ⟨rfl, -⟩ := Prod.mk.inj handled
        exact ⟨effect, first⟩
      | true =>
        obtain ⟨rfl, -⟩ := Prod.mk.inj handled
        have other := of_decide_eq_true compared.symm
        exact ⟨.moved (fun same => other same.symm) (emptied_resetOutput _),
          fun unselected => ⟨(first unselected).1, fun _ => emptied_resetOutput _⟩⟩

/-! ## Output -/

/-- Reading on shows what the log holds by then. -/
theorem loadPages_shows {id : ExecutionId} {state next : OperatorState} {logs logs' : Logs}
    {reads : List Read} (numbered : logs.Numbered) (shows : state.toOutputPane.Shows (logs id))
    (loaded : loadPages id state logs reads = some (next, logs')) :
    next.toOutputPane.Shows (logs' id) ∧
      next.selectedExecutionId = state.selectedExecutionId ∧ logs'.Numbered := by
  induction reads generalizing state logs with
  | nil => cases loaded
  | cons read rest ih =>
    have grown := shows_of_prefix shows (logs.arrive_grows read.arrived id)
    have counted := numbered.arrive read.arrived
    rw [loadPages] at loaded
    cases answer : read.rows with
    | error error =>
      simp only [answer, Option.some.injEq, Prod.mk.injEq] at loaded
      obtain ⟨rfl, rfl⟩ := loaded
      exact ⟨grown, rfl, counted⟩
    | ok rows =>
      simp only [answer] at loaded
      have further : (state.toOutputPane.ingest
          (pageOf (logs.arrive read.arrived id) state.outputCursor rows).events
          (pageOf (logs.arrive read.arrived id) state.outputCursor rows).nextSeq).Shows
          (logs.arrive read.arrived id) := by
        obtain ⟨next, inside⟩ := pageOf_next rows grown.cursor
        exact grown.ingest next inside
      split at loaded
      · obtain ⟨rfl, rfl⟩ := Prod.mk.inj (Option.some.inj loaded)
        exact ⟨further, rfl, counted⟩
      · have later := fun shown => ih counted shown loaded
        exact later further

theorem loadOutput_shows {state next : OperatorState} {logs logs' : Logs} {reads : List Read}
    (numbered : logs.Numbered)
    (shows : ∀ id, state.selectedExecutionId = some id → state.toOutputPane.Shows (logs id))
    (loaded : loadOutput state logs reads = some (next, logs')) :
    logs'.Numbered ∧
      ∀ id, next.selectedExecutionId = some id → next.toOutputPane.Shows (logs' id) := by
  unfold loadOutput at loaded
  split at loaded
  · obtain ⟨rfl, rfl⟩ := Prod.mk.inj (Option.some.inj loaded)
    exact ⟨numbered, shows⟩
  · next id chosen =>
    obtain ⟨shown, kept, counted⟩ := loadPages_shows numbered (shows id chosen) loaded
    refine ⟨counted, fun other selected => ?_⟩
    rw [kept, chosen] at selected
    obtain rfl := Option.some.inj selected
    exact shown

/-- A subscription begins at the cursor. -/
theorem subscribeOutput_spec (state : OperatorState) (subscribed : Except String Unit) :
    SameView state (subscribeOutput state subscribed).1 ∧
      ∀ subscription, (subscribeOutput state subscribed).2 = some subscription →
        state.selectedExecutionId = some subscription.executionId ∧
          state.outputCursor = subscription.nextSeq := by
  unfold subscribeOutput
  split
  · exact ⟨.refl _, fun _ live => by cases live⟩
  · next id chosen =>
    split
    · refine ⟨.refl _, fun subscription live => ?_⟩
      obtain rfl := Option.some.inj live
      exact ⟨chosen, rfl⟩
    · exact ⟨⟨rfl, rfl, rfl, rfl⟩, fun _ live => by cases live⟩

/-- Reading up to the end and subscribing keeps the invariant. -/
theorem attach_sound {ui : OperatorState} {logs : Logs} {replies : Replies} {s : Operator}
    (numbered : logs.Numbered)
    (shows : ∀ id, ui.selectedExecutionId = some id → ui.toOutputPane.Shows (logs id))
    (attached : attach ui logs replies = some s) : Sound s := by
  unfold attach at attached
  split at attached
  · cases attached
  · next next logs' loaded =>
    obtain ⟨counted, shown⟩ := loadOutput_shows numbered shows loaded
    obtain ⟨view, subscribed⟩ := subscribeOutput_spec next replies.subscribed
    obtain rfl := Option.some.inj attached
    refine ⟨counted, fun _ id selected => ?_, fun _ subscription live => ?_⟩
    · exact view.shows (shown id (view.selected ▸ selected))
    · obtain ⟨chosen, cursor⟩ := subscribed subscription live
      exact ⟨view.selected.trans chosen, view.outputCursor.trans cursor⟩

/-! ## Inputs -/

/-- What an input and its command leave: an effect, or the landing. -/
structure Landed (before after : OperatorState) (land : Option ExecutionId) : Prop where
  effect : land = none → Effect before after
  landed : land ≠ none → after.selectedExecutionId = land ∧ Emptied after

theorem Landed.of_first {before after : OperatorState} {land : Option ExecutionId}
    (first : after.selectedExecutionId = land ∧ (land ≠ none → Emptied after)) :
    Landed before after land :=
  ⟨fun nothing => .dropped (first.1.trans nothing), fun some => ⟨first.1, first.2 some⟩⟩

/-- The search drops the selection and selects the first execution of the workspace. -/
theorem landed_search (state : OperatorState) :
    Landed state state.searchAll.ensureExecutionSelection
      state.searchAll.visibleExecutionIds.head? :=
  .of_first (OperatorState.ensureExecutionSelection_none rfl)

theorem Handling.landed {before after : OperatorState} {handled : OperatorState × Command}
    {replies : Replies} (handling : Handling before handled)
    (done : handleCommand handled.1 replies handled.2 = (after, none)) :
    Landed before after (landAfter before handled replies) := by
  cases handling with
  | effect other effect =>
    have nowhere : landAfter before handled replies = none := if_neg (fun both => other both.1)
    have view := handleCommand_view handled.1 replies other
    rw [done] at view
    rw [nowhere]
    exact ⟨fun _ => effect.then view, fun absurdity => absurd rfl absurdity⟩
  | again command view session =>
    have nowhere : landAfter before handled replies = none := if_neg (fun both => both.2 session)
    rw [command] at done
    obtain ⟨_, -, effect, -⟩ := handleCommand_refresh done
    rw [nowhere]
    exact ⟨fun _ => .after view effect, fun absurdity => absurd rfl absurdity⟩
  | session command unselected other =>
    rw [command] at done
    obtain ⟨placed, found, -, first⟩ := handleCommand_refresh done
    have there : landAfter before handled replies = placed.visibleExecutionIds.head? := by
      rw [landAfter, if_pos ⟨command, other⟩, found]
    rw [there]
    exact .of_first (first unselected)

theorem Landed.shows {before after : OperatorState} {land : Option ExecutionId} {logs : Logs}
    (landed : Landed before after land)
    (shows : ∀ id, before.selectedExecutionId = some id → before.toOutputPane.Shows (logs id))
    (id : ExecutionId) (selected : after.selectedExecutionId = some id) :
    after.toOutputPane.Shows (logs id) := by
  by_cases nowhere : land = none
  · exact (landed.effect nowhere).shows shows id selected
  · exact shows_of_emptied (landed.landed nowhere).2 _

/-- Where the loop goes on after an input, a subscription that stays is still at the
cursor. -/
theorem finishInput_sound {s s' : Operator} {handled : OperatorState × Command}
    {replies : Replies} {land : Option ExecutionId} (sound : Sound s) (running : s.ended = none)
    (landed : ∀ after, handleCommand handled.1 replies handled.2 = (after, none) →
      Landed s.ui after land)
    (held : ∀ subscription, s.subscription = some subscription →
      subscription.nextSeq = 0 ∨ land ≠ some subscription.executionId)
    (finished : finishInput s handled replies = some s') : Sound s' := by
  unfold finishInput at finished
  cases command : handleCommand handled.1 replies handled.2 with
  | mk after ended =>
    simp only [command] at finished
    cases ended with
    | some ending =>
      simp only [Option.isSome_some, if_true, Option.some.injEq] at finished
      subst finished
      refine ⟨sound.numbered, fun ended => ?_, fun ended => ?_⟩ <;> cases ended
    | none =>
      have effect := landed after command
      have shows := effect.shows (sound.shows running)
      simp only [Option.isSome_none, Bool.false_eq_true, if_false, syncSubscription] at finished
      split at finished
      · next kept =>
        obtain rfl := Option.some.inj finished
        refine ⟨sound.numbered, fun _ => shows, fun _ subscription live => ?_⟩
        obtain ⟨before, cursor⟩ := sound.attached running subscription live
        have selected : after.selectedExecutionId = some subscription.executionId := by
          rw [show s.subscription = some subscription from live] at kept
          exact kept
        refine ⟨selected, ?_⟩
        by_cases nowhere : land = none
        · cases effect.effect nowhere with
          | same view => exact view.outputCursor.trans cursor
          | moved other _ => exact absurd (selected.trans before.symm) other
          | dropped none =>
            rw [none] at selected
            cases selected
        · obtain ⟨there, emptied⟩ := effect.landed nowhere
          have fresh := (held subscription live).resolve_right
            (fun away => away (there.symm.trans selected))
          exact emptied.outputCursor.trans fresh.symm
      · exact attach_sound sound.numbered shows finished

/-- An input that becomes no command. -/
theorem finishInput_idle {s s' : Operator} {ui : OperatorState} {command : Command}
    {replies : Replies} (sound : Sound s) (running : s.ended = none) (view : SameView s.ui ui)
    (idle : command ≠ .refresh) (finished : finishInput s (ui, command) replies = some s') :
    Sound s' := by
  apply finishInput_sound sound running (fun after done => (?_ : Landed s.ui after none)) (by simp)
    finished
  have same := handleCommand_view ui replies idle
  rw [done] at same
  exact ⟨fun _ => .same (view.trans same), fun absurdity => absurd rfl absurdity⟩

/-- The poll keeps the invariant. -/
theorem handleTick_sound {s s' : Operator} {replies : Replies} {ready : Bool} (sound : Sound s)
    (running : s.ended = none) (handled : handleTick s replies ready = some s') : Sound s' := by
  unfold handleTick at handled
  cases refreshed : refresh s.ui replies with
  | mk ui outcome =>
    cases outcome with
    | error error =>
      simp only [refreshed, Option.some.injEq] at handled
      subst handled
      have view := refresh_error refreshed
      refine ⟨sound.numbered, fun _ id selected => ?_, fun _ subscription live => ?_⟩
      · exact view.shows (sound.shows running id (view.selected ▸ selected))
      · obtain ⟨chosen, cursor⟩ := sound.attached running subscription live
        exact ⟨view.selected.trans chosen, view.outputCursor.trans cursor⟩
    | ok changed =>
      obtain ⟨-, -, -, -, compared⟩ := refresh_ok refreshed
      simp only [refreshed] at handled
      cases changed with
      | true =>
        have fresh := shows_of_emptied (emptied_resetOutput { ui with error := none })
        simp only [if_true, Option.isNone_none, Bool.true_and] at handled
        split at handled
        · exact attach_sound sound.numbered (fun id _ => fresh _) handled
        · obtain rfl := Option.some.inj handled
          exact ⟨sound.numbered, fun _ id _ => fresh _, fun _ _ live => by cases live⟩
      | false =>
        have kept : s.ui.selectedExecutionId = ui.selectedExecutionId := by
          simpa using compared.symm
        have effect := refresh_effect refreshed
        have shows := effect.shows (sound.shows running)
        simp only [Bool.false_eq_true, if_false] at handled
        split at handled
        · have later := fun shown => attach_sound sound.numbered shown handled
          exact later shows
        · obtain rfl := Option.some.inj handled
          refine ⟨sound.numbered, fun _ => shows, fun _ subscription live => ?_⟩
          obtain ⟨chosen, cursor⟩ := sound.attached running subscription live
          have selected := kept.symm.trans chosen
          cases effect with
          | same view => exact ⟨selected, view.outputCursor.trans cursor⟩
          | moved other _ => exact absurd kept.symm other
          | dropped none =>
            rw [none] at selected
            cases selected

/-- A step of the interface or the daemon keeps the invariant. -/
theorem handle_sound {s s' : Operator} {input : Input} (sound : Sound s)
    (running : s.ended = none) (held : Held s input) (handled : handle s input = some s') :
    Sound s' := by
  cases input with
  | key key replies =>
    apply finishInput_sound sound running (fun after done => ?_) held handled
    obtain ⟨opens, search⟩ | ⟨other, handling⟩ := s.ui.handleKey_cases key
    · rw [search] at done
      obtain ⟨rfl, -⟩ := Prod.mk.inj done
      simp only [landing, opens, if_true]
      exact landed_search s.ui
    · simp only [landing, other, Bool.false_eq_true, if_false]
      exact handling.landed done
  | mouse event replies =>
    apply finishInput_sound sound running (fun after done => ?_) held handled
    exact (s.ui.handleMouse_handling event).landed done
  | otherEvent replies =>
    have finished : finishInput s (s.ui, .none) replies = some s' := handled
    exact finishInput_idle sound running (.refl _) (by simp) finished
  | inputFailed error replies =>
    have view : SameView s.ui { s.ui with error := some ("terminal input: " ++ error) } :=
      ⟨rfl, rfl, rfl, rfl⟩
    simp only [handle] at handled
    exact finishInput_idle sound running view (by simp) handled
  | inputEnded =>
    have finished : finishInput s (s.ui, .quit) {} = some s' := handled
    exact finishInput_idle sound running (.refl _) (by simp) finished
  | event =>
    unfold handle at handled
    cases live : s.subscription with
    | none => simp [live] at handled
    | some subscription =>
      simp only [live] at handled
      split at handled
      · cases handled
      · next event found =>
        obtain rfl := Option.some.inj handled
        obtain ⟨selected, cursor⟩ := sound.attached running subscription live
        obtain ⟨bound, here⟩ := List.getElem?_eq_some_iff.mp found
        have seq := seq_of_numbered (sound.numbered subscription.executionId) found
        have next : (s.logs subscription.executionId).take event.seq =
            (s.logs subscription.executionId).take s.ui.outputCursor ++ [event] := by
          rw [seq, cursor, List.take_succ_eq_append_getElem bound, here]
        have shown := (sound.shows running _ selected).ingest next (by omega)
        refine ⟨sound.numbered, fun _ id chosen => ?_, fun _ other same => ?_⟩
        · obtain rfl := Option.some.inj (selected.symm.trans chosen)
          exact shown
        · obtain rfl := Option.some.inj same
          exact ⟨selected, rfl⟩
  | streamEnded =>
    simp only [handle] at handled
    split at handled
    · obtain rfl := Option.some.inj handled
      exact ⟨sound.numbered, sound.shows, fun _ _ live => by cases live⟩
    · cases handled
  | streamFailed error =>
    simp only [handle] at handled
    split at handled
    · obtain rfl := Option.some.inj handled
      exact ⟨sound.numbered, sound.shows, fun _ _ live => by cases live⟩
    · cases handled
  | tick replies ready => exact handleTick_sound sound running handled
  | arrived arrival =>
    obtain rfl := Option.some.inj handled
    refine ⟨sound.numbered.append arrival, fun _ id selected => ?_, sound.attached⟩
    exact shows_of_prefix (sound.shows running id selected) (s.logs.append_grows arrival id)

theorem sound_operator {s : Operator} (reached : operator.ReachableVia Held s) : Sound s := by
  apply reached.invariant Sound
  · rintro s ⟨workspace, session, notice, logs, replies, ui, changed, numbered, refreshed, attached⟩
    have empty : Emptied ({ workspace, selectedSessionId := session, notice } : OperatorState) :=
      ⟨rfl, rfl, rfl⟩
    have shows := (refresh_effect refreshed).shows
      (fun id _ => shows_of_emptied empty (logs id))
    exact attach_sound numbered shows attached
  · intro s input s' _ sound held enabled
    simp only [operator] at enabled
    split at enabled
    · cases enabled
    · next running =>
      exact handle_sound sound (by simpa using running) held enabled

/-- An input that comes back to the execution of the live subscription empties the pane, and
the subscription goes on where it was. -/
theorem finishInput_stale {s s' : Operator} {handled : OperatorState × Command}
    {replies : Replies} {subscription : Subscription} (live : s.subscription = some subscription)
    {after : OperatorState} (done : handleCommand handled.1 replies handled.2 = (after, none))
    (selected : after.selectedExecutionId = some subscription.executionId)
    (finished : finishInput s handled replies = some s') :
    s' = { s with ui := after, ended := s.ended } := by
  have kept : after.selectedExecutionId = s.subscription.map (·.executionId) := by
    rw [live, selected]
    rfl
  simp only [finishInput, done, Option.isSome_none, Bool.false_eq_true, if_false,
    syncSubscription, if_pos kept, Option.some.injEq] at finished
  exact finished.symm

/-- A landing happens: the command before it does not end the loop. -/
theorem landAfter_some {before : OperatorState} {handled : OperatorState × Command}
    {replies : Replies} {x : ExecutionId} (there : landAfter before handled replies = some x) :
    ∃ after, handleCommand handled.1 replies handled.2 = (after, none) := by
  unfold landAfter at there
  split at there
  · next both =>
    obtain ⟨command, -⟩ := both
    split at there
    · next placed _ found =>
      rw [command]
      simp only [handleCommand, refresh_eq, found]
      cases decide (handled.1.selectedExecutionId ≠
        placed.ensureExecutionSelection.selectedExecutionId) with
      | true => exact ⟨_, rfl⟩
      | false => exact ⟨_, rfl⟩
    · cases there
  · cases there

/-- The step of an input that comes back. -/
theorem handle_stale {s s' : Operator} {input : Input} {subscription : Subscription}
    (live : s.subscription = some subscription)
    (there : landing s.ui input = some subscription.executionId)
    (handled : handle s input = some s') :
    s'.ended = s.ended ∧ s'.subscription = s.subscription ∧ s'.ui.outputCursor = 0 := by
  have stale : ∀ {pair replies after}, Landed s.ui after (landing s.ui input) →
      handleCommand pair.1 replies pair.2 = (after, none) →
      finishInput s pair replies = some s' →
      s'.ended = s.ended ∧ s'.subscription = s.subscription ∧ s'.ui.outputCursor = 0 := by
    intro pair replies after landed done finished
    have somewhere : landing s.ui input ≠ none := by simp [there]
    obtain ⟨selected, emptied⟩ := landed.landed somewhere
    have same := finishInput_stale live done (selected.trans there) finished
    rw [same]
    exact ⟨rfl, rfl, emptied.outputCursor⟩
  cases input with
  | key key replies =>
    obtain ⟨opens, search⟩ | ⟨other, handling⟩ := s.ui.handleKey_cases key
    · apply stale _ _ handled
      · exact s.ui.searchAll.ensureExecutionSelection
      · simp only [landing, opens, if_true]
        exact landed_search s.ui
      · rw [search]
        rfl
    · have same : landing s.ui (.key key replies) =
          landAfter s.ui (s.ui.handleKey key) replies := by
        simp only [landing, other, Bool.false_eq_true, if_false]
      obtain ⟨after, done⟩ := landAfter_some (same.symm.trans there)
      exact stale (same ▸ handling.landed done) done handled
  | mouse event replies =>
    obtain ⟨after, done⟩ := landAfter_some there
    exact stale ((s.ui.handleMouse_handling event).landed done) done handled
  | _ => cases there

/-- In a run whose inputs never come back to the execution that the live subscription
follows, the pane shows what the subscription has handed out; the first input that does
come back ends this. -/
theorem operator_faithful {s : Operator} (reached : operator.ReachableVia Held s) :
    Faithful s ∧
    ∀ input s', ¬ Held s input → operator.step s input = some s' → ¬ Faithful s' := by
  constructor
  · exact (sound_operator reached).faithful
  · intro input s' loose enabled faithful
    simp only [operator] at enabled
    split at enabled
    · cases enabled
    · next running =>
      simp only [Held, not_forall, not_or, not_not] at loose
      obtain ⟨subscription, live, behind, there⟩ := loose
      obtain ⟨ended, same, cursor⟩ := handle_stale live there enabled
      have begun := faithful (by simpa [ended] using running) subscription (same.trans live)
      exact behind (begun.2.2.symm.trans cursor)

/-- The log of an execution that has written one byte. -/
def sampleLogs : Logs := fun id =>
  if id = "a" then
    [⟨"a", 1, 0, .started 10 10⟩, ⟨"a", 2, 0, .output .stdout [104]⟩]
  else []

/-- The daemon lists one execution and answers one read. -/
def sampleReplies : Replies where
  snapshot := .ok ⟨[], [sampleExecution "a"], fun _ => .error "no session"⟩
  reads := [⟨[], .ok 9⟩]

theorem sampleLogs_numbered : sampleLogs.Numbered := by
  intro id
  unfold sampleLogs
  split <;> rfl

/-- One byte more is shown behind the first. -/
theorem operator_faithful_sample :
    ∃ s, s.ui.output = [.of .stdout [104], .of .stdout [105]] ∧ Faithful s := by
  have first : operator.start _ := ⟨⟨"w", "demo", "/demo", 0⟩, none, none, sampleLogs,
    sampleReplies, _, _, sampleLogs_numbered, rfl, rfl⟩
  have more := System.ReachableVia.step (.start first : operator.ReachableVia Held _)
    (a := .arrived ⟨"a", 1, .output .stdout [105]⟩) (fun _ _ => .inr (by rintro ⟨⟩)) rfl
  have shown := System.ReachableVia.step more (a := .event) (fun _ _ => .inr (by rintro ⟨⟩)) rfl
  exact ⟨_, rfl, (operator_faithful shown).1⟩

/-- `/` comes back to the one execution there is: its first byte is gone from the pane when
the second one comes. -/
theorem operator_loses_output :
    ∃ s, operator.Reachable s ∧ s.ui.output = [.of .stdout [105]] ∧
      retained (chunksOf ((s.logs "a").filter (·.seq ≤ s.ui.outputCursor))) =
        [.of .stdout [104], .of .stdout [105]] ∧ ¬ Faithful s := by
  have first : operator.start _ := ⟨⟨"w", "demo", "/demo", 0⟩, none, none, sampleLogs,
    sampleReplies, _, _, sampleLogs_numbered, rfl, rfl⟩
  have searched := System.ReachableVia.step (.start first : operator.Reachable _) trivial
    (a := .key { code := .char '/' } {}) rfl
  have more := System.ReachableVia.step searched trivial
    (a := .arrived ⟨"a", 1, .output .stdout [105]⟩) rfl
  have shown := System.ReachableVia.step more trivial
    (a := .event) rfl
  refine ⟨_, shown, rfl, rfl, fun faithful => ?_⟩
  have output := (faithful rfl _ rfl).2.1
  have chunks : [OutputChunk.of .stdout [105]] =
    [.of .stdout [104], .of .stdout [105]] := output
  cases chunks

end Ui

end Loomterm
