import Loomterm.Misc.Broadcast
import Loomterm.Misc.System
import Loomterm.Store.Paging

/-!
# Waiting for output

`ExecutionEngine::wait` (`src/executor.rs:461`): it subscribes to the events of all
executions, reads what there is, and otherwise waits for an event behind its cursor. A
receiver that was too slow has missed events, and `wait` goes on waiting even then, where
`cancel` reads the store again and a subscription replays: `wait_no_lost_wakeup` says that a
wake-up is lost in this way only.
-/

namespace Loomterm

/-- The capacity of `ExecutionEngine::events` (`src/executor.rs:77`). -/
def eventCapacity : Nat := 2048

/-- `DEFAULT_READ_BYTES` (`src/executor.rs:24`). -/
def defaultReadBytes : Nat := 1024 * 1024

/-- `WaitResponse` (`src/model.rs:569`). -/
structure WaitResponse extends ReadOutputResponse where
  timedOut : Bool
  deriving DecidableEq, Repr

/-- The arguments of `wait`. -/
structure WaitCall where
  id : ExecutionId
  afterSeq : Nat
  maxBytes : Option Nat := none

namespace WaitCall

/-- The events that end the wait. -/
def Awaited (call : WaitCall) (event : ExecutionEvent) : Prop :=
  event.executionId = call.id ∧ call.afterSeq < event.seq

instance (call : WaitCall) (event : ExecutionEvent) : Decidable (call.Awaited event) :=
  inferInstanceAs (Decidable (_ ∧ _))

/-- Its read of the store. -/
def read (call : WaitCall) (now : Int) : Store ReadOutputResponse :=
  Database.readOutput now call.id call.afterSeq (call.maxBytes.getD defaultReadBytes)

end WaitCall

/-- Where a call of `wait` is. -/
inductive WaitPhase where
  /-- It has subscribed. -/
  | subscribed
  /-- It is in the loop that reads the receiver. -/
  | waiting
  /-- The loop is left, by a wake-up or by its timeout. -/
  | left (timedOut : Bool)
  | returned (result : Except Error WaitResponse)
  deriving DecidableEq

/-- What a call has returned, when it did not fail. -/
def WaitPhase.response? : WaitPhase → Option WaitResponse
  | .returned (.ok response) => some response
  | _ => none

theorem WaitPhase.response?_eq_some {phase : WaitPhase} {response : WaitResponse}
    (found : phase.response? = some response) : phase = .returned (.ok response) := by
  unfold WaitPhase.response? at found
  split at found
  · rw [Option.some.inj found]
  · cases found

/-- A call of `wait`, and the engine around it. -/
structure WaitState (capacity : Nat) where
  db : Database
  receiver : Receiver ExecutionEvent capacity := {}
  closed : Bool := false
  phase : WaitPhase := .subscribed
  /-- The events broadcast since the call began. -/
  sent : List ExecutionEvent := []
  /-- Those that were overwritten before the receiver had read them. -/
  lost : List ExecutionEvent := []
  /-- The events that had been broadcast when the timeout fired. -/
  fired : Option (List ExecutionEvent) := none

namespace WaitState

variable {capacity : Nat}

/-- The call waits for a wake-up with nothing left to read. -/
def Blocked (s : WaitState capacity) : Prop :=
  s.phase = .waiting ∧ s.receiver.Empty ∧ s.closed = false

/-- `ExecutionEngine::notify` of some task. -/
def broadcast (s : WaitState capacity) (event : ExecutionEvent) : WaitState capacity :=
  { s with
    receiver := s.receiver.send event
    sent := s.sent ++ [event]
    lost := s.lost ++ s.receiver.overwritten event }

/-- The read before the loop. -/
def firstRead (call : WaitCall) (s : WaitState capacity) (now : Int)
    (conditions : Conditions) : WaitState capacity :=
  match (Store.request (call.read now) conditions s.db).1 with
  | .error e => { s with phase := .returned (.error e) }
  | .ok first =>
      if first.execution.state.isTerminal || !first.events.isEmpty then
        { s with phase := .returned (.ok ⟨first, false⟩) }
      else { s with phase := .waiting }

/-- One round of the loop; `none` while there is nothing to read. -/
def poll (call : WaitCall) (s : WaitState capacity) : Option (WaitState capacity) :=
  match s.receiver.recv with
  | some (.value event, receiver) =>
      if call.Awaited event then some { s with receiver, phase := .left false }
      else some { s with receiver }
  | some (.lagged _, receiver) => some { s with receiver }
  | none => if s.closed then some { s with phase := .left false } else none

/-- The read behind the loop. -/
def lastRead (call : WaitCall) (s : WaitState capacity) (timedOut : Bool) (now : Int)
    (conditions : Conditions) : WaitState capacity :=
  let answer := (Store.request (call.read now) conditions s.db).1
  { s with phase := .returned (answer.map fun output => ⟨output, timedOut⟩) }

end WaitState

/-- What happens during a call of `wait`. -/
inductive WaitStep where
  | command (op : StoreOp) (faults : List (Option String))
  | broadcast (event : ExecutionEvent)
  | close
  | firstRead (now : Int) (conditions : Conditions)
  | poll
  | timeout
  | lastRead (now : Int) (conditions : Conditions)

/-- A call of `wait`, from its subscription on. Events of the execution are broadcast once
they are durable; what is broadcast of other executions is left open. A new id (`new_id`) is
not the one of the call. The timeout may fire at any time, as the timer is looked at after
the receiver and after the budget of the task is spent. -/
def wait (call : WaitCall) (capacity : Nat) : System (WaitState capacity) WaitStep where
  start s := s.db.Sound ∧ s = { db := s.db }
  step s
    | .command op faults =>
        let db := (Store.run op.program faults s.db).2
        if s.db.executions.find? call.id = none ∧ db.executions.find? call.id ≠ none then none
        else some { s with db }
    | .broadcast event =>
        if s.closed ∨ event.executionId = call.id ∧ event ∉ s.db.log call.id then none
        else some (s.broadcast event)
    | .close => some { s with closed := true }
    | .firstRead now conditions =>
        if s.phase = .subscribed then some (s.firstRead call now conditions) else none
    | .poll => if s.phase = .waiting then s.poll call else none
    | .timeout =>
        if s.phase = .waiting then some { s with phase := .left true, fired := some s.sent }
        else none
    | .lastRead now conditions =>
        match s.phase with
        | .left timedOut => some (s.lastRead call timedOut now conditions)
        | _ => none

/-- While the call waits, no event that it waits for is overwritten, and the timeout does
not fire while such an event is there to be read. -/
def Spared (call : WaitCall) {capacity : Nat} (s : WaitState capacity) : WaitStep → Prop
  | .broadcast event =>
      s.phase = .waiting → ∀ e ∈ s.receiver.overwritten event, ¬ call.Awaited e
  | .timeout => ∀ e ∈ s.receiver.queue, ¬ call.Awaited e
  | _ => True

instance (call : WaitCall) {capacity : Nat} (s : WaitState capacity) (step : WaitStep) :
    Decidable (Spared call s step) := by
  unfold Spared
  split <;> infer_instance

/-! ## What a call keeps track of -/

theorem Database.Numbered.seq_le {db : Database} {id : ExecutionId} {row : ExecutionRow}
    (numbered : db.Numbered id row) {event : ExecutionEvent} (member : event ∈ db.log id) :
    event.seq ≤ row.lastSeq := by
  have seq := List.mem_map_of_mem (f := ExecutionEvent.seq) member
  rw [numbered.seqs, List.mem_range'_1] at seq
  omega

/-- A read without events leaves nothing in the log to wait for. -/
theorem WaitCall.read_empty {call : WaitCall} {db : Database} {now : Int}
    {conditions : Conditions} {first : ReadOutputResponse} (sound : db.Sound)
    (read : (Store.request (call.read now) conditions db).1 = .ok first)
    (empty : first.events = []) :
    db.executions.find? call.id ≠ none ∧ ∀ e ∈ db.log call.id, ¬ call.Awaited e := by
  have answer := Database.request_of_post
    (Database.post_readOutput db now call.id call.afterSeq (call.maxBytes.getD defaultReadBytes))
    (fun message => ⟨rfl, .inl rfl⟩) conditions
  unfold WaitCall.read at read
  rw [read] at answer
  obtain ⟨_, row, found, same⟩ := answer
  have numbered := sound.numbered found
  refine ⟨by simp [found], ?_⟩
  intro e member awaited
  have last := numbered.seq_le member
  have bound := numbered.bound
  have behind := awaited.2
  have within : call.afterSeq < 2 ^ 63 := by omega
  have page := numbered.isPage now within (call.maxBytes.getD defaultReadBytes)
  rw [← same] at page
  exact page.nonempty.mpr (by omega) empty

/-- What is durable stays so, or its execution is gone. -/
theorem durable_command {db : Database} (linked : db.Linked) {id : ExecutionId}
    {event : ExecutionEvent} {op : StoreOp} {faults : List (Option String)}
    (old : ¬ (db.executions.find? id = none ∧
      (Store.run op.program faults db).2.executions.find? id ≠ none))
    (durable : db.executions.find? id = none ∨ event ∈ db.log id) :
    (Store.run op.program faults db).2.executions.find? id = none ∨
      event ∈ (Store.run op.program faults db).2.log id := by
  cases before : db.executions.find? id with
  | none =>
    refine .inl ?_
    by_contra there
    exact old ⟨before, there⟩
  | some row =>
    cases after : (Store.run op.program faults db).2.executions.find? id with
    | none => exact .inl rfl
    | some row' =>
      have grown := (op.touched linked faults).grown (Database.record_of_find? before)
        (Database.record_of_find? after)
      rcases durable with gone | member
      · rw [before] at gone
        cases gone
      · exact .inr (grown.subset member)

namespace WaitState

variable {capacity : Nat} {call : WaitCall} {s s' : WaitState capacity}

/-- Each event that was broadcast is still to be found: in the store before the first read,
and among what is queued or lost while the call waits. -/
structure Tracked (call : WaitCall) (s : WaitState capacity) : Prop where
  sound : s.db.Sound
  sent : ∀ e, e ∈ s.receiver.queue ∨ e ∈ s.lost → e ∈ s.sent
  durable : s.phase = .subscribed → ∀ e ∈ s.sent, call.Awaited e →
    s.db.executions.find? call.id = none ∨ e ∈ s.db.log call.id
  waiting : s.phase = .waiting → ∀ e ∈ s.sent, call.Awaited e →
    e ∈ s.receiver.queue ∨ e ∈ s.lost

namespace Tracked

theorem start (first : (wait call capacity).start s) : s.Tracked call := by
  obtain ⟨sound, same⟩ := first
  rw [same]
  exact ⟨sound, by simp, by simp, by simp⟩

theorem command (tracked : s.Tracked call) {op : StoreOp} {faults : List (Option String)}
    (old : ¬ (s.db.executions.find? call.id = none ∧
      (Store.run op.program faults s.db).2.executions.find? call.id ≠ none)) :
    Tracked call { s with db := (Store.run op.program faults s.db).2 } where
  sound := by
    obtain ⟨changes, effect, _⟩ := op.touched tracked.sound.linked faults
    exact effect.sound tracked.sound
  sent := tracked.sent
  durable subscribed e member awaited :=
    durable_command tracked.sound.linked old (tracked.durable subscribed e member awaited)
  waiting := tracked.waiting

theorem broadcast (tracked : s.Tracked call) {event : ExecutionEvent}
    (stored : event.executionId = call.id → event ∈ s.db.log call.id) :
    (s.broadcast event).Tracked call where
  sound := tracked.sound
  sent := by
    intro e member
    simp only [WaitState.broadcast, List.mem_append, List.mem_singleton] at member ⊢
    rcases member with queued | lost | lost
    · exact (Receiver.mem_send.mpr (.inr queued)).imp_left fun old => tracked.sent e (.inl old)
    · exact .inl (tracked.sent e (.inr lost))
    · exact (Receiver.mem_send.mpr (.inl lost)).imp_left fun old => tracked.sent e (.inl old)
  durable := by
    intro subscribed e member awaited
    rcases List.mem_append.mp member with old | new
    · exact tracked.durable subscribed e old awaited
    · rw [List.mem_singleton.mp new] at awaited ⊢
      exact .inr (stored awaited.1)
  waiting := by
    intro waiting e member awaited
    simp only [WaitState.broadcast, List.mem_append, List.mem_singleton] at member ⊢
    have kept : (e ∈ s.receiver.queue ∨ e = event) ∨ e ∈ s.lost := by
      rcases member with old | new
      · exact (tracked.waiting waiting e old awaited).imp_left .inl
      · exact .inl (.inr new)
    rcases kept with there | lost
    · rcases Receiver.mem_send.mp there with gone | queued
      · exact .inr (.inr gone)
      · exact .inl queued
    · exact .inr (.inl lost)

/-- The read before the loop returns, or shows that nothing awaited was broadcast. -/
theorem firstRead (tracked : s.Tracked call) (subscribed : s.phase = .subscribed) (now : Int)
    (conditions : Conditions) :
    (∃ result, s.firstRead call now conditions = { s with phase := .returned result } ∧
        ∀ response, result = .ok response → response.timedOut = false) ∨
      s.firstRead call now conditions = { s with phase := .waiting } ∧
        ∀ e ∈ s.sent, ¬ call.Awaited e := by
  unfold WaitState.firstRead
  cases read : (Store.request (call.read now) conditions s.db).1 with
  | error e => exact .inl ⟨_, rfl, by simp⟩
  | ok first =>
    by_cases done : first.execution.state.isTerminal || !first.events.isEmpty
    · refine .inl ⟨.ok ⟨first, false⟩, by simp only [done, if_true], ?_⟩
      intro response same
      cases same
      rfl
    · refine .inr ⟨by simp only [done, if_false, Bool.false_eq_true], ?_⟩
      have empty : first.events = [] := by
        simp only [Bool.or_eq_true, Bool.not_eq_true', not_or, Bool.not_eq_false,
          List.isEmpty_iff] at done
        exact done.2
      obtain ⟨found, none⟩ := WaitCall.read_empty tracked.sound read empty
      intro e member awaited
      rcases tracked.durable subscribed e member awaited with gone | durable
      · exact found gone
      · exact none e durable awaited

/-- A round of the loop leaves it, or takes something off that is not awaited. -/
theorem poll_cases (enabled : s.poll call = some s') :
    (∃ receiver, s' = { s with receiver, phase := .left false } ∧
        ∀ e ∈ receiver.queue, e ∈ s.receiver.queue) ∨
      ∃ receiver, s' = { s with receiver } ∧ (∀ e ∈ receiver.queue, e ∈ s.receiver.queue) ∧
        ∀ e ∈ s.receiver.queue, call.Awaited e → e ∈ receiver.queue := by
  unfold WaitState.poll at enabled
  cases read : s.receiver.recv with
  | none =>
    rw [read] at enabled
    obtain ⟨_, same⟩ := Option.ite_none_right_eq_some.mp enabled
    cases same
    exact .inl ⟨s.receiver, rfl, fun _ member => member⟩
  | some answer =>
    obtain ⟨received, receiver⟩ := answer
    rw [read] at enabled
    rcases Receiver.recv_cases read with ⟨event, rfl, queue, _⟩ | ⟨rfl, _, queue, _⟩
    · have subset : ∀ e ∈ receiver.queue, e ∈ s.receiver.queue := by
        intro e member
        rw [queue]
        exact List.mem_cons_of_mem event member
      simp only at enabled
      by_cases awaited : call.Awaited event
      · rw [if_pos awaited] at enabled
        cases enabled
        exact .inl ⟨receiver, rfl, subset⟩
      · rw [if_neg awaited] at enabled
        cases enabled
        refine .inr ⟨receiver, rfl, subset, ?_⟩
        intro e member wanted
        rw [queue] at member
        rcases List.mem_cons.mp member with rfl | rest
        · exact absurd wanted awaited
        · exact rest
    · cases enabled
      refine .inr ⟨receiver, rfl, ?_, ?_⟩
      · rw [queue]
        exact fun _ member => member
      · rw [queue]
        exact fun _ member _ => member

theorem poll (tracked : s.Tracked call) (waiting : s.phase = .waiting)
    (enabled : s.poll call = some s') : s'.Tracked call := by
  rcases poll_cases enabled with ⟨receiver, rfl, subset⟩ | ⟨receiver, rfl, subset, kept⟩
  · exact ⟨tracked.sound, fun e member => tracked.sent e (member.imp_left (subset e)),
      by simp, by simp⟩
  · refine ⟨tracked.sound, fun e member => tracked.sent e (member.imp_left (subset e)),
      tracked.durable, ?_⟩
    intro _ e member awaited
    exact (tracked.waiting waiting e member awaited).imp_left fun queued => kept e queued awaited

/-- Once the call has left its loop, only the store and what was sent matter. -/
theorem past (tracked : s.Tracked call) {phase : WaitPhase} {fired : Option (List ExecutionEvent)}
    (behind : phase ≠ .subscribed ∧ phase ≠ .waiting) :
    Tracked call { s with phase, fired } where
  sound := tracked.sound
  sent := tracked.sent
  durable subscribed := absurd subscribed behind.1
  waiting waiting := absurd waiting behind.2

end Tracked

/-- While a call waits, what is awaited and was sent is queued or lost. -/
theorem Tracked.none_sent_iff (tracked : s.Tracked call) (waiting : s.phase = .waiting) :
    (∀ e ∈ s.sent, ¬ call.Awaited e) ↔
      (∀ e ∈ s.receiver.queue, ¬ call.Awaited e) ∧ ∀ e ∈ s.lost, ¬ call.Awaited e := by
  constructor
  · intro none
    exact ⟨fun e queued => none e (tracked.sent e (.inl queued)),
      fun e lost => none e (tracked.sent e (.inr lost))⟩
  · rintro ⟨queued, lost⟩ e member awaited
    rcases tracked.waiting waiting e member awaited with there | gone
    · exact queued e there awaited
    · exact lost e gone awaited

theorem tracked_step {step : WaitStep} (tracked : s.Tracked call)
    (enabled : (wait call capacity).step s step = some s') : s'.Tracked call := by
  cases step with
  | command op faults =>
    obtain ⟨old, same⟩ := Option.ite_none_left_eq_some.mp enabled
    cases same
    exact tracked.command old
  | broadcast event =>
    obtain ⟨sendable, same⟩ := Option.ite_none_left_eq_some.mp enabled
    cases same
    apply tracked.broadcast
    intro own
    by_contra missing
    exact sendable (.inr ⟨own, missing⟩)
  | close =>
    cases enabled
    exact ⟨tracked.sound, tracked.sent, tracked.durable, tracked.waiting⟩
  | firstRead now conditions =>
    obtain ⟨subscribed, same⟩ := Option.ite_none_right_eq_some.mp enabled
    cases same
    rcases tracked.firstRead subscribed now conditions with ⟨result, same, _⟩ | ⟨same, none⟩
    · rw [same]
      exact tracked.past ⟨by simp, by simp⟩
    · rw [same]
      exact ⟨tracked.sound, tracked.sent, by simp,
        fun _ e member awaited => absurd awaited (none e member)⟩
  | poll =>
    obtain ⟨waiting, polled⟩ := Option.ite_none_right_eq_some.mp enabled
    exact tracked.poll waiting polled
  | timeout =>
    obtain ⟨_, same⟩ := Option.ite_none_right_eq_some.mp enabled
    cases same
    exact tracked.past ⟨by simp, by simp⟩
  | lastRead now conditions =>
    cases phase : s.phase with
    | left timedOut =>
      simp only [wait, phase] at enabled
      cases enabled
      exact tracked.past ⟨by simp, by simp⟩
    | _ => simp [wait, phase] at enabled

theorem tracked_run (reached : (wait call capacity).Reachable s) : s.Tracked call := by
  apply reached.invariant (Tracked call)
  · intro s first
    exact Tracked.start first
  · intro s step s' _ tracked _ enabled
    exact tracked_step tracked enabled

/-- The call ended, or is to end, with `timed_out` set. -/
def TimedOut (s : WaitState capacity) : Prop :=
  s.phase = .left true ∨ ∃ response, s.phase = .returned (.ok response) ∧ response.timedOut = true

/-- What a run keeps in which every wake-up is spared: nothing awaited is lost to a call
that waits, and none had been sent when its timeout fired. -/
structure Awake (call : WaitCall) (s : WaitState capacity) : Prop where
  lost : s.phase = .waiting → ∀ e ∈ s.lost, ¬ call.Awaited e
  fired : s.TimedOut → ∃ sent, s.fired = some sent ∧ ∀ e ∈ sent, ¬ call.Awaited e

theorem not_timedOut (going : ∀ result, s.phase ≠ .returned result) (kept : s.phase ≠ .left true) :
    ¬ s.TimedOut := by
  rintro (left | ⟨response, returned, _⟩)
  · exact kept left
  · exact going _ returned

theorem lastRead_timedOut {timedOut : Bool} {now : Int} {conditions : Conditions}
    {response : WaitResponse}
    (returned : (s.lastRead call timedOut now conditions).phase = .returned (.ok response)) :
    response.timedOut = timedOut := by
  unfold WaitState.lastRead at returned
  cases answer : (Store.request (call.read now) conditions s.db).1 with
  | error e => simp [answer, Except.map] at returned
  | ok output =>
    simp only [answer, Except.map, WaitPhase.returned.injEq, Except.ok.injEq] at returned
    rw [← returned]

theorem Awake.step {step : WaitStep} (tracked : s.Tracked call) (awake : s.Awake call)
    (spared : Spared call s step) (enabled : (wait call capacity).step s step = some s') :
    s'.Awake call := by
  cases step with
  | command op faults =>
    obtain ⟨_, same⟩ := Option.ite_none_left_eq_some.mp enabled
    cases same
    exact ⟨awake.lost, awake.fired⟩
  | broadcast event =>
    obtain ⟨_, same⟩ := Option.ite_none_left_eq_some.mp enabled
    cases same
    refine ⟨?_, awake.fired⟩
    intro waiting e member
    rcases List.mem_append.mp member with old | new
    · exact awake.lost waiting e old
    · exact spared waiting e new
  | close =>
    cases enabled
    exact ⟨awake.lost, awake.fired⟩
  | firstRead now conditions =>
    obtain ⟨subscribed, same⟩ := Option.ite_none_right_eq_some.mp enabled
    cases same
    rcases tracked.firstRead subscribed now conditions with ⟨result, same, early⟩ | ⟨same, none⟩
    · rw [same]
      refine ⟨by simp, ?_⟩
      rintro (left | ⟨response, returned, timedOut⟩)
      · simp at left
      · have ended := early response (by simpa using returned)
        rw [ended] at timedOut
        cases timedOut
    · rw [same]
      refine ⟨fun _ e member => none e (tracked.sent e (.inr member)), ?_⟩
      intro timedOut
      exact absurd timedOut (not_timedOut (by simp) (by simp))
  | poll =>
    obtain ⟨waiting, polled⟩ := Option.ite_none_right_eq_some.mp enabled
    rcases Tracked.poll_cases polled with ⟨receiver, rfl, _⟩ | ⟨receiver, rfl, _, _⟩
    · exact ⟨by simp, fun timedOut => absurd timedOut (not_timedOut (by simp) (by simp))⟩
    · exact ⟨awake.lost, awake.fired⟩
  | timeout =>
    obtain ⟨waiting, same⟩ := Option.ite_none_right_eq_some.mp enabled
    cases same
    refine ⟨by simp, fun _ => ⟨s.sent, rfl, ?_⟩⟩
    exact (tracked.none_sent_iff waiting).mpr ⟨spared, awake.lost waiting⟩
  | lastRead now conditions =>
    cases phase : s.phase with
    | left timedOut =>
      simp only [wait, phase] at enabled
      cases enabled
      refine ⟨by simp [WaitState.lastRead], ?_⟩
      rintro (left | ⟨response, returned, set⟩)
      · simp [WaitState.lastRead] at left
      · rw [lastRead_timedOut returned] at set
        exact awake.fired (.inl (by rw [phase, set]))
    | _ => simp [wait, phase] at enabled

theorem awake_run (reached : (wait call capacity).ReachableVia (Spared call) s) :
    s.Awake call := by
  apply reached.invariant (Awake call)
  · rintro s ⟨_, same⟩
    rw [same]
    refine ⟨by simp, fun timedOut => absurd timedOut (not_timedOut (by simp) (by simp))⟩
  · intro s step s' before awake spared enabled
    exact awake.step (tracked_run before.reachable) spared enabled

/-! ## Many events at once -/

/-- The events of other executions may be broadcast at any time. -/
theorem run_broadcast {events : List ExecutionEvent}
    (others : ∀ e ∈ events, e.executionId ≠ call.id) (going : s.closed = false) :
    ∃ s', (wait call capacity).run s (events.map .broadcast) = some s' ∧
      s'.receiver = s.receiver.sendAll events ∧ s'.sent = s.sent ++ events ∧
      s'.phase = s.phase ∧ s'.closed = false ∧ s'.db = s.db := by
  induction events generalizing s with
  | nil => exact ⟨s, rfl, rfl, by simp, rfl, going, rfl⟩
  | cons event events ih =>
    have other := others event List.mem_cons_self
    have step : (wait call capacity).step s (.broadcast event) = some (s.broadcast event) := by
      simp [wait, going, other]
    obtain ⟨s', ran, receiver, sent, phase, rest⟩ :=
      ih (s := s.broadcast event) (fun e member => others e (List.mem_cons_of_mem _ member)) going
    refine ⟨s', ?_, receiver, ?_, phase, rest⟩
    · rw [List.map_cons, System.run, step]
      exact ran
    · rw [sent]
      simp [WaitState.broadcast]

/-- A call that has only other events before it reads them all and is blocked. -/
theorem drains (waiting : s.phase = .waiting) (going : s.closed = false)
    (others : ∀ e ∈ s.receiver.queue, ¬ call.Awaited e) :
    ∃ s', (wait call capacity).RunVia (fun _ _ => True) s s' ∧ s'.Blocked ∧
      s'.sent = s.sent ∧ s'.db = s.db := by
  generalize total : s.receiver.queue.length + s.receiver.missed = size
  induction size using Nat.strong_induction_on generalizing s with
  | _ size ih =>
    cases read : s.receiver.recv with
    | none => exact ⟨s, .refl, ⟨waiting, Receiver.recv_eq_none.mp read, going⟩, rfl, rfl⟩
    | some answer =>
      obtain ⟨received, receiver⟩ := answer
      have step : (wait call capacity).step s .poll = some { s with receiver } ∧
          (∀ e ∈ receiver.queue, ¬ call.Awaited e) ∧
          receiver.queue.length + receiver.missed < size := by
        simp only [wait, waiting, if_true, WaitState.poll, read]
        rcases Receiver.recv_cases read with ⟨event, rfl, queue, _, none⟩ | ⟨rfl, some, queue, none⟩
        · rw [queue] at others
          rw [queue, List.length_cons] at total
          refine ⟨if_neg (others event List.mem_cons_self), ?_, by omega⟩
          exact fun e member => others e (List.mem_cons_of_mem _ member)
        · rw [queue]
          exact ⟨rfl, others, by omega⟩
      obtain ⟨polled, rest, smaller⟩ := step
      obtain ⟨s', ran, blocked, same⟩ :=
        ih _ smaller (s := { s with receiver }) waiting going rest rfl
      exact ⟨s', .head ⟨.poll, trivial, polled⟩ ran, blocked, same⟩

end WaitState

/-- In a run in which nothing that the call waits for is overwritten while it waits, and
none is left unread when its timeout fires, a call that is blocked has not missed a wake-up,
and a response that timed out says that there was none. In any run, a call that waits has
missed a wake-up exactly when it was overwritten, or when it is still there to be read. -/
theorem wait_no_lost_wakeup (call : WaitCall) (capacity : Nat) :
    (∀ s : WaitState capacity, (wait call capacity).ReachableVia (Spared call) s →
      (s.Blocked → ∀ e ∈ s.sent, ¬ call.Awaited e) ∧
      ∀ response, s.phase = .returned (.ok response) → response.timedOut = true →
        ∃ sent, s.fired = some sent ∧ ∀ e ∈ sent, ¬ call.Awaited e) ∧
    ∀ s : WaitState capacity, (wait call capacity).Reachable s → s.phase = .waiting →
      ((∀ e ∈ s.sent, ¬ call.Awaited e) ↔
        (∀ e ∈ s.receiver.queue, ¬ call.Awaited e) ∧ ∀ e ∈ s.lost, ¬ call.Awaited e) := by
  constructor
  · intro s reached
    have tracked := WaitState.tracked_run reached.reachable
    have awake := WaitState.awake_run reached
    constructor
    · rintro ⟨waiting, ⟨empty, _⟩, _⟩
      refine (tracked.none_sent_iff waiting).mpr ⟨?_, awake.lost waiting⟩
      rw [empty]
      simp
    · intro response returned timedOut
      exact awake.fired (.inr ⟨response, returned, timedOut⟩)
  · intro s reached waiting
    exact (WaitState.tracked_run reached).none_sent_iff waiting

/-- A queued execution. -/
def sampleWaitOps : List (StoreOp × List (Option String)) :=
  [(.createExecution 1 "a" { workspaceId := "w", command := .argv "make" [] } "/demo", [])]

/-- The call waits, is woken up in vain, and its timeout fires before the execution starts. -/
def sampleSpared : List WaitStep :=
  [.firstRead 2 {}, .broadcast ⟨"b", 1, 2, .started 11 11⟩, .poll, .timeout,
    .command (.markRunning 3 "a" 10 10) [], .broadcast ⟨"a", 1, 3, .started 10 10⟩,
    .lastRead 4 {}]

theorem wait_no_lost_wakeup_sample :
    ∃ (s : WaitState eventCapacity) (response : WaitResponse),
      (wait ⟨"a", 0, none⟩ eventCapacity).ReachableVia (Spared ⟨"a", 0, none⟩) s ∧
      s.phase = .returned (.ok response) ∧ response.timedOut = true ∧
      response.events.length = 1 ∧
      ∃ sent, s.fired = some sent ∧ ∀ e ∈ sent, ¬ (⟨"a", 0, none⟩ : WaitCall).Awaited e := by
  have ran : (store.run sampleDatabase sampleWaitOps).bind (fun db =>
      ((wait ⟨"a", 0, none⟩ eventCapacity).runIf (Spared ⟨"a", 0, none⟩) { db } sampleSpared).bind
        fun s => s.phase.response?.map fun response =>
          (response.timedOut, response.events.length)) = some (true, 1) := by
    decide +kernel
  obtain ⟨db, stored, waited⟩ := Option.bind_eq_some_iff.mp ran
  obtain ⟨s, replay, values⟩ := Option.bind_eq_some_iff.mp waited
  obtain ⟨response, answered, same⟩ := Option.map_eq_some_iff.mp values
  have sound := store_sound (System.run_reachable ⟨rfl, rfl⟩ stored)
  have start : (wait ⟨"a", 0, none⟩ eventCapacity).start { db } := ⟨sound, rfl⟩
  have reached := (System.ReachableVia.start start).run (System.runIf_runVia replay)
  have returned := WaitPhase.response?_eq_some answered
  obtain ⟨timedOut, events⟩ := Prod.mk.inj same
  exact ⟨s, response, reached, returned, timedOut, events,
    ((wait_no_lost_wakeup ⟨"a", 0, none⟩ eventCapacity).1 s reached).2 response returned timedOut⟩

/-- The call begins, and the execution starts. -/
def sampleWaitSteps : List WaitStep :=
  [.firstRead 2 {}, .command (.markRunning 3 "a" 10 10) [],
    .broadcast ⟨"a", 1, 3, .started 10 10⟩]

/-- The output of another execution, as many events as the channel holds. -/
def sampleBurst : List ExecutionEvent :=
  (List.range eventCapacity).map fun n => ⟨"b", n + 1, 4, .output .stdout [46]⟩

/-- The start of `a` is broadcast to a call that waits for it, and then so much of another
execution that it is overwritten: the call reads the rest and goes on waiting, and its
timeout says that nothing has happened. -/
theorem wait_loses_wakeup :
    ∃ s : WaitState eventCapacity, (wait ⟨"a", 0, none⟩ eventCapacity).Reachable s ∧
      s.Blocked ∧ (∃ e ∈ s.sent, (⟨"a", 0, none⟩ : WaitCall).Awaited e) ∧
      ∃ s' response, (wait ⟨"a", 0, none⟩ eventCapacity).Reachable s' ∧
        s'.phase = .returned (.ok response) ∧ response.timedOut = true ∧ s'.fired = some s.sent := by
  have first : (store.run sampleDatabase sampleWaitOps).bind (fun db =>
      ((wait ⟨"a", 0, none⟩ eventCapacity).run { db } sampleWaitSteps).map fun s =>
        (s.phase, s.closed, s.receiver.queue, s.sent, (s.db.executions.find? "a").isSome)) =
      some (.waiting, false, [⟨"a", 1, 3, .started 10 10⟩], [⟨"a", 1, 3, .started 10 10⟩],
        true) := by
    decide +kernel
  obtain ⟨db, stored, began⟩ := Option.bind_eq_some_iff.mp first
  obtain ⟨s₁, began, values⟩ := Option.map_eq_some_iff.mp began
  simp only [Prod.mk.injEq] at values
  obtain ⟨waiting, going, queue, sent, present⟩ := values
  obtain ⟨row, found⟩ := Option.isSome_iff_exists.mp present
  have sound := store_sound (System.run_reachable ⟨rfl, rfl⟩ stored)
  have begun : (wait ⟨"a", 0, none⟩ eventCapacity).Reachable s₁ :=
    System.run_reachable ⟨sound, rfl⟩ began
  have others : ∀ e ∈ sampleBurst, e.executionId = "b" := by
    intro e member
    obtain ⟨n, _, rfl⟩ := List.mem_map.mp member
    rfl
  have size : sampleBurst.length = eventCapacity := by simp [sampleBurst]
  obtain ⟨s₂, burst, receiver, sent₂, phase₂, going₂, db₂⟩ :=
    @WaitState.run_broadcast _ ⟨"a", 0, none⟩ s₁ sampleBurst
      (fun e member => by rw [others e member]; decide) going
  have left : s₂.receiver.queue = sampleBurst := by
    rw [receiver, (Receiver.sendAll_spec sampleBurst).1, queue, List.length_append, size,
      List.length_singleton, Nat.add_comm, Nat.add_sub_cancel_left, List.singleton_append,
      List.drop_one, List.tail_cons]
  have reached₂ := begun.run (System.run_runVia burst)
  obtain ⟨s₃, drained, blocked, sent₃, db₃⟩ :=
    @WaitState.drains _ ⟨"a", 0, none⟩ s₂ (phase₂.trans waiting) going₂ (by
      intro e member awaited
      rw [left] at member
      have own := awaited.1
      rw [others e member] at own
      simp at own)
  have reached₃ := reached₂.run drained
  refine ⟨s₃, reached₃, blocked, ⟨⟨"a", 1, 3, .started 10 10⟩, ?_, by decide⟩, ?_⟩
  · rw [sent₃, sent₂, sent]
    simp
  · have stopped : (wait ⟨"a", 0, none⟩ eventCapacity).step s₃ .timeout =
        some { s₃ with phase := .left true, fired := some s₃.sent } := if_pos blocked.1
    have read : (Store.request ((⟨"a", 0, none⟩ : WaitCall).read 9) {} s₃.db).1 =
        .ok (s₃.db.page 9 row 0 defaultReadBytes) := by
      rw [db₃, db₂]
      exact Database.readOutput_ok found 9 0 defaultReadBytes
    refine ⟨_, ⟨s₃.db.page 9 row 0 defaultReadBytes, true⟩,
      (reached₃.step trivial stopped).step (a := .lastRead 9 {}) trivial rfl, ?_, rfl, rfl⟩
    simp only [WaitState.lastRead, read]
    rfl

end Loomterm
