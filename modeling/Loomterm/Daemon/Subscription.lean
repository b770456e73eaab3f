import Loomterm.Daemon.Responses
import Mathlib.Data.List.Infix

/-!
# Subscriptions

`handle_subscription` (`src/daemon.rs:169`): it subscribes to the events of all executions,
replays what the store has behind the client's cursor, and sends what it receives from then on;
behind a gap, and when it was too slow, it replays again. Pages and broadcasts overlap, and
broadcasts of several tasks come in any order: `subscription_exact` says that a client gets the
events behind its cursor all the same, each once and in order.
-/

namespace Loomterm

/-- The arguments of `handle_subscription`. -/
structure Subscription where
  subscriptionId : String
  executionId : ExecutionId
  afterSeq : Nat

/-- How a subscription ends: it is refused, the client is gone, something fails, the channel of
the engine is closed, a Finished event was sent, or a terminal execution was sent to its end. -/
inductive SubscriptionEnd where
  | refused (error : Error)
  | disconnected
  | failed (error : Error)
  | closed
  | finished
  | terminal (execution : Execution)

/-- Where a subscription is. `closing` says that it replays for the last time, and `page` is
what it has read. -/
inductive SubscriptionPhase where
  /-- It has subscribed to the engine. -/
  | subscribed
  /-- It writes its response. -/
  | answering (result : Except Error ProtocolResult)
  /-- It reads a page. -/
  | replaying (closing : Bool)
  /-- It writes an event of a page. -/
  | paging (closing : Bool) (page : ReadOutputResponse) (event : ExecutionEvent)
      (rest : List ExecutionEvent)
  /-- It waits for the client and for the engine. -/
  | listening
  /-- It writes an event that it has received. -/
  | sending (event : ExecutionEvent)
  | returned (ending : SubscriptionEnd)

def ExecutionEventPayload.isFinished : ExecutionEventPayload → Bool
  | .finished _ => true
  | _ => false

namespace Subscription

/-- What the request reads before it is answered. -/
def answer (call : Subscription) (now : Int) (conditions : Conditions) (db : Database) :
    Except Error ProtocolResult :=
  (Store.request ((Query.subscribe call.executionId call.afterSeq).dispatch (fun _ => now) false)
    conditions db).1

def response (call : Subscription) : Except Error ProtocolResult → WireMessage
  | .ok result => .ok call.subscriptionId result
  | .error e => .error call.subscriptionId e

end Subscription

/-- A subscription, and the engine around it. -/
structure SubscriptionState (capacity : Nat) where
  db : Database
  receiver : Receiver ExecutionEvent capacity := {}
  closed : Bool := false
  /-- The events broadcast so far, before the subscription or since. -/
  sent : List ExecutionEvent := []
  phase : SubscriptionPhase := .subscribed
  cursor : Nat := 0
  response : Option WireMessage := none
  /-- The events written to the client. -/
  delivered : List ExecutionEvent := []

namespace SubscriptionState

variable {capacity : Nat}

/-- The messages that the client has got. -/
def messages (call : Subscription) (s : SubscriptionState capacity) : List WireMessage :=
  s.response.toList ++ s.delivered.map (.event call.subscriptionId)

/-- The subscription waits with nothing left to read. -/
def Blocked (s : SubscriptionState capacity) : Prop :=
  s.phase = .listening ∧ s.receiver.Empty ∧ s.closed = false

/-- Behind the last replay of a closed channel nothing matters but that it is closed. -/
def leave (s : SubscriptionState capacity) (closing : Bool) (ending : SubscriptionEnd) :
    SubscriptionState capacity :=
  { s with phase := .returned (if closing then .closed else ending) }

/-- The end of `replay_subscription`, at a page behind which there is nothing more. -/
def replayed (s : SubscriptionState capacity) (closing : Bool) (execution : Execution) :
    SubscriptionState capacity :=
  if execution.state.isTerminal && decide (execution.lastSeq ≤ s.cursor) then
    s.leave closing (.terminal execution)
  else if closing then { s with phase := .returned .closed }
  else { s with phase := .listening }

/-- The loop of `replay_subscription` over the events of a page, up to the next one to write. -/
def proceed (s : SubscriptionState capacity) (closing : Bool) (page : ReadOutputResponse) :
    List ExecutionEvent → SubscriptionState capacity
  | [] =>
      if page.hasMore then { s with phase := .replaying closing }
      else s.replayed closing page.execution
  | event :: rest =>
      if event.seq ≤ s.cursor then s.proceed closing page rest
      else { s with cursor := event.seq, phase := .paging closing page event rest }

/-- The read of `replay_subscription` (`src/daemon.rs:277`). -/
def read (call : Subscription) (s : SubscriptionState capacity) (closing : Bool) (now : Int)
    (conditions : Conditions) : SubscriptionState capacity :=
  match (Store.request (Database.readOutput now call.executionId s.cursor (1024 * 1024))
      conditions s.db).1 with
  | .error e => { s with phase := .returned (.failed e) }
  | .ok page => s.proceed closing page page.events

/-- Goes on when a frame is written; `none` where there is none to write. -/
def written (call : Subscription) (s : SubscriptionState capacity) :
    Option (SubscriptionState capacity) :=
  match s.phase with
  | .answering result =>
      let s := { s with response := some (call.response result) }
      match result with
      | .ok _ => some { s with cursor := call.afterSeq, phase := .replaying false }
      | .error e => some { s with phase := .returned (.refused e) }
  | .paging closing page event rest =>
      let s := { s with delivered := s.delivered ++ [event] }
      if event.payload.isFinished then some (s.leave closing .finished)
      else some (s.proceed closing page rest)
  | .sending event =>
      let s := { s with delivered := s.delivered ++ [event], cursor := s.cursor + 1 }
      if event.payload.isFinished then some { s with phase := .returned .finished }
      else some { s with phase := .listening }
  | _ => none

/-- Writes a frame, or fails to. -/
def write (call : Subscription) (s : SubscriptionState capacity) :
    Except Error Unit → Option (SubscriptionState capacity)
  | .ok () => s.written call
  | .error e =>
      match s.phase with
      | .answering _ | .paging .. | .sending _ => some { s with phase := .returned (.failed e) }
      | _ => none

/-- Takes what the receiver has; `none` while it has nothing. -/
def receive (call : Subscription) (s : SubscriptionState capacity) :
    Option (SubscriptionState capacity) :=
  match s.receiver.recv with
  | some (.value event, receiver) =>
      if event.executionId ≠ call.executionId ∨ event.seq ≤ s.cursor then some { s with receiver }
      else if event.seq = s.cursor + 1 then some { s with receiver, phase := .sending event }
      else some { s with receiver, phase := .replaying false }
  | some (.lagged _, receiver) => some { s with receiver, phase := .replaying false }
  | none => if s.closed then some { s with phase := .replaying true } else none

end SubscriptionState

/-- What happens during a subscription. The client may send something, which it should not, or
be gone. -/
inductive SubscriptionStep where
  | command (op : StoreOp) (faults : List (Option String))
  | broadcast (event : ExecutionEvent)
  | close
  | answer (now : Int) (conditions : Conditions)
  | read (now : Int) (conditions : Conditions)
  | write (result : Except Error Unit)
  | receive
  | incoming (request : Bool)

/-- A subscription, from the call of `subscribe_events` on. The events of its execution are
broadcast, by any task, once they are durable, and some may have been before it began. -/
def subscription (call : Subscription) (capacity : Nat) :
    System (SubscriptionState capacity) SubscriptionStep where
  start s := s.db.Sound ∧
    (∀ e ∈ s.sent, e.executionId = call.executionId → e ∈ s.db.log call.executionId) ∧
    s = { db := s.db, sent := s.sent }
  step s
    | .command op faults => some { s with db := (Store.run op.program faults s.db).2 }
    | .broadcast event =>
        if s.closed ∨ event.executionId = call.executionId ∧ event ∉ s.db.log call.executionId then
          none
        else some { s with receiver := s.receiver.send event, sent := s.sent ++ [event] }
    | .close => some { s with closed := true }
    | .answer now conditions =>
        match s.phase with
        | .subscribed => some { s with phase := .answering (call.answer now conditions s.db) }
        | _ => none
    | .read now conditions =>
        match s.phase with
        | .replaying closing => some (s.read call closing now conditions)
        | _ => none
    | .write result => s.write call result
    | .receive =>
        match s.phase with
        | .listening => s.receive call
        | _ => none
    | .incoming request =>
        match s.phase with
        | .listening => some { s with phase := .returned (if request then
            .failed (.protocol "subscription connections do not accept additional requests")
            else .disconnected) }
        | _ => none

/-- The execution is not pruned meanwhile. -/
def Unpruned (call : Subscription) {capacity : Nat} (s : SubscriptionState capacity) :
    SubscriptionStep → Prop
  | .command op faults => s.db.executions.find? call.executionId ≠ none →
      (Store.run op.program faults s.db).2.executions.find? call.executionId ≠ none
  | _ => True

instance (call : Subscription) {capacity : Nat} (s : SubscriptionState capacity)
    (step : SubscriptionStep) : Decidable (Unpruned call s step) := by
  unfold Unpruned
  split <;> infer_instance

/-! ## What the log says -/

namespace Database

variable {db db' : Database} {id : ExecutionId} {row : ExecutionRow} {cursor : Nat}

/-- The event at a cursor of a log has the next number. -/
theorem Numbered.next_seq (numbered : db.Numbered id row) {event : ExecutionEvent}
    {rest : List ExecutionEvent} (start : event :: rest <+: (db.log id).drop cursor) :
    event.seq = cursor + 1 := by
  have seqs := numbered_prefix (numbered_drop numbered.seqs cursor) start
  rw [List.map_cons, List.length_cons, List.range'_succ] at seqs
  have first := (List.cons.inj seqs).1
  omega

/-- Events of a log from a cursor on have the numbers behind it. -/
theorem Sound.seqs_behind (sound : db.Sound) {events : List ExecutionEvent}
    (start : events <+: (db.log id).drop cursor) :
    events.map ExecutionEvent.seq = List.range' (cursor + 1) events.length := by
  cases found : db.executions.find? id with
  | none =>
    rw [sound.linked.log_eq_nil found, List.drop_nil] at start
    rw [List.prefix_nil.mp start]
    rfl
  | some row =>
    rw [Nat.add_comm]
    exact numbered_prefix (numbered_drop (sound.numbered found).seqs cursor) start

/-- The last number of a log is that of an event. -/
theorem Numbered.exists_last (numbered : db.Numbered id row) (some : 0 < row.lastSeq) :
    ∃ event ∈ db.log id, event.seq = row.lastSeq := by
  have member : row.lastSeq ∈ (db.log id).map ExecutionEvent.seq := by
    rw [numbered.seqs, List.mem_range'_1]
    omega
  obtain ⟨event, there, seq⟩ := List.mem_map.mp member
  exact ⟨event, there, seq⟩

/-- An event of a log is at the cursor before its number. -/
theorem Numbered.drop_of_mem (numbered : db.Numbered id row) {event : ExecutionEvent}
    (member : event ∈ db.log id) (seq : event.seq = cursor + 1) :
    ∃ rest, (db.log id).drop cursor = event :: rest := by
  obtain ⟨i, bound, at_⟩ := List.mem_iff_getElem.mp member
  have number : ((db.log id).map ExecutionEvent.seq)[i]? = some event.seq := by
    rw [List.getElem?_map, List.getElem?_eq_getElem bound, at_]
    rfl
  have length := numbered.length
  rw [numbered.seqs, List.getElem?_range' (by omega), seq, Option.some.injEq] at number
  have place : i = cursor := by omega
  subst place
  exact ⟨_, by rw [List.drop_eq_getElem_cons bound, at_]⟩

theorem executionId_of_mem_log {event : ExecutionEvent} (member : event ∈ db.log id) :
    event.executionId = id :=
  of_decide_eq_true (List.mem_filter.mp member).2

/-- What is over stays so along a run that does not create it. -/
theorem over_run {records records' : Records}
    (steps : journal.RunVia (fun _ c => ¬ c.Creates id) records records')
    (before : Over (records id)) : Over (records' id) := by
  induction steps with
  | refl => exact before
  | tail _ last ih =>
    obtain ⟨c, known, applied⟩ := last
    exact (Change.apply_record applied id).isOver known ih

/-- What a command leaves of an execution that it does not delete. -/
theorem Sound.command (sound : db.Sound) {op : StoreOp} {faults : List (Option String)}
    (same : db' = (Store.run op.program faults db).2)
    (stays : db.executions.find? id ≠ none → db'.executions.find? id ≠ none) :
    db.log id <+: db'.log id ∧ (db.executions.find? id ≠ none → Over (db.records id) →
      Over (db'.records id)) := by
  cases before : db.executions.find? id with
  | none =>
    rw [sound.linked.log_eq_nil before]
    exact ⟨List.nil_prefix, fun present => absurd rfl present⟩
  | some row =>
    obtain ⟨row', after⟩ := Option.ne_none_iff_exists'.mp (stays (by simp [before]))
    have touched := op.touched sound.linked faults
    rw [← same] at touched
    have found := record_of_find? before
    exact ⟨touched.grown found (record_of_find? after), fun _ => over_run (touched.known found)⟩

end Database

/-! ## What a subscription keeps to -/

namespace SubscriptionState

variable {capacity : Nat} {call : Subscription} {s s' : SubscriptionState capacity}
  {receiver receiver' : Receiver ExecutionEvent capacity} {sent : List ExecutionEvent}
  {event : ExecutionEvent} {n m : Nat}

/-- Whatever was broadcast behind `n` is to be read, or was missed. -/
def Covered (call : Subscription) (receiver : Receiver ExecutionEvent capacity)
    (sent : List ExecutionEvent) (n : Nat) : Prop :=
  ∀ e ∈ sent, e.executionId = call.executionId →
    e.seq ≤ n ∨ e ∈ receiver.queue ∨ receiver.missed ≠ 0

namespace Covered

theorem broadcast (covered : Covered call receiver sent n) :
    Covered call (receiver.send event) (sent ++ [event]) n := by
  have missed : (receiver.send event).missed =
      receiver.missed + (receiver.overwritten event).length := rfl
  intro e member own
  have kept : e.seq ≤ n ∨ (e ∈ receiver.queue ∨ e = event) ∨ receiver.missed ≠ 0 := by
    rcases List.mem_append.mp member with old | new
    · exact (covered e old own).imp_right (Or.imp_left .inl)
    · exact .inr (.inl (.inr (List.mem_singleton.mp new)))
  rcases kept with below | there | behind
  · exact .inl below
  · rcases Receiver.mem_send.mp there with lost | queued
    · have some := List.length_pos_of_mem lost
      exact .inr (.inr (by omega))
    · exact .inr (.inl queued)
  · exact .inr (.inr (by omega))

/-- A value that is read was covered, or is covered by the cursor from now on. -/
theorem read (covered : Covered call receiver sent n)
    (queue : receiver.queue = event :: receiver'.queue) (missed : receiver.missed = 0)
    (past : event.executionId = call.executionId → event.seq ≤ m) (le : n ≤ m) :
    Covered call receiver' sent m := by
  intro e member own
  rcases covered e member own with below | queued | behind
  · exact .inl (below.trans le)
  · rw [queue] at queued
    rcases List.mem_cons.mp queued with rfl | later
    · exact .inl (past own)
    · exact .inr (.inl later)
  · exact absurd missed behind

end Covered

/-- The execution is there, and its log reaches up to where the client wants to go on. -/
def Opened (call : Subscription) (db : Database) : Prop :=
  (∃ row, db.executions.find? call.executionId = some row) ∧
    call.afterSeq ≤ (db.log call.executionId).length

/-- What is known of a page whose last event has the number `last`. -/
structure Paged (call : Subscription) (db : Database)
    (receiver : Receiver ExecutionEvent capacity) (sent : List ExecutionEvent)
    (page : ReadOutputResponse) (last : Nat) : Prop where
  whole : page.hasMore = false →
    last = page.execution.lastSeq ∧ Covered call receiver sent last
  ended : page.execution.state.isTerminal = true → Over (db.records call.executionId)

/-- What the store and the engine have given: what is broadcast is durable, what is received
was broadcast, and what is delivered are the next events of the log. -/
structure Sourced (call : Subscription) (db : Database)
    (receiver : Receiver ExecutionEvent capacity) (sent delivered : List ExecutionEvent) :
    Prop where
  sound : db.Sound
  durable : ∀ e ∈ sent, e.executionId = call.executionId → e ∈ db.log call.executionId
  queued : ∀ e ∈ receiver.queue, e ∈ sent
  delivered : delivered <+: (db.log call.executionId).drop call.afterSeq

/-- Where the cursor is in each phase, and why nothing behind it is lost. -/
def Placed (call : Subscription) (s : SubscriptionState capacity) : Prop :=
  match s.phase with
  | .subscribed => s.delivered = []
  | .answering (.error _) => s.delivered = []
  | .answering (.ok _) => s.delivered = [] ∧ Opened call s.db
  | .replaying closing => Opened call s.db ∧ s.cursor = call.afterSeq + s.delivered.length ∧
      (closing = true → s.closed = true)
  | .paging closing page event rest =>
      Opened call s.db ∧ s.cursor = call.afterSeq + s.delivered.length + 1 ∧
      event :: rest <+: (s.db.log call.executionId).drop (call.afterSeq + s.delivered.length) ∧
      (closing = true → s.closed = true) ∧
      Paged call s.db s.receiver s.sent page (s.cursor + rest.length)
  | .listening => Opened call s.db ∧ s.cursor = call.afterSeq + s.delivered.length ∧
      Covered call s.receiver s.sent s.cursor
  | .sending event => Opened call s.db ∧ s.cursor = call.afterSeq + s.delivered.length ∧
      event ∈ s.db.log call.executionId ∧ event.seq = s.cursor + 1 ∧
      Covered call s.receiver s.sent (s.cursor + 1)
  | .returned .closed => s.closed = true
  | .returned .finished =>
      ∃ event, s.delivered.getLast? = some event ∧ event.payload.isFinished = true
  | .returned (.terminal execution) => Opened call s.db ∧
      execution.state.isTerminal = true ∧ execution.lastSeq ≤ s.cursor ∧
      Over (s.db.records call.executionId)
  | .returned _ => True

/-- What a subscription keeps to. -/
structure Followed (call : Subscription) (s : SubscriptionState capacity) : Prop where
  sourced : Sourced call s.db s.receiver s.sent s.delivered
  placed : s.Placed call

/-- What others do while a subscription stays where it is. -/
structure Around (call : Subscription) (s s' : SubscriptionState capacity) : Prop where
  phase : s'.phase = s.phase
  cursor : s'.cursor = s.cursor
  delivered : s'.delivered = s.delivered
  log : s.db.log call.executionId <+: s'.db.log call.executionId
  opened : Opened call s.db → Opened call s'.db
  isOver : Opened call s.db → Over (s.db.records call.executionId) →
    Over (s'.db.records call.executionId)
  closed : s.closed = true → s'.closed = true
  covered : ∀ n, Covered call s.receiver s.sent n → Covered call s'.receiver s'.sent n

theorem Placed.around (placed : s.Placed call) (around : s.Around call s') : s'.Placed call := by
  unfold Placed at placed ⊢
  rw [around.phase, around.cursor, around.delivered]
  cases phase : s.phase with
  | subscribed =>
    rw [phase] at placed
    exact placed
  | answering result =>
    rw [phase] at placed
    cases result with
    | ok result => exact ⟨placed.1, around.opened placed.2⟩
    | error e => exact placed
  | replaying closing =>
    rw [phase] at placed
    obtain ⟨opened, cursor, closes⟩ := placed
    exact ⟨around.opened opened, cursor, fun closing => around.closed (closes closing)⟩
  | paging closing page event rest =>
    rw [phase] at placed
    obtain ⟨opened, cursor, start, closes, paged⟩ := placed
    refine ⟨around.opened opened, cursor, start.trans (List.IsPrefix.drop around.log _),
      fun closing => around.closed (closes closing), ?_, ?_⟩
    · intro more
      obtain ⟨last, covered⟩ := paged.whole more
      exact ⟨last, around.covered _ covered⟩
    · intro terminal
      exact around.isOver opened (paged.ended terminal)
  | listening =>
    rw [phase] at placed
    obtain ⟨opened, cursor, covered⟩ := placed
    exact ⟨around.opened opened, cursor, around.covered _ covered⟩
  | sending event =>
    rw [phase] at placed
    obtain ⟨opened, cursor, member, next, covered⟩ := placed
    exact ⟨around.opened opened, cursor, around.log.subset member, next, around.covered _ covered⟩
  | returned ending =>
    rw [phase] at placed
    cases ending with
    | closed => exact around.closed placed
    | terminal execution =>
      obtain ⟨opened, terminal, sent, isOver⟩ := placed
      exact ⟨around.opened opened, terminal, sent, around.isOver opened isOver⟩
    | refused | disconnected | failed => trivial
    | finished => exact placed

theorem Sourced.around (sourced : Sourced call s.db s.receiver s.sent s.delivered)
    (sound : s'.db.Sound) (around : s.Around call s') (receiver : s'.receiver = s.receiver)
    (sent : s'.sent = s.sent) : Sourced call s'.db s'.receiver s'.sent s'.delivered := by
  rw [receiver, sent, around.delivered]
  refine ⟨sound, ?_, sourced.queued, ?_⟩
  · intro e member own
    exact around.log.subset (sourced.durable e member own)
  · exact sourced.delivered.trans (List.IsPrefix.drop around.log _)

namespace Followed

theorem command (followed : s.Followed call) {op : StoreOp} {faults : List (Option String)}
    (stays : s.db.executions.find? call.executionId ≠ none →
      (Store.run op.program faults s.db).2.executions.find? call.executionId ≠ none) :
    Followed call { s with db := (Store.run op.program faults s.db).2 } := by
  have sound := followed.sourced.sound
  obtain ⟨log, isOver⟩ := sound.command rfl stays
  obtain ⟨changes, effect, _⟩ := op.touched sound.linked faults
  have around : s.Around call { s with db := (Store.run op.program faults s.db).2 } := by
    refine ⟨rfl, rfl, rfl, log, ?_, ?_, fun closed => closed, fun _ covered => covered⟩
    · rintro ⟨⟨row, found⟩, within⟩
      have there := stays (by simp [found])
      exact ⟨Option.ne_none_iff_exists'.mp there, within.trans log.length_le⟩
    · rintro ⟨⟨row, found⟩, _⟩
      exact isOver (by simp [found])
  exact ⟨followed.sourced.around (effect.sound sound) around rfl rfl, followed.placed.around around⟩

theorem broadcast (followed : s.Followed call)
    (stored : event.executionId = call.executionId → event ∈ s.db.log call.executionId) :
    Followed call
      { s with receiver := s.receiver.send event, sent := s.sent ++ [event] } where
  sourced := by
    have sourced := followed.sourced
    refine ⟨sourced.sound, ?_, ?_, sourced.delivered⟩
    · intro e member own
      rcases List.mem_append.mp member with old | new
      · exact sourced.durable e old own
      · rw [List.mem_singleton.mp new] at own ⊢
        exact stored own
    · intro e member
      rcases Receiver.mem_send.mpr (.inr member) with old | new
      · exact List.mem_append_left _ (sourced.queued e old)
      · exact List.mem_append_right _ (List.mem_singleton.mpr new)
  placed := followed.placed.around ⟨rfl, rfl, rfl, List.prefix_rfl, fun opened => opened,
    fun _ isOver => isOver, fun closed => closed, fun _ covered => covered.broadcast⟩

theorem close (followed : s.Followed call) : Followed call { s with closed := true } where
  sourced := followed.sourced
  placed := followed.placed.around ⟨rfl, rfl, rfl, List.prefix_rfl, fun opened => opened,
    fun _ isOver => isOver, fun _ => rfl, fun _ covered => covered⟩

end Followed

/-! ## The answer -/

/-- A request that is not refused finds its execution, and its cursor in the log. -/
theorem answer_opened {db : Database} (sound : db.Sound) {now : Int} {conditions : Conditions}
    {result : ProtocolResult} (answered : call.answer now conditions db = .ok result) :
    Opened call db := by
  have promise : Sql.Post Database.StorageFault
      ((Query.subscribe call.executionId call.afterSeq).dispatch (fun _ => now) false) db
      fun r _ => ∀ result, r = .ok result → Opened call db := by
    refine Sql.post_bind (Database.post_getExecution.mono fun r db' looked => ?_)
    cases r with
    | error e =>
      intro result told
      cases told
    | ok execution =>
      obtain ⟨_, record, found, rfl⟩ := looked
      have found := (Database.records_eq_some.mp found).1
      dsimp only
      by_cases beyond : (Database.executionFromRow now record.row).lastSeq < call.afterSeq
      · rw [if_pos beyond]
        refine Sql.post_fail fun result told => ?_
        cases told
      · rw [if_neg beyond]
        refine Sql.post_pure fun result _ => ⟨⟨_, found⟩, ?_⟩
        rw [(sound.numbered found).length]
        exact Nat.le_of_not_lt beyond
  exact Database.request_of_post promise (fun message result told => by cases told)
    conditions result answered

theorem Followed.answer (followed : s.Followed call) (phase : s.phase = .subscribed) (now : Int)
    (conditions : Conditions) :
    Followed call { s with phase := .answering (call.answer now conditions s.db) } where
  sourced := followed.sourced
  placed := by
    have nothing := followed.placed
    unfold Placed at nothing ⊢
    rw [phase] at nothing
    cases answered : call.answer now conditions s.db with
    | error e => exact nothing
    | ok result => exact ⟨nothing, answer_opened followed.sourced.sound answered⟩

/-! ## Replaying -/

/-- The loop over a page moves the cursor and the phase. -/
theorem proceed_keeps (closing : Bool) (page : ReadOutputResponse) (rest : List ExecutionEvent) :
    (s.proceed closing page rest).db = s.db ∧
      (s.proceed closing page rest).receiver = s.receiver ∧
      (s.proceed closing page rest).sent = s.sent ∧
      (s.proceed closing page rest).delivered = s.delivered := by
  induction rest with
  | nil =>
    simp only [proceed, replayed, leave]
    split
    · exact ⟨rfl, rfl, rfl, rfl⟩
    split
    · exact ⟨rfl, rfl, rfl, rfl⟩
    split <;> exact ⟨rfl, rfl, rfl, rfl⟩
  | cons event rest ih =>
    simp only [proceed]
    split
    · exact ih
    · exact ⟨rfl, rfl, rfl, rfl⟩

theorem Sourced.proceed (sourced : Sourced call s.db s.receiver s.sent s.delivered)
    (closing : Bool) (page : ReadOutputResponse) (rest : List ExecutionEvent) :
    Sourced call (s.proceed closing page rest).db (s.proceed closing page rest).receiver
      (s.proceed closing page rest).sent (s.proceed closing page rest).delivered := by
  obtain ⟨db, receiver, sent, delivered⟩ := s.proceed_keeps closing page rest
  rw [db, receiver, sent, delivered]
  exact sourced

/-- Behind the last page, which has all that was broadcast, or will come. -/
theorem replayed_placed {closing : Bool} {execution : Execution} (opened : Opened call s.db)
    (cursor : s.cursor = call.afterSeq + s.delivered.length)
    (closes : closing = true → s.closed = true) (covered : Covered call s.receiver s.sent s.cursor)
    (ended : execution.state.isTerminal = true → Over (s.db.records call.executionId)) :
    (s.replayed closing execution).Placed call := by
  unfold replayed leave
  by_cases whole : execution.state.isTerminal && decide (execution.lastSeq ≤ s.cursor)
  · rw [if_pos whole]
    cases closing with
    | true => exact closes rfl
    | false =>
      simp only [Bool.and_eq_true, decide_eq_true_eq] at whole
      exact ⟨opened, whole.1, whole.2, ended whole.1⟩
  · rw [if_neg whole]
    cases closing with
    | true => exact closes rfl
    | false => exact ⟨opened, cursor, covered⟩

/-- Behind the last event of a page, or at its next one. -/
theorem proceed_placed (sound : s.db.Sound) {closing : Bool} {page : ReadOutputResponse}
    {rest : List ExecutionEvent} (opened : Opened call s.db)
    (cursor : s.cursor = call.afterSeq + s.delivered.length)
    (start : rest <+: (s.db.log call.executionId).drop s.cursor)
    (closes : closing = true → s.closed = true)
    (paged : Paged call s.db s.receiver s.sent page (s.cursor + rest.length)) :
    (s.proceed closing page rest).Placed call := by
  cases rest with
  | nil =>
    unfold proceed
    cases more : page.hasMore with
    | true => exact ⟨opened, cursor, closes⟩
    | false => exact replayed_placed opened cursor closes (paged.whole more).2 paged.ended
  | cons event rest =>
    obtain ⟨row, found⟩ := opened.1
    have next := (sound.numbered found).next_seq start
    have last : s.cursor + (event :: rest).length = event.seq + rest.length := by
      rw [List.length_cons]
      omega
    unfold proceed
    rw [if_neg (by omega)]
    rw [last] at paged
    refine ⟨opened, ?_, cursor ▸ start, closes, paged⟩
    show event.seq = call.afterSeq + s.delivered.length + 1
    omega

theorem Followed.read (followed : s.Followed call) {closing : Bool}
    (phase : s.phase = .replaying closing) (now : Int) (conditions : Conditions) :
    (s.read call closing now conditions).Followed call := by
  have sourced := followed.sourced
  have placed := followed.placed
  unfold Placed at placed
  rw [phase] at placed
  obtain ⟨opened, cursor, closes⟩ := placed
  have answer := Database.request_of_post
    (Database.post_readOutput s.db now call.executionId s.cursor (1024 * 1024))
    (fun message => ⟨rfl, .inl rfl⟩) conditions
  unfold SubscriptionState.read
  cases answered : (Store.request (Database.readOutput now call.executionId s.cursor (1024 * 1024))
      conditions s.db).1 with
  | error e => exact ⟨sourced, trivial⟩
  | ok page =>
    rw [answered] at answer
    obtain ⟨_, row, found, same⟩ := answer
    have numbered := sourced.sound.numbered found
    have length := numbered.length
    have within : s.cursor ≤ row.lastSeq := by
      have sent := sourced.delivered.length_le
      rw [List.length_drop] at sent
      have below := opened.2
      omega
    have spec := numbered.isPage now (within.trans_lt numbered.bound) (1024 * 1024)
    rw [← same] at spec
    refine ⟨sourced.proceed closing page page.events, ?_⟩
    refine proceed_placed sourced.sound opened cursor ?_ closes ⟨?_, ?_⟩
    · rw [spec.run]
      exact List.take_prefix _ _
    · -- a page with nothing behind it reaches up to the last event
      intro more
      have last : row.lastSeq ≤ page.nextSeq := by
        by_contra further
        rw [spec.more.mpr (Nat.lt_of_not_le further)] at more
        cases more
      have bound := spec.nextSeq_le length
      rw [spec.nextSeq_eq] at last bound
      have reaches : s.cursor + page.events.length = row.lastSeq := by omega
      refine ⟨by rw [reaches, same]; rfl, fun e member own => .inl ?_⟩
      rw [reaches]
      exact numbered.seq_le (sourced.durable e member own)
    · intro terminal record there
      rw [Database.record_of_find? found] at there
      cases there
      rw [same] at terminal
      exact terminal

/-! ## Writing and receiving -/

theorem Sourced.deliver {db : Database} {delivered rest : List ExecutionEvent}
    (sourced : Sourced call db receiver sent delivered)
    (next : event :: rest <+:
      (db.log call.executionId).drop (call.afterSeq + delivered.length)) :
    Sourced call db receiver sent (delivered ++ [event]) := by
  refine ⟨sourced.sound, sourced.durable, sourced.queued, ?_⟩
  obtain ⟨left, whole⟩ := sourced.delivered
  rw [← List.drop_drop, ← whole, List.drop_left] at next
  obtain ⟨further, left_⟩ := next
  rw [← whole, ← left_]
  exact ⟨rest ++ further, by simp⟩

theorem Followed.written (followed : s.Followed call) (enabled : s.written call = some s') :
    s'.Followed call := by
  have sourced := followed.sourced
  have placed := followed.placed
  unfold Placed at placed
  unfold SubscriptionState.written at enabled
  cases phase : s.phase with
  | answering result =>
    rw [phase] at placed enabled
    cases result with
    | error e =>
      cases enabled
      exact ⟨sourced, trivial⟩
    | ok result =>
      cases enabled
      obtain ⟨nothing, opened⟩ := placed
      refine ⟨sourced, opened, ?_, by rintro ⟨⟩⟩
      show call.afterSeq = call.afterSeq + s.delivered.length
      rw [nothing]
      rfl
  | paging closing page event rest =>
    rw [phase] at placed enabled
    obtain ⟨opened, cursor, start, closes, paged⟩ := placed
    have grown := sourced.deliver start
    simp only at enabled
    by_cases finished : event.payload.isFinished
    · rw [if_pos finished] at enabled
      cases enabled
      refine ⟨grown, ?_⟩
      cases closing with
      | true => exact closes rfl
      | false => exact ⟨event, List.getLast?_concat, finished⟩
    · rw [if_neg finished] at enabled
      cases enabled
      have behind := List.IsPrefix.drop start 1
      rw [List.drop_drop, ← cursor] at behind
      refine ⟨Sourced.proceed grown closing page rest, ?_⟩
      apply proceed_placed
      · exact sourced.sound
      · exact opened
      · show s.cursor = call.afterSeq + (s.delivered ++ [event]).length
        rw [List.length_append, List.length_singleton]
        exact cursor
      · exact behind
      · exact closes
      · exact paged
  | sending event =>
    rw [phase] at placed enabled
    obtain ⟨opened, cursor, member, next, covered⟩ := placed
    obtain ⟨row, found⟩ := opened.1
    obtain ⟨rest, there⟩ := (sourced.sound.numbered found).drop_of_mem member next
    have start : event :: rest <+:
        (s.db.log call.executionId).drop (call.afterSeq + s.delivered.length) := by
      rw [← cursor, there]
    have grown := sourced.deliver start
    simp only at enabled
    by_cases finished : event.payload.isFinished
    · rw [if_pos finished] at enabled
      cases enabled
      exact ⟨grown, event, List.getLast?_concat, finished⟩
    · rw [if_neg finished] at enabled
      cases enabled
      refine ⟨grown, opened, ?_, covered⟩
      show s.cursor + 1 = call.afterSeq + (s.delivered ++ [event]).length
      rw [List.length_append, List.length_singleton]
      omega
  | subscribed | replaying | listening | returned =>
    rw [phase] at enabled
    cases enabled

theorem Followed.receive (followed : s.Followed call) (phase : s.phase = .listening)
    (enabled : s.receive call = some s') : s'.Followed call := by
  have sourced := followed.sourced
  have placed := followed.placed
  unfold Placed at placed
  rw [phase] at placed
  obtain ⟨opened, cursor, covered⟩ := placed
  unfold SubscriptionState.receive at enabled
  cases read : s.receiver.recv with
  | none =>
    rw [read] at enabled
    obtain ⟨closed, same⟩ := Option.ite_none_right_eq_some.mp enabled
    cases same
    exact ⟨sourced, opened, cursor, fun _ => closed⟩
  | some answer =>
    obtain ⟨received, receiver⟩ := answer
    rw [read] at enabled
    have left : (∀ e ∈ receiver.queue, e ∈ s.receiver.queue) →
        Sourced call s.db receiver s.sent s.delivered := fun subset =>
      ⟨sourced.sound, sourced.durable, fun e member => sourced.queued e (subset e member),
        sourced.delivered⟩
    rcases Receiver.recv_cases read with ⟨event, rfl, queue, missed, _⟩ | ⟨rfl, _, queue, _⟩
    · have sourced' := left fun e member => queue ▸ List.mem_cons_of_mem event member
      simp only at enabled
      by_cases past : event.executionId ≠ call.executionId ∨ event.seq ≤ s.cursor
      · rw [if_pos past] at enabled
        cases enabled
        refine ⟨sourced', ?_⟩
        unfold Placed
        rw [show (({ s with receiver } : SubscriptionState capacity)).phase = _ from phase]
        refine ⟨opened, cursor, covered.read queue missed ?_ le_rfl⟩
        exact fun own => past.resolve_left fun other => other own
      · rw [if_neg past] at enabled
        obtain ⟨own, later⟩ := not_or.mp past
        by_cases next : event.seq = s.cursor + 1
        · rw [if_pos next] at enabled
          cases enabled
          have member : event ∈ s.receiver.queue := queue ▸ List.mem_cons_self
          refine ⟨sourced', opened, cursor, ?_, next, ?_⟩
          · exact sourced.durable event (sourced.queued event member) (not_not.mp own)
          · exact covered.read queue missed (fun _ => next.le) (Nat.le_succ _)
        · rw [if_neg next] at enabled
          cases enabled
          exact ⟨sourced', opened, cursor, by rintro ⟨⟩⟩
    · cases enabled
      exact ⟨left fun e member => queue ▸ member, opened, cursor, by rintro ⟨⟩⟩

theorem followed_step {step : SubscriptionStep} (followed : s.Followed call)
    (unpruned : Unpruned call s step)
    (enabled : (subscription call capacity).step s step = some s') : s'.Followed call := by
  cases step with
  | command op faults =>
    cases enabled
    exact followed.command unpruned
  | broadcast event =>
    obtain ⟨sendable, same⟩ := Option.ite_none_left_eq_some.mp enabled
    cases same
    apply followed.broadcast
    intro own
    by_contra missing
    exact sendable (.inr ⟨own, missing⟩)
  | close =>
    cases enabled
    exact followed.close
  | answer now conditions =>
    cases phase : s.phase with
    | subscribed =>
      simp only [subscription, phase] at enabled
      cases enabled
      exact followed.answer phase now conditions
    | _ => simp [subscription, phase] at enabled
  | read now conditions =>
    cases phase : s.phase with
    | replaying closing =>
      simp only [subscription, phase] at enabled
      cases enabled
      exact followed.read phase now conditions
    | _ => simp [subscription, phase] at enabled
  | write result =>
    have enabled : s.write call result = some s' := enabled
    cases result with
    | ok done => exact followed.written enabled
    | error e =>
      unfold SubscriptionState.write at enabled
      cases phase : s.phase <;> rw [phase] at enabled <;> cases enabled <;>
        exact ⟨followed.sourced, trivial⟩
  | receive =>
    cases phase : s.phase with
    | listening =>
      simp only [subscription, phase] at enabled
      exact followed.receive phase enabled
    | _ => simp [subscription, phase] at enabled
  | incoming request =>
    cases phase : s.phase with
    | listening =>
      simp only [subscription, phase] at enabled
      cases enabled
      refine ⟨followed.sourced, ?_⟩
      cases request <;> exact trivial
    | _ => simp [subscription, phase] at enabled

theorem followed_run (reached : (subscription call capacity).ReachableVia (Unpruned call) s) :
    s.Followed call := by
  apply reached.invariant (Followed call)
  · rintro s ⟨sound, durable, same⟩
    rw [same]
    exact ⟨⟨sound, durable, by rintro e ⟨⟩, List.nil_prefix⟩, rfl⟩
  · intro s step s' _ followed unpruned enabled
    exact followed_step followed unpruned enabled

/-- A subscription that is blocked has sent whatever was broadcast. -/
theorem Followed.blocked (followed : s.Followed call) (blocked : s.Blocked)
    (all : ∀ e ∈ s.db.log call.executionId, e ∈ s.sent) :
    ∃ row, s.db.executions.find? call.executionId = some row ∧ s.cursor = row.lastSeq ∧
      s.delivered = (s.db.log call.executionId).drop call.afterSeq := by
  obtain ⟨listening, ⟨empty, none⟩, _⟩ := blocked
  have placed := followed.placed
  unfold Placed at placed
  rw [listening] at placed
  obtain ⟨⟨⟨row, found⟩, within⟩, cursor, covered⟩ := placed
  have numbered := followed.sourced.sound.numbered found
  have length := numbered.length
  have start := followed.sourced.delivered
  have sent := start.length_le
  rw [List.length_drop] at sent
  have reaches : row.lastSeq ≤ s.cursor := by
    by_contra behind
    obtain ⟨event, member, last⟩ := numbered.exists_last (by omega)
    rcases covered event (all event member) (Database.executionId_of_mem_log member) with
      below | queued | missed
    · omega
    · rw [empty] at queued
      cases queued
    · exact missed none
  refine ⟨row, found, by omega, start.eq_of_length ?_⟩
  rw [List.length_drop]
  omega

end SubscriptionState

/-- Whatever the tasks append and broadcast, and whatever the receiver misses, a client gets the
events behind its cursor, each once and in order; a subscription that is blocked when every
event was broadcast has sent them all; and one that returns has sent a Finished event, or has
sent a terminal execution to its end, or its channel is closed, unless it was refused, has
failed, or the client is gone. The execution is not to be pruned meanwhile. -/
theorem subscription_exact (call : Subscription) (capacity : Nat) {s : SubscriptionState capacity}
    (reached : (subscription call capacity).ReachableVia (Unpruned call) s) :
    (∃ sent, s.messages call = s.response.toList ++ sent.map (.event call.subscriptionId) ∧
      sent <+: (s.db.log call.executionId).drop call.afterSeq ∧
      sent.map ExecutionEvent.seq = List.range' (call.afterSeq + 1) sent.length) ∧
    (s.Blocked → (∀ e ∈ s.db.log call.executionId, e ∈ s.sent) →
      ∃ row, s.db.executions.find? call.executionId = some row ∧ s.cursor = row.lastSeq ∧
        s.delivered = (s.db.log call.executionId).drop call.afterSeq) ∧
    ∀ ending, s.phase = .returned ending →
      (ending = .finished ∧
        ∃ event, s.delivered.getLast? = some event ∧ event.payload.isFinished = true) ∨
      (∃ execution row, ending = .terminal execution ∧ execution.state.isTerminal = true ∧
        execution.lastSeq ≤ s.cursor ∧
        s.db.executions.find? call.executionId = some row ∧ row.state.isTerminal = true) ∨
      (ending = .closed ∧ s.closed = true) ∨ ending = .disconnected ∨
      ∃ error, ending = .refused error ∨ ending = .failed error := by
  have followed := SubscriptionState.followed_run reached
  have start := followed.sourced.delivered
  refine ⟨⟨s.delivered, rfl, start, followed.sourced.sound.seqs_behind start⟩,
    followed.blocked, ?_⟩
  intro ending returned
  have placed := followed.placed
  unfold SubscriptionState.Placed at placed
  rw [returned] at placed
  cases ending with
  | refused error => exact .inr (.inr (.inr (.inr ⟨error, .inl rfl⟩)))
  | failed error => exact .inr (.inr (.inr (.inr ⟨error, .inr rfl⟩)))
  | disconnected => exact .inr (.inr (.inr (.inl rfl)))
  | closed => exact .inr (.inr (.inl ⟨rfl, placed⟩))
  | finished => exact .inl ⟨rfl, placed⟩
  | terminal execution =>
    obtain ⟨⟨⟨row, found⟩, _⟩, terminal, whole, isOver⟩ := placed
    exact .inr (.inl ⟨execution, row, rfl, terminal, whole, found,
      isOver _ (Database.record_of_find? found)⟩)

/-- An execution that has started. -/
def sampleStarted : List (StoreOp × List (Option String)) :=
  sampleWaitOps ++ [(.markRunning 2 "a" 10 10, [])]

/-- The subscription replays the start and listens. The execution is cancelled; what is
broadcast of another one overwrites its last event, which is then replayed. -/
def sampleSubscription : List SubscriptionStep :=
  [.answer 3 {}, .write (.ok ()), .read 3 {}, .write (.ok ()),
    .command (.finish 4 "a" .cancelled (.cancelled none)) [],
    .broadcast ⟨"a", 2, 4, .finished (.cancelled none)⟩, .broadcast ⟨"b", 1, 4, .started 11 11⟩,
    .receive, .read 5 {}, .write (.ok ())]

theorem subscription_exact_sample :
    ∃ s : SubscriptionState 1,
      (subscription ⟨"s", "a", 0⟩ 1).ReachableVia (Unpruned ⟨"s", "a", 0⟩) s ∧
      s.delivered.length = 2 ∧ (∃ sent, s.messages ⟨"s", "a", 0⟩ =
        s.response.toList ++ sent.map (.event "s") ∧ sent <+: (s.db.log "a").drop 0 ∧
        sent.map ExecutionEvent.seq = List.range' 1 sent.length) := by
  have ran : (store.run sampleDatabase sampleStarted).bind (fun db =>
      ((subscription ⟨"s", "a", 0⟩ 1).runIf (Unpruned ⟨"s", "a", 0⟩) { db }
        sampleSubscription).map fun s => s.delivered.length) = some 2 := by
    decide +kernel
  obtain ⟨db, stored, replayed⟩ := Option.bind_eq_some_iff.mp ran
  obtain ⟨s, replay, two⟩ := Option.map_eq_some_iff.mp replayed
  have sound := store_sound (System.run_reachable ⟨rfl, rfl⟩ stored)
  have start : (subscription ⟨"s", "a", 0⟩ 1).start { db } := ⟨sound, by rintro e ⟨⟩, rfl⟩
  have reached := (System.ReachableVia.start start).run (System.runIf_runVia replay)
  exact ⟨s, reached, two, (subscription_exact ⟨"s", "a", 0⟩ 1 reached).1⟩

end Loomterm
