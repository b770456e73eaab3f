import Loomterm.Daemon.Subscription
import Loomterm.Store.Lifecycle

/-!
# What `loom run` shows

The client of a subscription (`src/client.rs:227`) takes its answer and then its events, each of
which has to be the next one, and `stream_until_finished` (`src/bin/loom.rs:1391`) renders them
until one of them is a Finished event, or the stream ends, and asks for the execution. The client
and the daemon's subscription are put together here, over the database they share.
-/

namespace Loomterm

/-- An error of the client. -/
inductive ClientError where
  | protocol (message : String)
  | protocolVersionMismatch (client daemon : Nat)
  | io (message : String)
  | json (message : String)
  | daemonUnavailable
  deriving DecidableEq, Repr

/-- `ProtocolError::into_error` (`src/protocol.rs:207`). -/
def Error.intoError (e : Error) : ClientError := .protocol (e.code ++ ": " ++ e.toString)

/-- `decode_response` (`src/client.rs:341`), of a message of a daemon of that version. -/
def decodeResponse (version : Nat) (message : WireMessage) (expected : String) :
    Except ClientError ProtocolResult :=
  match message with
  | .ok requestId result =>
      if version ≠ protocolVersion then
        .error (.protocolVersionMismatch protocolVersion version)
      else if requestId ≠ expected then
        .error (.protocol "response request_id did not match")
      else .ok result
  | .error requestId e =>
      if version ≠ protocolVersion then
        .error (.protocolVersionMismatch protocolVersion version)
      else if requestId ≠ expected then
        .error (.protocol "response request_id did not match")
      else .error e.intoError
  | _ => .error (.protocol "expected daemon response")

/-- `ExecutionSubscription::next_event` (`src/client.rs:303`), for a frame that was read. -/
def nextEvent (subscriptionId : String) (nextSeq version : Nat) :
    WireMessage → Except ClientError ExecutionEvent
  | .event id event =>
      if version ≠ protocolVersion then
        .error (.protocolVersionMismatch protocolVersion version)
      else if id ≠ subscriptionId then
        .error (.protocol "subscription event id did not match")
      else if event.seq ≠ nextSeq + 1 then
        .error (.protocol ("subscription sequence was not contiguous after " ++
          toString nextSeq ++ ": received " ++ toString event.seq))
      else .ok event
  | _ => .error (.protocol "expected subscription event from daemon")

/-- How `stream_until_finished` returns. -/
inductive StreamResult where
  | execution (execution : Execution)
  /-- The subscription was refused. -/
  | refused (error : ClientError)
  /-- A message of the daemon was not what it should be. -/
  | rejected (error : ClientError)
  /-- The connection was lost, an event could not be rendered, or the subscription was closed
  without an answer. -/
  | lost (error : ClientError)
  /-- The execution could not be read at the end. -/
  | unread (error : ClientError)
  /-- The stream ended, and the execution is not over. -/
  | incomplete (error : ClientError)

inductive StreamPhase where
  /-- It waits for the answer. -/
  | opening
  | streaming
  /-- It asks for the execution, behind a Finished event or behind the end of the stream. -/
  | fetching (finished : Bool)
  | returned (result : StreamResult)

structure StreamClient where
  phase : StreamPhase := .opening
  /-- `next_seq` of `ExecutionSubscription`. -/
  nextSeq : Nat := 0
  /-- How many messages were read. -/
  taken : Nat := 0
  rendered : List ExecutionEvent := []

/-- The daemon's subscription and its client. -/
structure Streaming (capacity : Nat) where
  server : SubscriptionState capacity
  client : StreamClient := {}

/-- What happens: a step of the subscription, the end of the daemon's process, or a step of the
client. -/
inductive StreamStep where
  | server (step : SubscriptionStep)
  | daemonExit
  /-- `subscribe` reads the answer (`src/client.rs:244`). -/
  | open_
  /-- `next_event` returns an event, which is rendered or cannot be. -/
  | next (rendered : Except String Unit)
  /-- The stream ends. -/
  | closed
  /-- The connection fails. -/
  | lost (error : String)
  /-- `client.get`, by a daemon that can be reached. -/
  | fetch (now : Int) (conditions : Conditions)
  /-- `client.get` gets no answer. -/
  | unavailable (error : ClientError)

namespace Streaming

variable {capacity : Nat}

/-- The message that the client reads next. -/
def incoming (call : Subscription) (s : Streaming capacity) : Option WireMessage :=
  (s.server.messages call)[s.client.taken]?

def toClient (s : Streaming capacity) (client : StreamClient) : Streaming capacity :=
  { s with client }

/-- The answer to `subscribe`; `debug` is how a result is shown. -/
def opened (debug : ProtocolResult → String) (call : Subscription) (client : StreamClient)
    (message : WireMessage) : StreamClient :=
  let client := { client with taken := client.taken + 1 }
  match decodeResponse protocolVersion message call.subscriptionId with
  | .ok (.subscription _ nextSeq) => { client with phase := .streaming, nextSeq }
  | .ok result => { client with phase := .returned (.rejected
      (.protocol ("expected subscription response, received " ++ debug result))) }
  | .error e =>
      match message with
      | .error _ _ => { client with phase := .returned (.refused e) }
      | _ => { client with phase := .returned (.rejected e) }

/-- An event is read and rendered. -/
def advanced (call : Subscription) (client : StreamClient) (message : WireMessage)
    (rendered : Except String Unit) : StreamClient :=
  let client := { client with taken := client.taken + 1 }
  match nextEvent call.subscriptionId client.nextSeq protocolVersion message with
  | .error e => { client with phase := .returned (.rejected e) }
  | .ok event =>
      let client := { client with nextSeq := event.seq }
      match rendered with
      | .error message => { client with phase := .returned (.lost (.io message)) }
      | .ok () => { client with
          rendered := client.rendered ++ [event]
          phase := if event.payload.isFinished then .fetching true else .streaming }

/-- The execution is read, as the daemon answers. -/
def fetched (call : Subscription) (s : Streaming capacity) (finished : Bool) (now : Int)
    (conditions : Conditions) : StreamResult :=
  match (Store.request (Database.getExecution now call.executionId) conditions s.server.db).1 with
  | .error e => .unread e.intoError
  | .ok execution =>
      if finished || execution.state.isTerminal then .execution execution
      else .incomplete (.protocol "execution subscription closed before completion")

end Streaming

open Streaming in
/-- `stream_until_finished` and the subscription that it asks for. What the daemon wrote is read
in order; the stream ends when the subscription has returned and all of it was read. -/
def streaming (debug : ProtocolResult → String) (call : Subscription) (capacity : Nat) :
    System (Streaming capacity) StreamStep where
  start s := (subscription call capacity).start s.server ∧ s.server.db.records.Lifecycle ∧
    s.client = {}
  step s
    | .server step =>
        ((subscription call capacity).step s.server step).map fun server => { s with server }
    | .daemonExit =>
        match s.server.phase with
        | .returned _ => some s
        | _ => some { s with server := { s.server with phase := .returned .disconnected } }
    | .open_ =>
        match s.client.phase, s.incoming call with
        | .opening, some message => some (s.toClient (opened debug call s.client message))
        | _, _ => none
    | .next rendered =>
        match s.client.phase, s.incoming call with
        | .streaming, some message => some (s.toClient (advanced call s.client message rendered))
        | _, _ => none
    | .closed =>
        match s.server.phase, s.incoming call with
        | .returned _, none =>
            match s.client.phase with
            | .opening => some (s.toClient { s.client with
                phase := .returned (.lost (.protocol "daemon closed the subscription")) })
            | .streaming => some (s.toClient { s.client with phase := .fetching false })
            | _ => none
        | _, _ => none
    | .lost message =>
        match s.client.phase with
        | .opening | .streaming =>
            some (s.toClient { s.client with phase := .returned (.lost (.io message)) })
        | _ => none
    | .fetch now conditions =>
        match s.client.phase with
        | .fetching finished => some (s.toClient { s.client with
            phase := .returned (s.fetched call finished now conditions) })
        | _ => none
    | .unavailable error =>
        match s.client.phase with
        | .fetching _ => some (s.toClient { s.client with phase := .returned (.unread error) })
        | _ => none

/-- The commands of the engine: an execution is finished with the state that goes with its
outcome. -/
def StoreOp.Agrees : StoreOp → Prop
  | .finish _ _ state outcome => state = outcome.terminalState
  | _ => True

instance StoreOp.decidableAgrees (op : StoreOp) : Decidable op.Agrees := by
  unfold StoreOp.Agrees
  split <;> infer_instance

def SubscriptionStep.Agrees : SubscriptionStep → Prop
  | .command op _ => op.Agrees
  | _ => True

instance SubscriptionStep.decidableAgrees : (step : SubscriptionStep) → Decidable step.Agrees
  | .command op _ => StoreOp.decidableAgrees op
  | .broadcast _ | .close | .answer .. | .read .. | .write _ | .receive | .incoming _ =>
      instDecidableTrue

/-- The execution is not pruned, and is finished with the state that goes with its outcome. -/
def Streamed (call : Subscription) {capacity : Nat} (s : Streaming capacity) : StreamStep → Prop
  | .server step => Unpruned call s.server step ∧ step.Agrees
  | _ => True

instance (call : Subscription) {capacity : Nat} (s : Streaming capacity) (step : StreamStep) :
    Decidable (Streamed call s step) := by
  unfold Streamed
  split <;> infer_instance

/-! ## What the daemon writes -/

namespace StoreOp

open Database in
/-- The changes that a command makes finish executions with the state of the outcome. -/
theorem post_agrees {db : Database} (linked : db.Linked) {op : StoreOp} (agrees : op.Agrees) :
    Sql.Post StorageFault op.program db fun _ db' =>
      ∃ changes, Effect db changes db' ∧ ∀ c ∈ changes, c.Agrees := by
  have idle : ∃ changes, Effect db changes db ∧ ∀ c ∈ changes, c.Agrees :=
    ⟨[], .refl linked, fun _ none => by cases none⟩
  have single : ∀ {c : Change} {db' : Database}, Effect db [c] db' → c.Agrees →
      ∃ changes, Effect db changes db' ∧ ∀ c ∈ changes, c.Agrees := by
    intro c db' effect agrees
    refine ⟨_, effect, fun c' member => ?_⟩
    rw [List.mem_singleton.mp member]
    exact agrees
  have mapped : ∀ {ι : Type} {items : List ι} {f : ι → Change} {db' : Database},
      Effect db (items.map f) db' → (∀ i, (f i).Agrees) →
      ∃ changes, Effect db changes db' ∧ ∀ c ∈ changes, c.Agrees := by
    intro ι items f db' effect agrees
    refine ⟨_, effect, fun c member => ?_⟩
    obtain ⟨i, -, rfl⟩ := List.mem_map.mp member
    exact agrees i
  cases op with
  | createExecution now id request cwd =>
    refine Sql.post_bind ((post_createExecution linked).mono fun r db' created => ?_)
    cases r with
    | ok execution => exact Sql.post_pure (single created.1 trivial)
    | error e =>
      rcases created with rfl | ⟨_, effect⟩
      · exact idle
      · exact single effect trivial
  | markRunning now id pid pgid =>
    refine Sql.post_bind ((post_markRunning linked).mono fun r db' moved => ?_)
    cases r with
    | ok event =>
      obtain ⟨_, _, _, _, _, effect⟩ := moved
      exact Sql.post_pure (single effect trivial)
    | error e =>
      obtain ⟨rfl, _⟩ := moved
      exact idle
  | appendCaptureBatch captured =>
    refine Sql.post_bind ((post_appendCaptureBatch linked captured).mono fun r db' batched => ?_)
    cases r with
    | ok events => exact Sql.post_pure (mapped batched.1 fun _ => trivial)
    | error e =>
      obtain ⟨rfl, _⟩ := batched
      exact idle
  | finish now id state outcome =>
    refine Sql.post_bind ((post_finish linked).mono fun r db' moved => ?_)
    cases r with
    | ok event =>
      obtain ⟨_, _, _, _, _, effect⟩ := moved
      exact Sql.post_pure (single effect agrees)
    | error e =>
      obtain ⟨rfl, _⟩ := moved
      exact idle
  | cancelQueued now =>
    refine Sql.post_bind ((post_cancelQueued linked).mono fun r db' swept => ?_)
    obtain ⟨ids, sweep, _⟩ := swept
    cases r with
    | ok events => exact Sql.post_pure (mapped sweep.effect fun _ => rfl)
    | error e => exact mapped sweep.effect fun _ => rfl
  | reconcileIncomplete now =>
    refine Sql.post_bind ((post_reconcileIncomplete linked now).mono fun r db' swept => ?_)
    obtain ⟨ids, sweep, _⟩ := swept
    cases r with
    | ok count => exact Sql.post_pure (mapped sweep.effect fun _ => rfl)
    | error e => exact mapped sweep.effect fun _ => rfl
  | prune order now retentionDays retentionBytes =>
    refine Sql.post_bind ((post_prune linked).mono fun r db' removed => ?_)
    cases r with
    | ok count =>
      obtain ⟨ids, effect⟩ := removed
      exact Sql.post_pure (mapped effect fun _ => trivial)
    | error e =>
      obtain ⟨_, rfl⟩ := removed
      exact idle
  | deleteAgentSession id =>
    refine (post_deleteAgentSession linked).mono fun r db' deleted => ?_
    cases r with
    | ok _ => exact single deleted.1 trivial
    | error e => exact deleted ▸ idle
  | elsewhere =>
    unfold program
    exact Sql.post_statement (fun _ _ => idle) ⟨[], ⟨linked, rfl⟩, fun _ none => by cases none⟩

/-- A command keeps the rows and the logs together. -/
theorem lifecycle {db : Database} (sound : db.Sound) (valid : db.records.Lifecycle) {op : StoreOp}
    (agrees : op.Agrees) (faults : List (Option String)) :
    (Store.run op.program faults db).2.records.Lifecycle := by
  obtain ⟨changes, effect, agree⟩ := Database.run_of_post (post_agrees sound.linked agrees) faults
  exact Records.lifecycle_run (effect.runVia Change.Agrees agree) valid

end StoreOp

namespace SubscriptionState

variable {capacity : Nat} {call : Subscription} {s s' : SubscriptionState capacity}

/-- The subscription was answered with the execution. -/
def Granted (call : Subscription) (s : SubscriptionState capacity) : Prop :=
  ∃ execution, s.response = some (.ok call.subscriptionId (.subscription execution call.afterSeq))

/-- What was answered so far. -/
def Answered (call : Subscription) (s : SubscriptionState capacity) : Prop :=
  match s.phase with
  | .subscribed => s.response = none ∧ s.delivered = []
  | .answering result => s.response = none ∧ s.delivered = [] ∧
      ∀ r, result = .ok r → ∃ execution, r = .subscription execution call.afterSeq
  | .returned _ => s.delivered = [] ∧
      (s.response = none ∨ ∃ e, s.response = some (.error call.subscriptionId e)) ∨ s.Granted call
  | _ => s.Granted call

/-- The answer to `subscribe` holds the execution and the cursor. -/
theorem answer_subscription {db : Database} {now : Int} {conditions : Conditions}
    {result : ProtocolResult} (answered : call.answer now conditions db = .ok result) :
    ∃ execution, result = .subscription execution call.afterSeq := by
  have promise : Sql.Post Database.StorageFault
      ((Query.subscribe call.executionId call.afterSeq).dispatch (fun _ => now) false) db
      fun r _ => ∀ result, r = .ok result →
        ∃ execution, result = .subscription execution call.afterSeq := by
    refine Sql.post_bind (Database.post_getExecution.mono fun r db' looked => ?_)
    cases r with
    | error e =>
      intro result told
      cases told
    | ok execution =>
      dsimp only
      split
      · refine Sql.post_fail fun result told => ?_
        cases told
      · exact Sql.post_pure fun result told => ⟨execution, (Except.ok.inj told).symm⟩
  exact Database.request_of_post promise (fun message result told => by cases told)
    conditions result answered

theorem replayed_answered (granted : s.Granted call) (closing : Bool) (execution : Execution) :
    (s.replayed closing execution).Answered call ∧
      (s.replayed closing execution).response = s.response := by
  unfold replayed leave
  split
  · exact ⟨.inr granted, rfl⟩
  · split
    · exact ⟨.inr granted, rfl⟩
    · exact ⟨granted, rfl⟩

theorem proceed_answered (granted : s.Granted call) (closing : Bool) (page : ReadOutputResponse)
    (rest : List ExecutionEvent) : (s.proceed closing page rest).Answered call ∧
      (s.proceed closing page rest).response = s.response := by
  induction rest with
  | nil =>
    unfold proceed
    split
    · exact ⟨granted, rfl⟩
    · exact replayed_answered granted closing page.execution
  | cons event rest ih =>
    unfold proceed
    split
    · exact ih
    · exact ⟨granted, rfl⟩

/-- What one step of a subscription adds to its messages. -/
structure Extends (call : Subscription) (s s' : SubscriptionState capacity) : Prop where
  answered : s'.Answered call
  messages : s.messages call <+: s'.messages call
  delivered : s.delivered <+: s'.delivered
  response : ∀ message, s.response = some message → s'.response = some message
  returned : ∀ ending, s.phase = .returned ending →
    s'.phase = .returned ending ∧ s'.delivered = s.delivered

theorem Extends.of_same (answered : s'.Answered call) (response : s'.response = s.response)
    (delivered : s'.delivered = s.delivered)
    (returned : ∀ ending, s.phase = .returned ending → s'.phase = .returned ending) :
    s.Extends call s' where
  answered := answered
  messages := by
    unfold SubscriptionState.messages
    rw [response, delivered]
  delivered := delivered ▸ List.prefix_rfl
  response := fun message there => response.trans there
  returned := fun ending at_ => ⟨returned ending at_, delivered⟩

theorem Extends.of_delivered (answered : s'.Answered call) (response : s'.response = s.response)
    {event : ExecutionEvent} (delivered : s'.delivered = s.delivered ++ [event])
    (going : ∀ ending, s.phase ≠ .returned ending) : s.Extends call s' where
  answered := answered
  messages := by
    unfold SubscriptionState.messages
    rw [response, delivered, List.map_append, ← List.append_assoc]
    exact List.prefix_append _ _
  delivered := by
    rw [delivered]
    exact List.prefix_append _ _
  response := fun message there => response.trans there
  returned := fun ending at_ => absurd at_ (going ending)

theorem Answered.written (answered : s.Answered call) (enabled : s.written call = some s') :
    s.Extends call s' := by
  unfold Answered at answered
  unfold SubscriptionState.written at enabled
  cases phase : s.phase with
  | answering result =>
    rw [phase] at answered enabled
    obtain ⟨silent, nothing, kind⟩ := answered
    have messages : s.messages call = [] := by
      unfold SubscriptionState.messages
      rw [silent, nothing]
      rfl
    have unanswered : ∀ message, s.response ≠ some message := by
      rw [silent]
      exact fun _ => Option.some_ne_none _ |>.symm
    cases result with
    | error e =>
      cases enabled
      refine ⟨.inl ⟨nothing, .inr ⟨e, rfl⟩⟩, ?_, ?_, fun m there => absurd there (unanswered m), ?_⟩
      · rw [messages]
        exact List.nil_prefix
      · exact List.prefix_rfl
      · exact fun ending at_ => absurd (phase.symm.trans at_) SubscriptionPhase.noConfusion
    | ok result =>
      cases enabled
      obtain ⟨execution, rfl⟩ := kind result rfl
      refine ⟨⟨execution, rfl⟩, ?_, ?_, fun m there => absurd there (unanswered m), ?_⟩
      · rw [messages]
        exact List.nil_prefix
      · exact List.prefix_rfl
      · exact fun ending at_ => absurd (phase.symm.trans at_) SubscriptionPhase.noConfusion
  | paging closing page event rest =>
    rw [phase] at answered enabled
    have going : ∀ ending, s.phase ≠ .returned ending := by
      rw [phase]
      exact fun _ => SubscriptionPhase.noConfusion
    simp only at enabled
    by_cases finished : event.payload.isFinished
    · rw [if_pos finished] at enabled
      cases enabled
      exact .of_delivered (.inr answered) rfl rfl going
    · rw [if_neg finished] at enabled
      cases enabled
      have granted : ({ s with
          phase := .paging closing page event rest
          delivered := s.delivered ++ [event] } : SubscriptionState capacity).Granted call :=
        answered
      obtain ⟨further, response⟩ := proceed_answered granted closing page rest
      exact .of_delivered further response (proceed_keeps closing page rest).2.2.2 going
  | sending event =>
    rw [phase] at answered enabled
    have going : ∀ ending, s.phase ≠ .returned ending := by
      rw [phase]
      exact fun _ => SubscriptionPhase.noConfusion
    simp only at enabled
    by_cases finished : event.payload.isFinished
    · rw [if_pos finished] at enabled
      cases enabled
      exact .of_delivered (.inr answered) rfl rfl going
    · rw [if_neg finished] at enabled
      cases enabled
      exact .of_delivered (by exact answered) rfl rfl going
  | subscribed | replaying | listening | returned =>
    rw [phase] at enabled
    cases enabled

end SubscriptionState

namespace SubscriptionState

variable {capacity : Nat} {call : Subscription} {s s' : SubscriptionState capacity}

/-- What others do leaves the answer and the events as they are. -/
theorem Answered.aside (answered : s.Answered call) (phase : s'.phase = s.phase)
    (response : s'.response = s.response) (delivered : s'.delivered = s.delivered) :
    s.Extends call s' := by
  refine .of_same ?_ response delivered fun ending at_ => phase.trans at_
  unfold Answered Granted at answered ⊢
  rw [phase, response, delivered]
  exact answered

/-- A subscription that has been answered goes on, or returns. -/
theorem Answered.granted (answered : s.Answered call) (subscribed : s.phase ≠ .subscribed)
    (asked : ∀ result, s.phase ≠ .answering result)
    (going : ∀ ending, s.phase ≠ .returned ending) : s.Granted call := by
  unfold Answered at answered
  split at answered
  · rename_i phase
    exact absurd phase subscribed
  · rename_i result phase
    exact absurd phase (asked result)
  · rename_i ending phase
    exact absurd phase (going ending)
  · exact answered

theorem Answered.gone (answered : s.Answered call) (going : ∀ ending, s.phase ≠ .returned ending)
    (ending : SubscriptionEnd) : s.Extends call { s with phase := .returned ending } := by
  refine .of_same ?_ rfl rfl fun ending at_ => absurd at_ (going ending)
  cases phase : s.phase with
  | returned ending => exact absurd phase (going ending)
  | subscribed =>
    unfold Answered at answered
    rw [phase] at answered
    exact .inl ⟨answered.2, .inl answered.1⟩
  | answering result =>
    unfold Answered at answered
    rw [phase] at answered
    exact .inl ⟨answered.2.1, .inl answered.1⟩
  | replaying | paging | listening | sending =>
    unfold Answered at answered
    rw [phase] at answered
    exact .inr answered

theorem Answered.receive (answered : s.Answered call) (phase : s.phase = .listening)
    (enabled : s.receive call = some s') : s.Extends call s' := by
  have granted : s.Granted call := by
    unfold Answered at answered
    rw [phase] at answered
    exact answered
  have going : ∀ ending, s.phase ≠ .returned ending := by
    rw [phase]
    exact fun _ => SubscriptionPhase.noConfusion
  have onwards : s'.response = s.response → s'.delivered = s.delivered → s'.Answered call →
      s.Extends call s' := fun response delivered answered =>
    .of_same answered response delivered fun ending at_ => absurd at_ (going ending)
  have listening : ∀ receiver,
      ({ s with receiver } : SubscriptionState capacity).Answered call := by
    intro receiver
    unfold Answered
    rw [show ({ s with receiver } : SubscriptionState capacity).phase = _ from phase]
    exact granted
  unfold SubscriptionState.receive at enabled
  split at enabled
  · rename_i event receiver _
    split at enabled
    · cases enabled
      exact onwards rfl rfl (listening receiver)
    · split at enabled
      · cases enabled
        exact onwards rfl rfl granted
      · cases enabled
        exact onwards rfl rfl granted
  · cases enabled
    exact onwards rfl rfl granted
  · obtain ⟨-, same⟩ := Option.ite_none_right_eq_some.mp enabled
    cases same
    exact onwards rfl rfl granted

/-- Every step of a subscription leaves what was written, and writes behind it. -/
theorem Answered.step (answered : s.Answered call) {step : SubscriptionStep}
    (enabled : (subscription call capacity).step s step = some s') : s.Extends call s' := by
  cases step with
  | command op faults =>
    cases enabled
    exact answered.aside rfl rfl rfl
  | broadcast event =>
    obtain ⟨-, same⟩ := Option.ite_none_left_eq_some.mp enabled
    cases same
    exact answered.aside rfl rfl rfl
  | close =>
    cases enabled
    exact answered.aside rfl rfl rfl
  | answer now conditions =>
    cases phase : s.phase with
    | subscribed =>
      simp only [subscription, phase] at enabled
      cases enabled
      unfold Answered at answered
      rw [phase] at answered
      refine .of_same ⟨answered.1, answered.2, fun r told => answer_subscription told⟩ rfl rfl ?_
      exact fun ending at_ => absurd (phase.symm.trans at_) SubscriptionPhase.noConfusion
    | _ => simp [subscription, phase] at enabled
  | read now conditions =>
    cases phase : s.phase with
    | replaying closing =>
      simp only [subscription, phase] at enabled
      cases enabled
      have granted : s.Granted call := by
        unfold Answered at answered
        rw [phase] at answered
        exact answered
      have going : ∀ ending, s.phase = .returned ending →
          (s.read call closing now conditions).phase = .returned ending :=
        fun ending at_ => absurd (phase.symm.trans at_) SubscriptionPhase.noConfusion
      refine .of_same ?_ ?_ ?_ going <;> unfold SubscriptionState.read <;> split
      · exact .inr granted
      · exact (proceed_answered granted closing _ _).1
      · rfl
      · exact (proceed_answered granted closing _ _).2
      · rfl
      · exact (proceed_keeps closing _ _).2.2.2
    | _ => simp [subscription, phase] at enabled
  | write result =>
    have enabled : s.write call result = some s' := enabled
    cases result with
    | ok done => exact answered.written enabled
    | error e =>
      unfold SubscriptionState.write at enabled
      cases phase : s.phase <;> rw [phase] at enabled <;> cases enabled <;>
        refine answered.gone (fun ending at_ => ?_) (.failed e) <;>
        exact SubscriptionPhase.noConfusion (phase.symm.trans at_)
  | receive =>
    cases phase : s.phase with
    | listening =>
      simp only [subscription, phase] at enabled
      exact answered.receive phase enabled
    | _ => simp [subscription, phase] at enabled
  | incoming request =>
    cases phase : s.phase with
    | listening =>
      simp only [subscription, phase] at enabled
      cases enabled
      exact answered.gone (fun ending at_ => SubscriptionPhase.noConfusion (phase.symm.trans at_)) _
    | _ => simp [subscription, phase] at enabled

/-- Only a command changes the database. -/
theorem step_db {step : SubscriptionStep}
    (enabled : (subscription call capacity).step s step = some s')
    (idle : ∀ op faults, step ≠ .command op faults) : s'.db = s.db := by
  cases step with
  | command op faults => exact absurd rfl (idle op faults)
  | broadcast event =>
    obtain ⟨-, same⟩ := Option.ite_none_left_eq_some.mp enabled
    cases same
    rfl
  | close =>
    cases enabled
    rfl
  | answer now conditions =>
    simp only [subscription] at enabled
    split at enabled <;> cases enabled
    rfl
  | read now conditions =>
    simp only [subscription] at enabled
    split at enabled <;> cases enabled
    unfold SubscriptionState.read
    split
    · rfl
    · exact (proceed_keeps _ _ _).1
  | write result =>
    have enabled : s.write call result = some s' := enabled
    cases result with
    | ok done =>
      simp only [SubscriptionState.write, SubscriptionState.written] at enabled
      split at enabled
      · split at enabled <;> cases enabled <;> rfl
      · split at enabled <;> cases enabled
        · rfl
        · exact (proceed_keeps _ _ _).1
      · split at enabled <;> cases enabled <;> rfl
      · cases enabled
    | error e =>
      simp only [SubscriptionState.write] at enabled
      split at enabled <;> cases enabled <;> rfl
  | receive =>
    simp only [subscription] at enabled
    split at enabled
    · unfold SubscriptionState.receive at enabled
      split at enabled
      · split at enabled
        · cases enabled
          rfl
        · split at enabled <;> cases enabled <;> rfl
      · cases enabled
        rfl
      · obtain ⟨-, same⟩ := Option.ite_none_right_eq_some.mp enabled
        cases same
        rfl
    · cases enabled
  | incoming request =>
    simp only [subscription] at enabled
    split at enabled <;> cases enabled
    rfl

end SubscriptionState

/-! ## What the client shows -/

namespace Streaming

variable {capacity : Nat} {debug : ProtocolResult → String} {call : Subscription}
  {s s' : Streaming capacity}

/-- The last event is a Finished event with that outcome. -/
def Finishes (events : List ExecutionEvent) (outcome : ExecutionOutcome) : Prop :=
  ∃ event, events.getLast? = some event ∧ event.payload = .finished outcome

/-- All that was sent is shown, and the last of it is no Finished event. -/
def Exhausted (s : Streaming capacity) : Prop :=
  s.client.rendered = s.server.delivered ∧
    ∃ ending, s.server.phase = .returned ending ∧ ending ≠ .finished

/-- Where the client is. -/
def Placed (call : Subscription) (s : Streaming capacity) : Prop :=
  match s.client.phase with
  | .opening => s.client.taken = 0 ∧ s.client.rendered = []
  | .streaming => s.server.Granted call ∧ s.client.taken = s.client.rendered.length + 1 ∧
      s.client.nextSeq = call.afterSeq + s.client.rendered.length ∧
      ∀ event, s.client.rendered.getLast? = some event → event.payload.isFinished = false
  | .fetching true => ∃ outcome, Finishes s.client.rendered outcome
  | .fetching false => s.Exhausted
  | .returned (.execution execution) => execution.state.isTerminal = true ∧
      ((∃ outcome, Finishes s.client.rendered outcome ∧ execution.outcome = some outcome) ∨
        s.Exhausted)
  | .returned (.refused e) => ∃ e', s.server.response = some (.error call.subscriptionId e') ∧
      e = e'.intoError
  | .returned (.rejected _) => False
  | .returned (.lost e) => (∃ message, e = .io message) ∨ s.Exhausted
  | .returned (.unread _) => (∃ outcome, Finishes s.client.rendered outcome) ∨ s.Exhausted
  | .returned (.incomplete _) => s.Exhausted

/-- What the client and the subscription keep to. -/
structure Shown (call : Subscription) (s : Streaming capacity) : Prop where
  followed : s.server.Followed call
  lifecycle : s.server.db.records.Lifecycle
  answered : s.server.Answered call
  rendered : s.client.rendered <+: s.server.delivered
  placed : s.Placed call

theorem Exhausted.server (exhausted : s.Exhausted) {server : SubscriptionState capacity}
    (extends_ : s.server.Extends call server) :
    ({ s with server } : Streaming capacity).Exhausted := by
  obtain ⟨all, ending, returned, unfinished⟩ := exhausted
  obtain ⟨phase, delivered⟩ := extends_.returned ending returned
  exact ⟨all.trans delivered.symm, ending, phase, unfinished⟩

/-- What the daemon writes meanwhile leaves the client where it is. -/
theorem Placed.server (placed : s.Placed call) {server : SubscriptionState capacity}
    (extends_ : s.server.Extends call server) :
    ({ s with server } : Streaming capacity).Placed call := by
  unfold Placed at placed ⊢
  dsimp only
  cases phase : s.client.phase with
  | opening =>
    rw [phase] at placed
    exact placed
  | streaming =>
    rw [phase] at placed
    obtain ⟨⟨execution, answer⟩, read⟩ := placed
    exact ⟨⟨execution, extends_.response _ answer⟩, read⟩
  | fetching finished =>
    rw [phase] at placed
    cases finished with
    | true => exact placed
    | false => exact Exhausted.server placed extends_
  | returned result =>
    rw [phase] at placed
    cases result with
    | execution execution =>
      exact ⟨placed.1, placed.2.imp_right fun exhausted => exhausted.server extends_⟩
    | refused e =>
      obtain ⟨e', answer, same⟩ := placed
      exact ⟨e', extends_.response _ answer, same⟩
    | rejected e => exact placed
    | incomplete e => exact Exhausted.server placed extends_
    | lost e => exact placed.imp_right fun exhausted => exhausted.server extends_
    | unread e => exact placed.imp_right fun exhausted => exhausted.server extends_

theorem Shown.server (shown : s.Shown call) {step : SubscriptionStep}
    {server : SubscriptionState capacity} (unpruned : Unpruned call s.server step)
    (agrees : step.Agrees)
    (enabled : (subscription call capacity).step s.server step = some server) :
    ({ s with server } : Streaming capacity).Shown call := by
  have extends_ := shown.answered.step enabled
  refine ⟨SubscriptionState.followed_step shown.followed unpruned enabled, ?_, extends_.answered,
    shown.rendered.trans extends_.delivered, shown.placed.server extends_⟩
  cases step with
  | command op faults =>
    cases enabled
    exact op.lifecycle shown.followed.sourced.sound shown.lifecycle agrees faults
  | _ =>
    have same := SubscriptionState.step_db enabled fun _ _ => SubscriptionStep.noConfusion
    show server.db.records.Lifecycle
    rw [same]
    exact shown.lifecycle

end Streaming

namespace SubscriptionState

variable {capacity : Nat} {call : Subscription} {s : SubscriptionState capacity}

/-- Nothing is sent before the answer, which refuses the subscription or grants it. -/
theorem Answered.response (answered : s.Answered call) :
    (s.response = none ∧ s.delivered = []) ∨
      (∃ e, s.response = some (.error call.subscriptionId e)) ∨ s.Granted call := by
  unfold Answered at answered
  split at answered
  · exact .inl answered
  · exact .inl ⟨answered.1, answered.2.1⟩
  · rcases answered with ⟨nothing, silent | refused⟩ | granted
    · exact .inl ⟨silent, nothing⟩
    · exact .inr (.inl refused)
    · exact .inr (.inr granted)
  · exact .inr (.inr answered)

end SubscriptionState

namespace Streaming

variable {capacity : Nat} {debug : ProtocolResult → String} {call : Subscription}
  {s s' : Streaming capacity}

theorem Shown.toClient (shown : s.Shown call) {client : StreamClient}
    (rendered : client.rendered <+: s.server.delivered)
    (placed : (s.toClient client).Placed call) : (s.toClient client).Shown call :=
  ⟨shown.followed, shown.lifecycle, shown.answered, rendered, placed⟩

theorem Shown.daemonExit (shown : s.Shown call)
    (going : ∀ ending, s.server.phase ≠ .returned ending) :
    ({ s with server := { s.server with phase := .returned .disconnected } } :
      Streaming capacity).Shown call := by
  have extends_ := shown.answered.gone going .disconnected
  exact ⟨⟨shown.followed.sourced, trivial⟩, shown.lifecycle, extends_.answered, shown.rendered,
    shown.placed.server extends_⟩

/-- The first message is the answer. -/
theorem Shown.opened (shown : s.Shown call) (phase : s.client.phase = .opening)
    {message : WireMessage} (there : s.incoming call = some message) :
    (s.toClient (opened debug call s.client message)).Shown call := by
  have placed := shown.placed
  unfold Placed at placed
  rw [phase] at placed
  obtain ⟨taken, nothing⟩ := placed
  have answer : s.server.response = some message := by
    unfold incoming SubscriptionState.messages at there
    rw [taken] at there
    cases response : s.server.response with
    | none =>
      rcases shown.answered.response with ⟨-, empty⟩ | ⟨e, some⟩ | ⟨execution, some⟩
      · simp [response, empty] at there
      · rw [response] at some
        cases some
      · rw [response] at some
        cases some
    | some first =>
      rw [response] at there
      exact there
  rcases shown.answered.response with ⟨silent, -⟩ | ⟨e, refused⟩ | ⟨execution, granted⟩
  · rw [silent] at answer
    cases answer
  · rw [refused, Option.some.injEq] at answer
    subst answer
    have decoded : decodeResponse protocolVersion (.error call.subscriptionId e)
        call.subscriptionId = .error e.intoError := by simp [decodeResponse]
    unfold Streaming.opened
    rw [decoded]
    exact shown.toClient shown.rendered ⟨e, refused, rfl⟩
  · have answer' := granted.symm.trans answer
    rw [Option.some.injEq] at answer'
    subst answer'
    have decoded : decodeResponse protocolVersion
        (.ok call.subscriptionId (.subscription execution call.afterSeq)) call.subscriptionId =
          .ok (.subscription execution call.afterSeq) := by simp [decodeResponse]
    unfold Streaming.opened
    rw [decoded]
    refine shown.toClient shown.rendered ⟨⟨execution, granted⟩, ?_, ?_, ?_⟩
    · show s.client.taken + 1 = s.client.rendered.length + 1
      rw [taken, nothing]
      rfl
    · show call.afterSeq = call.afterSeq + s.client.rendered.length
      rw [nothing]
      rfl
    · intro event last
      have last : s.client.rendered.getLast? = some event := last
      rw [nothing] at last
      cases last

/-- The next message is the event behind those that were rendered. -/
theorem incoming_of_granted (granted : s.server.Granted call)
    (taken : s.client.taken = s.client.rendered.length + 1) :
    s.incoming call =
      (s.server.delivered[s.client.rendered.length]?).map (.event call.subscriptionId) := by
  obtain ⟨execution, answer⟩ := granted
  unfold Streaming.incoming SubscriptionState.messages
  rw [answer, taken, Option.toList_some, List.singleton_append, List.getElem?_cons_succ,
    List.getElem?_map]

theorem Shown.advanced (shown : s.Shown call) (phase : s.client.phase = .streaming)
    {message : WireMessage} (there : s.incoming call = some message)
    (rendered : Except String Unit) :
    (s.toClient (advanced call s.client message rendered)).Shown call := by
  have placed := shown.placed
  unfold Placed at placed
  rw [phase] at placed
  obtain ⟨granted, taken, nextSeq, unfinished⟩ := placed
  rw [incoming_of_granted granted taken, Option.map_eq_some_iff] at there
  obtain ⟨event, next, rfl⟩ := there
  have seq : event.seq = s.client.nextSeq + 1 := by
    have seqs := shown.followed.sourced.sound.seqs_behind shown.followed.sourced.delivered
    have bound := (List.getElem?_eq_some_iff.mp next).1
    have number := congrArg (fun seqs => seqs[s.client.rendered.length]?) seqs
    simp only [List.getElem?_map, next, Option.map_some, List.getElem?_range' bound,
      Option.some.injEq] at number
    omega
  have accepted : nextEvent call.subscriptionId s.client.nextSeq protocolVersion
      (.event call.subscriptionId event) = .ok event := by simp [nextEvent, seq]
  have grown : s.client.rendered ++ [event] <+: s.server.delivered := by
    obtain ⟨rest, whole⟩ := shown.rendered
    rw [← whole, List.getElem?_append_right le_rfl, Nat.sub_self] at next
    cases rest with
    | nil => cases next
    | cons first rest =>
      rw [List.getElem?_cons_zero, Option.some.injEq] at next
      exact ⟨rest, by rw [← whole, next, List.append_assoc, List.singleton_append]⟩
  unfold Streaming.advanced
  dsimp only
  rw [accepted]
  cases rendered with
  | error message => exact shown.toClient shown.rendered (.inl ⟨message, rfl⟩)
  | ok done =>
    dsimp only
    by_cases finished : event.payload.isFinished = true
    · rw [if_pos finished]
      have payload : ∃ outcome, event.payload = .finished outcome := by
        cases payload : event.payload with
        | finished outcome => exact ⟨outcome, rfl⟩
        | _ =>
          rw [payload] at finished
          cases finished
      obtain ⟨outcome, payload⟩ := payload
      exact shown.toClient grown ⟨outcome, event, List.getLast?_concat, payload⟩
    · rw [if_neg finished]
      refine shown.toClient grown ⟨granted, ?_, ?_, ?_⟩
      · show s.client.taken + 1 = (s.client.rendered ++ [event]).length + 1
        rw [List.length_append, taken]
        rfl
      · show event.seq = call.afterSeq + (s.client.rendered ++ [event]).length
        rw [List.length_append, List.length_singleton]
        omega
      · intro last at_
        have at_ : (s.client.rendered ++ [event]).getLast? = some last := at_
        rw [List.getLast?_concat, Option.some.injEq] at at_
        rw [← at_]
        exact Bool.eq_false_iff.mpr finished

/-- A stream that ends without a Finished event has been shown as far as it was sent. -/
theorem Shown.exhausted (shown : s.Shown call) (phase : s.client.phase = .streaming)
    {ending : SubscriptionEnd} (returned : s.server.phase = .returned ending)
    (read : s.incoming call = none) : s.Exhausted := by
  have placed := shown.placed
  unfold Placed at placed
  rw [phase] at placed
  obtain ⟨granted, taken, nextSeq, unfinished⟩ := placed
  rw [incoming_of_granted granted taken, Option.map_eq_none_iff, List.getElem?_eq_none_iff] at read
  have all := shown.rendered.eq_of_length_le read
  refine ⟨all, ending, returned, ?_⟩
  rintro rfl
  have finished := shown.followed.placed
  unfold SubscriptionState.Placed at finished
  rw [returned] at finished
  obtain ⟨event, last, finished⟩ := finished
  rw [← all] at last
  rw [unfinished event last] at finished
  cases finished

/-- A subscription that is closed without an answer has sent nothing. -/
theorem Shown.unanswered (shown : s.Shown call) (phase : s.client.phase = .opening)
    {ending : SubscriptionEnd} (returned : s.server.phase = .returned ending)
    (read : s.incoming call = none) : s.Exhausted := by
  have placed := shown.placed
  unfold Placed at placed
  rw [phase] at placed
  obtain ⟨taken, nothing⟩ := placed
  have silent : s.server.response = none := by
    unfold incoming SubscriptionState.messages at read
    rw [taken, List.getElem?_eq_none_iff] at read
    cases response : s.server.response with
    | none => rfl
    | some message => simp [response] at read
  have unsent : s.server.delivered = [] := by
    rcases shown.answered.response with ⟨-, unsent⟩ | ⟨e, refused⟩ | ⟨execution, granted⟩
    · exact unsent
    · rw [silent] at refused
      cases refused
    · rw [silent] at granted
      cases granted
  refine ⟨nothing.trans unsent.symm, ending, returned, ?_⟩
  rintro rfl
  have finished := shown.followed.placed
  unfold SubscriptionState.Placed at finished
  rw [returned] at finished
  obtain ⟨event, last, -⟩ := finished
  rw [unsent] at last
  cases last

/-- The outcome of a Finished event is that of the row. -/
theorem Shown.outcome (shown : s.Shown call) {outcome : ExecutionOutcome}
    (finishes : Finishes s.client.rendered outcome) {record : ExecutionRecord}
    (found : s.server.db.records call.executionId = some record) :
    record.row.outcome = some outcome ∧ record.row.state.isTerminal = true := by
  obtain ⟨event, last, payload⟩ := finishes
  have valid := shown.lifecycle call.executionId record found
  have member : event ∈ s.server.db.log call.executionId := by
    have shown' := shown.rendered.trans shown.followed.sourced.delivered
    exact List.mem_of_mem_drop (shown'.subset (List.mem_of_getLast? last))
  have finished : outcome ∈ record.finishes := by
    refine List.mem_filterMap.mpr ⟨event, ?_, by rw [payload]; rfl⟩
    rwa [(Database.records_eq_some.mp found).2]
  rw [valid.finishes_eq, Option.mem_toList] at finished
  refine ⟨finished, ?_⟩
  rw [valid.terminal_iff, finished]
  rfl

/-- Behind the stream a Finished event was shown, or all that was sent. -/
theorem Shown.behind (shown : s.Shown call) {finished : Bool}
    (phase : s.client.phase = .fetching finished) :
    (∃ outcome, Finishes s.client.rendered outcome) ∨ s.Exhausted := by
  have placed := shown.placed
  unfold Placed at placed
  rw [phase] at placed
  cases finished with
  | true => exact .inl placed
  | false => exact .inr placed

theorem Shown.fetched (shown : s.Shown call) {finished : Bool}
    (phase : s.client.phase = .fetching finished) (now : Int) (conditions : Conditions) :
    (s.toClient { s.client with
      phase := .returned (s.fetched call finished now conditions) }).Shown call := by
  have placed := shown.placed
  unfold Placed at placed
  rw [phase] at placed
  refine shown.toClient shown.rendered ?_
  have reads : Sql.Post Database.StorageFault (Database.getExecution now call.executionId)
      s.server.db (Database.Lookup s.server.db now call.executionId) := Database.post_getExecution
  have looked := Database.request_of_post reads (fun message => ⟨rfl, .inl rfl⟩) conditions
  unfold Streaming.fetched
  revert looked
  generalize Store.request (Database.getExecution now call.executionId) conditions s.server.db =
    outcome
  obtain ⟨r, db'⟩ := outcome
  intro looked
  cases r with
  | error e => exact shown.behind phase
  | ok execution =>
    obtain ⟨-, record, found, rfl⟩ := looked
    dsimp only
    cases finished with
    | true =>
      obtain ⟨outcome, finishes⟩ := placed
      obtain ⟨same, terminal⟩ := shown.outcome finishes found
      exact ⟨terminal, .inl ⟨outcome, finishes, same⟩⟩
    | false =>
      have exhausted : s.Exhausted := placed
      rw [Bool.false_or]
      split
      · rename_i terminal
        exact ⟨terminal, .inr exhausted⟩
      · exact exhausted

theorem shown_step {step : StreamStep} (shown : s.Shown call) (streamed : Streamed call s step)
    (enabled : (streaming debug call capacity).step s step = some s') : s'.Shown call := by
  cases step with
  | server step =>
    obtain ⟨server, stepped, rfl⟩ := Option.map_eq_some_iff.mp enabled
    exact shown.server streamed.1 streamed.2 stepped
  | daemonExit =>
    simp only [streaming] at enabled
    split at enabled
    · cases enabled
      exact shown
    · rename_i going
      cases enabled
      exact shown.daemonExit going
  | open_ =>
    simp only [streaming] at enabled
    split at enabled
    · rename_i message phase there
      cases enabled
      exact shown.opened phase there
    · cases enabled
  | next rendered =>
    simp only [streaming] at enabled
    split at enabled
    · rename_i message phase there
      cases enabled
      exact shown.advanced phase there rendered
    · cases enabled
  | closed =>
    simp only [streaming] at enabled
    split at enabled
    · rename_i ending returned read
      split at enabled
      · rename_i phase
        cases enabled
        exact shown.toClient shown.rendered (.inr (shown.unanswered phase returned read))
      · rename_i phase
        cases enabled
        exact shown.toClient shown.rendered (shown.exhausted phase returned read)
      · cases enabled
    · cases enabled
  | lost message =>
    simp only [streaming] at enabled
    split at enabled
    · cases enabled
      exact shown.toClient shown.rendered (.inl ⟨message, rfl⟩)
    · cases enabled
      exact shown.toClient shown.rendered (.inl ⟨message, rfl⟩)
    · cases enabled
  | fetch now conditions =>
    simp only [streaming] at enabled
    split at enabled
    · rename_i finished phase
      cases enabled
      exact shown.fetched phase now conditions
    · cases enabled
  | unavailable error =>
    simp only [streaming] at enabled
    split at enabled
    · rename_i finished phase
      cases enabled
      exact shown.toClient shown.rendered (shown.behind phase)
    · cases enabled

theorem shown_run (reached : (streaming debug call capacity).ReachableVia (Streamed call) s) :
    s.Shown call := by
  apply reached.invariant (Shown call)
  · rintro s ⟨⟨sound, durable, same⟩, lifecycle, client⟩
    have followed : s.server.Followed call :=
      SubscriptionState.followed_run (.start ⟨sound, durable, same⟩)
    refine ⟨followed, lifecycle, ?_, ?_, ?_⟩
    · rw [same]
      exact ⟨rfl, rfl⟩
    · rw [client]
      exact List.nil_prefix
    · unfold Placed
      rw [client]
      exact ⟨rfl, rfl⟩
  · intro s step s' _ shown streamed enabled
    exact shown_step shown streamed enabled

end Streaming

open Streaming in
/-- What `loom run` renders are the first events behind its cursor, each once and in order, and it
never objects to what the daemon sends; a refusal is that of the daemon. The execution that it
returns is over, and its outcome is that of the Finished event rendered last; or the subscription
ended otherwise, and then all that was sent was rendered. Any other failure is one of input or
output, or comes when a Finished event was rendered last, or all that was sent. -/
theorem stream_faithful (debug : ProtocolResult → String) (call : Subscription) (capacity : Nat)
    {s : Streaming capacity}
    (reached : (streaming debug call capacity).ReachableVia (Streamed call) s) :
    s.client.rendered <+: (s.server.db.log call.executionId).drop call.afterSeq ∧
    ∀ result, s.client.phase = .returned result →
      (∀ e, result ≠ .rejected e) ∧
      (∀ e, result = .refused e → ∃ e',
        s.server.response = some (.error call.subscriptionId e') ∧ e = e'.intoError) ∧
      (∀ execution, result = .execution execution → execution.state.isTerminal = true ∧
        ((∃ outcome, Finishes s.client.rendered outcome ∧ execution.outcome = some outcome) ∨
          s.Exhausted)) ∧
      (∀ e, result = .lost e → (∃ message, e = .io message) ∨ s.Exhausted) ∧
      (∀ e, result = .unread e →
        (∃ outcome, Finishes s.client.rendered outcome) ∨ s.Exhausted) ∧
      ∀ e, result = .incomplete e → s.Exhausted := by
  have shown := Streaming.shown_run reached
  refine ⟨shown.rendered.trans shown.followed.sourced.delivered, fun result returned => ?_⟩
  have placed := shown.placed
  unfold Streaming.Placed at placed
  rw [returned] at placed
  refine ⟨?_, ?_, ?_, ?_, ?_, ?_⟩
  · rintro e rfl
    exact placed
  · rintro e rfl
    exact placed
  · rintro execution rfl
    exact placed
  · rintro e rfl
    exact placed
  · rintro e rfl
    exact placed
  · rintro e rfl
    exact placed

/-- A store whose commands finish executions as the engine does. -/
theorem store_lifecycle {db : Database} (reached : store.ReachableVia (fun _ c => c.1.Agrees) db) :
    db.records.Lifecycle := by
  apply reached.invariant fun db => db.records.Lifecycle
  · intro db fresh id record found
    rw [fresh.records] at found
    cases found
  · intro db command db' before valid agrees enabled
    cases enabled
    exact command.1.lifecycle (store_sound before.reachable) valid agrees command.2

/-- The client opens its stream, and renders two events; the execution is read at the end. -/
def sampleStream : List StreamStep :=
  (sampleSubscription.take 2).map .server ++ [.open_] ++ (sampleSubscription.drop 2).map .server ++
    [.next (.ok ()), .next (.ok ()), .fetch 6 {}]

theorem stream_faithful_sample : ∃ s : Streaming 1, ∃ execution,
    (streaming (fun _ => "") ⟨"s", "a", 0⟩ 1).ReachableVia (Streamed ⟨"s", "a", 0⟩) s ∧
    s.client.rendered.length = 2 ∧ s.client.phase = .returned (.execution execution) ∧
    s.client.rendered <+: (s.server.db.log "a").drop 0 ∧ execution.state.isTerminal = true := by
  have ran : (store.runIf (fun _ c => c.1.Agrees) sampleDatabase sampleStarted).bind (fun db =>
      ((streaming (fun _ => "") ⟨"s", "a", 0⟩ 1).runIf (Streamed ⟨"s", "a", 0⟩)
        { server := { db } } sampleStream).bind fun s =>
          match s.client.phase with
          | .returned (.execution _) => some s.client.rendered.length
          | _ => none) = some 2 := by
    decide +kernel
  obtain ⟨db, stored, replayed⟩ := Option.bind_eq_some_iff.mp ran
  obtain ⟨s, replay, seen⟩ := Option.bind_eq_some_iff.mp replayed
  split at seen
  · rename_i execution returned
    have new : store.start sampleDatabase := ⟨rfl, rfl⟩
    have stored := (System.ReachableVia.start new).run (System.runIf_runVia stored)
    have start : (streaming (fun _ => "") ⟨"s", "a", 0⟩ 1).start { server := { db } } :=
      ⟨⟨store_sound stored.reachable, by rintro e ⟨⟩, rfl⟩, store_lifecycle stored, rfl⟩
    have reached : (streaming (fun _ => "") ⟨"s", "a", 0⟩ 1).ReachableVia
        (Streamed ⟨"s", "a", 0⟩) s :=
      (System.ReachableVia.start start).run (System.runIf_runVia replay)
    obtain ⟨shown, results⟩ := stream_faithful (fun _ => "") ⟨"s", "a", 0⟩ 1 reached
    exact ⟨s, execution, reached, Option.some.inj seen, returned, shown,
      ((results _ returned).2.2.1 execution rfl).1⟩
  · cases seen

end Loomterm
