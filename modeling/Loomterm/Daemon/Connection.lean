import Loomterm.Daemon.RoundTrip

/-!
# A connection to the daemon

`handle_connection` (`src/daemon.rs:99`) reads one frame at a time, dispatches what is a request of
its version, and writes one answer. `connection_in_order` is about whatever a client sends.
-/

namespace Loomterm

open Json

/-- What is read from a connection: a frame with a JSON value or without one, or an error. -/
inductive Frame where
  | failed (error : String)
  | garbled (error : String)
  | json (value : Json)

/-! ## Dispatch -/

/-- What the branch of an operation in `dispatch` (`src/daemon.rs:311`) computes. -/
def WireOperation.Answer : WireOperation → Type
  | .health => Health
  | .workspaceAdd _ _ => Workspace
  | .workspaceList => List Workspace
  | .execute _ | .get _ | .cancel _ => DisplayedExecution
  | .list _ _ => List DisplayedExecution
  | .stats _ _ => ExecutionStats
  | .sessionCreate _ | .sessionFinish _ _ => AgentSession
  | .sessionGet _ => ReplayDetail
  | .sessionList _ _ => List AgentSession
  | .agentEvent _ => AgentTurnRow
  | .readOutput _ _ _ => SentOutput
  | .wait _ _ _ _ => SentOutput × Bool
  | .workspaceRemove _ | .sessionDelete _ | .shutdown _ => Unit
  | .subscribe _ _ => Empty

/-- The result that `dispatch` makes of it. -/
def WireOperation.result : (operation : WireOperation) → operation.Answer → WireResult
  | .health, value => .health value
  | .workspaceAdd _ _, value => .workspace value
  | .workspaceRemove _, _ => .empty
  | .workspaceList, values => .workspaces values
  | .execute _, value => .execution value
  | .get _, value => .execution value
  | .list _ _, values => .executions values
  | .stats _ _, value => .stats value
  | .sessionCreate _, value => .agentSession value
  | .sessionFinish _ _, value => .agentSession value
  | .sessionGet _, value => .agentSessionDetail value
  | .sessionList _ _, values => .agentSessions values
  | .sessionDelete _, _ => .empty
  | .agentEvent _, value => .agentTurn value
  | .readOutput _ _ _, value => .output value
  | .wait _ _ _ _, (response, timedOut) => .wait response timedOut
  | .cancel _, value => .execution value
  | .shutdown _, _ => .empty

/-- What the engine and the store answer to the operations at some moment. -/
structure Answering where
  answer : (operation : WireOperation) → Except Error operation.Answer
  inRange : ∀ operation value, answer operation = .ok value → (operation.result value).InRange

/-- `dispatch` (`src/daemon.rs:311`). -/
def WireOperation.dispatch (answering : Answering) : WireOperation → Except Error WireResult
  | .subscribe _ _ => .error (.protocol "subscribe must use a dedicated connection")
  | operation => (answering.answer operation).map operation.result

/-! ## The daemon's end -/

def okMessage (requestId : String) (result : WireResult) : Wire :=
  .response protocolVersion requestId (.ok result)

def errorMessage (requestId : String) (e : Error) : Wire :=
  .response protocolVersion requestId (.error (.ofError e))

def answerMessage (requestId : String) : Except Error WireResult → Wire
  | .ok result => okMessage requestId result
  | .error e => errorMessage requestId e

/-- What `handle_connection` makes of a frame. -/
inductive Reading where
  | fail (error : Error)
  | refuse (requestId : String) (error : Error)
  | subscribe (requestId : String) (executionId : ExecutionId) (afterSeq : Nat)
  | dispatch (requestId : String) (operation : WireOperation)

/-- What `handle_connection` makes of a message (`src/daemon.rs:126`). -/
def Wire.reading : Wire → Reading
  | .request version requestId operation =>
      if version ≠ protocolVersion then
        .refuse requestId (.protocol ("unsupported protocol version " ++ toString version))
      else
        match operation with
        | .subscribe executionId afterSeq => .subscribe requestId executionId afterSeq
        | operation => .dispatch requestId operation
  | _ => .refuse "invalid" (.invalidRequest "client message must be a request")

/-- The start of the loop of `handle_connection`; `invalid` is what serde says of a value that is
no message. -/
def Frame.reading (invalid : Json → String) : Frame → Reading
  | .failed e => .fail (.io e)
  | .garbled e => .refuse "invalid" (.invalidRequest ("invalid protocol request: " ++ e))
  | .json value => (Wire.codec.decode value).elim
      (.refuse "invalid" (.invalidRequest ("invalid protocol request: " ++ invalid value)))
      Wire.reading

inductive ConnectionPhase where
  /-- It waits for a frame. -/
  | reading
  | dispatching (requestId : String) (operation : WireOperation)
  | writing (message : Wire)
  /-- `handle_subscription` goes on with the connection. -/
  | subscribed (requestId : String) (executionId : ExecutionId) (afterSeq : Nat)
  | returned (result : Except Error Unit)

/-- An operation that was dispatched, and how. -/
structure Dispatched where
  operation : WireOperation
  answering : Answering

/-- A connection: what the client has sent, what of it was read, and what was written. -/
structure Connection where
  incoming : List Frame := []
  /-- The client has closed it. -/
  closed : Bool := false
  phase : ConnectionPhase := .reading
  received : List Frame := []
  dispatched : List Dispatched := []
  sent : List Wire := []

namespace Connection

/-- A frame is taken from the connection. -/
def read (invalid : Json → String) (c : Connection) : Option Connection :=
  match c.incoming with
  | frame :: incoming =>
      let c := { c with incoming, received := c.received ++ [frame] }
      match frame.reading invalid with
      | .fail e => some { c with phase := .returned (.error e) }
      | .refuse requestId e => some { c with phase := .writing (errorMessage requestId e) }
      | .subscribe requestId executionId afterSeq =>
          some { c with phase := .subscribed requestId executionId afterSeq }
      | .dispatch requestId operation =>
          some { c with phase := .dispatching requestId operation }
  | [] => if c.closed then some { c with phase := .returned (.ok ()) } else none

/-- The codec refuses a frame that is too long. -/
def fits (float : UInt64 → String) (message : Wire) : Bool :=
  size float (Wire.codec.encode message) ≤ maxFrameBytes

end Connection

/-- What happens on a connection: the client sends something or closes it, the daemon reads,
`dispatch` returns, and an answer is written or cannot be. -/
inductive ConnectionStep where
  | send (frame : Frame)
  | close
  | read
  | dispatch (answering : Answering)
  | write (written : Except Error Unit)

/-- `handle_connection`, and any client. -/
def connection (float : UInt64 → String) (invalid : Json → String) :
    System Connection ConnectionStep where
  start c := c = {}
  step c
    | .send frame =>
        if c.closed then none else some { c with incoming := c.incoming ++ [frame] }
    | .close => some { c with closed := true }
    | .read =>
        match c.phase with
        | .reading => c.read invalid
        | _ => none
    | .dispatch answering =>
        match c.phase with
        | .dispatching requestId operation => some { c with
            phase := .writing (answerMessage requestId (operation.dispatch answering))
            dispatched := c.dispatched ++ [⟨operation, answering⟩] }
        | _ => none
    | .write written =>
        match c.phase, written with
        | .writing message, .ok () =>
            if Connection.fits float message then
              some { c with phase := .reading, sent := c.sent ++ [message] }
            else none
        | .writing _, .error e => some { c with phase := .returned (.error e) }
        | _, _ => none

/-! ## Any client -/

/-- The operation that a frame asks for. -/
def Frame.asked (invalid : Json → String) (frame : Frame) : Option WireOperation :=
  match frame.reading invalid with
  | .dispatch _ operation => some operation
  | _ => none

/-- Who is answered. -/
def Frame.replyId (invalid : Json → String) (frame : Frame) : Option String :=
  match frame.reading invalid with
  | .refuse requestId _ | .subscribe requestId _ _ | .dispatch requestId _ => some requestId
  | .fail _ => none

def Wire.requestId : Wire → Option String
  | .request _ requestId _ | .response _ requestId _ => some requestId
  | .event _ _ _ => none

/-- What was dispatched for these frames, and the answers to them. -/
inductive Transcript (invalid : Json → String) : List Frame → List Dispatched → List Wire → Prop
  | nothing : Transcript invalid [] [] []
  | refused {frames : List Frame} {dispatched : List Dispatched} {sent : List Wire} {frame : Frame}
      {requestId : String} {e : Error} (before : Transcript invalid frames dispatched sent)
      (read : frame.reading invalid = .refuse requestId e) :
      Transcript invalid (frames ++ [frame]) dispatched (sent ++ [errorMessage requestId e])
  | answered {frames : List Frame} {dispatched : List Dispatched} {sent : List Wire} {frame : Frame}
      {requestId : String} {operation : WireOperation}
      (before : Transcript invalid frames dispatched sent)
      (read : frame.reading invalid = .dispatch requestId operation) (answering : Answering) :
      Transcript invalid (frames ++ [frame]) (dispatched ++ [⟨operation, answering⟩])
        (sent ++ [answerMessage requestId (operation.dispatch answering)])

theorem answerMessage_requestId (requestId : String) (result : Except Error WireResult) :
    (answerMessage requestId result).requestId = some requestId := by
  cases result <;> rfl

namespace Transcript

variable {invalid : Json → String} {frames : List Frame} {dispatched : List Dispatched}
  {sent : List Wire}

theorem operations (served : Transcript invalid frames dispatched sent) :
    dispatched.map Dispatched.operation = frames.filterMap (Frame.asked invalid) := by
  induction served with
  | nothing => rfl
  | refused _ read ih => simp [ih, Frame.asked, read]
  | answered _ read _ ih => simp [ih, Frame.asked, read]

theorem replies (served : Transcript invalid frames dispatched sent) :
    sent.map Wire.requestId = frames.map (Frame.replyId invalid) := by
  induction served with
  | nothing => rfl
  | refused _ read ih => simp [ih, Frame.replyId, read, errorMessage, Wire.requestId]
  | answered _ read answering ih => simp [ih, Frame.replyId, read, answerMessage_requestId]

end Transcript

namespace Connection

variable {float : UInt64 → String} {invalid : Json → String} {c c' : Connection}

/-- Everything that was read is answered, but for a last frame, and everything that was to be
written is, but for a last answer. -/
def Accounted (invalid : Json → String) (c : Connection) : Prop :=
  ∃ frames written, frames <+: c.received ∧ c.received.length ≤ frames.length + 1 ∧
    c.sent <+: written ∧ written.length ≤ c.sent.length + 1 ∧
    Transcript invalid frames c.dispatched written

theorem accounted_served {frames more : List Frame} (last : List Wire)
    (received : c.received = frames ++ more) (few : more.length ≤ 1) (short : last.length ≤ 1)
    (served : Transcript invalid frames c.dispatched (c.sent ++ last)) : c.Accounted invalid := by
  refine ⟨frames, c.sent ++ last, ⟨more, received.symm⟩, ?_, List.prefix_append _ _, ?_, served⟩
  · rw [received, List.length_append]
    omega
  · rw [List.length_append]
    omega

/-- What is known where the connection is. -/
def Kept (invalid : Json → String) (c : Connection) : Prop :=
  match c.phase with
  | .reading => Transcript invalid c.received c.dispatched c.sent
  | .dispatching requestId operation => ∃ frames frame, c.received = frames ++ [frame] ∧
      frame.reading invalid = .dispatch requestId operation ∧
      Transcript invalid frames c.dispatched c.sent
  | .writing message => Transcript invalid c.received c.dispatched (c.sent ++ [message])
  | .subscribed _ _ _ | .returned _ => c.Accounted invalid

theorem Kept.accounted (kept : c.Kept invalid) : c.Accounted invalid := by
  unfold Kept at kept
  split at kept
  · rename_i served
    exact accounted_served [] (List.append_nil _).symm (Nat.zero_le 1) (Nat.zero_le 1)
      (by rwa [List.append_nil])
  · obtain ⟨frames, frame, received, _, served⟩ := kept
    exact accounted_served [] received le_rfl (Nat.zero_le 1) (by rwa [List.append_nil])
  · exact accounted_served _ (List.append_nil _).symm (Nat.zero_le 1) le_rfl kept
  · exact kept
  · exact kept

theorem kept_read (served : Transcript invalid c.received c.dispatched c.sent)
    (read : c.read invalid = some c') : c'.Kept invalid := by
  have unanswered : Transcript invalid c.received c.dispatched (c.sent ++ []) := by
    rwa [List.append_nil]
  unfold Connection.read at read
  split at read
  · rename_i frame rest _
    split at read
    · cases read
      exact accounted_served [] rfl le_rfl (Nat.zero_le 1) unanswered
    · rename_i requestId e reading
      cases read
      exact .refused served reading
    · cases read
      exact accounted_served [] rfl le_rfl (Nat.zero_le 1) unanswered
    · rename_i requestId operation reading
      cases read
      exact ⟨c.received, frame, rfl, reading, served⟩
  · split at read
    · cases read
      exact accounted_served [] (List.append_nil _).symm (Nat.zero_le 1) (Nat.zero_le 1) unanswered
    · cases read

/-- A change of what the client has sent is none of what was answered. -/
theorem Kept.frame (kept : c.Kept invalid) (phase : c'.phase = c.phase)
    (received : c'.received = c.received) (dispatched : c'.dispatched = c.dispatched)
    (sent : c'.sent = c.sent) : c'.Kept invalid := by
  unfold Kept Accounted at kept ⊢
  rw [phase, received, dispatched, sent]
  exact kept

theorem kept_step {step : ConnectionStep} (kept : c.Kept invalid)
    (enabled : (connection float invalid).step c step = some c') : c'.Kept invalid := by
  cases step with
  | send frame =>
    simp only [connection] at enabled
    split at enabled
    · cases enabled
    · cases enabled
      exact kept.frame rfl rfl rfl rfl
  | close =>
    cases enabled
    exact kept.frame rfl rfl rfl rfl
  | read =>
    simp only [connection] at enabled
    split at enabled
    · rename_i phase
      have served : Transcript invalid c.received c.dispatched c.sent := by
        unfold Kept at kept
        rwa [phase] at kept
      exact kept_read served enabled
    · cases enabled
  | dispatch answering =>
    simp only [connection] at enabled
    split at enabled
    · rename_i requestId operation phase
      cases enabled
      unfold Kept at kept
      rw [phase] at kept
      obtain ⟨frames, frame, received, reading, served⟩ := kept
      show Transcript invalid c.received _ _
      rw [received]
      exact .answered served reading answering
    · cases enabled
  | write written =>
    simp only [connection] at enabled
    split at enabled
    · rename_i message phase
      split at enabled
      · cases enabled
        unfold Kept at kept
        rw [phase] at kept
        exact kept
      · cases enabled
    · rename_i message e phase
      cases enabled
      exact kept.accounted
    · cases enabled

theorem reachable_kept (reached : (connection float invalid).Reachable c) : c.Kept invalid := by
  apply reached.invariant (Kept invalid)
  · rintro _ rfl
    exact .nothing
  · intro c step c' _ kept _ enabled
    exact kept_step kept enabled

end Connection

/-- Whatever a client sends, the operations that are dispatched are those of its requests, each
once and in order, and the answers go to what they answer, in the same order. Nothing is read
before what came before it is answered. -/
theorem connection_in_order (float : UInt64 → String) (invalid : Json → String) {c : Connection}
    (reached : (connection float invalid).Reachable c) :
    c.dispatched.map Dispatched.operation <+: c.received.filterMap (Frame.asked invalid) ∧
      c.sent.map Wire.requestId <+: c.received.map (Frame.replyId invalid) ∧
      c.Accounted invalid := by
  have kept := Connection.reachable_kept reached
  obtain ⟨frames, written, read, _, sent, _, served⟩ := kept.accounted
  refine ⟨?_, ?_, kept.accounted⟩
  · rw [served.operations]
    exact read.filterMap _
  · exact (sent.map _).trans (served.replies ▸ read.map _)

/-- An engine with nothing to do. -/
def idleAnswer : (operation : WireOperation) → Except Error operation.Answer
  | .shutdown _ => .ok ()
  | _ => .error .timeout

theorem idleAnswer_inRange (operation : WireOperation) (value : operation.Answer)
    (answer : idleAnswer operation = .ok value) : (operation.result value).InRange := by
  cases operation with
  | shutdown force => exact trivial
  | _ => cases answer

def idleAnswering : Answering := ⟨idleAnswer, idleAnswer_inRange⟩

/-- A client that sends something else first. -/
def strayRequests : List ConnectionStep := [
  .send (.garbled "EOF"),
  .send (.json (Wire.codec.encode (.request protocolVersion "r" (.shutdown false)))),
  .read, .write (.ok ()), .read, .dispatch idleAnswering, .write (.ok ())]

def strayRequestsEnd : Option Connection :=
  (connection (fun _ => "") fun _ => "").run {} strayRequests

theorem strayRequests_sent : (strayRequestsEnd.map fun c => (c.dispatched.length, c.sent.length)) =
    some (1, 2) := by
  decide +kernel

theorem connection_in_order_stray : ∃ c : Connection, c.dispatched.length = 1 ∧ c.sent.length = 2 ∧
    c.dispatched.map Dispatched.operation <+: c.received.filterMap (Frame.asked fun _ => "") := by
  obtain ⟨c, ends, lengths⟩ := Option.map_eq_some_iff.mp strayRequests_sent
  have reached : (connection (fun _ => "") fun _ => "").Reachable c :=
    System.run_reachable rfl ends
  exact ⟨c, congrArg Prod.fst lengths, congrArg Prod.snd lengths,
    (connection_in_order (fun _ => "") (fun _ => "") reached).1⟩

end Loomterm
