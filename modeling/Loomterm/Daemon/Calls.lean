import Loomterm.Daemon.Connection
import Loomterm.Daemon.Streaming

/-!
# Calls of the client

A client opens a connection for each call (`src/client.rs:54`), and takes what it reads for the
answer to it. `call_returns` says that a call that returns a value ran its operation once, and that
the value is what the daemon computed.
-/

namespace Loomterm

open Json

/-! ## The client -/

/-- `decode_response` (`src/client.rs:341`), behind the decoding. -/
def Wire.answer (expected : String) : Wire → Except ClientError WireResult
  | .response version requestId body =>
      if version ≠ protocolVersion then
        .error (.protocolVersionMismatch protocolVersion version)
      else if requestId ≠ expected then
        .error (.protocol "response request_id did not match")
      else
        match body with
        | .ok result => .ok result
        | .error e => .error (.protocol (e.code ++ ": " ++ e.message))
  | _ => .error (.protocol "expected daemon response")

/-- `decode_response`, of the JSON value of a frame. -/
def decodeAnswer (invalid : Json → String) (value : Json) (expected : String) :
    Except ClientError WireResult :=
  (Wire.codec.decode value).elim (.error (.json (invalid value))) (Wire.answer expected)

section

variable (debug : WireResult → String)

/-- `unexpected` (`src/client.rs:412`); `debug` is how a result is shown. -/
def unexpected {α : Type} (expected : String) (actual : WireResult) : Except ClientError α :=
  .error (.protocol ("expected " ++ expected ++ " response, received " ++ debug actual))

/-- What the methods of the client make of a result (`src/client.rs:80`). -/
def WireOperation.expect : (operation : WireOperation) → WireResult →
    Except ClientError operation.Answer
  | .health, .health value => .ok value
  | .health, actual => unexpected debug "health" actual
  | .workspaceAdd _ _, .workspace value => .ok value
  | .workspaceAdd _ _, actual => unexpected debug "workspace" actual
  | .workspaceRemove _, .empty => .ok ()
  | .workspaceRemove _, actual => unexpected debug "empty response" actual
  | .workspaceList, .workspaces values => .ok values
  | .workspaceList, actual => unexpected debug "workspaces" actual
  | .execute _, .execution value => .ok value
  | .execute _, actual => unexpected debug "execution" actual
  | .get _, .execution value => .ok value
  | .get _, actual => unexpected debug "execution" actual
  | .list _ _, .executions values => .ok values
  | .list _ _, actual => unexpected debug "executions" actual
  | .stats _ _, .stats value => .ok value
  | .stats _ _, actual => unexpected debug "statistics" actual
  | .sessionCreate _, .agentSession value => .ok value
  | .sessionCreate _, actual => unexpected debug "agent session" actual
  | .sessionFinish _ _, .agentSession value => .ok value
  | .sessionFinish _ _, actual => unexpected debug "agent session" actual
  | .sessionGet _, .agentSessionDetail value => .ok value
  | .sessionGet _, actual => unexpected debug "agent session detail" actual
  | .sessionList _ _, .agentSessions values => .ok values
  | .sessionList _ _, actual => unexpected debug "agent sessions" actual
  | .sessionDelete _, .empty => .ok ()
  | .sessionDelete _, actual => unexpected debug "empty response" actual
  | .agentEvent _, .agentTurn value => .ok value
  | .agentEvent _, actual => unexpected debug "agent turn" actual
  | .readOutput _ _ _, .output value => .ok value
  | .readOutput _ _ _, actual => unexpected debug "output" actual
  | .wait _ _ _ _, .wait response timedOut => .ok (response, timedOut)
  | .wait _ _ _ _, actual => unexpected debug "wait" actual
  | .subscribe _ _, actual => unexpected debug "subscription" actual
  | .cancel _, .execution value => .ok value
  | .cancel _, actual => unexpected debug "execution" actual
  | .shutdown _, .empty => .ok ()
  | .shutdown _, actual => unexpected debug "empty response" actual

/-- The client's method for an operation takes what its branch of `dispatch` makes. -/
theorem WireOperation.expect_result (operation : WireOperation) (value : operation.Answer) :
    operation.expect debug (operation.result value) = .ok value := by
  cases operation <;> first | rfl | exact value.elim

end

/-- Where a call is. -/
inductive ClientPhase (operation : WireOperation) where
  | connected
  | waiting
  | returned (result : Except ClientError operation.Answer)

/-- A call and its connection. -/
structure Calling (operation : WireOperation) where
  connection : Connection := {}
  phase : ClientPhase operation := .connected

/-- What happens in a call: a step of the daemon, the request is sent or cannot be, the answer is
read, the connection ends or fails. -/
inductive CallStep where
  | daemon (step : ConnectionStep)
  | request (written : Except String Unit)
  | response
  | ended
  | failed (error : String)

/-- The call returns, and closes its connection. -/
def Calling.return {operation : WireOperation} (s : Calling operation)
    (result : Except ClientError operation.Answer) : Calling operation where
  connection := { s.connection with closed := true }
  phase := .returned result

/-- `DaemonClient::call` (`src/client.rs:54`) with what its caller makes of the result, by a
request of that id. -/
def calling (float : UInt64 → String) (invalid : Json → String) (debug : WireResult → String)
    (requestId : String) (operation : WireOperation) : System (Calling operation) CallStep where
  start s := s = {}
  step s
    | .daemon (.send _) | .daemon .close => none
    | .daemon step =>
        ((connection float invalid).step s.connection step).map fun connection =>
          { s with connection }
    | .request written =>
        match s.phase, written with
        | .connected, .ok () =>
            let request : Wire := .request protocolVersion requestId operation
            if Connection.fits float request then some {
              connection := { s.connection with
                incoming := s.connection.incoming ++ [.json (Wire.codec.encode request)] }
              phase := .waiting }
            else none
        | .connected, .error e => some (s.return (.error (.io e)))
        | _, _ => none
    | .response =>
        match s.phase, s.connection.sent with
        | .waiting, message :: _ =>
            some (s.return ((decodeAnswer invalid (Wire.codec.encode message) requestId).bind
              (operation.expect debug)))
        | _, _ => none
    | .ended =>
        match s.phase, s.connection.phase, s.connection.sent with
        | .waiting, .returned _, [] =>
            some (s.return (.error (.protocol "daemon closed the connection")))
        | _, _, _ => none
    | .failed e =>
        match s.phase with
        | .waiting => some (s.return (.error (.io e)))
        | _ => none

/-- How far the daemon is with a call. -/
inductive Stage (requestId : String) (operation : WireOperation) :
    List Frame → ConnectionPhase → List Dispatched → List Wire → Prop
  | unasked {phase : ConnectionPhase} (rest : phase = .reading ∨ phase = .returned (.ok ())) :
      Stage requestId operation [] phase [] []
  | asked : Stage requestId operation
      [.json (Wire.codec.encode (.request protocolVersion requestId operation))] .reading [] []
  | dispatching : Stage requestId operation [] (.dispatching requestId operation) [] []
  | writing (answering : Answering) : Stage requestId operation []
      (.writing (answerMessage requestId (operation.dispatch answering)))
      [⟨operation, answering⟩] []
  | unwritten (answering : Answering) (result : Except Error Unit) :
      Stage requestId operation [] (.returned result) [⟨operation, answering⟩] []
  | answered (answering : Answering) {phase : ConnectionPhase}
      (rest : phase = .reading ∨ phase = .returned (.ok ())) :
      Stage requestId operation [] phase [⟨operation, answering⟩]
        [answerMessage requestId (operation.dispatch answering)]

namespace Calling

variable {float : UInt64 → String} {invalid : Json → String} {debug : WireResult → String}
  {requestId : String} {operation : WireOperation} {s s' : Calling operation}

/-- The errors of a call: that of the operation, or that its answer was not read. -/
def Excused (operation : WireOperation) (dispatched : List Dispatched) (e : ClientError) : Prop :=
  (∃ answering e', dispatched = [⟨operation, answering⟩] ∧
      answering.answer operation = .error e' ∧ e = e'.intoError) ∨
    (∃ message, e = .io message) ∨ e = .protocol "daemon closed the connection"

/-- What is known of a call. -/
def Kept (requestId : String) (s : Calling operation) : Prop :=
  Stage requestId operation s.connection.incoming s.connection.phase s.connection.dispatched
      s.connection.sent ∧
    match s.phase with
    | .connected => s.connection = {}
    | .waiting => True
    | .returned (.ok value) => ∃ answering, s.connection.dispatched = [⟨operation, answering⟩] ∧
        answering.answer operation = .ok value
    | .returned (.error e) => Excused operation s.connection.dispatched e

end Calling

theorem decode_encode (message : Wire) (range : message.InRange) :
    Wire.codec.decode (Wire.codec.encode message) = some message :=
  Wire.codec.read_back message (message.valid_iff.mpr range)

section

variable {float : UInt64 → String} {invalid : Json → String} {debug : WireResult → String}
  {requestId : String} {operation : WireOperation}

variable (plain : ∀ executionId afterSeq, operation ≠ .subscribe executionId afterSeq)

include plain

theorem dispatch_eq (answering : Answering) :
    operation.dispatch answering = (answering.answer operation).map operation.result := by
  cases operation with
  | subscribe executionId afterSeq => exact absurd rfl (plain executionId afterSeq)
  | _ => rfl

theorem reading_request (range : operation.InRange) (requestId : String) :
    Frame.reading invalid
        (.json (Wire.codec.encode (.request protocolVersion requestId operation))) =
      .dispatch requestId operation := by
  unfold Frame.reading
  simp only
  rw [decode_encode (.request protocolVersion requestId operation) ⟨by decide, range⟩]
  cases operation with
  | subscribe executionId afterSeq => exact absurd rfl (plain executionId afterSeq)
  | _ => rfl

theorem read_answer (answering : Answering) :
    (decodeAnswer invalid
        (Wire.codec.encode (answerMessage requestId (operation.dispatch answering)))
        requestId).bind (operation.expect debug) =
      (answering.answer operation).mapError Error.intoError := by
  have version : protocolVersion < 2 ^ 32 := by decide
  rw [dispatch_eq plain]
  cases answer : answering.answer operation with
  | ok value =>
    have range := answering.inRange operation value answer
    have read : decodeAnswer invalid (Wire.codec.encode (okMessage requestId
        (operation.result value))) requestId = .ok (operation.result value) := by
      unfold decodeAnswer
      rw [decode_encode (okMessage _ _) ⟨version, range⟩]
      simp [okMessage, Wire.answer]
    show (decodeAnswer invalid (Wire.codec.encode (okMessage requestId _)) requestId).bind _ = _
    rw [read]
    exact operation.expect_result debug value
  | error e =>
    have read : decodeAnswer invalid (Wire.codec.encode (errorMessage requestId e)) requestId =
        .error e.intoError := by
      unfold decodeAnswer
      rw [decode_encode (errorMessage _ _) version]
      simp [errorMessage, Wire.answer, ProtocolError.ofError, Error.intoError]
    show (decodeAnswer invalid (Wire.codec.encode (errorMessage requestId e)) requestId).bind _ = _
    rw [read]
    rfl

/-- A step of the daemon keeps to the call, and adds nothing to an operation that was
dispatched. -/
theorem stage_step {c c' : Connection} (range : operation.InRange)
    (stage : Stage requestId operation c.incoming c.phase c.dispatched c.sent)
    {step : ConnectionStep} (enabled : (connection float invalid).step c step = some c')
    (unsent : ∀ frame, step ≠ .send frame) (open_ : step ≠ .close) :
    Stage requestId operation c'.incoming c'.phase c'.dispatched c'.sent ∧
      (c.dispatched = [] ∨ c'.dispatched = c.dispatched) := by
  obtain ⟨incoming, closed, phase, received, dispatched, sent⟩ := c
  cases step with
  | send frame => exact absurd rfl (unsent frame)
  | close => exact absurd rfl open_
  | read =>
    cases stage with
    | unasked rest =>
      rcases rest with rfl | rfl
      · simp only [connection, Connection.read] at enabled
        split at enabled
        · cases enabled
          exact ⟨.unasked (.inr rfl), .inl rfl⟩
        · cases enabled
      · cases enabled
    | asked =>
      simp only [connection, Connection.read, reading_request plain range] at enabled
      cases enabled
      exact ⟨.dispatching, .inl rfl⟩
    | answered answering rest =>
      rcases rest with rfl | rfl
      · simp only [connection, Connection.read] at enabled
        split at enabled
        · cases enabled
          exact ⟨.answered answering (.inr rfl), .inr rfl⟩
        · cases enabled
      · cases enabled
    | dispatching => cases enabled
    | writing answering => cases enabled
    | unwritten answering result => cases enabled
  | dispatch answering =>
    cases stage with
    | unasked rest => rcases rest with rfl | rfl <;> cases enabled
    | asked => cases enabled
    | answered answering rest => rcases rest with rfl | rfl <;> cases enabled
    | dispatching =>
      cases enabled
      exact ⟨.writing answering, .inl rfl⟩
    | writing answering => cases enabled
    | unwritten answering result => cases enabled
  | write written =>
    cases stage with
    | unasked rest => rcases rest with rfl | rfl <;> cases written <;> cases enabled
    | asked => cases written <;> cases enabled
    | answered answering rest => rcases rest with rfl | rfl <;> cases written <;> cases enabled
    | dispatching => cases written <;> cases enabled
    | writing answering =>
      cases written with
      | ok =>
        simp only [connection] at enabled
        split at enabled
        · cases enabled
          exact ⟨.answered answering (.inl rfl), .inr rfl⟩
        · cases enabled
      | error e =>
        cases enabled
        exact ⟨.unwritten answering (.error e), .inr rfl⟩
    | unwritten answering result => cases written <;> cases enabled

end

namespace Calling

variable {float : UInt64 → String} {invalid : Json → String} {debug : WireResult → String}
  {requestId : String} {operation : WireOperation} {s s' : Calling operation}

/-- What a call has returned stays right while the daemon goes on. -/
theorem Kept.daemon (plain : ∀ executionId afterSeq, operation ≠ .subscribe executionId afterSeq)
    (range : operation.InRange) (kept : s.Kept requestId) {step : ConnectionStep} {c : Connection}
    (enabled : (Loomterm.connection float invalid).step s.connection step = some c)
    (unsent : ∀ frame, step ≠ .send frame) (open_ : step ≠ .close) :
    Kept requestId { s with connection := c } := by
  obtain ⟨stage, known⟩ := kept
  obtain ⟨stage', same⟩ := stage_step plain range stage enabled unsent open_
  refine ⟨stage', ?_⟩
  obtain ⟨c₀, phase⟩ := s
  cases phase with
  | connected =>
    obtain rfl : c₀ = {} := known
    cases step with
    | send frame => exact absurd rfl (unsent frame)
    | close => exact absurd rfl open_
    | read | dispatch answering => cases enabled
    | write written => cases written <;> cases enabled
  | waiting => trivial
  | returned result =>
    cases result with
    | ok value =>
      obtain ⟨answering, ran, answer⟩ := known
      have ran' : c.dispatched = [⟨operation, answering⟩] := by
        rcases same with none | same
        · exact absurd (ran.symm.trans none) (List.cons_ne_nil _ _)
        · exact same.trans ran
      exact ⟨answering, ran', answer⟩
    | error e =>
      rcases known with ⟨answering, e', ran, answer, shown⟩ | other
      · rcases same with none | same
        · exact absurd (ran.symm.trans none) (List.cons_ne_nil _ _)
        · exact .inl ⟨answering, e', same.trans ran, answer, shown⟩
      · exact .inr other

theorem kept_step (plain : ∀ executionId afterSeq, operation ≠ .subscribe executionId afterSeq)
    (range : operation.InRange) (kept : s.Kept requestId) {step : CallStep}
    (enabled : (calling float invalid debug requestId operation).step s step = some s') :
    s'.Kept requestId := by
  cases step with
  | daemon step =>
    cases step with
    | send frame | close => cases enabled
    | read | dispatch answering | write written =>
      obtain ⟨c, moved, rfl⟩ := Option.map_eq_some_iff.mp enabled
      exact kept.daemon plain range moved (fun _ => ConnectionStep.noConfusion)
        ConnectionStep.noConfusion
  | request written =>
    obtain ⟨stage, known⟩ := kept
    obtain ⟨c, phase⟩ := s
    cases phase with
    | connected =>
      obtain rfl : c = {} := known
      cases written with
      | ok =>
        simp only [calling] at enabled
        split at enabled
        · cases enabled
          exact ⟨.asked, trivial⟩
        · cases enabled
      | error e =>
        cases enabled
        exact ⟨.unasked (.inl rfl), .inr (.inl ⟨e, rfl⟩)⟩
    | waiting => cases written <;> cases enabled
    | returned result => cases written <;> cases enabled
  | response =>
    obtain ⟨stage, known⟩ := kept
    obtain ⟨⟨incoming, closed, daemon, received, dispatched, sent⟩, phase⟩ := s
    cases phase with
    | connected => cases enabled
    | returned result => cases enabled
    | waiting =>
      cases stage with
      | answered answering rest =>
        cases enabled
        refine ⟨.answered answering rest, ?_⟩
        simp only [Calling.return, read_answer plain]
        cases answer : answering.answer operation with
        | ok value => exact ⟨answering, rfl, answer⟩
        | error e => exact .inl ⟨answering, e, rfl, answer, rfl⟩
      | _ => cases enabled
  | ended =>
    obtain ⟨stage, known⟩ := kept
    simp only [calling] at enabled
    split at enabled
    · cases enabled
      exact ⟨stage, .inr (.inr rfl)⟩
    · cases enabled
  | failed e =>
    obtain ⟨stage, known⟩ := kept
    simp only [calling] at enabled
    split at enabled
    · cases enabled
      exact ⟨stage, .inr (.inl ⟨e, rfl⟩)⟩
    · cases enabled

theorem reachable_kept
    (plain : ∀ executionId afterSeq, operation ≠ .subscribe executionId afterSeq)
    (range : operation.InRange)
    (reached : (calling float invalid debug requestId operation).Reachable s) :
    s.Kept requestId := by
  apply reached.invariant (Kept requestId)
  · rintro _ rfl
    exact ⟨.unasked (.inl rfl), rfl⟩
  · intro s step s' _ kept _ enabled
    exact kept_step plain range kept enabled

end Calling

theorem Stage.once {requestId : String} {operation : WireOperation} {incoming : List Frame}
    {phase : ConnectionPhase} {dispatched : List Dispatched} {sent : List Wire}
    (stage : Stage requestId operation incoming phase dispatched sent) :
    dispatched = [] ∨ ∃ answering, dispatched = [⟨operation, answering⟩] := by
  cases stage with
  | unasked _ | asked | dispatching => exact .inl rfl
  | writing answering | unwritten answering _ | answered answering _ => exact .inr ⟨answering, rfl⟩

/-- A call runs its operation at most once, and nothing else. It returns a value only if the
operation ran and computed it, and fails only with what the operation failed with, or if the answer
was not read: no call takes the answer of another, or a result of the wrong type. -/
theorem call_returns (float : UInt64 → String) (invalid : Json → String)
    (debug : WireResult → String) (requestId : String) (operation : WireOperation)
    (plain : ∀ executionId afterSeq, operation ≠ .subscribe executionId afterSeq)
    (range : operation.InRange) {s : Calling operation}
    (reached : (calling float invalid debug requestId operation).Reachable s) :
    (s.connection.dispatched = [] ∨
      ∃ answering, s.connection.dispatched = [⟨operation, answering⟩]) ∧
    (∀ value, s.phase = .returned (.ok value) →
      ∃ answering, s.connection.dispatched = [⟨operation, answering⟩] ∧
        answering.answer operation = .ok value) ∧
    ∀ e, s.phase = .returned (.error e) → Calling.Excused operation s.connection.dispatched e := by
  obtain ⟨stage, known⟩ := Calling.reachable_kept plain range reached
  refine ⟨stage.once, fun value returned => ?_, fun e returned => ?_⟩
  · rw [returned] at known
    exact known
  · rw [returned] at known
    exact known

def shutdownCall : List CallStep :=
  [.request (.ok ()), .daemon .read, .daemon (.dispatch idleAnswering), .daemon (.write (.ok ())),
    .response]

def shutdownCallEnd : Option (Calling (.shutdown false)) :=
  (calling (fun _ => "") (fun _ => "") (fun _ => "") "r" (.shutdown false)).run {} shutdownCall

theorem shutdownCall_returned : (shutdownCallEnd.map fun s => match s.phase with
    | .returned (.ok _) => true
    | _ => false) = some true := by
  decide +kernel

theorem call_returns_shutdown : ∃ s : Calling (.shutdown false),
    s.phase = .returned (.ok ()) ∧ ∃ answering,
      s.connection.dispatched = [⟨.shutdown false, answering⟩] ∧
        answering.answer (.shutdown false) = .ok () := by
  obtain ⟨s, ends, success⟩ := Option.map_eq_some_iff.mp shutdownCall_returned
  have returned : s.phase = .returned (.ok ()) := by
    split at success
    · assumption
    · cases success
  have reached : (calling (fun _ => "") (fun _ => "") (fun _ => "") "r"
      (.shutdown false)).Reachable s := System.run_reachable rfl ends
  exact ⟨s, returned, (call_returns (fun _ => "") (fun _ => "") (fun _ => "") "r" (.shutdown false)
    (fun _ _ => WireOperation.noConfusion) trivial reached).2.1 () returned⟩

end Loomterm
