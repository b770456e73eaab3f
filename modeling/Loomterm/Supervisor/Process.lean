import Loomterm.Executor.Task
import Loomterm.Misc.System
import Mathlib.Logic.Function.Basic

/-!
# The supervisor of an execution

`run` of `src/supervisor.rs` with the tasks that it spawns: the reader of control messages,
the writer of events, and one capture task for each of stdout and stderr. Every step runs one
of them from an await to the next; the command, its process group and the pipes around the
supervisor may do anything at any time.
-/

namespace Loomterm

namespace Supervisor

/-- `InternalEvent` (`src/supervisor.rs:54`). -/
inductive InternalEvent where
  | cancel
  | daemonGone
  | captureFailed (reason : String)
  deriving DecidableEq, Repr

/-- `Outgoing` (`src/supervisor.rs:60`). -/
inductive Outgoing where
  | event (event : SupervisorEvent)
  | flush

/-- `OUTPUT_CHUNK_BYTES`. -/
def outputChunkBytes : Nat := 16 * 1024

/-- `EVENT_QUEUE_DEPTH`. -/
def eventQueueDepth : Nat := 256

/-- The depth of the channel of internal events (`src/supervisor.rs:142`). -/
def internalDepth : Nat := 16

/-- What `wait` tells of a process that has exited: `code` and `signal` of its status. -/
structure ExitStatus where
  code : Option Int
  signal : Option Int
  deriving DecidableEq, Repr

inductive Signal where
  | term
  | kill
  deriving DecidableEq, Repr

/-- The command itself, which leads the process group. -/
inductive Leader where
  | absent
  | running
  | exited (status : ExitStatus)
  deriving DecidableEq, Repr

/-- The awaits of `run`. -/
inductive MainPoint where
  | receiving
  | sendStarted (pid : Nat)
  | looping
  | joining (stream : OutputStream) (status : ExitStatus)
  | joiningStdin (status : ExitStatus)
  | report (outcome : ExecutionOutcome)
  | sendFlush
  | flushing
  | returned (result : Except Error Unit)

/-- The awaits of `capture_stream`; the end says whether all that was read was sent. -/
inductive CapturePoint where
  | idle
  | reading
  | sending (data : Bytes)
  | failing (reason : String)
  | ended (whole : Bool)
  deriving DecidableEq, Repr

/-- A capture task, and all bytes that it has read. -/
structure CaptureTask where
  point : CapturePoint := .idle
  read : Bytes := []

/-- The awaits of `read_controls`; whether it goes on behind a message. -/
inductive ControlPoint where
  | idle
  | reading
  | sending (event : InternalEvent) (more : Bool)
  | stopped
  deriving DecidableEq, Repr

/-- The awaits of `write_events`. -/
inductive EventWriterPoint where
  | writing
  | failing
  | stopped
  deriving DecidableEq, Repr

end Supervisor

open Supervisor

/-- The supervisor and the process group of its command. The last four fields are not in the
source: what was sent to the writer and what it wrote, the messages that the loop took, and
the signals that `killpg` took for the group: one that it refuses is not among them. -/
structure Supervisor where
  main : MainPoint := .receiving
  cancelled : Bool := false
  daemonGone : Bool := false
  interruptedReason : Option String := none
  killDeadline : Bool := false
  exited : Option ExitStatus := none
  internal : List InternalEvent := []
  outgoing : List Outgoing := []
  flushed : Bool := false
  control : ControlPoint := .idle
  writer : EventWriterPoint := .writing
  captures : OutputStream → CaptureTask := fun _ => {}
  leader : Leader := .absent
  others : Bool := false
  sent : List SupervisorEvent := []
  emitted : List SupervisorEvent := []
  processed : List InternalEvent := []
  signals : List Signal := []

namespace Supervisor

/-- A member of the group other than its leader is alive. -/
def groupAlive (s : Supervisor) : Bool := s.others

/-- `process_group_alive`, when the leader has been reaped. A group that may not be signalled
seems to be dead. -/
def processGroupAlive (s : Supervisor) (refused : Bool) : Bool := s.groupAlive && !refused

/-- `terminate`: a signal that is refused reaches nobody. The group that is gone (`ESRCH`)
refuses none. -/
def terminate (s : Supervisor) (signal : Signal) (refused : Option String) : Supervisor :=
  match refused with
  | none => { s with signals := s.signals ++ [signal] }
  | some _ => s

/-- The process group of the command has a live member. -/
def Alive (s : Supervisor) : Prop := s.leader = .running ∨ s.others = true

instance (s : Supervisor) : Decidable s.Alive := inferInstanceAs (Decidable (_ ∨ _))

/-- Goes to a point of `run`. -/
def goto (s : Supervisor) (main : MainPoint) : Supervisor := { s with main }

/-- Leaves `run` with an error. -/
def abandon (s : Supervisor) (error : Error) : Supervisor := s.goto (.returned (.error error))

def capturing (s : Supervisor) (stream : OutputStream) (capture : CaptureTask) : Supervisor :=
  { s with captures := Function.update s.captures stream capture }

/-- Whether `run` has returned, which drops the receiver of internal events. -/
def returned (s : Supervisor) : Bool :=
  match s.main with
  | .returned _ => true
  | _ => false

/-! ## Channels -/

/-- `send` on the channel of internal events; the answer says whether it is open. -/
def notify (s : Supervisor) (event : InternalEvent) : Option (Supervisor × Bool) :=
  if s.returned then some (s, false)
  else if s.internal.length < internalDepth then
    some ({ s with internal := s.internal ++ [event] }, true)
  else none

/-- `send_event`, up to its error. -/
def sendEvent (s : Supervisor) (event : SupervisorEvent) : Option (Supervisor × Bool) :=
  if s.writer = .stopped then some (s, false)
  else if s.outgoing.length < eventQueueDepth then
    some ({ s with outgoing := s.outgoing ++ [.event event], sent := s.sent ++ [event] }, true)
  else none

/-! ## The main task -/

/-- The spawn request, and what `spawn` makes of it. -/
def begin (s : Supervisor) (first : Option (Except Error SupervisorCommand))
    (launched : Except String Nat) : Supervisor :=
  match first with
  | none => s.abandon (.protocol "supervisor received no spawn request")
  | some (.error e) => s.abandon e
  | some (.ok .cancel) => s.abandon (.protocol "the first supervisor command must be spawn")
  | some (.ok (.spawn _ _ _ stdinBase64 _ _)) =>
      let s := { s with control := .reading }
      match stdinBase64, launched with
      | some (.error e), _ => s.abandon (.invalidRequest ("invalid stdin_base64: " ++ e))
      | _, .error message => s.goto (.report (.spawnError message))
      | _, .ok pid => { s with leader := .running, main := .sendStarted pid }

/-- The Started event, and the two capture tasks. -/
def start (s : Supervisor) (pid : Nat) : Option Supervisor :=
  (s.sendEvent (.started pid pid)).map fun (s, open_) =>
    if open_ then
      { s with main := .looping, captures := fun _ => { point := .reading } }
    else s.abandon (.protocol "supervisor event writer stopped")

/-- The leader has exited and was waited for (`src/supervisor.rs:206`). -/
def wait (s : Supervisor) (status : ExitStatus) (refused : Bool) : Supervisor :=
  if s.killDeadline = false ∨ s.processGroupAlive refused = false then
    s.goto (.joining .stdout status)
  else { s with exited := some status }

/-- Cancels the command unless that was done before. A SIGTERM that is refused is let go. -/
def cancelOnce (s : Supervisor) (refused : Option String) : Supervisor :=
  if s.cancelled then s
  else { s.terminate .term refused with cancelled := true, killDeadline := true }

/-- A message of the loop (`src/supervisor.rs:218`). A signal that cannot be sent ends `run`
only when a client has cancelled. -/
def handle (s : Supervisor) (event : InternalEvent) (refused : Option String) : Supervisor :=
  match event with
  | .cancel =>
      if s.cancelled then s
      else match refused with
        | none => s.cancelOnce none
        | some e => { s with cancelled := true }.abandon (.io e)
  | .daemonGone => { s.cancelOnce refused with daemonGone := true }
  | .captureFailed reason => { s.cancelOnce refused with interruptedReason := some reason }

/-- The grace deadline (`src/supervisor.rs:249`). -/
def deadline (s : Supervisor) (refused : Option String) : Supervisor :=
  let s := { s.terminate .kill refused with killDeadline := false }
  match s.exited with
  | some status => { s with exited := none, main := .joining .stdout status }
  | none => s

/-- The outcome that is reported (`src/supervisor.rs:282`). -/
def outcome (s : Supervisor) (status : ExitStatus) : ExecutionOutcome :=
  match s.interruptedReason, status.code with
  | some reason, _ => .interrupted reason
  | none, code =>
      if s.cancelled then .cancelled status.signal
      else match code with
        | some code => .exited code
        | none => .signaled (status.signal.getD 0)

/-- `join_capture`: a task that has ended, or that has panicked with `panicked`. -/
def join (s : Supervisor) (stream : OutputStream) (status : ExitStatus)
    (panicked : Option String) : Option Supervisor :=
  match panicked, (s.captures stream).point with
  | some e, _ => some (s.abandon (.protocol ("capture task failed: " ++ e)))
  | none, .ended _ =>
      match stream with
      | .stdout => some (s.goto (.joining .stderr status))
      | .stderr => some (s.goto (.joiningStdin status))
  | none, _ => none

/-- The end of the task that writes stdin, and what is reported then. -/
def joinStdin (s : Supervisor) (status : ExitStatus) (failed : Option Error) : Supervisor :=
  match failed with
  | some e => s.abandon e
  | none =>
      if s.daemonGone then s.goto (.returned (.ok ())) else s.goto (.report (s.outcome status))

/-- `send_and_flush`: the event. -/
def report (s : Supervisor) (outcome : ExecutionOutcome) : Option Supervisor :=
  (s.sendEvent (.finished outcome)).map fun (s, open_) =>
    if open_ then s.goto .sendFlush
    else s.abandon (.protocol "supervisor event writer stopped")

/-- `send_and_flush`: the flush. -/
def sendFlush (s : Supervisor) : Option Supervisor :=
  if s.writer = .stopped then some (s.abandon (.protocol "supervisor event writer stopped"))
  else if s.outgoing.length < eventQueueDepth then
    some { s with outgoing := s.outgoing ++ [.flush], main := .flushing }
  else none

/-- `send_and_flush`: the answer of the writer. -/
def awaitFlush (s : Supervisor) : Option Supervisor :=
  if s.flushed then some (s.goto (.returned (.ok ())))
  else if s.writer = .stopped then
    some (s.abandon (.protocol "supervisor event writer failed to flush"))
  else none

/-! ## The other tasks -/

/-- A read returns as many bytes as there is room for. -/
def readable : Except String Bytes → Bool
  | .ok data => data.length ≤ outputChunkBytes
  | .error _ => true

/-- `capture_stream`: what a read returns. -/
def read (s : Supervisor) (stream : OutputStream) (result : Except String Bytes) : Supervisor :=
  let capture := s.captures stream
  match result with
  | .ok [] => s.capturing stream { capture with point := .ended true }
  | .ok data => s.capturing stream { point := .sending data, read := capture.read ++ data }
  | .error e => s.capturing stream { capture with point := .failing e }

/-- `capture_stream`: sending what was read, or its failure. -/
def forward (s : Supervisor) (stream : OutputStream) : Option Supervisor :=
  let capture := s.captures stream
  match capture.point with
  | .sending data => (s.sendEvent (.output stream (.ok data))).map fun (s, open_) =>
      s.capturing stream { capture with point := if open_ then .reading else .ended false }
  | .failing reason => (s.notify (.captureFailed reason)).map fun (s, _) =>
      s.capturing stream { capture with point := .ended true }
  | _ => none

/-- `read_controls`: a frame. -/
def receive (s : Supervisor) (frame : Option (Except Error SupervisorCommand)) : Supervisor :=
  { s with control := match frame with
      | some (.ok .cancel) => .sending .cancel true
      | some (.ok (.spawn ..)) | some (.error _) =>
          .sending (.captureFailed "invalid supervisor control message") false
      | none => .sending .daemonGone false }

/-- `read_controls`: the message that a frame becomes. -/
def relay (s : Supervisor) : Option Supervisor :=
  match s.control with
  | .sending event more => (s.notify event).map fun (s, open_) =>
      { s with control := if open_ && more then .reading else .stopped }
  | _ => none

/-- `write_events`: the next message; a write or a flush that fails ends the writer. -/
def write (s : Supervisor) (succeeds : Bool) : Option Supervisor :=
  match s.outgoing with
  | [] => none
  | message :: rest =>
      let s := { s with outgoing := rest }
      if succeeds then
        match message with
        | .event event => some { s with emitted := s.emitted ++ [event] }
        | .flush => some { s with flushed := true }
      else some { s with writer := .failing }

/-- `write_events`: the end, which drops what is still queued. -/
def stopWriter (s : Supervisor) : Option Supervisor :=
  (s.notify .daemonGone).map fun (s, _) => { s with writer := .stopped, outgoing := [] }

end Supervisor

/-- The steps of a supervisor and of what is around it, with the calls of `killpg` that are
refused for another reason than `ESRCH`. -/
inductive SupervisorStep where
  | begin (first : Option (Except Error SupervisorCommand)) (launched : Except String Nat)
  | start
  | wait (failed : Option String) (refused : Bool)
  | message (refused : Option String)
  | deadline (refused : Option String)
  | join (panicked : Option String)
  | joinStdin (failed : Option Error)
  | report
  | sendFlush
  | awaitFlush
  | read (stream : OutputStream) (result : Except String Bytes)
  | forward (stream : OutputStream)
  | receive (frame : Option (Except Error SupervisorCommand))
  | relay
  | write (succeeds : Bool)
  | stopWriter
  | leaderExits (status : ExitStatus)
  | fork
  | othersExit

namespace Supervisor

def step (s : Supervisor) : SupervisorStep → Option Supervisor
  | .begin first launched =>
      match s.main with
      | .receiving => some (s.begin first launched)
      | _ => none
  | .start =>
      match s.main with
      | .sendStarted pid => s.start pid
      | _ => none
  | .wait failed refused =>
      match s.main, s.exited, s.leader with
      | .looping, none, .exited status =>
          match failed with
          | none => some (s.wait status refused)
          | some e => some (s.abandon (.io e))
      | _, _, _ => none
  | .message refused =>
      match s.main, s.internal with
      | .looping, event :: rest =>
          some (handle { s with internal := rest, processed := s.processed ++ [event] }
            event refused)
      | _, _ => none
  | .deadline refused =>
      match s.main with
      | .looping => if s.killDeadline then some (s.deadline refused) else none
      | _ => none
  | .join panicked =>
      match s.main with
      | .joining stream status => s.join stream status panicked
      | _ => none
  | .joinStdin failed =>
      match s.main with
      | .joiningStdin status => some (s.joinStdin status failed)
      | _ => none
  | .report =>
      match s.main with
      | .report outcome => s.report outcome
      | _ => none
  | .sendFlush =>
      match s.main with
      | .sendFlush => s.sendFlush
      | _ => none
  | .awaitFlush =>
      match s.main with
      | .flushing => s.awaitFlush
      | _ => none
  | .read stream result =>
      if (s.captures stream).point = .reading ∧ readable result then some (s.read stream result)
      else none
  | .forward stream => s.forward stream
  | .receive frame => if s.control = .reading then some (s.receive frame) else none
  | .relay => s.relay
  | .write succeeds => if s.writer = .writing then s.write succeeds else none
  | .stopWriter => if s.writer = .failing then s.stopWriter else none
  | .leaderExits status =>
      if s.leader = .running then some { s with leader := .exited status } else none
  | .fork => if s.Alive then some { s with others := true } else none
  | .othersExit => some { s with others := false }

end Supervisor

/-- A supervisor, from its start. -/
def supervisor : System Supervisor SupervisorStep where
  start s := s = {}
  step := Supervisor.step

end Loomterm
