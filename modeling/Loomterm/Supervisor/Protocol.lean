import Loomterm.Supervisor.Process

/-!
# The events of a supervisor

What a supervisor writes is one Finished event that reports a failed spawn, or a Started event,
output, and at most one Finished event, which comes last. Behind a Started event a Finished event
says that all output came before it, and how the command ended.
-/

namespace Loomterm

namespace SupervisorEvent

def isOutput : SupervisorEvent → Bool
  | .output _ (.ok _) => true
  | _ => false

/-- The bytes of `stream` that an event carries. -/
def bytesOf (stream : OutputStream) : SupervisorEvent → Bytes
  | .output from_ (.ok data) => if from_ = stream then data else []
  | _ => []

end SupervisorEvent

namespace Supervisor

/-- The bytes of `stream` among some events, in their order. -/
def bytesOf (stream : OutputStream) (events : List SupervisorEvent) : Bytes :=
  events.flatMap (SupervisorEvent.bytesOf stream)

@[simp] theorem bytesOf_append (stream : OutputStream) (first second : List SupervisorEvent) :
    bytesOf stream (first ++ second) = bytesOf stream first ++ bytesOf stream second :=
  List.flatMap_append

@[simp] theorem bytesOf_nil (stream : OutputStream) : bytesOf stream [] = [] := rfl

@[simp] theorem bytesOf_started (stream : OutputStream) (pid : Nat) (pgid : Int)
    (events : List SupervisorEvent) :
    bytesOf stream (.started pid pgid :: events) = bytesOf stream events := rfl

@[simp] theorem bytesOf_finished (stream : OutputStream) (outcome : ExecutionOutcome) :
    bytesOf stream [.finished outcome] = [] := rfl

/-- The event of an outgoing message. -/
def Outgoing.event? : Outgoing → Option SupervisorEvent
  | .event carried => some carried
  | .flush => none

/-- The bytes that a capture task has read and not sent. -/
def CaptureTask.pending (capture : CaptureTask) : Bytes :=
  match capture.point with
  | .sending data => data
  | _ => []

def CapturePoint.isEnded : CapturePoint → Bool
  | .ended _ => true
  | _ => false

/-- The reason of the last capture failure among some messages. -/
def lastFailure : List InternalEvent → Option String
  | [] => none
  | .captureFailed reason :: rest => some ((lastFailure rest).getD reason)
  | _ :: rest => lastFailure rest

theorem lastFailure_append (messages : List InternalEvent) (event : InternalEvent) :
    lastFailure (messages ++ [event]) = match event with
      | .captureFailed reason => some reason
      | _ => lastFailure messages := by
  induction messages with
  | nil => cases event <;> rfl
  | cons first rest ih =>
    cases first with
    | captureFailed reason =>
      simp only [List.cons_append, lastFailure, ih]
      cases event <;> simp
    | _ =>
      simp only [List.cons_append, lastFailure, ih]

theorem lastFailure_eq_none {messages : List InternalEvent} :
    lastFailure messages = none ↔ ∀ reason, .captureFailed reason ∉ messages := by
  induction messages with
  | nil => simp [lastFailure]
  | cons first rest ih =>
    cases first with
    | captureFailed reason =>
      exact ⟨by simp [lastFailure], fun none => absurd (none reason) (by simp)⟩
    | _ => simp [lastFailure, ih]

/-! ## How far a supervisor has come -/

/-- Nothing was sent, and nothing is captured. -/
def Quiet (s : Supervisor) : Prop :=
  s.sent = [] ∧ ∀ stream, (s.captures stream).point = .idle

/-- Started was sent, and then output only. -/
def Streaming (s : Supervisor) : Prop :=
  ∃ pid outs, s.sent = .started pid pid :: outs ∧ (∀ event ∈ outs, event.isOutput = true) ∧
    ∀ stream, (s.captures stream).point ≠ .idle

/-- The outcome is the one that `run` determines when its loop is left. -/
def Concludes (s : Supervisor) (outcome : ExecutionOutcome) : Prop :=
  ∃ status, s.leader = .exited status ∧ outcome = s.outcome status

/-- A Finished event was sent, and nothing can come behind it. -/
def Done (s : Supervisor) : Prop :=
  (∃ message, s.sent = [.finished (.spawnError message)] ∧
      ∀ stream, (s.captures stream).point = .idle) ∨
    ∃ pid outs outcome, s.sent = .started pid pid :: outs ++ [.finished outcome] ∧
      (∀ event ∈ outs, event.isOutput = true) ∧ s.Concludes outcome ∧
      ∀ stream, (s.captures stream).point = .ended true ∧
        bytesOf stream outs = (s.captures stream).read

/-- What holds at each await of `run`. -/
def Standing (s : Supervisor) : Prop :=
  match s.main with
  | .receiving => s.Quiet ∧ s.leader = .absent
  | .sendStarted _ => s.Quiet
  | .looping => s.Streaming
  | .joining .stdout status => s.Streaming ∧ s.leader = .exited status
  | .joining .stderr status => s.Streaming ∧ s.leader = .exited status ∧
      (s.captures .stdout).point.isEnded = true
  | .joiningStdin status => s.Streaming ∧ s.leader = .exited status ∧
      ∀ stream, (s.captures stream).point.isEnded = true
  | .report outcome => s.Quiet ∧ (∃ message, outcome = .spawnError message) ∨
      s.Streaming ∧ s.Concludes outcome ∧ ∀ stream, (s.captures stream).point.isEnded = true
  | .sendFlush | .flushing => s.Done
  | .returned _ => s.Quiet ∨ s.Streaming ∨ s.Done

variable {s s' : Supervisor}

theorem Standing.returned (standing : s.Standing) : s.Quiet ∨ s.Streaming ∨ s.Done := by
  unfold Standing at standing
  split at standing
  · exact .inl standing.1
  · exact .inl standing
  · exact .inr (.inl standing)
  · exact .inr (.inl standing.1)
  · exact .inr (.inl standing.1)
  · exact .inr (.inl standing.1)
  · rcases standing with ⟨quiet, _⟩ | ⟨streaming, _⟩
    · exact .inl quiet
    · exact .inr (.inl streaming)
  · exact .inr (.inr standing)
  · exact .inr (.inr standing)
  · exact standing

/-- What every reachable supervisor keeps to: the writer writes what was sent, in order; what
was read was sent, as long as somebody takes it; and the flags are about the messages that the
loop took. -/
structure Valid (s : Supervisor) : Prop where
  standing : s.Standing
  emitted : s.emitted <+: s.sent
  queued : s.writer = .writing → s.emitted ++ s.outgoing.filterMap Outgoing.event? = s.sent
  bytes : s.writer ≠ .stopped → ∀ stream,
    bytesOf stream s.sent ++ (s.captures stream).pending = (s.captures stream).read
  whole : ∀ stream, (s.captures stream).point = .ended false → s.writer = .stopped
  reason : s.interruptedReason = lastFailure s.processed
  cancelled : s.cancelled = true ↔ s.processed ≠ []
  exited : ∀ status, s.exited = some status → s.leader = .exited status

/-- A leader that exits leaves everything where it stands. -/
theorem Standing.leaderExits (standing : s.Standing) (running : s.leader = .running)
    (status : ExitStatus) : Standing { s with leader := .exited status } := by
  have concludes : ∀ outcome, ¬ s.Concludes outcome := by
    rintro outcome ⟨_, ended, _⟩
    rw [running] at ended
    cases ended
  have done : s.Done → Done { s with leader := .exited status } := by
    rintro (failed | ⟨pid, outs, outcome, _, _, ends, _⟩)
    · exact .inl failed
    · exact absurd ends (concludes outcome)
  unfold Standing at standing ⊢
  cases point : s.main with
  | receiving =>
    rw [point, running] at standing
    cases standing.2
  | sendStarted pid => rwa [point] at standing
  | looping => rwa [point] at standing
  | joining stream other =>
    rw [point] at standing
    cases stream with
    | stdout =>
      rw [running] at standing
      cases standing.2
    | stderr =>
      rw [running] at standing
      cases standing.2.1
  | joiningStdin other =>
    rw [point, running] at standing
    cases standing.2.1
  | report outcome =>
    rw [point] at standing
    rcases standing with quiet | ⟨_, ends, _⟩
    · exact .inl quiet
    · exact absurd ends (concludes outcome)
  | sendFlush => exact done (by rwa [point] at standing)
  | flushing => exact done (by rwa [point] at standing)
  | returned result =>
    rw [point] at standing
    exact standing.imp id fun rest => rest.imp id done

namespace Valid

/-! ### The environment, the control messages and the writer -/

theorem leaderExits (valid : s.Valid) (running : s.leader = .running) (status : ExitStatus) :
    Valid { s with leader := .exited status } := by
  refine ⟨valid.standing.leaderExits running status, valid.emitted, valid.queued, valid.bytes,
    valid.whole, valid.reason, valid.cancelled, ?_⟩
  intro other present
  have ended := valid.exited other present
  rw [running] at ended
  cases ended

theorem others (valid : s.Valid) (alive : Bool) : Valid { s with others := alive } :=
  ⟨valid.standing, valid.emitted, valid.queued, valid.bytes, valid.whole, valid.reason,
    valid.cancelled, valid.exited⟩

theorem controlled (valid : s.Valid) (control : ControlPoint) (internal : List InternalEvent) :
    Valid { s with control, internal } :=
  ⟨valid.standing, valid.emitted, valid.queued, valid.bytes, valid.whole, valid.reason,
    valid.cancelled, valid.exited⟩

/-- A message to the loop is queued, or dropped. -/
theorem notify_eq_some {event : InternalEvent} {opened : Bool}
    (told : s.notify event = some (s', opened)) :
    ∃ internal, s' = { s with internal } := by
  unfold notify at told
  split at told
  · cases told
    exact ⟨s.internal, rfl⟩
  · split at told
    · cases told
      exact ⟨_, rfl⟩
    · cases told

theorem relay (valid : s.Valid) (went : s.relay = some s') : s'.Valid := by
  unfold Supervisor.relay at went
  split at went
  · obtain ⟨⟨told, opened⟩, sent, same⟩ := Option.map_eq_some_iff.mp went
    obtain ⟨internal, rfl⟩ := notify_eq_some sent
    cases same
    exact valid.controlled _ internal
  · cases went

theorem write (valid : s.Valid) (writing : s.writer = .writing) {succeeds : Bool}
    (went : s.write succeeds = some s') : s'.Valid := by
  have queued := valid.queued writing
  unfold Supervisor.write at went
  cases messages : s.outgoing with
  | nil =>
    rw [messages] at went
    cases went
  | cons message rest =>
    rw [messages] at went queued
    cases succeeds with
    | false =>
      simp only [Bool.false_eq_true, if_false, Option.some.injEq] at went
      subst went
      refine ⟨valid.standing, valid.emitted, by simp, fun _ => valid.bytes (by simp [writing]), ?_,
        valid.reason, valid.cancelled, valid.exited⟩
      intro stream cut
      have stopped := valid.whole stream cut
      rw [writing] at stopped
      cases stopped
    | true =>
      cases message with
      | event event =>
        simp only [if_true, Option.some.injEq] at went
        subst went
        have split : (s.emitted ++ [event]) ++ rest.filterMap Outgoing.event? = s.sent := by
          rw [← queued]
          simp [Outgoing.event?]
        exact ⟨valid.standing, ⟨_, split⟩, fun _ => split, valid.bytes, valid.whole, valid.reason,
          valid.cancelled, valid.exited⟩
      | flush =>
        simp only [if_true, Option.some.injEq] at went
        subst went
        exact ⟨valid.standing, valid.emitted, fun _ => queued, valid.bytes, valid.whole,
          valid.reason, valid.cancelled, valid.exited⟩

theorem stopWriter (valid : s.Valid) (went : s.stopWriter = some s') : s'.Valid := by
  unfold Supervisor.stopWriter at went
  obtain ⟨⟨told, opened⟩, sent, same⟩ := Option.map_eq_some_iff.mp went
  obtain ⟨internal, rfl⟩ := notify_eq_some sent
  cases same
  exact ⟨valid.standing, valid.emitted, by simp, by simp, by simp, valid.reason, valid.cancelled,
    valid.exited⟩

end Valid

/-! ### The capture tasks -/

/-- The task of `stream` is in its loop. -/
def Active (s : Supervisor) (stream : OutputStream) : Prop :=
  (s.captures stream).point ≠ .idle ∧ (s.captures stream).point.isEnded = false

/-- While a capture task is in its loop, the supervisor is behind its Started event and before
its Finished event. -/
theorem Active.streaming {stream : OutputStream} (active : s.Active stream) :
    ¬ s.Quiet ∧ ¬ s.Done := by
  obtain ⟨begun, running⟩ := active
  constructor
  · intro quiet
    exact begun (quiet.2 stream)
  · rintro (⟨_, _, idle⟩ | ⟨_, _, _, _, _, _, ended⟩)
    · exact begun (idle stream)
    · rw [(ended stream).1] at running
      cases running

/-- A capture task that goes on, and may send output, leaves `run` where it stands. -/
theorem Standing.captured (standing : s.Standing) {stream : OutputStream} {capture : CaptureTask}
    {outgoing : List Outgoing} {sent extra : List SupervisorEvent} (active : s.Active stream)
    (begun : capture.point ≠ .idle) (grown : sent = s.sent ++ extra)
    (outputs : ∀ event ∈ extra, event.isOutput = true) :
    Standing { s with outgoing, sent, captures := Function.update s.captures stream capture } := by
  obtain ⟨notQuiet, notDone⟩ := active.streaming
  have streaming : s.Streaming → Streaming { s with
      outgoing, sent, captures := Function.update s.captures stream capture } := by
    rintro ⟨pid, outs, same, all, captured⟩
    refine ⟨pid, outs ++ extra, ?_, ?_, ?_⟩
    · show sent = _
      rw [grown, same, List.cons_append]
    · intro event member
      exact (List.mem_append.mp member).elim (all event) (outputs event)
    · intro other
      show (Function.update s.captures stream capture other).point ≠ .idle
      by_cases own : other = stream
      · rw [own, Function.update_self]
        exact begun
      · rw [Function.update_of_ne own]
        exact captured other
  have running := active.2
  unfold Standing at standing ⊢
  cases point : s.main with
  | receiving =>
    rw [point] at standing
    exact absurd standing.1 notQuiet
  | sendStarted pid =>
    rw [point] at standing
    exact absurd standing notQuiet
  | looping =>
    rw [point] at standing
    exact streaming standing
  | joining other status =>
    rw [point] at standing
    cases other with
    | stdout => exact ⟨streaming standing.1, standing.2⟩
    | stderr =>
      obtain ⟨before, ended, joined⟩ := standing
      refine ⟨streaming before, ended, ?_⟩
      show (Function.update s.captures stream capture .stdout).point.isEnded = true
      rw [Function.update_of_ne]
      · exact joined
      · rintro rfl
        rw [joined] at running
        cases running
  | joiningStdin status =>
    rw [point] at standing
    have ended := standing.2.2 stream
    rw [running] at ended
    cases ended
  | report outcome =>
    rw [point] at standing
    rcases standing with ⟨quiet, _⟩ | ⟨_, _, ended⟩
    · exact absurd quiet notQuiet
    · have ended := ended stream
      rw [running] at ended
      cases ended
  | sendFlush =>
    rw [point] at standing
    exact absurd standing notDone
  | flushing =>
    rw [point] at standing
    exact absurd standing notDone
  | returned result =>
    rw [point] at standing
    rcases standing with quiet | before | done
    · exact absurd quiet notQuiet
    · exact .inr (.inl (streaming before))
    · exact absurd done notDone

/-- A signal changes nothing of the supervisor itself. -/
theorem terminate_keeps (s : Supervisor) (signal : Signal) (refused : Option String) :
    ∃ signals, s.terminate signal refused = { s with signals } := by
  cases refused with
  | none => exact ⟨_, rfl⟩
  | some e => exact ⟨s.signals, rfl⟩

theorem cancelOnce_keeps (s : Supervisor) (refused : Option String) :
    ∃ cancelled killDeadline signals,
      s.cancelOnce refused = { s with cancelled, killDeadline, signals } := by
  obtain ⟨signals, same⟩ := s.terminate_keeps .term refused
  unfold cancelOnce
  split
  · exact ⟨_, _, _, rfl⟩
  · rw [same]
    exact ⟨_, _, _, rfl⟩

namespace Valid

/-- A capture task that sends nothing. -/
theorem captured (valid : s.Valid) {stream : OutputStream} {capture : CaptureTask}
    (active : s.Active stream) (begun : capture.point ≠ .idle)
    (whole : capture.point = .ended false → s.writer = .stopped)
    (bytes : s.writer ≠ .stopped →
      bytesOf stream s.sent ++ capture.pending = capture.read) :
    Valid (s.capturing stream capture) := by
  refine ⟨valid.standing.captured active begun (List.append_nil _).symm (by simp), valid.emitted,
    valid.queued, ?_, ?_, valid.reason, valid.cancelled, valid.exited⟩
  · intro open_ other
    show bytesOf other s.sent ++ (Function.update s.captures stream capture other).pending =
      (Function.update s.captures stream capture other).read
    by_cases own : other = stream
    · rw [own, Function.update_self]
      exact bytes open_
    · rw [Function.update_of_ne own]
      exact valid.bytes open_ other
  · intro other
    show (Function.update s.captures stream capture other).point = .ended false → _
    by_cases own : other = stream
    · rw [own, Function.update_self]
      exact whole
    · rw [Function.update_of_ne own]
      exact valid.whole other

theorem read (valid : s.Valid) {stream : OutputStream}
    (reading : (s.captures stream).point = .reading) (result : Except String Bytes) :
    (s.read stream result).Valid := by
  have active : s.Active stream := by
    rw [Active, reading]
    exact ⟨by simp, rfl⟩
  have sent : s.writer ≠ .stopped → bytesOf stream s.sent = (s.captures stream).read := by
    intro open_
    have bytes := valid.bytes open_ stream
    rw [CaptureTask.pending, reading] at bytes
    simpa using bytes
  unfold Supervisor.read
  cases result with
  | error e =>
    apply valid.captured active (by simp) (by simp)
    intro open_
    simpa [CaptureTask.pending] using sent open_
  | ok data =>
    cases data with
    | nil =>
      apply valid.captured active (by simp) (by simp)
      intro open_
      simpa [CaptureTask.pending] using sent open_
    | cons byte rest =>
      apply valid.captured active (by simp) (by simp)
      intro open_
      simp only [CaptureTask.pending, sent open_]

/-- An event is queued behind all that was sent, or there is no writer any more. -/
theorem sendEvent_eq_some {event : SupervisorEvent} {opened : Bool}
    (sent : s.sendEvent event = some (s', opened)) :
    opened = false ∧ s.writer = .stopped ∧ s' = s ∨
      opened = true ∧ s.writer ≠ .stopped ∧
        s' = { s with outgoing := s.outgoing ++ [.event event], sent := s.sent ++ [event] } := by
  unfold sendEvent at sent
  split at sent
  · rename_i stopped
    cases sent
    exact .inl ⟨rfl, stopped, rfl⟩
  · rename_i open_
    split at sent
    · cases sent
      exact .inr ⟨rfl, open_, rfl⟩
    · cases sent

theorem queued_append (valid : s.Valid) (event : SupervisorEvent) :
    s.emitted <+: s.sent ++ [event] ∧ (s.writer = .writing →
      s.emitted ++ (s.outgoing ++ [Outgoing.event event]).filterMap Outgoing.event? =
        s.sent ++ [event]) := by
  refine ⟨valid.emitted.trans (List.prefix_append _ _), fun writing => ?_⟩
  rw [List.filterMap_append, ← List.append_assoc, valid.queued writing]
  rfl

theorem forward (valid : s.Valid) {stream : OutputStream}
    (went : s.forward stream = some s') : s'.Valid := by
  unfold Supervisor.forward at went
  cases point : (s.captures stream).point with
  | sending data =>
    have active : s.Active stream := by
      rw [Active, point]
      exact ⟨by simp, rfl⟩
    simp only [point] at went
    obtain ⟨⟨told, opened⟩, sent, same⟩ := Option.map_eq_some_iff.mp went
    rcases sendEvent_eq_some sent with ⟨rfl, stopped, rfl⟩ | ⟨rfl, open_, rfl⟩
    · cases same
      exact valid.captured active (by simp) (fun _ => stopped) (fun open_ => absurd stopped open_)
    · cases same
      obtain ⟨emitted, queued⟩ := valid.queued_append (.output stream (.ok data))
      refine ⟨valid.standing.captured active (by simp) rfl (by simp [SupervisorEvent.isOutput]),
        emitted, queued, ?_, ?_, valid.reason, valid.cancelled, valid.exited⟩
      · intro _ other
        have bytes := valid.bytes open_ other
        show bytesOf other (s.sent ++ [.output stream (.ok data)]) ++
          (Function.update s.captures stream _ other).pending =
            (Function.update s.captures stream _ other).read
        by_cases own : other = stream
        · subst own
          rw [CaptureTask.pending, point] at bytes
          rw [Function.update_self, ← bytes]
          simp [CaptureTask.pending, bytesOf, SupervisorEvent.bytesOf]
        · rw [Function.update_of_ne own, ← bytes]
          have different : stream ≠ other := fun same => own same.symm
          simp [bytesOf, SupervisorEvent.bytesOf, different]
      · intro other
        show (Function.update s.captures stream _ other).point = .ended false → _
        by_cases own : other = stream
        · rw [own, Function.update_self]
          simp
        · rw [Function.update_of_ne own]
          exact valid.whole other
  | failing reason =>
    have active : s.Active stream := by
      rw [Active, point]
      exact ⟨by simp, rfl⟩
    simp only [point] at went
    obtain ⟨⟨told, opened⟩, sent, same⟩ := Option.map_eq_some_iff.mp went
    obtain ⟨internal, rfl⟩ := notify_eq_some sent
    cases same
    have bytes : s.writer ≠ .stopped → bytesOf stream s.sent = (s.captures stream).read := by
      intro open_
      have bytes := valid.bytes open_ stream
      rw [CaptureTask.pending, point] at bytes
      simpa using bytes
    have told := valid.controlled s.control internal
    refine told.captured active (by simp) (by simp) ?_
    intro open_
    simpa [CaptureTask.pending] using bytes open_
  | _ =>
    simp only [point] at went
    cases went

/-! ### The main task -/

/-- A step of `run` that sends nothing. -/
theorem moved (valid : s.Valid) {main : MainPoint} (standing : Standing (s.goto main)) :
    (s.goto main).Valid :=
  ⟨standing, valid.emitted, valid.queued, valid.bytes, valid.whole, valid.reason, valid.cancelled,
    valid.exited⟩

theorem abandon (valid : s.Valid) (error : Error) : (s.abandon error).Valid :=
  valid.moved valid.standing.returned

theorem begin (valid : s.Valid) (receiving : s.main = .receiving)
    (first : Option (Except Error SupervisorCommand)) (launched : Except String Nat) :
    (s.begin first launched).Valid := by
  have standing := valid.standing
  rw [Standing, receiving] at standing
  obtain ⟨quiet, absent⟩ := standing
  unfold Supervisor.begin
  cases first with
  | none => exact valid.abandon _
  | some first =>
    cases first with
    | error e => exact valid.abandon e
    | ok command =>
      cases command with
      | cancel => exact valid.abandon _
      | spawn command cwd env stdinBase64 shell cancelGraceMs =>
        have controlled := valid.controlled .reading s.internal
        have failed : ∀ message, Valid { s with
            control := .reading, main := .report (.spawnError message) } :=
          fun message => controlled.moved (.inl ⟨quiet, message, rfl⟩)
        have spawned : ∀ pid, Valid { s with
            control := .reading, leader := .running, main := .sendStarted pid } := by
          intro pid
          refine ⟨quiet, valid.emitted, valid.queued, valid.bytes, valid.whole, valid.reason,
            valid.cancelled, ?_⟩
          intro status present
          have ended := valid.exited status present
          rw [absent] at ended
          cases ended
        cases stdinBase64 with
        | none =>
          cases launched with
          | error message => exact failed message
          | ok pid => exact spawned pid
        | some decoded =>
          cases decoded with
          | error e => exact controlled.abandon _
          | ok data =>
            cases launched with
            | error message => exact failed message
            | ok pid => exact spawned pid

/-- Started is the first event, and the captures begin behind it. -/
theorem start (valid : s.Valid) {pid : Nat} (starting : s.main = .sendStarted pid)
    (went : s.start pid = some s') : s'.Valid := by
  have standing := valid.standing
  rw [Standing, starting] at standing
  obtain ⟨none, idle⟩ := standing
  unfold Supervisor.start at went
  obtain ⟨⟨told, opened⟩, sent, same⟩ := Option.map_eq_some_iff.mp went
  rcases sendEvent_eq_some sent with ⟨rfl, _, rfl⟩ | ⟨rfl, open_, rfl⟩
  · cases same
    exact valid.abandon _
  · cases same
    obtain ⟨emitted, queued⟩ := valid.queued_append (.started pid pid)
    refine ⟨⟨pid, [], ?_, by simp, by simp⟩, emitted, queued, ?_, by simp, valid.reason,
      valid.cancelled, valid.exited⟩
    · show s.sent ++ [.started pid pid] = _
      rw [none]
      rfl
    · intro _ stream
      show bytesOf stream (s.sent ++ [.started pid pid]) ++ [] = []
      rw [none]
      rfl

theorem wait (valid : s.Valid) (looping : s.main = .looping) {status : ExitStatus}
    (ended : s.leader = .exited status) (refused : Bool) : (s.wait status refused).Valid := by
  have standing := valid.standing
  rw [Standing, looping] at standing
  unfold Supervisor.wait
  split
  · exact valid.moved ⟨standing, ended⟩
  · refine ⟨?_, valid.emitted, valid.queued, valid.bytes, valid.whole, valid.reason,
      valid.cancelled, ?_⟩
    · exact valid.standing
    · rintro _ ⟨⟩
      exact ended

/-- A message of the loop sets the flags that it is about. -/
theorem handle_flags (event : InternalEvent) (refused : Option String) :
    (s.handle event refused).cancelled = true ∧
      (s.handle event refused).interruptedReason = (match event with
        | .captureFailed reason => some reason
        | _ => s.interruptedReason) ∧
      ((s.handle event refused).main = s.main ∨
        ∃ e, (s.handle event refused).main = .returned (.error e)) := by
  have once : (s.cancelOnce refused).cancelled = true := by
    unfold cancelOnce
    split <;> simp_all
  have kept : (s.cancelOnce refused).interruptedReason = s.interruptedReason ∧
      (s.cancelOnce refused).main = s.main := by
    obtain ⟨_, _, _, same⟩ := s.cancelOnce_keeps refused
    rw [same]
    exact ⟨rfl, rfl⟩
  cases event with
  | cancel =>
    simp only [Supervisor.handle]
    split
    · rename_i already
      exact ⟨already, rfl, .inl rfl⟩
    · cases refused with
      | none => exact ⟨once, kept.1, .inl kept.2⟩
      | some e => exact ⟨rfl, rfl, .inr ⟨_, rfl⟩⟩
  | daemonGone => exact ⟨once, kept.1, .inl kept.2⟩
  | captureFailed reason => exact ⟨once, rfl, .inl kept.2⟩

/-- What a message of the loop leaves alone. -/
theorem handle_keeps (event : InternalEvent) (refused : Option String) :
    ∃ main cancelled daemonGone interruptedReason killDeadline signals,
      s.handle event refused = { s with
        main, cancelled, daemonGone, interruptedReason, killDeadline, signals } := by
  obtain ⟨cancelled, killDeadline, signals, same⟩ := s.cancelOnce_keeps refused
  cases event with
  | cancel =>
    simp only [Supervisor.handle]
    split
    · exact ⟨_, _, _, _, _, _, rfl⟩
    · cases refused with
      | none =>
        rw [same]
        exact ⟨_, _, _, _, _, _, rfl⟩
      | some e => exact ⟨_, _, _, _, _, _, rfl⟩
  | daemonGone =>
    simp only [Supervisor.handle, same]
    exact ⟨_, _, _, _, _, _, rfl⟩
  | captureFailed reason =>
    simp only [Supervisor.handle, same]
    exact ⟨_, _, _, _, _, _, rfl⟩

theorem message (valid : s.Valid) (looping : s.main = .looping) (event : InternalEvent)
    (rest : List InternalEvent) (refused : Option String) :
    (handle { s with internal := rest, processed := s.processed ++ [event] }
      event refused).Valid := by
  have standing := valid.standing
  rw [Standing, looping] at standing
  obtain ⟨set, reason, point⟩ := @handle_flags
    { s with internal := rest, processed := s.processed ++ [event] } event refused
  obtain ⟨main, cancelled, daemonGone, interruptedReason, killDeadline, signals, same⟩ :=
    @handle_keeps { s with internal := rest, processed := s.processed ++ [event] } event refused
  rw [same] at set reason point ⊢
  refine ⟨?_, valid.emitted, valid.queued, valid.bytes, valid.whole, ?_, by simpa using set,
    valid.exited⟩
  · rcases point with loop | ⟨e, left⟩
    · simp only at loop
      rw [Standing]
      simp only [loop, looping]
      exact standing
    · simp only at left
      rw [Standing]
      simp only [left]
      exact .inr (.inl standing)
  · show interruptedReason = lastFailure (s.processed ++ [event])
    rw [lastFailure_append]
    simp only at reason
    rw [reason]
    cases event <;> first | rfl | exact valid.reason

theorem deadline (valid : s.Valid) (looping : s.main = .looping) (refused : Option String) :
    (s.deadline refused).Valid := by
  have standing := valid.standing
  rw [Standing, looping] at standing
  obtain ⟨signals, same⟩ := s.terminate_keeps .kill refused
  unfold Supervisor.deadline
  rw [same]
  cases present : s.exited with
  | none =>
    exact ⟨valid.standing, valid.emitted, valid.queued, valid.bytes, valid.whole, valid.reason,
      valid.cancelled, by simp⟩
  | some status =>
    exact ⟨⟨standing, valid.exited status present⟩, valid.emitted, valid.queued, valid.bytes,
      valid.whole, valid.reason, valid.cancelled, by simp⟩

theorem join (valid : s.Valid) {stream : OutputStream} {status : ExitStatus}
    (joining : s.main = .joining stream status) {panicked : Option String}
    (went : s.join stream status panicked = some s') : s'.Valid := by
  have standing := valid.standing
  rw [Standing, joining] at standing
  unfold Supervisor.join at went
  cases panicked with
  | some e =>
    cases went
    exact valid.abandon _
  | none =>
    cases point : (s.captures stream).point with
    | ended whole =>
      rw [point] at went
      have isEnded : (s.captures stream).point.isEnded = true := by
        rw [point]
        rfl
      cases stream with
      | stdout =>
        cases went
        exact valid.moved ⟨standing.1, standing.2, isEnded⟩
      | stderr =>
        cases went
        refine valid.moved ⟨standing.1, standing.2.1, ?_⟩
        intro stream
        cases stream with
        | stdout => exact standing.2.2
        | stderr => exact isEnded
    | _ =>
      rw [point] at went
      cases went

theorem joinStdin (valid : s.Valid) {status : ExitStatus} (joining : s.main = .joiningStdin status)
    (failed : Option Error) : (s.joinStdin status failed).Valid := by
  have standing := valid.standing
  rw [Standing, joining] at standing
  unfold Supervisor.joinStdin
  cases failed with
  | some e => exact valid.abandon e
  | none =>
    simp only
    split
    · exact valid.moved (.inr (.inl standing.1))
    · exact valid.moved (.inr ⟨standing.1, ⟨status, standing.2.1, rfl⟩, standing.2.2⟩)

/-- Finished is sent when all captures have ended, and nothing was lost to a writer that is
still there. -/
theorem report (valid : s.Valid) {outcome : ExecutionOutcome} (reporting : s.main = .report outcome)
    (went : s.report outcome = some s') : s'.Valid := by
  have standing := valid.standing
  rw [Standing, reporting] at standing
  unfold Supervisor.report at went
  obtain ⟨⟨told, opened⟩, sent, same⟩ := Option.map_eq_some_iff.mp went
  rcases sendEvent_eq_some sent with ⟨rfl, _, rfl⟩ | ⟨rfl, open_, rfl⟩
  · cases same
    exact valid.abandon _
  · cases same
    obtain ⟨emitted, queued⟩ := valid.queued_append (.finished outcome)
    have bytes : ∀ stream, bytesOf stream (s.sent ++ [.finished outcome]) ++
        (s.captures stream).pending = (s.captures stream).read := by
      intro stream
      rw [bytesOf_append, bytesOf_finished, List.append_nil]
      exact valid.bytes open_ stream
    refine ⟨?_, emitted, queued, fun _ => bytes, valid.whole, valid.reason, valid.cancelled,
      valid.exited⟩
    rcases standing with ⟨⟨none, idle⟩, message, rfl⟩ | ⟨streaming, concludes, ended⟩
    · refine .inl ⟨message, ?_, idle⟩
      show s.sent ++ [_] = _
      rw [none]
      rfl
    · obtain ⟨pid, outs, same, outputs, _⟩ := streaming
      refine .inr ⟨pid, outs, outcome, congrArg (· ++ [_]) same, outputs, concludes, ?_⟩
      intro stream
      have whole := ended stream
      cases point : (s.captures stream).point with
      | ended complete =>
        cases complete with
        | false => exact absurd (valid.whole stream point) open_
        | true =>
          refine ⟨point, ?_⟩
          have all := valid.bytes open_ stream
          rw [same, bytesOf_started, CaptureTask.pending, point, List.append_nil] at all
          exact all
      | _ =>
        rw [point] at whole
        cases whole

theorem sendFlush (valid : s.Valid) (sending : s.main = .sendFlush)
    (went : s.sendFlush = some s') : s'.Valid := by
  have standing := valid.standing
  rw [Standing, sending] at standing
  unfold Supervisor.sendFlush at went
  split at went
  · cases went
    exact valid.abandon _
  · split at went
    · cases went
      refine ⟨standing, valid.emitted, ?_, valid.bytes, valid.whole, valid.reason,
        valid.cancelled, valid.exited⟩
      intro writing
      rw [← valid.queued writing]
      simp [Outgoing.event?]
    · cases went

theorem awaitFlush (valid : s.Valid) (went : s.awaitFlush = some s') : s'.Valid := by
  unfold Supervisor.awaitFlush at went
  split at went
  · cases went
    exact valid.moved valid.standing.returned
  · split at went
    · cases went
      exact valid.abandon _
    · cases went

end Valid

/-- Every step keeps what a supervisor keeps to. -/
theorem Valid.step (valid : s.Valid) {action : SupervisorStep}
    (stepped : s.step action = some s') : s'.Valid := by
  cases action with
  | begin first launched =>
    simp only [Supervisor.step] at stepped
    split at stepped
    · rename_i receiving
      cases stepped
      exact valid.begin receiving first launched
    · cases stepped
  | start =>
    simp only [Supervisor.step] at stepped
    split at stepped
    · rename_i pid starting
      exact valid.start starting stepped
    · cases stepped
  | wait failed refused =>
    simp only [Supervisor.step] at stepped
    split at stepped
    · rename_i status looping _ ended
      cases failed with
      | none =>
        cases stepped
        exact valid.wait looping ended refused
      | some e =>
        cases stepped
        exact valid.abandon _
    · cases stepped
  | message refused =>
    simp only [Supervisor.step] at stepped
    split at stepped
    · rename_i event rest looping _
      cases stepped
      exact valid.message looping event rest refused
    · cases stepped
  | deadline refused =>
    simp only [Supervisor.step] at stepped
    split at stepped
    · rename_i looping
      obtain ⟨_, same⟩ := Option.ite_none_right_eq_some.mp stepped
      cases same
      exact valid.deadline looping refused
    · cases stepped
  | join panicked =>
    simp only [Supervisor.step] at stepped
    split at stepped
    · rename_i stream status joining
      exact valid.join joining stepped
    · cases stepped
  | joinStdin failed =>
    simp only [Supervisor.step] at stepped
    split at stepped
    · rename_i status joining
      cases stepped
      exact valid.joinStdin joining failed
    · cases stepped
  | report =>
    simp only [Supervisor.step] at stepped
    split at stepped
    · rename_i outcome reporting
      exact valid.report reporting stepped
    · cases stepped
  | sendFlush =>
    simp only [Supervisor.step] at stepped
    split at stepped
    · rename_i sending
      exact valid.sendFlush sending stepped
    · cases stepped
  | awaitFlush =>
    simp only [Supervisor.step] at stepped
    split at stepped
    · exact valid.awaitFlush stepped
    · cases stepped
  | read stream result =>
    obtain ⟨⟨reading, _⟩, same⟩ := Option.ite_none_right_eq_some.mp stepped
    cases same
    exact valid.read reading result
  | forward stream => exact valid.forward stepped
  | receive frame =>
    obtain ⟨_, same⟩ := Option.ite_none_right_eq_some.mp stepped
    cases same
    exact valid.controlled _ s.internal
  | relay => exact valid.relay stepped
  | write succeeds =>
    obtain ⟨writing, went⟩ := Option.ite_none_right_eq_some.mp stepped
    exact valid.write writing went
  | stopWriter =>
    obtain ⟨_, went⟩ := Option.ite_none_right_eq_some.mp stepped
    exact valid.stopWriter went
  | leaderExits status =>
    obtain ⟨running, same⟩ := Option.ite_none_right_eq_some.mp stepped
    cases same
    exact valid.leaderExits running status
  | fork =>
    obtain ⟨_, same⟩ := Option.ite_none_right_eq_some.mp stepped
    cases same
    exact valid.others true
  | othersExit =>
    cases stepped
    exact valid.others false

theorem valid_start : Valid {} where
  standing := ⟨⟨rfl, fun _ => rfl⟩, rfl⟩
  emitted := List.prefix_rfl
  queued _ := rfl
  bytes _ _ := rfl
  whole _ cut := by cases cut
  reason := rfl
  cancelled := by simp
  exited _ present := by cases present

end Supervisor

theorem supervisor_valid {s : Supervisor} (reached : supervisor.Reachable s) : s.Valid := by
  apply reached.invariant Supervisor.Valid
  · intro s start
    rw [show s = {} from start]
    exact Supervisor.valid_start
  · intro s action s' _ valid _ stepped
    exact valid.step stepped

namespace Supervisor

variable {s : Supervisor}

/-- The outcome of a command that nobody has stopped. -/
def ExitStatus.outcome (status : ExitStatus) : ExecutionOutcome :=
  match status.code with
  | some code => .exited code
  | none => .signaled (status.signal.getD 0)

/-- What a supervisor that has written something has written. -/
inductive Protocol : List SupervisorEvent → Prop
  | spawnError {message : String} : Protocol [.finished (.spawnError message)]
  | running {pid : Nat} {outs : List SupervisorEvent} :
      (∀ event ∈ outs, event.isOutput = true) → Protocol (.started pid pid :: outs)
  | finished {pid : Nat} {outs : List SupervisorEvent} {outcome : ExecutionOutcome} :
      (∀ event ∈ outs, event.isOutput = true) →
      Protocol (.started pid pid :: outs ++ [.finished outcome])

/-- What is written while a command runs is Started with some of its output. -/
theorem prefix_running {pid : Nat} {outs events : List SupervisorEvent}
    (outputs : ∀ event ∈ outs, event.isOutput = true)
    (written : events <+: .started pid pid :: outs) :
    events = [] ∨ ∃ pre, events = .started pid pid :: pre ∧
      ∀ event ∈ pre, event.isOutput = true := by
  rcases List.prefix_cons_iff.mp written with none | ⟨pre, same, before⟩
  · exact .inl none
  · exact .inr ⟨pre, same, fun event member => outputs event (before.subset member)⟩

theorem Valid.protocol (valid : s.Valid) : s.emitted = [] ∨ Protocol s.emitted := by
  have running : ∀ {pid outs}, (∀ event ∈ outs, event.isOutput = true) →
      s.emitted <+: .started pid pid :: outs → s.emitted = [] ∨ Protocol s.emitted := by
    intro pid outs outputs written
    apply (prefix_running outputs written).imp id
    rintro ⟨pre, same, outputs⟩
    rw [same]
    exact .running outputs
  have written := valid.emitted
  rcases valid.standing.returned with
    ⟨none, _⟩ | ⟨pid, outs, same, outputs, _⟩ |
      ⟨message, same, _⟩ | ⟨pid, outs, outcome, same, outputs, _⟩
  · rw [none, List.prefix_nil] at written
    exact .inl written
  · rw [same] at written
    exact running outputs written
  · rw [same] at written
    apply (List.prefix_cons_iff.mp written).imp id
    rintro ⟨rest, same, nothing⟩
    rw [same, List.prefix_nil.mp nothing]
    exact .spawnError
  · rw [same] at written
    rcases List.prefix_concat_iff.mp written with whole | before
    · rw [whole]
      exact .inr (.finished outputs)
    · exact running outputs before

/-- Once Finished is written behind Started, everything is. -/
theorem Valid.finished (valid : s.Valid) {pid : Nat} {outs : List SupervisorEvent}
    {outcome : ExecutionOutcome}
    (written : s.emitted = .started pid pid :: outs ++ [.finished outcome]) :
    s.Concludes outcome ∧ ∀ stream, (s.captures stream).point = .ended true ∧
      bytesOf stream outs = (s.captures stream).read := by
  have sent := valid.emitted
  rw [written] at sent
  have present : ∀ {events : List SupervisorEvent},
      .started pid pid :: outs ++ [.finished outcome] <+: events → .finished outcome ∈ events :=
    fun before => before.subset (by simp)
  have notRunning : ∀ {pid' : Nat} {outs' : List SupervisorEvent},
      (∀ event ∈ outs', event.isOutput = true) →
        ¬ .started pid pid :: outs ++ [.finished outcome] <+: .started pid' pid' :: outs' := by
    intro pid' outs' outputs before
    rcases List.mem_cons.mp (present before) with same | member
    · cases same
    · cases outputs _ member
  rcases valid.standing.returned with
    ⟨none, _⟩ | ⟨pid', outs', same, outputs, _⟩ |
      ⟨message, same, _⟩ | ⟨pid', outs', outcome', same, outputs, concludes, ended⟩
  · rw [none, List.prefix_nil] at sent
    cases sent
  · rw [same] at sent
    exact absurd sent (notRunning outputs)
  · rw [same, List.cons_append, List.cons_prefix_cons] at sent
    cases sent.1
  · rw [same] at sent
    rcases List.prefix_concat_iff.mp sent with whole | before
    · obtain ⟨first, last⟩ := List.append_inj' whole rfl
      cases first
      cases last
      exact ⟨concludes, ended⟩
    · exact absurd before (notRunning outputs)

end Supervisor

open Supervisor in
/-- At every moment of every run a supervisor has written nothing or what its protocol allows,
and when Finished follows Started, then all that was read of each pipe up to its end came
before it, and the outcome is Interrupted if the loop took a failed capture, else Cancelled if
it took a cancellation, else the exit status of the leader. -/
theorem supervisor_protocol {s : Supervisor} (reached : supervisor.Reachable s) :
    (s.emitted = [] ∨ Protocol s.emitted) ∧
    ∀ pid outs outcome, s.emitted = .started pid pid :: outs ++ [.finished outcome] →
      (∀ stream, (s.captures stream).point = .ended true ∧
        bytesOf stream outs = (s.captures stream).read) ∧
      ((∃ reason, outcome = .interrupted reason) ↔
        ∃ reason, .captureFailed reason ∈ s.processed) ∧
      ((∀ reason, .captureFailed reason ∉ s.processed) →
        ((∃ signal, outcome = .cancelled signal) ↔
          .cancel ∈ s.processed ∨ .daemonGone ∈ s.processed) ∧
        (.cancel ∉ s.processed → .daemonGone ∉ s.processed →
          ∃ status, s.leader = .exited status ∧ outcome = status.outcome)) := by
  have valid := supervisor_valid reached
  refine ⟨valid.protocol, ?_⟩
  intro pid outs outcome written
  obtain ⟨⟨status, ended, rfl⟩, captured⟩ := valid.finished written
  refine ⟨captured, ?_, ?_⟩
  · cases reason : s.interruptedReason with
    | none =>
      have none := lastFailure_eq_none.mp (valid.reason.symm.trans reason)
      constructor
      · rintro ⟨text, interrupted⟩
        simp only [Supervisor.outcome, reason] at interrupted
        split at interrupted
        · cases interrupted
        · split at interrupted <;> cases interrupted
      · rintro ⟨text, member⟩
        exact absurd member (none text)
    | some text =>
      refine ⟨fun _ => ?_, fun _ => ⟨text, by simp only [Supervisor.outcome, reason]⟩⟩
      by_contra none
      have quiet := lastFailure_eq_none.mpr fun reason member => none ⟨reason, member⟩
      rw [← valid.reason, reason] at quiet
      cases quiet
  · intro none
    have reason : s.interruptedReason = Option.none :=
      valid.reason.trans (lastFailure_eq_none.mpr none)
    -- whatever the loop took was a cancellation
    have took : s.cancelled = true ↔ .cancel ∈ s.processed ∨ .daemonGone ∈ s.processed := by
      rw [valid.cancelled]
      constructor
      · intro some
        obtain ⟨event, member⟩ := List.exists_mem_of_ne_nil _ some
        cases event with
        | cancel => exact .inl member
        | daemonGone => exact .inr member
        | captureFailed reason => exact absurd member (none reason)
      · rintro (member | member)
        · exact List.ne_nil_of_mem member
        · exact List.ne_nil_of_mem member
    constructor
    · rw [← took]
      constructor
      · rintro ⟨signal, outcome⟩
        by_contra idle
        simp only [Supervisor.outcome, reason, idle, if_false] at outcome
        split at outcome <;> cases outcome
      · intro cancelled
        exact ⟨status.signal, by simp only [Supervisor.outcome, reason, cancelled, if_true]⟩
    · intro notCancel notGone
      have idle : s.cancelled = false := by
        rw [← Bool.not_eq_true, took]
        rintro (member | member)
        · exact notCancel member
        · exact notGone member
      refine ⟨status, ended, ?_⟩
      simp only [Supervisor.outcome, reason, idle, Bool.false_eq_true, if_false]
      rfl

def sampleSpawn : SupervisorCommand := .spawn (.argv "ls" []) "/" [] none "sh" 2000

/-- A command that writes "hi" and exits with 0. -/
def sampleCommand : List SupervisorStep :=
  [.begin (some (.ok sampleSpawn)) (.ok 7), .start, .read .stdout (.ok [104, 105]),
   .forward .stdout, .leaderExits { code := some 0, signal := none }, .wait none false,
   .read .stdout (.ok []), .read .stderr (.ok []), .join none, .join none, .joinStdin none,
   .report, .write true, .write true, .write true]

theorem supervisor_protocol_sample :
    ∃ s, supervisor.Reachable s ∧
      s.emitted = [.started 7 7, .output .stdout (.ok [104, 105]), .finished (.exited 0)] ∧
      (s.emitted = [] ∨ Supervisor.Protocol s.emitted) := by
  have traced : (supervisor.run {} sampleCommand).map (·.emitted) =
      some [.started 7 7, .output .stdout (.ok [104, 105]), .finished (.exited 0)] := by
    decide +kernel
  obtain ⟨s, ran, written⟩ := Option.map_eq_some_iff.mp traced
  have reached := System.run_reachable rfl ran
  exact ⟨s, reached, written, (supervisor_protocol reached).1⟩

/-- Nobody reads what the supervisor writes. -/
def sampleUnread : List SupervisorStep :=
  [.begin (some (.ok sampleSpawn)) (.ok 7), .start, .write false, .stopWriter,
   .leaderExits { code := some 0, signal := none }, .message none, .wait none false,
   .read .stdout (.ok []), .read .stderr (.ok []), .join none, .join none, .joinStdin none]

/-- A supervisor that starts a command and returns may have written nothing. -/
theorem supervisor_unread :
    ∃ s, supervisor.Reachable s ∧ s.returned = true ∧
      s.leader = .exited { code := some 0, signal := none } ∧
      ¬ Supervisor.Protocol s.emitted := by
  have traced : (supervisor.run {} sampleUnread).map (fun s => (s.returned, s.leader, s.emitted)) =
      some (true, .exited { code := some 0, signal := none }, []) := by
    decide +kernel
  obtain ⟨s, ran, values⟩ := Option.map_eq_some_iff.mp traced
  simp only [Prod.mk.injEq] at values
  obtain ⟨returned, exited, nothing⟩ := values
  refine ⟨s, System.run_reachable rfl ran, returned, exited, ?_⟩
  rw [nothing]
  intro protocol
  cases protocol

end Loomterm
