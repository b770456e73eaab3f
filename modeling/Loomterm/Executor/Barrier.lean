import Loomterm.Executor.Capture

/-!
# What a flush barrier tells

The slot for a failed write is shared by all executions. The answer to a barrier is
therefore about the batches written since the barrier before it, and not about the records
of the execution that sent it. This module says exactly when the two agree.
-/

namespace Loomterm

/-- The record that a message carries. -/
def CaptureMessage.record? : CaptureMessage → Option CaptureRecord
  | .record captured => some captured
  | .barrier _ => none

/-- The records among some messages, in order. -/
def recordsIn (messages : List CaptureMessage) : List CaptureRecord :=
  messages.filterMap CaptureMessage.record?

/-- The records of one execution. -/
def recordsOf (x : ExecutionId) (records : List CaptureRecord) : List CaptureRecord :=
  records.filter fun record => record.executionId = x

namespace WriterEvent

/-- The batch that was tried. -/
def batch : WriterEvent → List CaptureRecord
  | .wrote batch => batch
  | .failed batch => batch
  | .answered _ _ => []

/-- The batch, if it was written. -/
def written : WriterEvent → List CaptureRecord
  | .wrote batch => batch
  | _ => []

/-- How an event changes whether a failure waits to be told. -/
def failing (pending : Bool) : WriterEvent → Bool
  | .wrote _ => pending
  | .failed _ => true
  | .answered _ _ => false

/-- Whether records of `x` were in a batch that failed. -/
def loses (x : ExecutionId) : WriterEvent → Prop
  | .failed batch => recordsOf x batch ≠ []
  | _ => False

end WriterEvent

/-- Whether a batch has failed since a barrier was last answered. -/
def failingSince (trace : List WriterEvent) : Bool := trace.foldl WriterEvent.failing false

/-- Whether a record of `x` has been in a batch that failed. -/
def Lost (x : ExecutionId) (trace : List WriterEvent) : Prop :=
  ∃ event ∈ trace, event.loses x

/-- The captured output among some events, in order. -/
def capturedIn (events : List ExecutionEvent) : List (ExecutionId × Int × ExecutionEventPayload) :=
  (events.filter fun event => event.payload.isCapture).map ExecutionEvent.content

/-- What the writer keeps to. The first part is the queue's order: what was sent is what
was taken, then what waits. -/
structure WriterState.Valid (s : WriterState) (taken : List CaptureMessage) : Prop where
  linked : s.db.Linked
  fifo : s.sent = taken ++ s.queue
  gathered : recordsIn taken = s.trace.flatMap WriterEvent.batch ++ s.writer.records
  durable : capturedIn s.db.events.rows = capturedIn s.old.events.rows ++
    (s.trace.flatMap WriterEvent.written).map CaptureRecord.content
  slot : s.writer.pendingError.isSome = failingSince s.trace
  empty : ∀ owner, s.writer.point = .answer owner → s.writer.records = []
  last : ∀ owner, s.writer.point = .answer owner ∨ s.writer.point = .flush (.barrier owner) →
    ∃ before, taken = before ++ [.barrier owner]

@[simp] theorem recordsIn_append (first second : List CaptureMessage) :
    recordsIn (first ++ second) = recordsIn first ++ recordsIn second :=
  List.filterMap_append

@[simp] theorem recordsOf_append (x : ExecutionId) (first second : List CaptureRecord) :
    recordsOf x (first ++ second) = recordsOf x first ++ recordsOf x second :=
  List.filter_append ..

@[simp] theorem failingSince_append_singleton (trace : List WriterEvent) (event : WriterEvent) :
    failingSince (trace ++ [event]) = event.failing (failingSince trace) := by
  simp [failingSince, List.foldl_append]

@[simp] theorem capturedIn_append (first second : List ExecutionEvent) :
    capturedIn (first ++ second) = capturedIn first ++ capturedIn second := by
  unfold capturedIn
  rw [List.filter_append, List.map_append]

theorem capturedIn_others {events : List ExecutionEvent}
    (others : ∀ event ∈ events, event.payload.isCapture = false) : capturedIn events = [] := by
  unfold capturedIn
  rw [List.filter_eq_nil_iff.mpr fun event member => by simp [others event member], List.map_nil]

theorem CaptureRecord.payload_isCapture (record : CaptureRecord) :
    record.payload.isCapture = true := by
  cases record <;> rfl

/-- The events that records become are all captured output. -/
theorem capturedIn_records {events : List ExecutionEvent} {records : List CaptureRecord}
    (contents : events.map ExecutionEvent.content = records.map CaptureRecord.content) :
    capturedIn events = records.map CaptureRecord.content := by
  have all : ∀ event ∈ events, event.payload.isCapture = true := by
    intro event member
    have there := List.mem_map_of_mem (f := ExecutionEvent.content) member
    rw [contents] at there
    obtain ⟨record, -, same⟩ := List.mem_map.mp there
    have payload : record.payload = event.payload := congrArg (fun c => c.2.2) same
    exact payload ▸ record.payload_isCapture
  unfold capturedIn
  rw [List.filter_eq_self.mpr all, contents]

namespace WriterState.Valid

variable {s : WriterState} {taken : List CaptureMessage}

/-- Taking a message from the queue. -/
theorem receive (valid : s.Valid taken) {writer : Writer} {queue : List CaptureMessage}
    (received : s.writer.receive s.queue = some (writer, queue)) :
    ∃ taken', WriterState.Valid { s with writer, queue } taken' := by
  -- a record joins the batch, a barrier leaves it as it is
  have processed : ∀ message rest, s.queue = message :: rest →
      WriterState.Valid { s with writer := s.writer.process message, queue := rest }
        (taken ++ [message]) := by
    intro message rest queued
    have fifo : s.sent = (taken ++ [message]) ++ rest := by
      rw [valid.fifo, queued, List.append_assoc]
      rfl
    cases message with
    | record record =>
      refine ⟨valid.linked, fifo, ?_, valid.durable, valid.slot, ?_, ?_⟩
      · rw [recordsIn_append, valid.gathered, List.append_assoc]
        simp [recordsIn, CaptureMessage.record?, Writer.process]
      · intro owner answering
        simp only [Writer.process] at answering
        split at answering <;> cases answering
      · rintro owner (answering | flushing)
        · simp only [Writer.process] at answering
          split at answering <;> cases answering
        · simp only [Writer.process] at flushing
          split at flushing <;> cases flushing
    | barrier owner =>
      refine ⟨valid.linked, fifo, ?_, valid.durable, valid.slot, ?_, ?_⟩
      · rw [recordsIn_append, valid.gathered]
        simp [recordsIn, CaptureMessage.record?, Writer.process]
      · rintro other ⟨⟩
      · rintro other (answering | flushing)
        · cases answering
        · cases flushing
          exact ⟨taken, rfl⟩
  have idle : WriterState.Valid { s with writer := { s.writer with point := .flush .idle } }
      taken := by
    refine ⟨valid.linked, valid.fifo, valid.gathered, valid.durable, valid.slot, ?_, ?_⟩
    · rintro owner ⟨⟩
    · rintro owner (⟨⟨⟩⟩ | ⟨⟨⟩⟩)
  unfold Writer.receive at received
  cases point : s.writer.point with
  | recv =>
    simp only [point] at received
    cases queued : s.queue with
    | nil =>
      rw [queued] at received
      cases received
    | cons message rest =>
      rw [queued] at received
      cases received
      exact ⟨_, processed message _ queued⟩
  | poll =>
    simp only [point] at received
    by_cases room : s.writer.records.length < captureBatchSize
    · rw [if_pos room] at received
      cases queued : s.queue with
      | nil =>
        rw [queued] at received
        cases received
        exact ⟨taken, queued ▸ idle⟩
      | cons message rest =>
        rw [queued] at received
        cases received
        exact ⟨_, processed message _ queued⟩
    · rw [if_neg room] at received
      cases received
      exact ⟨taken, idle⟩
  | flush cause =>
    rw [point] at received
    cases received
  | answer owner =>
    rw [point] at received
    cases received

/-- Writing a batch, or failing to. -/
theorem flush (valid : s.Valid taken) {cause : FlushCause} {conditions : Conditions}
    (flushing : s.writer.point = .flush cause) {s' : WriterState}
    (went : s.go conditions = some s') : s'.Valid taken := by
  -- after the flush the writer answers only the barrier that caused it
  have last : ∀ owner, Writer.afterFlush cause = .answer owner ∨
      Writer.afterFlush cause = .flush (.barrier owner) →
      ∃ before, taken = before ++ [.barrier owner] := by
    intro owner next
    cases cause with
    | full => obtain (⟨⟨⟩⟩ | ⟨⟨⟩⟩) := next
    | idle => obtain (⟨⟨⟩⟩ | ⟨⟨⟩⟩) := next
    | barrier other =>
      obtain (⟨⟨⟩⟩ | ⟨⟨⟩⟩) := next
      exact valid.last owner (.inr flushing)
  simp only [go, flushing] at went
  unfold Writer.flush at went
  by_cases none : s.writer.records = []
  · simp only [none, if_true, List.append_nil, Option.some.injEq] at went
    subst went
    refine ⟨valid.linked, valid.fifo, ?_, valid.durable, valid.slot, fun _ _ => rfl, last⟩
    rw [valid.gathered, none]
  · simp only [none, if_false] at went
    have batched := Database.request_of_post
      (Database.post_appendCaptureBatch valid.linked s.writer.records)
      (fun message => ⟨rfl, .inl rfl⟩) conditions
    cases asked : Store.request (Database.appendCaptureBatch s.writer.records) conditions
        s.db with
    | mk result db =>
      rw [asked] at batched went
      cases result with
      | ok events =>
        cases went
        obtain ⟨effect, rows, contents⟩ := batched
        refine ⟨effect.linked, valid.fifo, ?_, ?_, ?_, fun _ _ => rfl, last⟩
        · rw [valid.gathered, List.flatMap_append, List.append_nil]
          simp [WriterEvent.batch]
        · rw [rows, capturedIn_append, valid.durable, capturedIn_records contents,
            List.flatMap_append]
          simp [WriterEvent.written]
        · rw [failingSince_append_singleton]
          exact valid.slot
      | error e =>
        cases went
        obtain ⟨rfl, _⟩ := batched
        refine ⟨valid.linked, valid.fifo, ?_, ?_, ?_, fun _ _ => rfl, last⟩
        · rw [valid.gathered, List.flatMap_append, List.append_nil]
          simp [WriterEvent.batch]
        · rw [List.flatMap_append]
          simpa [WriterEvent.written] using valid.durable
        · rw [failingSince_append_singleton]
          rfl

/-- Answering a barrier empties the slot. -/
theorem answer (valid : s.Valid taken) {owner : ExecutionId} {conditions : Conditions}
    (answering : s.writer.point = .answer owner) {s' : WriterState}
    (went : s.go conditions = some s') : s'.Valid taken := by
  simp only [go, answering, Writer.takeError, Option.some.injEq] at went
  subst went
  refine ⟨valid.linked, valid.fifo, ?_, ?_, ?_, ?_, ?_⟩
  · rw [valid.gathered, List.flatMap_append]
    simp [WriterEvent.batch]
  · rw [List.flatMap_append]
    simpa [WriterEvent.written] using valid.durable
  · rw [failingSince_append_singleton]
    rfl
  · rintro other ⟨⟩
  · rintro other (⟨⟨⟩⟩ | ⟨⟨⟩⟩)

theorem send (valid : s.Valid taken) {message : CaptureMessage} :
    WriterState.Valid { s with queue := s.queue ++ [message], sent := s.sent ++ [message] }
      taken := by
  refine ⟨valid.linked, ?_, valid.gathered, valid.durable, valid.slot, valid.empty, valid.last⟩
  rw [valid.fifo, List.append_assoc]

/-- What the other tasks write is no captured output. -/
theorem other (valid : s.Valid taken) {db : Database} {added : List ExecutionEvent}
    (linked : db.Linked) (appended : db.events.rows = s.db.events.rows ++ added)
    (others : ∀ event ∈ added, event.payload.isCapture = false) :
    WriterState.Valid { s with db } taken := by
  refine ⟨linked, valid.fifo, valid.gathered, ?_, valid.slot, valid.empty, valid.last⟩
  rw [appended, capturedIn_append, capturedIn_others others, List.append_nil]
  exact valid.durable

end WriterState.Valid

/-- Every state of the writer is valid. -/
theorem captureWriter_valid {s : WriterState} (reached : captureWriter.Reachable s) :
    ∃ taken, s.Valid taken := by
  refine reached.invariant (fun s => ∃ taken, WriterState.Valid s taken) ?_ ?_
  · rintro s ⟨linked, same⟩
    rw [same]
    refine ⟨[], linked, rfl, rfl, (List.append_nil _).symm, rfl, ?_, ?_⟩
    · rintro owner ⟨⟩
    · rintro owner (⟨⟨⟩⟩ | ⟨⟨⟩⟩)
  · intro s action s' _ valid _ stepped
    obtain ⟨taken, valid⟩ := valid
    cases action with
    | send message =>
      simp only [captureWriter, WriterState.step] at stepped
      split at stepped
      · cases stepped
        exact ⟨taken, valid.send⟩
      · cases stepped
    | other db added =>
      simp only [captureWriter, WriterState.step] at stepped
      split at stepped
      · rename_i wrote
        cases stepped
        exact ⟨taken, valid.other wrote.1 wrote.2.1 wrote.2.2⟩
      · cases stepped
    | go conditions =>
      have went : s.go conditions = some s' := stepped
      cases point : s.writer.point with
      | flush cause => exact ⟨taken, valid.flush point went⟩
      | answer owner => exact ⟨taken, valid.answer point went⟩
      | recv =>
        simp only [WriterState.go, point] at went
        obtain ⟨⟨writer, queue⟩, received, same⟩ := Option.bind_eq_some_iff.mp went
        cases same
        exact valid.receive received
      | poll =>
        simp only [WriterState.go, point] at went
        obtain ⟨⟨writer, queue⟩, received, same⟩ := Option.bind_eq_some_iff.mp went
        cases same
        exact valid.receive received

theorem lost_cons {x : ExecutionId} {event : WriterEvent} {rest : List WriterEvent} :
    Lost x (event :: rest) ↔ event.loses x ∨ Lost x rest := by
  unfold Lost
  simp only [List.mem_cons, exists_eq_or_imp]

/-- What was written of `x` is what was tried of it exactly when nothing of it was lost. -/
theorem recordsOf_written_iff {x : ExecutionId} {trace : List WriterEvent} :
    recordsOf x (trace.flatMap WriterEvent.written) =
      recordsOf x (trace.flatMap WriterEvent.batch) ↔ ¬ Lost x trace := by
  have shorter : ∀ trace : List WriterEvent,
      (recordsOf x (trace.flatMap WriterEvent.written)).length ≤
        (recordsOf x (trace.flatMap WriterEvent.batch)).length := by
    intro trace
    induction trace with
    | nil => exact Nat.le_refl _
    | cons event rest ih =>
      simp only [List.flatMap_cons, recordsOf_append, List.length_append]
      cases event <;> simp only [WriterEvent.written, WriterEvent.batch] <;>
        simp [recordsOf] at ih ⊢ <;> omega
  induction trace with
  | nil => simp [Lost]
  | cons event rest ih =>
    rw [lost_cons, not_or, List.flatMap_cons, List.flatMap_cons, recordsOf_append,
      recordsOf_append, ← propext ih]
    cases event with
    | wrote batch => simp [WriterEvent.written, WriterEvent.batch, WriterEvent.loses]
    | answered owner result => simp [WriterEvent.written, WriterEvent.batch, WriterEvent.loses]
    | failed batch =>
      have less := shorter rest
      show recordsOf x [] ++ _ = recordsOf x batch ++ _ ↔ ¬ recordsOf x batch ≠ [] ∧ _
      rw [not_not]
      constructor
      · intro same
        have lengths := congrArg List.length same
        simp only [List.length_append, recordsOf, List.filter_nil, List.length_nil] at lengths
        simp only [recordsOf] at less
        have none : recordsOf x batch = [] := by
          apply List.length_eq_zero_iff.mp
          simp only [recordsOf]
          omega
        rw [none] at same
        exact ⟨none, same⟩
      · rintro ⟨none, same⟩
        rw [none]
        exact same

/-- The captured output of one execution. -/
theorem capturedIn_log (db : Database) (x : ExecutionId) :
    capturedIn (db.log x) =
      (capturedIn db.events.rows).filter fun content => content.1 = x := by
  unfold capturedIn Database.log
  rw [List.filter_map, List.filter_filter, List.filter_filter]
  congr 1
  apply List.filter_congr
  intro event _
  exact Bool.and_comm ..

/-- What was captured of `x` since the start are its written records. -/
theorem WriterState.Valid.log_content {s : WriterState} {taken : List CaptureMessage}
    (valid : s.Valid taken) (x : ExecutionId) :
    capturedIn (s.db.log x) = capturedIn (s.old.log x) ++
      (recordsOf x (s.trace.flatMap WriterEvent.written)).map CaptureRecord.content := by
  rw [capturedIn_log, capturedIn_log, valid.durable, List.filter_append, List.filter_map]
  rfl

theorem CaptureRecord.content_injective : Function.Injective CaptureRecord.content := by
  intro first second same
  cases first <;> cases second <;>
    simp_all [CaptureRecord.content, CaptureRecord.executionId, CaptureRecord.timestampMs,
      CaptureRecord.payload]

/-- When the writer is about to answer a barrier of `x`, an `Ok` means that all that `x`
sent before it is durable, as the output that its log has got since the start, if and only if no
batch with a record of `x` has ever failed or some batch has failed since the previous answer. -/
theorem barrier_truthful_iff {s : WriterState} (reached : captureWriter.Reachable s)
    {x : ExecutionId} (answering : s.writer.point = .answer x) :
    ∃ before, s.sent = before ++ .barrier x :: s.queue ∧
      ((s.writer.takeError.2 = .ok () → capturedIn (s.db.log x) = capturedIn (s.old.log x) ++
          (recordsOf x (recordsIn before)).map CaptureRecord.content) ↔
        (¬ Lost x s.trace ∨ failingSince s.trace = true)) := by
  obtain ⟨taken, valid⟩ := captureWriter_valid reached
  obtain ⟨before, rfl⟩ := valid.last x (.inl answering)
  have tried : recordsIn before = s.trace.flatMap WriterEvent.batch := by
    have all := valid.gathered
    rw [valid.empty x answering, recordsIn_append, List.append_nil] at all
    exact (List.append_nil _).symm.trans all
  refine ⟨before, by rw [valid.fifo, List.append_assoc]; rfl, ?_⟩
  have told : s.writer.takeError.2 = .ok () ↔ failingSince s.trace = false := by
    rw [← valid.slot]
    unfold Writer.takeError
    cases s.writer.pendingError <;> simp
  have whole : capturedIn (s.db.log x) = capturedIn (s.old.log x) ++
      (recordsOf x (recordsIn before)).map CaptureRecord.content ↔ ¬ Lost x s.trace := by
    rw [valid.log_content, tried, ← recordsOf_written_iff, List.append_cancel_left_eq]
    exact (List.map_injective_iff.mpr CaptureRecord.content_injective).eq_iff
  rw [told, whole]
  cases failingSince s.trace <;> simp

/-- Two queued executions and no events. -/
def sampleQueued : Database :=
  let request : ExecutionRequest := { workspaceId := "w", command := .argv "make" [] }
  { sampleDatabase with
    executions := ⟨[Database.queuedRow 1 "a" request "/demo",
      Database.queuedRow 2 "b" request "/demo"], by decide⟩ }

/-- The batch with the output of `a` fails, and the barrier of `b` takes the error. -/
def sampleMessages : List WriterAction :=
  [.send (.record (.output "a" 4 .stdout [104])), .go {}, .go {},
   .go { faults := [some "disk full"] },
   .send (.barrier "b"), .go {}, .go {}, .go {}, .go {}, .go {},
   .send (.barrier "a"), .go {}, .go {}]

theorem sampleMessages_run : ∃ s, captureWriter.Reachable s ∧ s.writer.point = .answer "a" ∧
    s.writer.takeError.2 = .ok () ∧ s.db.log "a" = [] ∧ s.sent =
      [.record (.output "a" 4 .stdout [104]), .barrier "b"] ++ .barrier "a" :: s.queue := by
  have replay : (captureWriter.run { db := sampleQueued, old := sampleQueued } sampleMessages).map
      (fun s => (s.writer, s.db.log "a", s.sent, s.queue)) =
        some ({ point := .answer "a" }, [], [.record (.output "a" 4 .stdout [104]),
          .barrier "b", .barrier "a"], []) := by decide +kernel
  obtain ⟨s, ran, shape⟩ := Option.map_eq_some_iff.mp replay
  simp only [Prod.mk.injEq] at shape
  obtain ⟨writer, log, sent, queue⟩ := shape
  have linked : sampleQueued.Linked := by
    intro event member
    cases member
  have start : captureWriter.start { db := sampleQueued, old := sampleQueued } := ⟨linked, rfl⟩
  refine ⟨s, System.run_reachable start ran, ?_, ?_, log, ?_⟩
  · rw [writer]
  · rw [writer]
    rfl
  · rw [sent, queue]
    rfl

/-- A barrier may be answered with `Ok` although output of its own execution was lost. -/
theorem barrier_not_truthful : ¬ ∀ s x before record, captureWriter.Reachable s →
    s.writer.point = .answer x → s.sent = before ++ .barrier x :: s.queue →
    s.writer.takeError.2 = .ok () → record ∈ recordsOf x (recordsIn before) →
    record.content ∈ (s.db.log x).map ExecutionEvent.content := by
  intro claim
  obtain ⟨s, reached, answering, told, log, sent⟩ := sampleMessages_run
  have member := claim s "a" _ (.output "a" 4 .stdout [104]) reached answering sent told
    (by decide)
  rw [log] at member
  cases member

theorem barrier_truthful_iff_sample : ∃ s : WriterState, s.writer.point = .answer "a" ∧
    ∃ before, s.sent = before ++ .barrier "a" :: s.queue ∧
      ((s.writer.takeError.2 = .ok () → capturedIn (s.db.log "a") = capturedIn (s.old.log "a") ++
          (recordsOf "a" (recordsIn before)).map CaptureRecord.content) ↔
        (¬ Lost "a" s.trace ∨ failingSince s.trace = true)) := by
  obtain ⟨s, reached, answering, _⟩ := sampleMessages_run
  exact ⟨s, answering, barrier_truthful_iff reached answering⟩

end Loomterm
