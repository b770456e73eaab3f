import Loomterm.Store.Operations

/-!
# The capture writer

One task writes the captured output of all executions (`src/executor.rs:577-667`). It takes
messages from a bounded queue, gathers records in a batch, and writes a batch when it is
full, when a barrier arrives, or when the queue is empty. A failed write is kept in one
slot, which the next barrier takes, whoever sent it.

Here the writer runs on its own, against any sequence of messages, any pattern of failing
writes, and what the other tasks write in between; the engine runs the same functions.
-/

namespace Loomterm

/-- `CAPTURE_QUEUE_DEPTH` (`src/executor.rs:25`). -/
def captureQueueDepth : Nat := 256

/-- `CAPTURE_BATCH_SIZE` (`src/executor.rs:26`). -/
def captureBatchSize : Nat := 64

/-- `CaptureMessage` (`src/executor.rs:29`); a barrier is known by the execution that waits
for its answer. -/
inductive CaptureMessage where
  | record (record : CaptureRecord)
  | barrier (owner : ExecutionId)
  deriving DecidableEq, Repr

/-- Why a batch is written, which says what the writer does next. -/
inductive FlushCause where
  | full
  | barrier (owner : ExecutionId)
  | idle
  deriving DecidableEq, Repr

/-- Where the writer is: in `recv`, at the head of the inner loop, in `flush_capture`, or
about to answer a barrier. -/
inductive WriterPoint where
  | recv
  | poll
  | flush (cause : FlushCause)
  | answer (owner : ExecutionId)
  deriving DecidableEq, Repr

/-- The locals of `capture_writer` (`src/executor.rs:577`). -/
structure Writer where
  records : List CaptureRecord := []
  pendingError : Option String := none
  point : WriterPoint := .recv
  deriving DecidableEq, Repr

namespace Writer

/-- `process_capture_message` up to its flush (`src/executor.rs:617`). -/
def process (w : Writer) : CaptureMessage → Writer
  | .record record =>
      let records := w.records ++ [record]
      { w with records,
               point := if captureBatchSize ≤ records.length then .flush .full else .poll }
  | .barrier owner => { w with point := .flush (.barrier owner) }

/-- `recv` waits for a message; the inner loop ends at a full batch or an empty queue. -/
def receive (w : Writer) (queue : List CaptureMessage) : Option (Writer × List CaptureMessage) :=
  match w.point with
  | .recv =>
    match queue with
    | [] => none
    | message :: rest => some (w.process message, rest)
  | .poll =>
    if w.records.length < captureBatchSize then
      match queue with
      | [] => some ({ w with point := .flush .idle }, [])
      | message :: rest => some (w.process message, rest)
    else some ({ w with point := .flush .idle }, queue)
  | .flush _ => none
  | .answer _ => none

/-- Where the writer goes after a flush. -/
def afterFlush : FlushCause → WriterPoint
  | .full => .poll
  | .barrier owner => .answer owner
  | .idle => .recv

/-- `flush_capture` (`src/executor.rs:643`): the store is not asked for an empty batch. -/
def flush (w : Writer) (cause : FlushCause) (conditions : Conditions) (db : Database) :
    Writer × Database × Option (Except Error (List ExecutionEvent)) :=
  if w.records = [] then ({ w with point := afterFlush cause }, db, none)
  else
    let (result, db') := Store.request (Database.appendCaptureBatch w.records) conditions db
    match result with
    | .ok events => ({ w with records := [], point := afterFlush cause }, db', some (.ok events))
    | .error e =>
        ({ w with records := [], pendingError := some e.toString, point := afterFlush cause },
          db', some (.error e))

/-- The end of `process_capture_message` at a barrier: the slot is emptied and its content
is the answer (`src/executor.rs:634`). -/
def takeError (w : Writer) : Writer × Except Error Unit :=
  ({ w with pendingError := none, point := .poll },
    match w.pendingError with
    | some message => .error (.storageUnavailable message)
    | none => .ok ())

end Writer

/-! ## The writer on its own -/

/-- One thing the writer has done. -/
inductive WriterEvent where
  | wrote (batch : List CaptureRecord)
  | failed (batch : List CaptureRecord)
  | answered (owner : ExecutionId) (result : Except Error Unit)

/-- A writer at work. `old` is the store it found, `sent` are all messages ever queued, and
`trace` is what the writer has done, both in order. -/
structure WriterState where
  db : Database
  old : Database
  queue : List CaptureMessage := []
  writer : Writer := {}
  sent : List CaptureMessage := []
  trace : List WriterEvent := []

/-- Whether the event is one of captured output. -/
def ExecutionEventPayload.isCapture : ExecutionEventPayload → Bool
  | .output _ _ | .captureTruncated _ => true
  | .started _ _ | .finished _ => false

/-- A message is queued, the writer goes on, or another task writes the store: it starts and
finishes executions, and whatever else appends no output and takes no events away. -/
inductive WriterAction where
  | send (message : CaptureMessage)
  | go (conditions : Conditions)
  | other (db : Database) (added : List ExecutionEvent)

instance instDecidableLinked (db : Database) : Decidable db.Linked :=
  decidable_of_iff (db.events.rows.all fun event =>
      (db.executions.find? event.executionId).isSome) (by
    simp only [List.all_eq_true, Option.isSome_iff_exists]
    rfl)

namespace WriterState

/-- The writer's own step. -/
def go (s : WriterState) (conditions : Conditions) : Option WriterState :=
  match s.writer.point with
  | .flush cause =>
      let batch := s.writer.records
      let (writer, db, result) := s.writer.flush cause conditions s.db
      some { s with writer, db, trace := s.trace ++ match result with
        | none => []
        | some (.ok _) => [.wrote batch]
        | some (.error _) => [.failed batch] }
  | .answer owner =>
      let (writer, result) := s.writer.takeError
      some { s with writer, trace := s.trace ++ [.answered owner result] }
  | _ => do
      let (writer, queue) ← s.writer.receive s.queue
      some { s with writer, queue }

def step (s : WriterState) : WriterAction → Option WriterState
  | .send message =>
      if s.queue.length < captureQueueDepth then
        some { s with queue := s.queue ++ [message], sent := s.sent ++ [message] }
      else none
  | .go conditions => s.go conditions
  | .other db added =>
      if db.Linked ∧ db.events.rows = s.db.events.rows ++ added ∧
          ∀ event ∈ added, event.payload.isCapture = false then
        some { s with db }
      else none

end WriterState

/-- The writer of a daemon. -/
def captureWriter : System WriterState WriterAction where
  start s := s.db.Linked ∧ s = { db := s.db, old := s.db }
  step := WriterState.step

end Loomterm
