import Loomterm.Misc.System
import Loomterm.Store.Database
import Mathlib.Algebra.Order.Ring.Int
import Mathlib.Logic.Function.Basic

/-!
# The journal

What the execution tables are for: each execution has a row and a log, and its record
changes in one of six ways. The operations of the store are shown elsewhere to be runs of
these changes; here the changes are shown to keep the numbering and the counters of every
log, and the lifecycle of every execution.
-/

namespace Loomterm

namespace CaptureRecord

def timestampMs : CaptureRecord → Int
  | .output _ now _ _ => now
  | .truncated _ now _ => now

/-- The event that a record becomes. -/
def payload : CaptureRecord → ExecutionEventPayload
  | .output _ _ stream data => .output stream data
  | .truncated _ _ limitBytes => .captureTruncated limitBytes

/-- What a record changes in the counters of its row. -/
def account : CaptureRecord → ExecutionRow → ExecutionRow
  | .output _ _ _ data, row => { row with capturedBytes := row.capturedBytes + data.length }
  | .truncated _ _ _, row => { row with outputTruncated := true }

/-- The event that a record becomes, apart from its number. -/
def content (record : CaptureRecord) : ExecutionId × Int × ExecutionEventPayload :=
  (record.executionId, record.timestampMs, record.payload)

end CaptureRecord

/-- An event apart from its number. -/
def ExecutionEvent.content (event : ExecutionEvent) : ExecutionId × Int × ExecutionEventPayload :=
  (event.executionId, event.timestampMs, event.payload)

/-- One execution: its row, and its events in the order they were written. -/
structure ExecutionRecord where
  row : ExecutionRow
  log : List ExecutionEvent

namespace ExecutionRecord

/-- Writes one event under the next sequence number, and `set`s the row. -/
def push (record : ExecutionRecord) (now : Int) (payload : ExecutionEventPayload)
    (set : ExecutionRow → ExecutionRow) : ExecutionRecord where
  row := { set record.row with lastSeq := record.row.lastSeq + 1 }
  log := record.log ++ [⟨record.row.id, record.row.lastSeq + 1, now, payload⟩]

def start (record : ExecutionRecord) (now : Int) (pid : Nat) (pgid : Int) : ExecutionRecord :=
  record.push now (.started pid pgid) fun row =>
    { row with state := .running, startedAtMs := some now, pid := some pid, pgid := some pgid }

def capture (record : ExecutionRecord) (captured : CaptureRecord) : ExecutionRecord :=
  record.push captured.timestampMs captured.payload captured.account

def finish (record : ExecutionRecord) (now : Int) (state : ExecutionState)
    (outcome : ExecutionOutcome) : ExecutionRecord :=
  record.push now (.finished outcome) fun row =>
    { row with state := state, endedAtMs := some now, outcome := some outcome }

/-- Drops the link to a deleted session. -/
def unlink (record : ExecutionRecord) (session : SessionId) : ExecutionRecord :=
  if record.row.sessionId = some session then
    { record with row := { record.row with
        sessionId := none, initiator := { record.row.initiator with sessionId := none } } }
  else record

end ExecutionRecord

/-- The record of every execution that has one. -/
abbrev Records := ExecutionId → Option ExecutionRecord

/-- The ways in which records change. -/
inductive Change where
  | create (now : Int) (id : ExecutionId) (request : ExecutionRequest) (cwd : String)
  | start (id : ExecutionId) (now : Int) (pid : Nat) (pgid : Int)
  | capture (record : CaptureRecord)
  | finish (id : ExecutionId) (now : Int) (state : ExecutionState) (outcome : ExecutionOutcome)
  | remove (id : ExecutionId)
  | unlink (session : SessionId)

/-- The effect of a change on one execution. Only a queued execution starts, only one
that is not terminal finishes, and only a terminal one is removed; output is captured
in any state. A log ends before its numbers leave the `i64` range. -/
inductive RecordStep (id : ExecutionId) :
    Change → Option ExecutionRecord → Option ExecutionRecord → Prop
  | idle {c : Change} {r : Option ExecutionRecord} : RecordStep id c r r
  | create {now : Int} {request : ExecutionRequest} {cwd : String} :
      RecordStep id (.create now id request cwd) none
        (some ⟨Database.queuedRow now id request cwd, []⟩)
  | start {record : ExecutionRecord} {now : Int} {pid : Nat} {pgid : Int} :
      record.row.state = .queued → record.row.lastSeq + 1 < 2 ^ 63 →
      RecordStep id (.start id now pid pgid) (some record) (some (record.start now pid pgid))
  | capture {record : ExecutionRecord} {captured : CaptureRecord} :
      captured.executionId = id → record.row.lastSeq + 1 < 2 ^ 63 →
      RecordStep id (.capture captured) (some record) (some (record.capture captured))
  | finish {record : ExecutionRecord} {now : Int} {state : ExecutionState}
      {outcome : ExecutionOutcome} :
      record.row.state.isTerminal = false → record.row.lastSeq + 1 < 2 ^ 63 →
      RecordStep id (.finish id now state outcome) (some record)
        (some (record.finish now state outcome))
  | remove {record : ExecutionRecord} :
      record.row.state.isTerminal = true → RecordStep id (.remove id) (some record) none
  | unlink {record : ExecutionRecord} {session : SessionId} :
      RecordStep id (.unlink session) (some record) (some (record.unlink session))

namespace Change

/-- Rewrites the record of `id`, if there is one that meets `guard`. -/
def rewrite (records : Records) (id : ExecutionId) (guard : ExecutionRecord → Bool)
    (f : ExecutionRecord → Option ExecutionRecord) : Option Records :=
  match records id with
  | none => none
  | some record => if guard record then some (Function.update records id (f record)) else none

/-- Applies a change to the records; `none` where it is not permitted. -/
def apply (records : Records) : Change → Option Records
  | .create now id request cwd =>
      match records id with
      | some _ => none
      | none => some (Function.update records id
          (some ⟨Database.queuedRow now id request cwd, []⟩))
  | .start id now pid pgid =>
      rewrite records id
        (fun record => record.row.state = .queued && decide (record.row.lastSeq + 1 < 2 ^ 63))
        fun record => some (record.start now pid pgid)
  | .capture captured =>
      rewrite records captured.executionId
        (fun record => decide (record.row.lastSeq + 1 < 2 ^ 63))
        fun record => some (record.capture captured)
  | .finish id now state outcome =>
      rewrite records id
        (fun record => !record.row.state.isTerminal && decide (record.row.lastSeq + 1 < 2 ^ 63))
        fun record => some (record.finish now state outcome)
  | .remove id => rewrite records id (fun record => record.row.state.isTerminal) fun _ => none
  | .unlink session => some fun id => (records id).map (·.unlink session)

theorem rewrite_eq_some {records records' : Records} {id : ExecutionId}
    {guard : ExecutionRecord → Bool} {f : ExecutionRecord → Option ExecutionRecord} :
    rewrite records id guard f = some records' ↔
      ∃ record, records id = some record ∧ guard record = true ∧
        records' = Function.update records id (f record) := by
  unfold rewrite
  cases found : records id with
  | none =>
    constructor
    · rintro ⟨⟩
    · rintro ⟨_, ⟨⟩, _⟩
  | some record =>
    by_cases met : guard record = true
    · simp only [met, if_true, Option.some.injEq]
      constructor
      · rintro rfl
        exact ⟨record, rfl, met, rfl⟩
      · rintro ⟨_, rfl, _, rfl⟩
        rfl
    · constructor
      · simp [met]
      · rintro ⟨_, ⟨⟩, held, _⟩
        exact absurd held met

theorem apply_create {records : Records} {now : Int} {id : ExecutionId}
    {request : ExecutionRequest} {cwd : String} (absent : records id = none) :
    apply records (.create now id request cwd) =
      some (Function.update records id (some ⟨Database.queuedRow now id request cwd, []⟩)) := by
  simp only [apply, absent]

/-- A change acts on each execution by its own step. -/
theorem apply_record {records records' : Records} {c : Change}
    (applied : c.apply records = some records') (id : ExecutionId) :
    RecordStep id c (records id) (records' id) := by
  -- away from the rewritten execution nothing changes
  have away : ∀ {own : ExecutionId} {value : Option ExecutionRecord},
      records' = Function.update records own value → id ≠ own →
      RecordStep id c (records id) (records' id) := by
    intro own value same different
    rw [same, Function.update_of_ne different]
    exact .idle
  cases c with
  | create now own request cwd =>
    simp only [apply] at applied
    cases found : records own with
    | some record => simp [found] at applied
    | none =>
      rw [found] at applied
      have same := (Option.some.inj applied).symm
      by_cases equal : id = own
      · subst equal
        rw [same, Function.update_self, found]
        exact .create
      · exact away same equal
  | start own now pid pgid =>
    obtain ⟨record, found, guard, same⟩ := rewrite_eq_some.mp applied
    by_cases equal : id = own
    · subst equal
      simp only [Bool.and_eq_true, decide_eq_true_eq] at guard
      rw [same, Function.update_self, found]
      exact .start guard.1 guard.2
    · exact away same equal
  | capture captured =>
    obtain ⟨record, found, guard, same⟩ := rewrite_eq_some.mp applied
    by_cases equal : id = captured.executionId
    · subst equal
      rw [same, Function.update_self, found]
      exact .capture rfl (of_decide_eq_true guard)
    · exact away same equal
  | finish own now state outcome =>
    obtain ⟨record, found, guard, same⟩ := rewrite_eq_some.mp applied
    by_cases equal : id = own
    · subst equal
      simp only [Bool.and_eq_true, Bool.not_eq_true', decide_eq_true_eq] at guard
      rw [same, Function.update_self, found]
      exact .finish guard.1 guard.2
    · exact away same equal
  | remove own =>
    obtain ⟨record, found, guard, same⟩ := rewrite_eq_some.mp applied
    by_cases equal : id = own
    · subst equal
      rw [same, Function.update_self, found]
      exact .remove guard
    · exact away same equal
  | unlink session =>
    have same : records' id = (records id).map (·.unlink session) := by
      rw [← Option.some.inj applied]
    rw [same]
    cases records id with
    | none => exact .idle
    | some record => exact .unlink

end Change

/-- The journal of a fresh store, and its changes. -/
def journal : System Records Change where
  start records := records = fun _ => none
  step records c := c.apply records

/-! ## Numbering and counters -/

/-- The bytes of an output event. -/
def ExecutionEventPayload.bytes : ExecutionEventPayload → Nat
  | .output _ data => data.length
  | _ => 0

/-- Whether an event says that output was cut off. -/
def ExecutionEventPayload.isTruncated : ExecutionEventPayload → Bool
  | .captureTruncated _ => true
  | _ => false

/-- The events of a record carry the numbers `1 .. last_seq` in this order, and the
counters of its row are those of its log. -/
structure ExecutionRecord.WellFormed (id : ExecutionId) (record : ExecutionRecord) : Prop where
  rowId : record.row.id = id
  owner : ∀ event ∈ record.log, event.executionId = id
  seqs : record.log.map ExecutionEvent.seq = List.range' 1 record.row.lastSeq
  bound : record.row.lastSeq < 2 ^ 63
  captured : record.row.capturedBytes = (record.log.map fun event => event.payload.bytes).sum
  truncated : record.row.outputTruncated = record.log.any fun event => event.payload.isTruncated

namespace ExecutionRecord.WellFormed

variable {id : ExecutionId} {record : ExecutionRecord}

/-- Writing an event keeps a record well formed when `set` accounts for its payload. -/
theorem push (valid : record.WellFormed id) {now : Int} {payload : ExecutionEventPayload}
    {set : ExecutionRow → ExecutionRow} (small : record.row.lastSeq + 1 < 2 ^ 63)
    (sameId : (set record.row).id = record.row.id)
    (bytes : (set record.row).capturedBytes = record.row.capturedBytes + payload.bytes)
    (flag : (set record.row).outputTruncated =
      (record.row.outputTruncated || payload.isTruncated)) :
    (record.push now payload set).WellFormed id where
  rowId := sameId.trans valid.rowId
  owner := by
    intro event member
    rcases List.mem_append.mp member with old | new
    · exact valid.owner event old
    · rw [List.mem_singleton.mp new]
      exact valid.rowId
  seqs := by
    simp only [ExecutionRecord.push, List.map_append, List.map_singleton, valid.seqs]
    rw [List.range'_concat]
    simp [Nat.add_comm]
  bound := small
  captured := by
    simp only [ExecutionRecord.push, List.map_append, List.sum_append, bytes, valid.captured]
    simp
  truncated := by
    simp only [ExecutionRecord.push, List.any_append, flag, valid.truncated]
    simp

theorem start (valid : record.WellFormed id) {now : Int} {pid : Nat} {pgid : Int}
    (small : record.row.lastSeq + 1 < 2 ^ 63) : (record.start now pid pgid).WellFormed id :=
  valid.push small rfl (by simp [ExecutionEventPayload.bytes])
    (by simp [ExecutionEventPayload.isTruncated])

theorem capture (valid : record.WellFormed id) {captured : CaptureRecord}
    (small : record.row.lastSeq + 1 < 2 ^ 63) : (record.capture captured).WellFormed id := by
  apply valid.push small
  · cases captured <;> rfl
  · cases captured <;> rfl
  · cases captured with
    | output => exact (Bool.or_false _).symm
    | truncated => exact (Bool.or_true _).symm

theorem finish (valid : record.WellFormed id) {now : Int} {state : ExecutionState}
    {outcome : ExecutionOutcome} (small : record.row.lastSeq + 1 < 2 ^ 63) :
    (record.finish now state outcome).WellFormed id :=
  valid.push small rfl (by simp [ExecutionEventPayload.bytes])
    (by simp [ExecutionEventPayload.isTruncated])

theorem unlink (valid : record.WellFormed id) {session : SessionId} :
    (record.unlink session).WellFormed id := by
  unfold ExecutionRecord.unlink
  split
  · exact ⟨valid.rowId, valid.owner, valid.seqs, valid.bound, valid.captured, valid.truncated⟩
  · exact valid

theorem created {now : Int} {request : ExecutionRequest} {cwd : String} :
    ExecutionRecord.WellFormed id ⟨Database.queuedRow now id request cwd, []⟩ :=
  ⟨rfl, by simp, rfl, Nat.two_pow_pos 63, rfl, rfl⟩

end ExecutionRecord.WellFormed

/-- Every step of an execution keeps its record well formed. -/
theorem RecordStep.wellFormed {id : ExecutionId} {c : Change} {r r' : Option ExecutionRecord}
    (step : RecordStep id c r r') (valid : ∀ record ∈ r, record.WellFormed id) :
    ∀ record ∈ r', record.WellFormed id := by
  cases step with
  | idle => exact valid
  | create =>
    rintro _ ⟨⟩
    exact .created
  | start _ small =>
    rintro _ ⟨⟩
    exact (valid _ rfl).start small
  | capture _ small =>
    rintro _ ⟨⟩
    exact (valid _ rfl).capture small
  | finish _ small =>
    rintro _ ⟨⟩
    exact (valid _ rfl).finish small
  | remove => rintro _ ⟨⟩
  | unlink =>
    rintro _ ⟨⟩
    exact (valid _ rfl).unlink

/-- All records are well formed. -/
def Records.WellFormed (records : Records) : Prop :=
  ∀ id, ∀ record ∈ records id, record.WellFormed id

theorem Records.wellFormed_run {ok : Records → Change → Prop} {records records' : Records}
    (steps : journal.RunVia ok records records') (valid : records.WellFormed) :
    records'.WellFormed := by
  induction steps with
  | refl => exact valid
  | tail _ last ih =>
    obtain ⟨c, _, applied⟩ := last
    intro id
    exact (Change.apply_record applied id).wellFormed (ih id)

end Loomterm
