import Loomterm.Store.Lifecycle

/-!
# The operations of the store refine the journal

Each operation that writes executions or events is, read through `Database.records`, a
replay of changes of the journal. One rule covers the pattern that all writes of events
share: draw the next number, insert the event, update the row.
-/

namespace Loomterm

namespace Database

/-- The journal that a database holds. -/
def records (db : Database) : Records :=
  fun id => (db.executions.find? id).map fun row => ⟨row, db.log id⟩

/-- Every event belongs to an execution, which is the foreign key of `events`. -/
def Linked (db : Database) : Prop :=
  ∀ event ∈ db.events.rows, ∃ row, db.executions.find? event.executionId = some row

/-- No executions and no events. -/
def Fresh (db : Database) : Prop := db.executions.rows = [] ∧ db.events.rows = []

theorem records_eq_some {db : Database} {id : ExecutionId} {record : ExecutionRecord} :
    db.records id = some record ↔
      db.executions.find? id = some record.row ∧ record.log = db.log id := by
  unfold records
  constructor
  · intro found
    obtain ⟨row, present, rfl⟩ := Option.map_eq_some_iff.mp found
    exact ⟨present, rfl⟩
  · rintro ⟨present, log⟩
    rw [present, ← log]
    rfl

theorem records_eq_none {db : Database} {id : ExecutionId} :
    db.records id = none ↔ db.executions.find? id = none :=
  Option.map_eq_none_iff

theorem record_of_find? {db : Database} {id : ExecutionId} {row : ExecutionRow}
    (found : db.executions.find? id = some row) : db.records id = some ⟨row, db.log id⟩ :=
  records_eq_some.mpr ⟨found, rfl⟩

theorem rowId {db : Database} {id : ExecutionId} {record : ExecutionRecord}
    (found : db.records id = some record) : record.row.id = id :=
  Table.find?_key (records_eq_some.mp found).1

theorem Linked.log_eq_nil {db : Database} (linked : db.Linked) {id : ExecutionId}
    (absent : db.executions.find? id = none) : db.log id = [] := by
  unfold log
  rw [List.filter_eq_nil_iff]
  intro event member own
  obtain ⟨row, found⟩ := linked event member
  rw [of_decide_eq_true own, absent] at found
  cases found

theorem Fresh.linked {db : Database} (fresh : db.Fresh) : db.Linked := by
  intro event member
  rw [fresh.2] at member
  cases member

theorem Fresh.records {db : Database} (fresh : db.Fresh) : db.records = fun _ => none := by
  funext id
  rw [records_eq_none, Table.find?_eq_none, fresh.1]
  intro row member
  cases member

/-- Between two databases the changes happened, one after the other. -/
structure Effect (db : Database) (changes : List Change) (db' : Database) : Prop where
  linked : db'.Linked
  replay : journal.run db.records changes = some db'.records

namespace Effect

theorem refl {db : Database} (linked : db.Linked) : Effect db [] db := ⟨linked, rfl⟩

theorem trans {db middle db' : Database} {first second : List Change}
    (before : Effect db first middle) (after : Effect middle second db') :
    Effect db (first ++ second) db' where
  linked := after.linked
  replay := by
    rw [System.run_append, before.replay]
    exact after.replay

theorem single {db db' : Database} {c : Change} (linked : db'.Linked)
    (applied : c.apply db.records = some db'.records) : Effect db [c] db' where
  linked := linked
  replay := by
    show (c.apply db.records).bind _ = _
    rw [applied]
    rfl

end Effect

/-- Faults that may strike a statement are errors of the database. -/
abbrev StorageFault (e : Error) : Prop := e.isStorage = true

/-- A run keeps to what its program promises under faults of the database. -/
theorem run_of_post {α : Type} {program : Store α} {db : Database}
    {Q : Except Error α → Database → Prop} (promise : Sql.Post StorageFault program db Q)
    (faults : List (Option String)) :
    Q (Store.run program faults db).1 (Store.run program faults db).2 := by
  refine (promise (faults.map (Option.map Error.database)) ?_).1
  intro e member
  obtain ⟨fault, _, raised⟩ := List.mem_map.mp member
  obtain ⟨message, _, rfl⟩ := Option.map_eq_some_iff.mp raised
  rfl

/-- A run that meets no fault keeps to what its program promises. -/
theorem clean_of_post {α : Type} {fault : Error → Prop} {program : Store α}
    {db : Database} {Q : Except Error α → Database → Prop} (promise : Sql.Post fault program db Q) :
    Q (Store.run program [] db).1 (Store.run program [] db).2 :=
  (promise [] fun _ none => (by cases none)).1

/-- A request keeps to the promise of its program, or fails as the actor is gone. -/
theorem request_of_post {α : Type} {program : Store α} {db : Database}
    {Q : Except Error α → Database → Prop} (promise : Sql.Post StorageFault program db Q)
    (gone : ∀ message, Q (.error (.storageUnavailable message)) db) (conditions : Conditions) :
    Q (Store.request program conditions db).1 (Store.request program conditions db).2 := by
  unfold Store.request
  cases conditions.unavailable with
  | some message => exact gone message
  | none => exact run_of_post promise conditions.faults

/-! ## Writing one event -/

/-- What became of writing an event for the execution of `record`. -/
def Written (db : Database) (record : ExecutionRecord) (now : Int)
    (payload : ExecutionEventPayload) (set : ExecutionRow → ExecutionRow) :
    Except Error ExecutionEvent → Database → Prop
  | .ok event, db' =>
      event = ⟨record.row.id, record.row.lastSeq + 1, now, payload⟩ ∧
        record.row.lastSeq + 1 < 2 ^ 63 ∧ db'.Linked ∧
        db'.events.rows = db.events.rows ++ [event] ∧
        db'.records =
          Function.update db.records record.row.id (some (record.push now payload set))
  | .error e, _ => e.isStorage = true

/-- An event and its row written together push the event on the record. -/
theorem records_push {db db' : Database} {record : ExecutionRecord} {id : ExecutionId}
    (found : db.records id = some record) {now : Int} {payload : ExecutionEventPayload}
    {set : ExecutionRow → ExecutionRow}
    (events : db'.events.rows =
      db.events.rows ++ [⟨id, record.row.lastSeq + 1, now, payload⟩])
    (executions : ∀ other, db'.executions.find? other =
      if other = id then some { set record.row with lastSeq := record.row.lastSeq + 1 }
      else db.executions.find? other) :
    db'.records = Function.update db.records id (some (record.push now payload set)) := by
  obtain ⟨_, log⟩ := records_eq_some.mp found
  funext other
  have split : db'.log other = db.log other ++ if other = id then
      [⟨id, record.row.lastSeq + 1, now, payload⟩] else [] := by
    unfold Database.log
    rw [events, List.filter_append]
    by_cases same : other = id
    · simp [same]
    · simp [same, Ne.symm same]
  by_cases same : other = id
  · subst same
    rw [Function.update_self, records_eq_some, executions, if_pos rfl, split, if_pos rfl]
    refine ⟨rfl, ?_⟩
    rw [ExecutionRecord.push, log, rowId found]
  · rw [Function.update_of_ne same]
    unfold records
    rw [executions, if_neg same, split, if_neg same, List.append_nil]

/-- The rule for the pattern of all writes of events. -/
theorem post_write {db : Database} (linked : db.Linked) {id : ExecutionId}
    {record : ExecutionRecord} (found : db.records id = some record) {now : Int}
    {payload : ExecutionEventPayload} {set : ExecutionRow → ExecutionRow}
    {assign : Nat → ExecutionRow → ExecutionRow}
    (same : ∀ seq row, assign seq row = { set row with lastSeq := seq })
    (keeps : ∀ seq row, (assign seq row).id = row.id) :
    Sql.Post StorageFault (do
      let seq ← nextSeq id
      let event : ExecutionEvent := ⟨id, seq, now, payload⟩
      insertEvent event
      updateExecution id (assign seq) (keeps seq)
      pure event) db (Written db record now payload set) := by
  obtain ⟨present, log⟩ := records_eq_some.mp found
  have own : record.row.id = id := rowId found
  refine Sql.post_bind (Sql.post_select (fun e raised => raised) ?_)
  rw [present]
  by_cases small : record.row.lastSeq + 1 < 2 ^ 63
  · simp only [small, if_true]
    refine Sql.post_bind (Sql.post_statement (fun e raised => raised) ?_)
    simp only [present]
    cases inserted : db.events.insert? ⟨id, record.row.lastSeq + 1, now, payload⟩ with
    | none => exact rfl
    | some events =>
      have rows := (Table.insert?_eq_some.mp inserted).2
      refine Sql.post_bind (Sql.post_statement (fun e raised => raised) ?_)
      refine Sql.post_pure ⟨by rw [own], small, ?_, rows, ?_⟩
      · intro event member
        simp only [Table.find?_update]
        rcases List.mem_append.mp (rows ▸ member) with old | new
        · obtain ⟨row, before⟩ := linked event old
          exact ⟨_, by rw [before]; rfl⟩
        · rw [List.mem_singleton.mp new]
          exact ⟨_, by rw [present]; rfl⟩
      · rw [own]
        refine records_push found rows fun other => ?_
        simp only [Table.find?_update]
        by_cases equal : other = id
        · rw [if_pos equal, equal, present]
          simp [own, same]
        · rw [if_neg equal]
          cases before : db.executions.find? other with
          | none => rfl
          | some row =>
            have key := Table.find?_key before
            simp [key, equal]
  · simp only [small, if_false]
    exact rfl

namespace Effect

variable {db db' : Database}

theorem apply {c : Change} (effect : Effect db [c] db') : c.apply db.records = some db'.records := by
  have replay := effect.replay
  change (c.apply db.records).bind _ = _ at replay
  obtain ⟨records, applied, same⟩ := Option.bind_eq_some_iff.mp replay
  rw [applied]
  exact same

/-- The changes of an effect make a run of the journal. -/
theorem runVia (cond : Change → Prop) {changes : List Change} (effect : Effect db changes db')
    (met : ∀ c ∈ changes, cond c) :
    journal.RunVia (fun _ c => cond c) db.records db'.records :=
  System.run_runVia_of_forall effect.replay fun c member _ => met c member

end Effect

/-- A property of one execution's record that every change keeps is kept by their effect. -/
theorem Effect.preserves {db db' : Database} {changes : List Change}
    (effect : Effect db changes db') (id : ExecutionId) {P : Option ExecutionRecord → Prop}
    (step : ∀ c ∈ changes, ∀ r r', RecordStep id c r r' → P r → P r')
    (before : P (db.records id)) : P (db'.records id) := by
  have steps := effect.runVia (· ∈ changes) fun c member => member
  generalize db.records = first at steps before
  generalize db'.records = last at steps
  induction steps with
  | refl => exact before
  | tail _ next ih =>
    obtain ⟨c, member, applied⟩ := next
    exact step c member _ _ (Change.apply_record applied id) ih

/-! ## The operations -/

/-- What became of an operation that moves one execution on with one event, unless its
state is one of those `refused`. -/
def Transition (db : Database) (id : ExecutionId) (refused : ExecutionState → Prop) (now : Int)
    (payload : ExecutionEventPayload) (c : Change) : Except Error ExecutionEvent → Database → Prop
  | .ok event, db' => ∃ record, db.records id = some record ∧ ¬ refused record.row.state ∧
      event = ⟨id, record.row.lastSeq + 1, now, payload⟩ ∧
      db'.events.rows = db.events.rows ++ [event] ∧ Effect db [c] db'
  | .error e, db' => db' = db ∧ (e.isStorage = true ∨
      (e = .executionNotFound id ∧ db.records id = none) ∨
      (e = .alreadyTerminal id ∧ ∃ record, db.records id = some record ∧
        refused record.row.state))

/-- The check and the write inside `mark_running` and `finish`, as one rule. -/
theorem post_transition {db : Database} (linked : db.Linked) {id : ExecutionId}
    {refused : ExecutionState → Prop} [DecidablePred refused] {now : Int}
    {payload : ExecutionEventPayload} {c : Change} (set : ExecutionRow → ExecutionRow)
    (assign : Nat → ExecutionRow → ExecutionRow)
    (applies : ∀ record, db.records id = some record → ¬ refused record.row.state →
      record.row.lastSeq + 1 < 2 ^ 63 →
      c.apply db.records =
        some (Function.update db.records id (some (record.push now payload set))))
    (same : ∀ seq row, assign seq row = { set row with lastSeq := seq })
    (keeps : ∀ seq row, (assign seq row).id = row.id) :
    Sql.Post StorageFault (Sql.transaction do
      let state ← selectState id
      if refused state then
        Sql.fail (.alreadyTerminal id)
      else
        let seq ← nextSeq id
        let event : ExecutionEvent := ⟨id, seq, now, payload⟩
        insertEvent event
        updateExecution id (assign seq) (keeps seq)
        pure event) db (Transition db id refused now payload c) := by
  have failed : ∀ e, StorageFault e → Transition db id refused now payload c (.error e) db :=
    fun e raised => ⟨rfl, .inl raised⟩
  refine Sql.post_transaction failed (Sql.post_bind (Sql.post_select failed ?_))
  cases present : db.executions.find? id with
  | none => exact ⟨rfl, .inr (.inl ⟨rfl, records_eq_none.mpr present⟩)⟩
  | some row =>
    have found := record_of_find? present
    have own : row.id = id := rowId found
    by_cases denied : refused row.state
    · simp only [denied, if_true]
      exact Sql.post_fail ⟨rfl, .inr (.inr ⟨rfl, _, found, denied⟩)⟩
    · simp only [denied]
      refine (post_write linked found same keeps).mono fun r db' written => ?_
      cases r with
      | error e => exact ⟨rfl, .inl written⟩
      | ok event =>
        obtain ⟨shape, small, linked', rows, records⟩ := written
        refine ⟨_, found, denied, ?_, rows, .single linked' ?_⟩
        · rw [shape, own]
        · rw [applies _ found denied small, records, own]

theorem post_markRunning {db : Database} (linked : db.Linked) {now : Int} {id : ExecutionId}
    {pid : Nat} {pgid : Int} :
    Sql.Post StorageFault (markRunning now id pid pgid) db
      (Transition db id (· ≠ .queued) now (.started pid pgid) (.start id now pid pgid)) := by
  refine post_transition linked
    (fun row => { row with state := .running, startedAtMs := some now, pid := some pid,
                           pgid := some pgid })
    (fun seq row => { row with state := .running, startedAtMs := some now, pid := some pid,
                               pgid := some pgid, lastSeq := seq })
    ?_ (fun _ _ => rfl) fun _ _ => rfl
  intro record found queued small
  refine Change.rewrite_eq_some.mpr ⟨record, found, ?_, rfl⟩
  simpa [not_not.mp queued] using small

theorem post_finish {db : Database} (linked : db.Linked) {now : Int} {id : ExecutionId}
    {state : ExecutionState} {outcome : ExecutionOutcome} :
    Sql.Post StorageFault (finish now id state outcome) db
      (Transition db id (·.isTerminal = true) now (.finished outcome)
        (.finish id now state outcome)) := by
  refine post_transition linked
    (fun row => { row with state := state, endedAtMs := some now, outcome := some outcome })
    (fun seq row => { row with state := state, endedAtMs := some now, outcome := some outcome,
                               lastSeq := seq })
    ?_ (fun _ _ => rfl) fun _ _ => rfl
  intro record found live small
  refine Change.rewrite_eq_some.mpr ⟨record, found, ?_, rfl⟩
  simpa [Bool.eq_false_iff.mpr live] using small

/-- What became of reading an execution. -/
def Lookup (db : Database) (now : Int) (id : ExecutionId) :
    Except Error Execution → Database → Prop
  | .ok execution, db' => db' = db ∧ ∃ record, db.records id = some record ∧
      execution = executionFromRow now record.row
  | .error e, db' => db' = db ∧ (e.isStorage = true ∨
      (e = .executionNotFound id ∧ db.records id = none))

theorem post_getExecution {db : Database} {now : Int} {id : ExecutionId} :
    Sql.Post StorageFault (getExecution now id) db (Lookup db now id) := by
  refine Sql.post_select (fun e raised => ⟨rfl, .inl raised⟩) ?_
  cases present : db.executions.find? id with
  | none => exact ⟨rfl, .inr ⟨rfl, records_eq_none.mpr present⟩⟩
  | some row => exact ⟨rfl, _, record_of_find? present, rfl⟩

/-! ### Capture batches -/

/-- What became of appending records, inside the transaction. -/
def Appended (db : Database) (captured : List CaptureRecord) :
    Except Error (List ExecutionEvent) → Database → Prop
  | .ok events, db' => Effect db (captured.map .capture) db' ∧
      db'.events.rows = db.events.rows ++ events ∧
      events.map ExecutionEvent.content = captured.map CaptureRecord.content
  | .error e, _ => e.isStorage = true ∨ ∃ record ∈ captured,
      e = .executionNotFound record.executionId ∧ db.records record.executionId = none

/-- The loop body of `append_capture_batch`, for both kinds of records. -/
theorem appendRecord_eq (captured : CaptureRecord) :
    appendRecord captured = (do
      let seq ← nextSeq captured.executionId
      let event : ExecutionEvent :=
        ⟨captured.executionId, seq, captured.timestampMs, captured.payload⟩
      insertEvent event
      updateExecution captured.executionId
        (fun row => { captured.account row with lastSeq := seq })
        (by cases captured <;> exact fun _ => rfl)
      pure event) := by
  cases captured <;> rfl

theorem post_appendRecord {db : Database} (linked : db.Linked) {captured : CaptureRecord} :
    Sql.Post StorageFault (appendRecord captured) db fun r db' =>
      Appended db [captured] (r.map fun event => [event]) db' := by
  rw [appendRecord_eq]
  cases present : db.executions.find? captured.executionId with
  | none =>
    refine Sql.post_bind (Sql.post_select (fun e raised => Or.inl raised) ?_)
    rw [present]
    exact .inr ⟨captured, List.mem_singleton_self _, rfl, records_eq_none.mpr present⟩
  | some row =>
    have found := record_of_find? present
    have own : row.id = captured.executionId := rowId found
    refine (post_write linked found (fun _ _ => rfl) _).mono fun r db' written => ?_
    cases r with
    | error e => exact .inl written
    | ok event =>
      obtain ⟨shape, small, linked', rows, records⟩ := written
      refine ⟨.single linked' ?_, rows, ?_⟩
      · refine Change.rewrite_eq_some.mpr ⟨_, found, decide_eq_true small, ?_⟩
        rw [records, own]
        rfl
      · rw [shape]
        show [_] = [_]
        rw [CaptureRecord.content, ← own]
        rfl

/-- Capturing output neither creates nor deletes an execution. -/
theorem Effect.capture_eq_none {db db' : Database} {captured : CaptureRecord}
    (effect : Effect db [.capture captured] db') {id : ExecutionId} :
    db'.records id = none ↔ db.records id = none := by
  obtain ⟨record, found, _, same⟩ := Change.rewrite_eq_some.mp effect.apply
  rw [same]
  by_cases equal : id = captured.executionId
  · rw [equal, Function.update_self, found]
    simp
  · rw [Function.update_of_ne equal]

theorem post_appendRecords {db : Database} (linked : db.Linked) {captured : List CaptureRecord} :
    Sql.Post StorageFault (appendRecords captured) db (Appended db captured) := by
  induction captured generalizing db with
  | nil => exact Sql.post_pure ⟨.refl linked, (List.append_nil _).symm, rfl⟩
  | cons first rest ih =>
    refine Sql.post_bind ((post_appendRecord linked).mono fun r middle done => ?_)
    cases r with
    | error e =>
      rcases done with storage | ⟨record, member, raised, absent⟩
      · exact .inl storage
      · rw [List.mem_singleton.mp member] at raised absent
        exact .inr ⟨first, List.mem_cons_self, raised, absent⟩
    | ok event =>
      obtain ⟨effect, rows, contents⟩ := done
      refine Sql.post_bind ((ih effect.linked).mono fun r db' later => ?_)
      cases r with
      | error e =>
        rcases later with storage | ⟨record, member, raised, absent⟩
        · exact .inl storage
        · exact .inr ⟨record, List.mem_cons_of_mem _ member, raised,
            effect.capture_eq_none.mp absent⟩
      | ok events =>
        obtain ⟨effect', rows', contents'⟩ := later
        refine Sql.post_pure ⟨effect.trans effect', ?_, ?_⟩
        · rw [rows', rows, List.append_assoc]
          rfl
        · have both := congrArg₂ (· ++ ·) contents contents'
          exact both

/-- What became of a batch: all of it, or nothing at all. -/
def Batched (db : Database) (captured : List CaptureRecord) :
    Except Error (List ExecutionEvent) → Database → Prop
  | .ok events, db' => Appended db captured (.ok events) db'
  | .error e, db' => db' = db ∧ Appended db captured (.error e) db

theorem post_appendCaptureBatch {db : Database} (linked : db.Linked)
    (captured : List CaptureRecord) :
    Sql.Post StorageFault (appendCaptureBatch captured) db (Batched db captured) := by
  cases captured with
  | nil => exact Sql.post_pure ⟨.refl linked, (List.append_nil _).symm, rfl⟩
  | cons first rest =>
    refine Sql.post_transaction (fun e raised => ⟨rfl, .inl raised⟩) ?_
    refine (post_appendRecords linked).mono fun r db' appended => ?_
    cases r with
    | error e => exact ⟨rfl, appended⟩
    | ok events => exact appended

/-! ### Finishing many executions -/

/-- What finishing an execution does to the journal. -/
theorem Effect.create_records {db db' : Database} {now : Int} {id : ExecutionId}
    {request : ExecutionRequest} {cwd : String}
    (effect : Effect db [.create now id request cwd] db') :
    db.records id = none ∧ db'.records =
      Function.update db.records id (some ⟨queuedRow now id request cwd, []⟩) := by
  have applied := effect.apply
  cases before : db.records id with
  | none =>
    rw [Change.apply_create before] at applied
    exact ⟨rfl, (Option.some.inj applied).symm⟩
  | some record =>
    simp only [Change.apply, before] at applied
    cases applied

theorem Effect.start_records {db db' : Database} {id : ExecutionId} {now : Int} {pid : Nat}
    {pgid : Int} (effect : Effect db [.start id now pid pgid] db') :
    ∃ record, db.records id = some record ∧ record.row.state = .queued ∧
      db'.records = Function.update db.records id (some (record.start now pid pgid)) := by
  obtain ⟨record, found, guard, same⟩ := Change.rewrite_eq_some.mp effect.apply
  rw [Bool.and_eq_true, decide_eq_true_eq] at guard
  exact ⟨record, found, guard.1, same⟩

theorem Effect.finish_records {db db' : Database} {id : ExecutionId} {now : Int}
    {state : ExecutionState} {outcome : ExecutionOutcome}
    (effect : Effect db [.finish id now state outcome] db') :
    ∃ record, db.records id = some record ∧ record.row.state.isTerminal = false ∧
      db'.records = Function.update db.records id (some (record.finish now state outcome)) := by
  obtain ⟨record, found, guard, same⟩ := Change.rewrite_eq_some.mp effect.apply
  have live : record.row.state.isTerminal = false := by
    simp only [Bool.and_eq_true, Bool.not_eq_true'] at guard
    exact guard.1
  exact ⟨record, found, live, same⟩

/-- The executions that a sweep found in one of the states `p` were finished, all of them
when it ended well. -/
structure Swept (db : Database) (p : ExecutionState → Bool) (now : ExecutionId → Int)
    (state : ExecutionState) (outcome : ExecutionOutcome) (ids : List ExecutionId)
    (db' : Database) : Prop where
  nodup : ids.Nodup
  selected : ∀ id ∈ ids, ∃ record, db.records id = some record ∧ p record.row.state = true
  effect : Effect db (ids.map fun id => .finish id (now id) state outcome) db'

/-- Finishing executions one after another leaves each of them terminal, and the others as
they were. -/
theorem finish_replay {records records' : Records} {now : ExecutionId → Int}
    {state : ExecutionState} {outcome : ExecutionOutcome} {ids : List ExecutionId}
    (terminal : state.isTerminal = true)
    (ran : journal.run records (ids.map fun id => .finish id (now id) state outcome) =
      some records') (id : ExecutionId) :
    (id ∈ ids → Over (records' id)) ∧ (id ∉ ids → records' id = records id) := by
  induction ids generalizing records with
  | nil =>
    simp only [List.map_nil, System.run, Option.some.injEq] at ran
    subst ran
    exact ⟨(by rintro ⟨⟩), fun _ => rfl⟩
  | cons first rest ih =>
    obtain ⟨middle, applied, ran⟩ := Option.bind_eq_some_iff.mp ran
    obtain ⟨record, found, _, same⟩ := Change.rewrite_eq_some.mp applied
    obtain ⟨finished, others⟩ := ih ran
    by_cases later : id ∈ rest
    · exact ⟨fun _ => finished later, fun absent => absurd (List.mem_cons_of_mem _ later) absent⟩
    · have after := others later
      rw [same] at after
      by_cases own : id = first
      · subst own
        rw [Function.update_self] at after
        refine ⟨fun _ => ?_, fun absent => absurd List.mem_cons_self absent⟩
        rw [after]
        intro record' present
        cases present
        exact terminal
      · rw [Function.update_of_ne own] at after
        refine ⟨fun member => ?_, fun _ => after⟩
        rcases List.mem_cons.mp member with equal | within
        · exact absurd equal own
        · exact absurd within later

namespace Swept

variable {db db' : Database} {p : ExecutionState → Bool} {now : ExecutionId → Int}
  {state : ExecutionState} {outcome : ExecutionOutcome} {ids : List ExecutionId}

/-- Whatever a sweep selected is over. -/
theorem isOver (swept : Swept db p now state outcome ids db') (terminal : state.isTerminal = true)
    {id : ExecutionId} (member : id ∈ ids) : Over (db'.records id) :=
  (finish_replay terminal swept.effect.replay id).1 member

/-- A sweep writes events of the executions that it selected, and of no others. -/
theorem appended (swept : Swept db p now state outcome ids db')
    (terminal : state.isTerminal = true) {events : List ExecutionEvent}
    (rows : db'.events.rows = db.events.rows ++ events) {event : ExecutionEvent}
    (member : event ∈ events) : event.executionId ∈ ids := by
  by_contra other
  have same := (finish_replay terminal swept.effect.replay event.executionId).2 other
  have written : event ∈ db'.events.rows := by
    rw [rows]
    exact List.mem_append_right _ member
  obtain ⟨row, found⟩ := swept.effect.linked event written
  have after := record_of_find? found
  have before := after
  rw [same] at before
  -- the log of that execution would be longer than itself
  have longer : db'.log event.executionId = db.log event.executionId ++
      events.filter fun other => other.executionId = event.executionId := by
    unfold log
    rw [rows, List.filter_append]
  have equal : db'.log event.executionId = db.log event.executionId :=
    (records_eq_some.mp before).2
  rw [equal] at longer
  have none : (events.filter fun other => other.executionId = event.executionId) = [] :=
    List.self_eq_append_right.mp longer
  have kept : event ∈ events.filter fun other => other.executionId = event.executionId :=
    List.mem_filter.mpr ⟨member, decide_eq_true rfl⟩
  rw [none] at kept
  cases kept

end Swept

theorem finishEach_effect {db : Database} {now : ExecutionId → Int} {state : ExecutionState}
    {outcome : ExecutionOutcome} {ids : List ExecutionId} (linked : db.Linked)
    (nodup : ids.Nodup)
    (live : ∀ id ∈ ids, ∃ record, db.records id = some record ∧
      record.row.state.isTerminal = false) :
    Sql.Post StorageFault (finishEach now state outcome ids) db fun r db' =>
      ∃ done, done <+: ids ∧
        Effect db (done.map fun id => .finish id (now id) state outcome) db' ∧
        match r with
        | .ok events => done = ids ∧ db'.events.rows = db.events.rows ++ events
        | .error e => e.isStorage = true := by
  induction ids generalizing db with
  | nil => exact Sql.post_pure ⟨[], List.prefix_rfl, .refl linked, rfl, (List.append_nil _).symm⟩
  | cons id rest ih =>
    obtain ⟨record, found, open_⟩ := live id List.mem_cons_self
    obtain ⟨fresh, distinct⟩ := List.nodup_cons.mp nodup
    refine Sql.post_bind ((post_finish linked).mono fun r middle moved => ?_)
    cases r with
    | error e =>
      obtain ⟨rfl, storage | ⟨_, absent⟩ | ⟨_, other, present, closed⟩⟩ := moved
      · exact ⟨[], List.nil_prefix, .refl linked, storage⟩
      · rw [found] at absent
        cases absent
      · rw [found] at present
        cases present
        rw [open_] at closed
        cases closed
    | ok event =>
      obtain ⟨_, _, _, _, rows, effect⟩ := moved
      have later : ∀ other ∈ rest, ∃ record, middle.records other = some record ∧
          record.row.state.isTerminal = false := by
        intro other member
        obtain ⟨_, _, _, same⟩ := effect.finish_records
        have different : other ≠ id := fun equal => fresh (equal ▸ member)
        rw [same, Function.update_of_ne different]
        exact live other (List.mem_cons_of_mem _ member)
      refine Sql.post_bind ((ih effect.linked distinct later).mono fun r db' swept => ?_)
      obtain ⟨done, initial, effect', ended⟩ := swept
      have both := effect.trans effect'
      have more : id :: done <+: id :: rest := List.cons_prefix_cons.mpr ⟨rfl, initial⟩
      cases r with
      | error e => exact ⟨id :: done, more, both, ended⟩
      | ok events =>
        obtain ⟨rfl, rows'⟩ := ended
        refine Sql.post_pure ⟨id :: done, more, both, rfl, ?_⟩
        rw [rows', rows, List.append_assoc]
        rfl

/-- Selecting executions by their state and finishing each of them. -/
theorem post_sweep {db : Database} (linked : db.Linked) {p : ExecutionState → Bool}
    (live : ∀ state, p state = true → state.isTerminal = false) {now : ExecutionId → Int}
    {state : ExecutionState} {outcome : ExecutionOutcome} :
    Sql.Post StorageFault (selectIds p >>= finishEach now state outcome) db fun r db' =>
      ∃ ids, Swept db p now state outcome ids db' ∧
        match r with
        | .ok events => (∀ id record, db.records id = some record → p record.row.state = true →
            id ∈ ids) ∧ db'.events.rows = db.events.rows ++ events
        | .error e => e.isStorage = true := by
  refine Sql.post_bind (Sql.post_select ?_ ?_)
  · intro e raised
    exact ⟨[], ⟨List.nodup_nil, by simp, .refl linked⟩, raised⟩
  · have chosen : ∀ id, id ∈ (db.executions.rows.filter fun row => p row.state).map (·.id) →
        ∃ record, db.records id = some record ∧ p record.row.state = true := by
      intro id member
      obtain ⟨row, kept, rfl⟩ := List.mem_map.mp member
      obtain ⟨present, selected⟩ := List.mem_filter.mp kept
      exact ⟨_, record_of_find? (Table.mem_rows_iff.mp present), selected⟩
    have distinct : ((db.executions.rows.filter fun row => p row.state).map (·.id)).Nodup :=
      db.executions.nodup.sublist (List.filter_sublist.map _)
    refine (finishEach_effect linked distinct fun id member => ?_).mono fun r db' swept => ?_
    · obtain ⟨record, found, selected⟩ := chosen id member
      exact ⟨record, found, live _ selected⟩
    · obtain ⟨done, initial, effect, ended⟩ := swept
      refine ⟨done, ⟨distinct.sublist initial.sublist, ?_, effect⟩, ?_⟩
      · intro id member
        exact chosen id (initial.subset member)
      · cases r with
        | error e => exact ended
        | ok events =>
          obtain ⟨rfl, rows⟩ := ended
          refine ⟨fun id record found selected => ?_, rows⟩
          obtain ⟨present, _⟩ := records_eq_some.mp found
          refine List.mem_map.mpr ⟨record.row, List.mem_filter.mpr ⟨?_, selected⟩, rowId found⟩
          exact Table.mem_of_find? present

theorem post_cancelQueued {db : Database} (linked : db.Linked) {now : ExecutionId → Int} :
    Sql.Post StorageFault (cancelQueued now) db fun r db' =>
      ∃ ids, Swept db (· = .queued) now .cancelled (.cancelled none) ids db' ∧
        match r with
        | .ok events => (∀ id record, db.records id = some record →
            record.row.state = .queued → id ∈ ids) ∧ db'.events.rows = db.events.rows ++ events
        | .error e => e.isStorage = true := by
  refine (post_sweep linked ?_).mono fun r db' swept => ?_
  · intro state queued
    rw [of_decide_eq_true queued]
    rfl
  · obtain ⟨ids, sweep, ended⟩ := swept
    refine ⟨ids, sweep, ?_⟩
    cases r with
    | error e => exact ended
    | ok events =>
      exact ⟨fun id record found queued => ended.1 id record found (decide_eq_true queued),
        ended.2⟩

theorem post_reconcileIncomplete {db : Database} (linked : db.Linked)
    (now : ExecutionId → Int) :
    Sql.Post StorageFault (reconcileIncomplete now) db fun r db' =>
      ∃ ids, Swept db (fun state => !state.isTerminal) now .interrupted
          (.interrupted "daemon restarted before the execution completed") ids db' ∧
        match r with
        | .ok _ => ∀ id record, db.records id = some record →
            record.row.state.isTerminal = false → id ∈ ids
        | .error e => e.isStorage = true := by
  unfold reconcileIncomplete
  rw [Sql.bind_bind]
  refine Sql.post_bind ((post_sweep linked ?_).mono fun r middle swept => ?_)
  · intro state live
    exact Bool.not_eq_true' _ ▸ live
  · obtain ⟨ids, sweep, ended⟩ := swept
    cases r with
    | error e => exact ⟨ids, sweep, ended⟩
    | ok events =>
      refine Sql.post_pure ⟨ids, sweep, fun id record found live => ?_⟩
      exact ended.1 id record found (by rw [live]; rfl)

/-! ### Deleting executions -/

/-- Removing terminal executions, one by one. -/
theorem remove_replay {records : Records} {ids : List ExecutionId} (nodup : ids.Nodup)
    (terminal : ∀ id ∈ ids, ∃ record, records id = some record ∧
      record.row.state.isTerminal = true) :
    journal.run records (ids.map .remove) =
      some fun id => if id ∈ ids then none else records id := by
  induction ids generalizing records with
  | nil =>
    show some records = _
    simp
  | cons first rest ih =>
    obtain ⟨fresh, distinct⟩ := List.nodup_cons.mp nodup
    obtain ⟨record, found, closed⟩ := terminal first List.mem_cons_self
    have applied : Change.apply records (.remove first) =
        some (Function.update records first none) :=
      Change.rewrite_eq_some.mpr ⟨record, found, closed, rfl⟩
    show (Change.apply records (.remove first)).bind _ = _
    rw [applied]
    show journal.run (Function.update records first none) (rest.map .remove) = _
    rw [ih distinct]
    · congr 1
      funext id
      by_cases equal : id = first
      · simp [equal]
      · simp [equal]
    · intro id member
      have different : id ≠ first := fun equal => fresh (equal ▸ member)
      rw [Function.update_of_ne different]
      exact terminal id (List.mem_cons_of_mem _ member)

theorem withoutExecutions_gone {db : Database} (p : ExecutionRow → Bool) {row : ExecutionRow}
    {id : ExecutionId} (found : db.executions.find? id = some row) :
    (db.executions.rows.any fun other => other.id = id && p other) = p row := by
  have own : row.id = id := Table.find?_key found
  rw [Bool.eq_iff_iff, List.any_eq_true]
  constructor
  · rintro ⟨other, member, both⟩
    simp only [Bool.and_eq_true, decide_eq_true_eq] at both
    have same := Table.mem_rows_iff.mp member
    rw [both.1, found] at same
    rw [Option.some.inj same]
    exact both.2
  · intro selected
    exact ⟨row, Table.mem_of_find? found, by simp [own, selected]⟩

/-- `DELETE` takes the selected executions and their events, and nothing else. -/
theorem withoutExecutions_records {db : Database} (p : ExecutionRow → Bool) :
    (db.withoutExecutions p).records = fun id =>
      (db.records id).filter fun record => !p record.row := by
  funext id
  show ((db.executions.delete p).find? id).map
      (fun row => (⟨row, (db.withoutExecutions p).log id⟩ : ExecutionRecord)) =
    ((db.executions.find? id).map fun row => (⟨row, db.log id⟩ : ExecutionRecord)).filter _
  rw [Table.find?_delete]
  cases found : db.executions.find? id with
  | none => rfl
  | some row =>
    by_cases selected : p row = true
    · rw [Option.map_some, Option.filter_some_neg (by simp [selected]),
        Option.filter_some_neg (by simp [selected]), Option.map_none]
    · have kept : (db.executions.rows.any fun other => other.id = id && p other) = false := by
        rw [withoutExecutions_gone p found]
        simpa using selected
      have log : (db.withoutExecutions p).log id = db.log id := by
        unfold Database.log withoutExecutions Table.delete
        rw [List.filter_filter]
        refine List.filter_congr fun event _ => ?_
        by_cases own : event.executionId = id
        · simp [own, kept]
        · simp [own]
      rw [Option.map_some, Option.filter_some_pos (by simp [selected]),
        Option.filter_some_pos (by simp [selected]), Option.map_some, log]

theorem Linked.withoutExecutions {db : Database} (linked : db.Linked) (p : ExecutionRow → Bool) :
    (db.withoutExecutions p).Linked := by
  intro event member
  obtain ⟨present, kept⟩ := List.mem_filter.mp member
  obtain ⟨row, found⟩ := linked event present
  refine ⟨row, ?_⟩
  show (db.executions.delete p).find? event.executionId = some row
  have stays : p row = false := by
    rw [← withoutExecutions_gone p found]
    simpa using kept
  rw [Table.find?_delete, found, Option.filter_some_pos (by simp [stays])]

/-- Deleting terminal executions is a run of removals. -/
theorem withoutExecutions_effect {db : Database} (linked : db.Linked) {p : ExecutionRow → Bool}
    (terminal : ∀ row ∈ db.executions.rows, p row = true → row.state.isTerminal = true) :
    ∃ ids : List ExecutionId, Effect db (ids.map .remove) (db.withoutExecutions p) := by
  refine ⟨(db.executions.rows.filter p).map (·.id), linked.withoutExecutions p, ?_⟩
  have distinct : ((db.executions.rows.filter p).map (·.id)).Nodup :=
    db.executions.nodup.sublist (List.filter_sublist.map _)
  rw [remove_replay distinct]
  · rw [withoutExecutions_records]
    congr 1
    funext id
    by_cases member : id ∈ (db.executions.rows.filter p).map (·.id)
    · rw [if_pos member]
      obtain ⟨row, kept, rfl⟩ := List.mem_map.mp member
      obtain ⟨present, selected⟩ := List.mem_filter.mp kept
      rw [record_of_find? (Table.mem_rows_iff.mp present), Option.filter_some_neg (by simp [selected])]
    · rw [if_neg member]
      cases found : db.records id with
      | none => rfl
      | some record =>
        obtain ⟨present, _⟩ := records_eq_some.mp found
        have stays : p record.row = false := by
          apply Bool.eq_false_iff.mpr
          intro selected
          have kept := List.mem_filter.mpr ⟨Table.mem_of_find? present, selected⟩
          exact member (List.mem_map.mpr ⟨record.row, kept, rowId found⟩)
        rw [Option.filter_some_pos (by simp [stays])]
  · intro id member
    obtain ⟨row, kept, rfl⟩ := List.mem_map.mp member
    obtain ⟨present, selected⟩ := List.mem_filter.mp kept
    exact ⟨_, record_of_find? (Table.mem_rows_iff.mp present), terminal row present selected⟩

/-- Some terminal executions were deleted. -/
def Removed (db db' : Database) : Prop :=
  ∃ ids : List ExecutionId, Effect db (ids.map .remove) db'

theorem Removed.trans {first second third : Database} (before : Removed first second)
    (after : Removed second third) : Removed first third := by
  obtain ⟨ids, effect⟩ := before
  obtain ⟨ids', effect'⟩ := after
  refine ⟨ids ++ ids', ?_⟩
  rw [List.map_append]
  exact effect.trans effect'

theorem Removed.linked {db db' : Database} (removed : Removed db db') : db'.Linked := by
  obtain ⟨_, effect⟩ := removed
  exact effect.linked

theorem Removed.refl {db : Database} (linked : db.Linked) : Removed db db := ⟨[], .refl linked⟩

theorem post_deleteExecutions {db : Database} (linked : db.Linked) {p : ExecutionRow → Bool}
    (terminal : ∀ row ∈ db.executions.rows, p row = true → row.state.isTerminal = true) :
    Sql.Post StorageFault (deleteExecutions p) db fun r db' =>
      match r with
      | .ok _ => Removed db db' ∧ db' = db.withoutExecutions p
      | .error e => e.isStorage = true :=
  Sql.post_statement (fun _ raised => raised) ⟨withoutExecutions_effect linked terminal, rfl⟩

theorem post_pruneCandidates {db : Database} (linked : db.Linked) {excess : Nat}
    {candidates : List ExecutionRow}
    (terminal : ∀ candidate ∈ candidates, ∀ row ∈ db.executions.rows, row.id = candidate.id →
      row.state.isTerminal = true) :
    Sql.Post StorageFault (pruneCandidates excess candidates) db fun r db' =>
      match r with
      | .ok _ => Removed db db'
      | .error e => e.isStorage = true := by
  induction candidates generalizing db excess with
  | nil => exact Sql.post_pure (.refl linked)
  | cons candidate rest ih =>
    unfold pruneCandidates
    by_cases enough : excess = 0
    · simp only [enough, if_true]
      exact Sql.post_pure (.refl linked)
    · simp only [enough, if_false]
      refine Sql.post_bind ((post_deleteExecutions linked ?_).mono fun r middle deleted => ?_)
      · intro row present selected
        exact terminal candidate List.mem_cons_self row present (of_decide_eq_true selected)
      · cases r with
        | error e => exact deleted
        | ok removed =>
          obtain ⟨before, rfl⟩ := deleted
          refine Sql.post_bind ((ih before.linked ?_).mono fun r db' after => ?_)
          · intro other member row present
            exact terminal other (List.mem_cons_of_mem _ member) row
              (List.mem_filter.mp present).1
          · cases r with
            | error e => exact after
            | ok more => exact Sql.post_pure (before.trans after)

theorem post_prune {db : Database} (linked : db.Linked) {order : EndOrder} {now : Int}
    {retentionDays retentionBytes : Nat} :
    Sql.Post StorageFault (prune order now retentionDays retentionBytes) db fun r db' =>
      match r with
      | .ok _ => Removed db db'
      | .error e => e.isStorage = true ∧ db' = db := by
  refine Sql.post_transaction (fun e raised => ⟨raised, rfl⟩) ?_
  refine Sql.post_bind ((post_deleteExecutions linked ?_).mono fun r middle deleted => ?_)
  · intro row _ selected
    simp only [Bool.and_eq_true] at selected
    exact selected.1
  · cases r with
    | error e => exact ⟨deleted, rfl⟩
    | ok removed =>
      obtain ⟨before, _⟩ := deleted
      refine Sql.post_bind (Sql.post_select (fun e raised => ⟨raised, rfl⟩) ?_)
      obtain summed | ⟨e, storage, overflow⟩ :=
        sumColumn_cases (middle.executions.rows.map (·.capturedBytes))
      · rw [summed]
        by_cases exceeded : retentionBytes < (middle.executions.rows.map (·.capturedBytes)).sum
        · simp only [exceeded, if_true]
          refine Sql.post_bind (Sql.post_select (fun e raised => ⟨raised, trivial⟩) ?_)
          refine Sql.post_bind ((post_pruneCandidates before.linked ?_).mono
            fun r db' after => ?_)
          · intro candidate member row present same
            rw [(order.perm _).mem_iff] at member
            obtain ⟨known, closed⟩ := List.mem_filter.mp member
            have found := Table.mem_rows_iff.mp present
            have found' := Table.mem_rows_iff.mp known
            rw [same, found'] at found
            rw [← Option.some.inj found]
            exact closed
          · cases r with
            | error e => exact ⟨after, trivial⟩
            | ok more => exact Sql.post_pure (before.trans after)
        · simp only [exceeded, if_false]
          exact Sql.post_pure before
      · rw [overflow]
        exact ⟨storage, rfl⟩

/-! ### Creating executions and unlinking sessions -/

theorem post_checkSession {db : Database} {request : ExecutionRequest} :
    Sql.Post StorageFault (checkSession request) db fun _ db' => db' = db := by
  unfold checkSession
  cases request.initiator.sessionId with
  | none => exact Sql.post_pure rfl
  | some sessionId =>
    refine Sql.post_bind (Sql.post_select (fun _ _ => rfl) ?_)
    cases db.agentSessions.find? sessionId with
    | none => exact rfl
    | some session =>
      show Sql.Post _ (ite _ _ _) db _
      by_cases elsewhere : session.workspaceId ≠ request.workspaceId
      · rw [if_pos elsewhere]
        exact Sql.post_fail rfl
      · rw [if_neg elsewhere]
        by_cases ended : session.state ≠ .recording
        · rw [if_pos ended]
          exact Sql.post_fail rfl
        · rw [if_neg ended]
          exact Sql.post_pure rfl

/-- A new row is a record with an empty log. -/
theorem insert_effect {db db' : Database} (linked : db.Linked) {now : Int} {id : ExecutionId}
    {request : ExecutionRequest} {cwd : String} {executions : Table ExecutionRow.id}
    (inserted : db.executions.insert? (queuedRow now id request cwd) = some executions)
    (same : db' = { db with executions }) : Effect db [.create now id request cwd] db' := by
  have rows : ∀ other, executions.find? other =
      if id = other then some (queuedRow now id request cwd) else db.executions.find? other :=
    Table.find?_insert inserted
  have absent : db.executions.find? id = none := (Table.insert?_eq_some.mp inserted).1
  subst same
  refine .single ?_ ?_
  · intro event member
    obtain ⟨row, found⟩ := linked event member
    show ∃ row, executions.find? event.executionId = some row
    rw [rows]
    by_cases equal : id = event.executionId
    · exact ⟨_, if_pos equal⟩
    · exact ⟨row, (if_neg equal).trans found⟩
  · rw [Change.apply_create (records_eq_none.mpr absent)]
    congr 1
    funext other
    show _ = (executions.find? other).map _
    rw [rows]
    by_cases equal : other = id
    · rw [equal, Function.update_self, if_pos rfl]
      exact congrArg some (congrArg (ExecutionRecord.mk _) (linked.log_eq_nil absent).symm)
    · rw [Function.update_of_ne equal, if_neg (Ne.symm equal)]
      rfl

/-- What became of `create_execution`. The row is not read back in the transaction that
inserts it, so the call may fail although the execution was created. -/
def Created (db : Database) (now : Int) (id : ExecutionId) (request : ExecutionRequest)
    (cwd : String) : Except Error Execution → Database → Prop
  | .ok execution, db' => Effect db [.create now id request cwd] db' ∧
      db'.events = db.events ∧ execution = executionFromRow now (queuedRow now id request cwd)
  | .error e, db' => db' = db ∨
      (e.isStorage = true ∧ Effect db [.create now id request cwd] db')

theorem post_createExecution {db : Database} (linked : db.Linked) {now : Int} {id : ExecutionId}
    {request : ExecutionRequest} {cwd : String} :
    Sql.Post StorageFault (createExecution now id request cwd) db
      (Created db now id request cwd) := by
  unfold createExecution
  cases request.validate with
  | error e => exact Sql.post_fail (.inl rfl)
  | ok _ =>
    refine Sql.post_bind (post_checkSession.mono fun r middle unchanged => ?_)
    subst unchanged
    cases r with
    | error e => exact .inl rfl
    | ok _ =>
      refine Sql.post_bind (Sql.post_statement (fun e raised => Or.inl rfl) ?_)
      split
      · rename_i inserted
        split at inserted
        · cases inserted
        · cases fresh : middle.executions.insert? (queuedRow now id request cwd) with
          | none =>
            rw [fresh] at inserted
            cases inserted
          | some executions =>
            rw [fresh] at inserted
            cases inserted
            have effect := insert_effect linked fresh rfl
            refine post_getExecution.mono fun r db' read => ?_
            cases r with
            | error e =>
              obtain ⟨rfl, storage | ⟨_, absent⟩⟩ := read
              · exact .inr ⟨storage, effect⟩
              · have present : (queuedRow now id request cwd).id = id := rfl
                rw [records_eq_none] at absent
                simp [Table.find?_insert fresh, present] at absent
            | ok execution =>
              obtain ⟨rfl, record, found, rfl⟩ := read
              refine ⟨effect, rfl, ?_⟩
              have row := (records_eq_some.mp found).1
              have present : (queuedRow now id request cwd).id = id := rfl
              simp only [Table.find?_insert fresh, present, if_true, Option.some.injEq] at row
              rw [← row]
      · exact .inl rfl

theorem post_deleteAgentSession {db : Database} (linked : db.Linked) {id : SessionId} :
    Sql.Post StorageFault (deleteAgentSession id) db fun r db' =>
      match r with
      | .ok _ => Effect db [.unlink id] db' ∧ db'.events = db.events
      | .error _ => db' = db := by
  refine Sql.post_bind (Sql.post_select (fun _ _ => rfl) ?_)
  cases db.agentSessions.find? id with
  | none => exact rfl
  | some session =>
    show Sql.Post _ (ite _ _ _) db _
    by_cases recording : (!session.state.isTerminal) = true
    · rw [if_pos recording]
      exact Sql.post_fail rfl
    · rw [if_neg recording]
      refine Sql.post_transaction (fun _ _ => rfl) ?_
      refine Sql.post_bind (Sql.post_statement (fun _ _ => rfl) ?_)
      refine Sql.post_statement (fun _ _ => rfl) ⟨.single ?_ ?_, rfl⟩
      · intro event member
        obtain ⟨row, found⟩ := linked event member
        exact ⟨_, by rw [Table.find?_update, found]; rfl⟩
      · show some (fun other => (db.records other).map (·.unlink id)) = some _
        congr 1
        funext other
        unfold records
        simp only [Table.find?_update, Option.map_map]
        cases db.executions.find? other with
        | none => rfl
        | some row =>
          simp only [Option.map_some, Function.comp_apply, ExecutionRecord.unlink,
            decide_eq_true_eq]
          by_cases tied : row.sessionId = some id
          · simp only [tied, if_true]
            rfl
          · simp only [tied, if_false]
            rfl

end Database

end Loomterm
