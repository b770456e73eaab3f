import Loomterm.Misc.Budget
import Loomterm.Store.Operations

/-!
# Paging through a log

What one call of `Database::read_output` returns, and what a reader gets that goes on from
`next_seq` while `has_more` is set, as `follow_logs` does, with other commands in between.
-/

namespace Loomterm

/-- The output bytes of an event, which a page is measured by. -/
def ExecutionEvent.bytes (event : ExecutionEvent) : Nat := event.payload.bytes

namespace Database

theorem takePage_cons (maxBytes bytes : Nat) (taken : List ExecutionEvent)
    (event : ExecutionEvent) (rest : List ExecutionEvent) :
    takePage maxBytes bytes taken (event :: rest) =
      if taken ≠ [] ∧ maxBytes < bytes + event.bytes then (taken, true)
      else takePage maxBytes (bytes + event.bytes) (taken ++ [event]) rest := by
  cases payload : event.payload <;>
    simp [takePage, ExecutionEvent.bytes, ExecutionEventPayload.bytes, payload]

/-- Behind the first event a page takes what fits, and notes whether that is all. -/
theorem takePage_more {maxBytes bytes : Nat} {taken : List ExecutionEvent}
    (nonempty : taken ≠ []) (within : bytes ≤ maxBytes) (rest : List ExecutionEvent) :
    takePage maxBytes bytes taken rest =
      (taken ++ fitting ExecutionEvent.bytes (maxBytes - bytes) rest,
        decide ((fitting ExecutionEvent.bytes (maxBytes - bytes) rest).length < rest.length)) := by
  induction rest generalizing bytes taken with
  | nil => simp [takePage, fitting]
  | cons event rest ih =>
    rw [takePage_cons]
    by_cases fits : bytes + event.bytes ≤ maxBytes
    · have left : maxBytes - (bytes + event.bytes) = maxBytes - bytes - event.bytes := by omega
      rw [if_neg (by omega), ih (by simp) fits, left, fitting_cons (by omega)]
      simp
    · rw [if_pos ⟨nonempty, by omega⟩, fitting_cons_of_lt (by omega)]
      simp

/-- After an event above the budget nothing more is taken. -/
theorem takePage_full {maxBytes bytes : Nat} {taken : List ExecutionEvent}
    (nonempty : taken ≠ []) (beyond : maxBytes < bytes) (rest : List ExecutionEvent) :
    takePage maxBytes bytes taken rest = (taken, decide (0 < rest.length)) := by
  cases rest with
  | nil => simp [takePage]
  | cons event rest =>
    rw [takePage_cons, if_pos ⟨nonempty, by omega⟩]
    simp

/-- The events of a page: those that fit, but the first in any case. -/
def pageEvents (maxBytes : Nat) : List ExecutionEvent → List ExecutionEvent
  | [] => []
  | event :: rest =>
      if event.bytes ≤ maxBytes then fitting ExecutionEvent.bytes maxBytes (event :: rest)
      else [event]

theorem pageEvents_of_le {maxBytes : Nat} {event : ExecutionEvent} {rest : List ExecutionEvent}
    (fits : event.bytes ≤ maxBytes) :
    pageEvents maxBytes (event :: rest) =
      fitting ExecutionEvent.bytes maxBytes (event :: rest) := if_pos fits

theorem pageEvents_of_lt {maxBytes : Nat} {event : ExecutionEvent} {rest : List ExecutionEvent}
    (beyond : maxBytes < event.bytes) : pageEvents maxBytes (event :: rest) = [event] :=
  if_neg (by omega)

theorem takePage_eq (maxBytes : Nat) (selected : List ExecutionEvent) :
    takePage maxBytes 0 [] selected =
      (pageEvents maxBytes selected,
        decide ((pageEvents maxBytes selected).length < selected.length)) := by
  cases selected with
  | nil => simp [takePage, pageEvents]
  | cons event rest =>
    rw [takePage_cons, if_neg (by simp)]
    simp only [List.nil_append, Nat.zero_add]
    by_cases fits : event.bytes ≤ maxBytes
    · rw [takePage_more (by simp) fits, pageEvents_of_le fits, fitting_cons fits]
      simp
    · rw [takePage_full (by simp) (by omega), pageEvents_of_lt (by omega)]
      simp

theorem pageEvents_prefix (maxBytes : Nat) (selected : List ExecutionEvent) :
    pageEvents maxBytes selected <+: selected := by
  cases selected with
  | nil => exact List.prefix_rfl
  | cons event rest =>
    by_cases fits : event.bytes ≤ maxBytes
    · rw [pageEvents_of_le fits]
      exact fitting_prefix _ _ _
    · rw [pageEvents_of_lt (by omega)]
      exact List.cons_prefix_cons.mpr ⟨rfl, List.nil_prefix⟩

@[simp] theorem pageEvents_eq_nil {maxBytes : Nat} {selected : List ExecutionEvent} :
    pageEvents maxBytes selected = [] ↔ selected = [] := by
  cases selected with
  | nil => simp [pageEvents]
  | cons event rest =>
    by_cases fits : event.bytes ≤ maxBytes
    · simp [pageEvents_of_le fits, fitting_cons fits]
    · simp [pageEvents_of_lt (Nat.lt_of_not_le fits)]

theorem pageEvents_budget (maxBytes : Nat) (selected : List ExecutionEvent) :
    ((pageEvents maxBytes selected).map ExecutionEvent.bytes).sum ≤ maxBytes ∨
      (pageEvents maxBytes selected).length = 1 := by
  cases selected with
  | nil => simp [pageEvents]
  | cons event rest =>
    by_cases fits : event.bytes ≤ maxBytes
    · rw [pageEvents_of_le fits]
      exact .inl (fitting_sum _ _ _)
    · rw [pageEvents_of_lt (by omega)]
      exact .inr rfl

/-- The log of `id` carries the numbers up to the `last_seq` of its row, an `i64`. -/
structure Numbered (db : Database) (id : ExecutionId) (row : ExecutionRow) : Prop where
  found : db.executions.find? id = some row
  seqs : (db.log id).map ExecutionEvent.seq = List.range' 1 row.lastSeq
  bound : row.lastSeq < 2 ^ 63

variable {db : Database} {id : ExecutionId} {row : ExecutionRow}

theorem Numbered.length (numbered : db.Numbered id row) : (db.log id).length = row.lastSeq :=
  length_of_numbered numbered.seqs

/-- The statement of `read_output` selects the next events of the log. -/
theorem Numbered.selectEvents_eq (numbered : db.Numbered id row) {afterSeq : Nat}
    (fits : afterSeq < 2 ^ 63) :
    db.selectEvents id afterSeq = ((db.log id).drop afterSeq).take 4096 := by
  have cursor : toI64 afterSeq = afterSeq := toI64_of_isI64 ⟨by omega, by omega⟩
  have selected : ((db.log id).filter fun event => toI64 afterSeq < (event.seq : Int)) =
      (db.log id).drop afterSeq := by
    rw [cursor, ← filter_number_eq_drop numbered.seqs afterSeq]
    refine List.filter_congr fun event _ => ?_
    exact decide_eq_decide.mpr (by omega)
  unfold selectEvents
  rw [selected, insertionSort_of_numbered (numbered_drop numbered.seqs afterSeq)]

/-- What a page after `afterSeq` of a log says: it is the next run of events, as many as its
limits allow and at least one, and its cursor and its flag tell where the log goes on. -/
structure IsPage (log : List ExecutionEvent) (lastSeq afterSeq maxBytes : Nat)
    (page : ReadOutputResponse) : Prop where
  run : page.events = (log.drop afterSeq).take page.events.length
  seqs : page.events.map ExecutionEvent.seq = List.range' (afterSeq + 1) page.events.length
  nonempty : page.events ≠ [] ↔ afterSeq < lastSeq
  rows : page.events.length ≤ 4096
  budget : (page.events.map ExecutionEvent.bytes).sum ≤ maxBytes ∨ page.events.length = 1
  cursor : page.nextSeq = (page.events.getLast?.map ExecutionEvent.seq).getD afterSeq
  more : page.hasMore = true ↔ page.nextSeq < lastSeq

namespace IsPage

variable {log : List ExecutionEvent} {lastSeq afterSeq maxBytes : Nat} {page : ReadOutputResponse}

theorem nextSeq_eq (spec : IsPage log lastSeq afterSeq maxBytes page) :
    page.nextSeq = afterSeq + page.events.length := by
  rw [spec.cursor]
  exact last_number spec.seqs

/-- The log up to a page's cursor is the log before the page, and the page. -/
theorem take_nextSeq (spec : IsPage log lastSeq afterSeq maxBytes page) :
    log.take page.nextSeq = log.take afterSeq ++ page.events := by
  have run := spec.run
  rw [spec.nextSeq_eq, List.take_add, ← run]

theorem nextSeq_le (spec : IsPage log lastSeq afterSeq maxBytes page)
    (length : log.length = lastSeq) : page.nextSeq ≤ max afterSeq lastSeq := by
  have short := congrArg List.length spec.run
  rw [List.length_take, List.length_drop] at short
  rw [spec.nextSeq_eq]
  omega

/-- A page of a log that goes on moves the cursor. -/
theorem progress (spec : IsPage log lastSeq afterSeq maxBytes page)
    (left : afterSeq < lastSeq) : afterSeq < page.nextSeq := by
  have some := List.length_pos_iff.mpr (spec.nonempty.mpr left)
  rw [spec.nextSeq_eq]
  omega

end IsPage

/-- The page that a program over the database is to return. -/
def page (db : Database) (now : Int) (row : ExecutionRow) (afterSeq maxBytes : Nat) :
    ReadOutputResponse :=
  let events := pageEvents maxBytes (db.selectEvents row.id afterSeq)
  let nextSeq := (events.getLast?.map ExecutionEvent.seq).getD afterSeq
  { execution := executionFromRow now row
    events
    nextSeq
    hasMore := decide (events.length < (db.selectEvents row.id afterSeq).length) ||
      decide (nextSeq < row.lastSeq) }

/-- `read_output` reads a page, or fails. -/
theorem post_readOutput (db : Database) (now : Int) (id : ExecutionId)
    (afterSeq maxBytes : Nat) :
    Sql.Post StorageFault (readOutput now id afterSeq maxBytes) db fun r db' => db' = db ∧
      match r with
      | .ok response => ∃ row, db.executions.find? id = some row ∧
          response = db.page now row afterSeq maxBytes
      | .error e => e.isStorage = true ∨
          e = .executionNotFound id ∧ db.executions.find? id = none := by
  refine Sql.post_bind (Sql.post_select (fun e raised => ⟨rfl, .inl raised⟩) ?_)
  cases found : db.executions.find? id with
  | none => exact ⟨rfl, .inr ⟨rfl, rfl⟩⟩
  | some row =>
    refine Sql.post_bind (Sql.post_select (fun e raised => ⟨rfl, .inl raised⟩) ?_)
    simp only [takePage_eq]
    refine Sql.post_pure ⟨rfl, row, rfl, ?_⟩
    rw [page, Table.find?_key found]
    rfl

/-- A page of a numbered log is as a page should be, behind any cursor that is an `i64`. -/
theorem Numbered.isPage (numbered : db.Numbered id row) (now : Int) {afterSeq : Nat}
    (fits : afterSeq < 2 ^ 63) (maxBytes : Nat) :
    IsPage (db.log id) row.lastSeq afterSeq maxBytes (db.page now row afterSeq maxBytes) := by
  have key : row.id = id := Table.find?_key numbered.found
  have select := numbered.selectEvents_eq fits
  have length := numbered.length
  have start := pageEvents_prefix maxBytes (db.selectEvents id afterSeq)
  have size := start.length_le
  have limits : (db.selectEvents id afterSeq).length = min 4096 (row.lastSeq - afterSeq) := by
    rw [select, List.length_take, List.length_drop, length]
  have run : pageEvents maxBytes (db.selectEvents id afterSeq) =
      ((db.log id).drop afterSeq).take
        (pageEvents maxBytes (db.selectEvents id afterSeq)).length := by
    have taken := List.prefix_iff_eq_take.mp start
    rw [← min_eq_left (le_trans size (by omega : _ ≤ 4096)), ← List.take_take, ← select]
    exact taken
  have seqs : (pageEvents maxBytes (db.selectEvents id afterSeq)).map ExecutionEvent.seq =
      List.range' (afterSeq + 1) (pageEvents maxBytes (db.selectEvents id afterSeq)).length := by
    rw [Nat.add_comm afterSeq 1]
    refine numbered_prefix (numbered_drop numbered.seqs afterSeq) ?_
    rw [run]
    exact List.take_prefix _ _
  have cursor := last_number seqs
  simp only [page, key]
  refine ⟨run, seqs, ?_, by simp only; omega, pageEvents_budget _ _, rfl, ?_⟩
  · rw [ne_eq, pageEvents_eq_nil, ← List.length_eq_zero_iff, limits]
    omega
  · simp only [cursor, Bool.or_eq_true, decide_eq_true_eq]
    constructor
    · intro flags
      -- a row that was selected but not taken lies behind the cursor
      omega
    · exact .inr

theorem Sound.numbered (sound : db.Sound) (found : db.executions.find? id = some row) :
    db.Numbered id row := by
  have valid := sound.wellFormed id _ (record_of_find? found)
  exact ⟨found, valid.seqs, valid.bound⟩

/-- A read of a numbered log returns a page, unless the database fails. -/
theorem Numbered.readOutput (numbered : db.Numbered id row) (now : Int) {afterSeq : Nat}
    (fits : afterSeq < 2 ^ 63) (maxBytes : Nat) (faults : List (Option String)) :
    match (Store.run (readOutput now id afterSeq maxBytes) faults db).1 with
    | .ok response => response.execution = executionFromRow now row ∧
        IsPage (db.log id) row.lastSeq afterSeq maxBytes response
    | .error e => e.isStorage = true := by
  have read := run_of_post (post_readOutput db now id afterSeq maxBytes) faults
  cases ran : (Store.run (Database.readOutput now id afterSeq maxBytes) faults db).1 with
  | error e =>
    rw [ran] at read
    obtain ⟨_, storage | ⟨_, absent⟩⟩ := read
    · exact storage
    · rw [numbered.found] at absent
      cases absent
  | ok response =>
    rw [ran] at read
    obtain ⟨_, known, found, same⟩ := read
    rw [numbered.found] at found
    rw [same, ← Option.some.inj found]
    exact ⟨rfl, numbered.isPage now fits maxBytes⟩

/-- When no statement fails, the read returns its page. -/
theorem readOutput_ok (found : db.executions.find? id = some row) (now : Int)
    (afterSeq maxBytes : Nat) :
    (Store.run (Database.readOutput now id afterSeq maxBytes) [] db).1 =
      .ok (db.page now row afterSeq maxBytes) := by
  have read : Sql.Post (fun _ => False) (Database.readOutput now id afterSeq maxBytes) db
      fun r _ => r = .ok (db.page now row afterSeq maxBytes) := by
    refine Sql.post_bind (Sql.post_select (fun _ never => never.elim) ?_)
    rw [found]
    refine Sql.post_bind (Sql.post_select (fun _ never => never.elim) ?_)
    simp only [takePage_eq]
    refine Sql.post_pure ?_
    rw [page, Table.find?_key found]
    rfl
  exact (read [] (by simp)).1

end Database

/-! ## Following a log -/

/-- A reader of the log of one execution: its cursor, what it has received, and how it
ended. -/
structure Follower where
  db : Database
  cursor : Nat
  received : List ExecutionEvent := []
  result : Option (Except Error Unit) := none

/-- What happens to a follower: a command of somebody else, or its own next read. -/
inductive FollowStep where
  | command (op : StoreOp) (faults : List (Option String))
  | read (now : Int) (maxBytes : Nat) (faults : List (Option String))

namespace Follower

/-- One round of the loop of `follow_logs` (`src/bin/loom.rs:1415`). -/
def read (f : Follower) (id : ExecutionId) (now : Int) (maxBytes : Nat)
    (faults : List (Option String)) : Follower :=
  match (Store.run (Database.readOutput now id f.cursor maxBytes) faults f.db).1 with
  | .ok page => { f with
      cursor := page.nextSeq
      received := f.received ++ page.events
      result := if page.hasMore then none else some (.ok ()) }
  | .error e => { f with result := some (.error e) }

end Follower

/-- A follower that starts behind `start`, within the log, and other users of the store. -/
def follower (id : ExecutionId) (start : Nat) : System Follower FollowStep where
  start f := f.db.Sound ∧ (∃ row, f.db.executions.find? id = some row ∧ start ≤ row.lastSeq) ∧
    f.cursor = start ∧ f.received = [] ∧ f.result = none
  step f
    | .command op faults => some { f with db := (Store.run op.program faults f.db).2 }
    | .read now maxBytes faults =>
        if f.result.isNone then some (f.read id now maxBytes faults) else none

/-- The execution that a follower reads is still there after a command. -/
def Keeps (id : ExecutionId) (f : Follower) : FollowStep → Prop
  | .command op faults =>
      ((Store.run op.program faults f.db).2.executions.find? id).isSome = true
  | .read _ _ _ => True

instance (id : ExecutionId) (f : Follower) (step : FollowStep) : Decidable (Keeps id f step) := by
  unfold Keeps
  split <;> infer_instance

/-- A follower has received what lies between its start and its cursor. -/
structure Following (id : ExecutionId) (start : Nat) (f : Follower) : Prop where
  sound : f.db.Sound
  row : ∃ row, f.db.executions.find? id = some row ∧ start ≤ f.cursor ∧ f.cursor ≤ row.lastSeq
  received : f.received = ((f.db.log id).take f.cursor).drop start

namespace Following

variable {id : ExecutionId} {start : Nat} {f : Follower}

/-- A command that keeps the execution leaves what was read where it was. -/
theorem command (valid : Following id start f) {op : StoreOp} {faults : List (Option String)}
    (kept : Keeps id f (.command op faults)) :
    Following id start { f with db := (Store.run op.program faults f.db).2 } := by
  have touched := op.touched valid.sound.linked faults
  obtain ⟨row, found, begun, within⟩ := valid.row
  obtain ⟨row', found'⟩ := Option.isSome_iff_exists.mp kept
  have grown := touched.grown (Database.record_of_find? found) (Database.record_of_find? found')
  obtain ⟨_, effect, _⟩ := touched
  have sound := effect.sound valid.sound
  have length := (valid.sound.numbered found).length
  have length' := (sound.numbered found').length
  have longer := grown.length_le
  simp only at longer
  obtain ⟨added, appended⟩ := grown
  refine ⟨sound, ⟨row', found', begun, le_trans within (by omega)⟩, ?_⟩
  show f.received = _
  rw [valid.received, show (Store.run op.program faults f.db).2.log id = _ from appended.symm,
    List.take_append_of_le_length (by simp only; omega)]

/-- A read hands out the events behind the cursor, and stops only where the log ends. -/
theorem read (valid : Following id start f) (now : Int) (maxBytes : Nat)
    (faults : List (Option String)) :
    Following id start (f.read id now maxBytes faults) ∧
      ((f.read id now maxBytes faults).result = some (.ok ()) →
        (f.read id now maxBytes faults).received = (f.db.log id).drop start) := by
  obtain ⟨row, found, begun, within⟩ := valid.row
  have numbered := valid.sound.numbered found
  have response := numbered.readOutput now (lt_of_le_of_lt within numbered.bound) maxBytes faults
  unfold Follower.read
  cases ran : (Store.run (Database.readOutput now id f.cursor maxBytes) faults f.db).1 with
  | error e => exact ⟨⟨valid.sound, ⟨row, found, begun, within⟩, valid.received⟩, by simp⟩
  | ok page =>
    rw [ran] at response
    obtain ⟨_, spec⟩ := response
    have next : page.nextSeq ≤ row.lastSeq := by
      have last := spec.nextSeq_le numbered.length
      omega
    have moved : f.cursor ≤ page.nextSeq := by
      rw [spec.nextSeq_eq]
      omega
    have received : f.received ++ page.events =
        ((f.db.log id).take page.nextSeq).drop start := by
      have before : start ≤ ((f.db.log id).take f.cursor).length := by
        rw [List.length_take, numbered.length]
        omega
      rw [spec.take_nextSeq, List.drop_append_of_le_length before, ← valid.received]
    refine ⟨⟨valid.sound, ⟨row, found, by simp only; omega, next⟩, received⟩, ?_⟩
    intro ended
    have last : ¬ page.nextSeq < row.lastSeq := by
      intro behind
      simp [spec.more.mpr behind] at ended
    show f.received ++ page.events = _
    rw [received, List.take_of_length_le (by rw [numbered.length]; omega)]

/-- A read that goes well moves the cursor or ends the loop. -/
theorem progress (valid : Following id start f) (now : Int) (maxBytes : Nat) :
    (f.read id now maxBytes []).result = some (.ok ()) ∨
      (f.read id now maxBytes []).result = none ∧
        f.cursor < (f.read id now maxBytes []).cursor := by
  obtain ⟨row, found, begun, within⟩ := valid.row
  have numbered := valid.sound.numbered found
  have spec := numbered.isPage now (lt_of_le_of_lt within numbered.bound) maxBytes
  unfold Follower.read
  rw [Database.readOutput_ok found]
  simp only
  cases more : (f.db.page now row f.cursor maxBytes).hasMore with
  | false => exact .inl rfl
  | true =>
    have behind := spec.more.mp more
    refine .inr ⟨rfl, ?_⟩
    apply spec.progress
    by_contra atEnd
    have empty : (f.db.page now row f.cursor maxBytes).events = [] := by
      by_contra some
      exact atEnd (spec.nonempty.mp some)
    have stays := spec.nextSeq_eq
    rw [empty, List.length_nil] at stays
    omega

end Following

theorem follower_following {id : ExecutionId} {start : Nat} {f : Follower}
    (reached : (follower id start).ReachableVia (Keeps id) f) : Following id start f := by
  refine reached.invariant (Following id start) ?_ ?_
  · intro f first
    obtain ⟨sound, ⟨row, found, within⟩, cursor, received, _⟩ := first
    refine ⟨sound, ⟨row, found, by omega, by omega⟩, ?_⟩
    rw [received, cursor, List.drop_eq_nil_of_le (by simp)]
  · intro f step f' _ valid kept enabled
    cases step with
    | command op faults =>
      rw [← Option.some.inj enabled]
      exact valid.command kept
    | read now maxBytes faults =>
      obtain ⟨_, same⟩ := Option.ite_none_right_eq_some.mp enabled
      rw [← Option.some.inj same]
      exact (valid.read now maxBytes faults).1

/-- Reads that go well end the loop before the log has run out of numbers. -/
theorem Following.finishes {id : ExecutionId} {start : Nat} {reads : List (Int × Nat)}
    {f : Follower} (valid : Following id start f) (reading : f.result = none)
    (enough : ∀ row, f.db.executions.find? id = some row →
      row.lastSeq - f.cursor < reads.length) :
    ∃ k ≤ reads.length, ∃ f', (follower id start).run f
        ((reads.take k).map fun read => .read read.1 read.2 []) = some f' ∧
      f'.result = some (.ok ()) ∧ f'.received = (f.db.log id).drop start := by
  induction reads generalizing f with
  | nil =>
    obtain ⟨row, found, _⟩ := valid.row
    exact absurd (enough row found) (by simp)
  | cons first rest ih =>
    obtain ⟨now, maxBytes⟩ := first
    obtain ⟨valid', last⟩ := valid.read now maxBytes []
    have step : (follower id start).step f (.read now maxBytes []) =
        some (f.read id now maxBytes []) := by
      simp [follower, reading]
    have same : (f.read id now maxBytes []).db = f.db := by
      unfold Follower.read
      split <;> rfl
    rcases valid.progress now maxBytes with ended | ⟨going, moved⟩
    · refine ⟨1, by simp, f.read id now maxBytes [], ?_, ended, last ended⟩
      simp [System.run, step]
    · obtain ⟨row, found, begun, within⟩ := valid.row
      obtain ⟨row', found', _, within'⟩ := valid'.row
      have enough' := enough row found
      rw [same, found] at found'
      rw [← Option.some.inj found'] at within'
      rw [List.length_cons] at enough'
      have later : ∀ row', (f.read id now maxBytes []).db.executions.find? id = some row' →
          row'.lastSeq - (f.read id now maxBytes []).cursor < rest.length := by
        intro row' found'
        rw [same, found] at found'
        rw [← Option.some.inj found']
        omega
      obtain ⟨k, short, f', ran, ended, received⟩ := ih valid' going later
      refine ⟨k + 1, by simpa using short, f', ?_, ended, by rw [received, same]⟩
      rw [List.take_succ_cons, List.map_cons, System.run, step]
      exact ran

/-- Every page of a numbered log is a page as it should be; so a follower has received, at
any moment and whatever commands that keep the execution run in between, each event between
its start and its cursor once and in order, has all of them when its loop ends, and ends
it once nobody else writes. -/
theorem read_output_paging :
    (∀ (db : Database) (id : ExecutionId) (row : ExecutionRow), db.Numbered id row →
      ∀ afterSeq ≤ row.lastSeq, ∀ (now : Int) (maxBytes : Nat) (faults : List (Option String)),
        match (Store.run (Database.readOutput now id afterSeq maxBytes) faults db).1 with
        | .ok page => page.execution = Database.executionFromRow now row ∧
            Database.IsPage (db.log id) row.lastSeq afterSeq maxBytes page
        | .error e => e.isStorage = true) ∧
    ∀ (id : ExecutionId) (start : Nat) (f : Follower),
      (follower id start).ReachableVia (Keeps id) f →
        f.received = ((f.db.log id).take f.cursor).drop start ∧
        f.received.map ExecutionEvent.seq = List.range' (start + 1) (f.cursor - start) ∧
        (∀ now maxBytes faults, (f.read id now maxBytes faults).result = some (.ok ()) →
          (f.read id now maxBytes faults).received = (f.db.log id).drop start) ∧
        ∀ reads : List (Int × Nat), f.result = none →
          (∀ row, f.db.executions.find? id = some row →
            row.lastSeq - f.cursor < reads.length) →
          ∃ k ≤ reads.length, ∃ f', (follower id start).run f
              ((reads.take k).map fun read => .read read.1 read.2 []) = some f' ∧
            f'.result = some (.ok ()) ∧ f'.received = (f.db.log id).drop start := by
  constructor
  · intro db id row numbered afterSeq within now maxBytes faults
    exact numbered.readOutput now (lt_of_le_of_lt within numbered.bound) maxBytes faults
  · intro id start f reached
    have valid := follower_following reached
    obtain ⟨row, found, begun, within⟩ := valid.row
    have numbered := valid.sound.numbered found
    refine ⟨valid.received, ?_, fun now maxBytes faults => (valid.read now maxBytes faults).2,
      fun reads reading enough => valid.finishes reading enough⟩
    have seqs := numbered_prefix numbered.seqs (List.take_prefix f.cursor (f.db.log id))
    rw [List.length_take, numbered.length, Nat.min_eq_left within] at seqs
    rw [valid.received, numbered_drop seqs start, Nat.add_comm 1 start]

/-- Reads with a budget of one byte, and a writer in between. -/
def sampleFollow : List FollowStep :=
  [.read 10 1 [], .read 11 1 [],
   .command (.appendCaptureBatch [.output "a" 5 .stderr [1, 2, 3, 4, 5]]) [],
   .read 12 1 [], .read 13 1 []]

theorem read_output_paging_sample :
    (store.run sampleDatabase sampleOps).bind (fun db =>
        ((follower "a" 0).runIf (Keeps "a") ⟨db, 0, [], none⟩ sampleFollow).map fun f =>
          (f.received.map ExecutionEvent.seq, f.cursor, f.result.map Except.isOk)) =
      some ([1, 2, 3, 4, 5], 5, some true) ∧
    ∃ f, (follower "a" 0).ReachableVia (Keeps "a") f ∧ f.cursor = 5 ∧
      f.received = ((f.db.log "a").take f.cursor).drop 0 := by
  have ran : (store.run sampleDatabase sampleOps).bind (fun db =>
        ((follower "a" 0).runIf (Keeps "a") ⟨db, 0, [], none⟩ sampleFollow).map fun f =>
          (f.received.map ExecutionEvent.seq, f.cursor, f.result.map Except.isOk)) =
      some ([1, 2, 3, 4, 5], 5, some true) := by decide +kernel
  refine ⟨ran, ?_⟩
  obtain ⟨db, stored, followed⟩ := Option.bind_eq_some_iff.mp ran
  obtain ⟨f, replay, values⟩ := Option.map_eq_some_iff.mp followed
  have present : (store.run sampleDatabase sampleOps).bind (fun db =>
      db.executions.find? "a") ≠ none := by decide +kernel
  rw [stored] at present
  obtain ⟨row, found⟩ := Option.ne_none_iff_exists'.mp present
  have sound := store_sound (System.run_reachable ⟨rfl, rfl⟩ stored)
  have first : (follower "a" 0).start ⟨db, 0, [], none⟩ :=
    ⟨sound, ⟨row, found, Nat.zero_le _⟩, rfl, rfl, rfl⟩
  have reached := (System.ReachableVia.start first).run (System.runIf_runVia replay)
  exact ⟨f, reached, congrArg (·.2.1) values, (read_output_paging.2 "a" 0 f reached).1⟩

end Loomterm
