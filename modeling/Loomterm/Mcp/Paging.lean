import Loomterm.Mcp.Tools

/-!
# Paging with `loom_read`

The store hands out one event even when it is above the budget, and the tool then drops it
again. So a client that goes on from `next_seq` gets through a log just when no event is
larger than its budget.
-/

namespace Loomterm

open Database

/-- What the response of a tool after `afterSeq` of a log says: the next events as far as
they fit the budget, and where the log goes on. -/
structure IsReply (format : OutputFormat) (maxBytes afterSeq : Nat) (log : List ExecutionEvent)
    (lastSeq : Nat) (reply : ToolOutputResponse) : Prop where
  events : reply.events = (fitting ExecutionEvent.bytes maxBytes
    ((log.drop afterSeq).take 4096)).map (convertEvent format)
  nextSeq : reply.nextSeq = afterSeq + reply.events.length
  more : reply.hasMore = true ↔ reply.nextSeq < lastSeq

/-- The events of a response, whatever the cursor was. -/
theorem respond_page (db : Database) (now : Int) (row : ExecutionRow)
    (format : OutputFormat) (maxBytes afterSeq : Nat) :
    let taken := fitting ExecutionEvent.bytes maxBytes (db.selectEvents row.id afterSeq)
    let page := db.page now row afterSeq maxBytes
    let reply := respond format maxBytes afterSeq page
    reply.events = taken.map (convertEvent format) ∧
      reply.nextSeq = (taken.getLast?.map ExecutionEvent.seq).getD afterSeq ∧
      reply.hasMore = (page.hasMore || decide (taken.length < page.events.length) ||
        decide (reply.nextSeq < page.nextSeq)) := by
  simp only [respond, convertEvents_eq]
  rw [show (db.page now row afterSeq maxBytes).events =
    pageEvents maxBytes (db.selectEvents row.id afterSeq) from rfl, fitting_pageEvents]
  exact ⟨rfl, rfl, rfl⟩

/-- What a tool takes is a start of the page it got. -/
theorem taken_prefix (maxBytes : Nat) (selected : List ExecutionEvent) :
    fitting ExecutionEvent.bytes maxBytes selected <+: pageEvents maxBytes selected := by
  rw [← fitting_pageEvents]
  exact fitting_prefix _ _ _

variable {db : Database} {id : ExecutionId} {row : ExecutionRow}

theorem Database.Numbered.isReply (numbered : db.Numbered id row) (now : Int)
    (format : OutputFormat) (maxBytes : Nat) {afterSeq : Nat} (fits : afterSeq < 2 ^ 63) :
    IsReply format maxBytes afterSeq (db.log id) row.lastSeq
      (respond format maxBytes afterSeq (db.page now row afterSeq maxBytes)) := by
  have key : row.id = id := Table.find?_key numbered.found
  have spec := numbered.isPage now fits maxBytes
  have select := numbered.selectEvents_eq fits
  obtain ⟨events, nextSeq, more⟩ := respond_page db now row format maxBytes afterSeq
  rw [key] at events nextSeq more
  have start := taken_prefix maxBytes (db.selectEvents id afterSeq)
  have shorter := start.length_le
  have size : (db.page now row afterSeq maxBytes).events.length =
      (pageEvents maxBytes (db.selectEvents id afterSeq)).length := by
    rw [page, key]
  have seqs : (fitting ExecutionEvent.bytes maxBytes (db.selectEvents id afterSeq)).map
      ExecutionEvent.seq = List.range' (afterSeq + 1)
        (fitting ExecutionEvent.bytes maxBytes (db.selectEvents id afterSeq)).length := by
    rw [Nat.add_comm afterSeq 1]
    refine numbered_prefix (numbered_drop numbered.seqs afterSeq) ?_
    have inside := fitting_prefix ExecutionEvent.bytes maxBytes (db.selectEvents id afterSeq)
    rw [select] at inside ⊢
    exact inside.trans (List.take_prefix _ _)
  rw [last_number seqs] at nextSeq
  have native := spec.nextSeq_eq
  have last := spec.nextSeq_le numbered.length
  have flag := spec.more
  refine ⟨by rw [events, select], by rw [events, List.length_map, nextSeq], ?_⟩
  rw [more]
  simp only [Bool.or_eq_true, decide_eq_true_eq, flag]
  omega

/-- A cursor past the `i64` range is bound as a negative number, and selects from the start. -/
theorem Database.Numbered.selectEvents_wrapped (numbered : db.Numbered id row) {afterSeq : Nat}
    (past : 2 ^ 63 ≤ afterSeq) (inside : afterSeq < 2 ^ 64) :
    db.selectEvents id afterSeq = (db.log id).take 4096 := by
  have negative : toI64 afterSeq < 0 := by
    have range := toI64_isI64 afterSeq
    have same := toI64_emod afterSeq
    simp only [IsI64] at range
    omega
  have all : ((db.log id).filter fun event => toI64 afterSeq < (event.seq : Int)) =
      db.log id := by
    refine List.filter_eq_self.mpr fun event _ => ?_
    rw [decide_eq_true_eq]
    omega
  unfold selectEvents
  rw [all, insertionSort_of_numbered numbered.seqs]

/-- The response then moves the cursor back, and says that there is more unless it has room
for the whole log. -/
theorem Database.Numbered.reply_wrapped (numbered : db.Numbered id row) {afterSeq : Nat}
    (past : 2 ^ 63 ≤ afterSeq) (inside : afterSeq < 2 ^ 64) (now : Int) (format : OutputFormat)
    (maxBytes : Nat) :
    (respond format maxBytes afterSeq (db.page now row afterSeq maxBytes)).nextSeq ≤ afterSeq ∧
      ((respond format maxBytes afterSeq (db.page now row afterSeq maxBytes)).hasMore = true ↔
        ¬ (row.lastSeq ≤ 4096 ∧ ((db.log id).map ExecutionEvent.bytes).sum ≤ maxBytes)) := by
  have key : row.id = id := Table.find?_key numbered.found
  have length := numbered.length
  have bound := numbered.bound
  have selected := numbered.selectEvents_wrapped past inside
  have size : ((db.log id).take 4096).length = min 4096 row.lastSeq := by
    rw [List.length_take, length]
  -- the page is a start of the log, and what the tool takes is a start of the page
  have inPage := taken_prefix maxBytes ((db.log id).take 4096)
  have inLog := pageEvents_prefix maxBytes ((db.log id).take 4096)
  have shorter := inPage.length_le
  have shorter' := inLog.length_le
  have pageSeqs := numbered_prefix numbered.seqs (inLog.trans (List.take_prefix _ _))
  have takenSeqs :=
    numbered_prefix numbered.seqs (inPage.trans (inLog.trans (List.take_prefix _ _)))
  have native := last_number_getD pageSeqs afterSeq
  have cursor := last_number_getD takenSeqs afterSeq
  obtain ⟨_, nextSeq, more⟩ := respond_page db now row format maxBytes afterSeq
  rw [key, selected] at nextSeq more
  rw [cursor] at nextSeq
  rw [more, nextSeq]
  simp only [page, key, selected, native, Bool.or_eq_true, decide_eq_true_eq]
  refine ⟨by split <;> omega, ?_⟩
  constructor
  · intro flags whole
    obtain ⟨few, small⟩ := whole
    have everything : (db.log id).take 4096 = db.log id := List.take_of_length_le (by omega)
    have fits := congrArg List.length (fitting_of_sum_le small)
    rw [everything] at flags shorter shorter' size
    split at flags <;> split at flags <;> omega
  · intro beyond
    by_contra flags
    apply beyond
    have few : row.lastSeq ≤ 4096 := by
      split at flags <;> split at flags <;> omega
    have everything : (db.log id).take 4096 = db.log id := List.take_of_length_le (by omega)
    have whole := (inPage.trans inLog).eq_of_length (by omega)
    have small := fitting_sum ExecutionEvent.bytes maxBytes ((db.log id).take 4096)
    rw [whole, everything] at small
    exact ⟨few, small⟩

/-! ## Calls -/

/-- A moment at which nothing fails. -/
def quiet (db : Database) (now : Int) : Moment := { now, db }

theorem call_quiet {α : Type} {program : Int → Store α} {now : Int} {a : α}
    (ran : (Store.run (program now) [] db).1 = .ok a) :
    (quiet db now).call program = .ok a := by
  show ((Store.run (program now) [] db).1).mapError _ = _
  rw [ran]
  rfl

/-- A successful `loom_read` makes its response from the page of that moment. -/
theorem read_ok {server : LoomMcpServer} {input : ReadInput} {first second : Moment}
    {reply : ToolOutputResponse} (ok : server.read input first second = .ok reply) :
    ∃ row, second.db.executions.find? input.executionId = some row ∧
      reply = respond input.outputFormat (normalizedMax input.maxBytes) input.afterSeq
        (second.db.page second.now row input.afterSeq (normalizedMax input.maxBytes)) := by
  unfold LoomMcpServer.read at ok
  cases allowed : server.allowedExecution input.executionId first with
  | error e =>
    rw [allowed] at ok
    cases ok
  | ok execution =>
    rw [allowed] at ok
    cases called : second.call
        (daemonReadOutput input.executionId input.afterSeq (normalizedMax input.maxBytes)) with
    | error e =>
      simp only [bind, Except.bind, called] at ok
      cases ok
    | ok response =>
      simp only [bind, Except.bind, called] at ok
      obtain ⟨row, found, same⟩ := Moment.page_of_call called
      rw [normalizedMax_clamp] at same
      refine ⟨row, found, ?_⟩
      rw [← same]
      cases ok
      rfl

/-- A page that a call got makes a reply behind its cursor, and shows the row of its moment. -/
theorem Moment.reply_of_call (moment : Moment) (numbered : moment.db.Numbered id row)
    {cursor limit : Nat} (within : cursor ≤ (moment.db.log id).length) (positive : 0 < limit)
    (small : limit ≤ 1024 * 1024) {page : ReadOutputResponse}
    (called : moment.call (daemonReadOutput id cursor limit) = .ok page)
    (format : OutputFormat) :
    IsReply format limit cursor (moment.db.log id) row.lastSeq
      (respond format limit cursor page) ∧ page.execution = executionFromRow moment.now row := by
  obtain ⟨row', found, same⟩ := Moment.page_of_call called
  have clamp : max 1 (min limit (8 * 1024 * 1024)) = limit := by omega
  rw [numbered.found] at found
  rw [clamp, ← Option.some.inj found] at same
  rw [numbered.length] at within
  rw [same]
  exact ⟨numbered.isReply moment.now format limit (lt_of_le_of_lt within numbered.bound), rfl⟩

/-- At a quiet moment a tool of the right workspace responds. -/
theorem read_quiet (found : db.executions.find? id = some row) {server : LoomMcpServer}
    (ours : row.workspaceId = server.workspace.id) (format : OutputFormat)
    (maxBytes : Option Nat) (afterSeq : Nat) (now : Int) :
    server.read ⟨id, afterSeq, format, maxBytes⟩ (quiet db now) (quiet db now) =
      .ok (respond format (normalizedMax maxBytes) afterSeq
        (db.page now row afterSeq (normalizedMax maxBytes))) := by
  have got : (quiet db now).call (fun now => getExecution now id) =
      .ok (executionFromRow now row) := by
    apply call_quiet
    show (Store.run (getExecution now id) [] db).1 = _
    simp only [Store.run, getExecution, Sql.select, Sql.statement, List.map_nil, found]
    rfl
  have paged : (quiet db now).call (daemonReadOutput id afterSeq (normalizedMax maxBytes)) =
      .ok (db.page now row afterSeq (normalizedMax maxBytes)) := by
    apply call_quiet
    rw [daemonReadOutput_eq]
    exact readOutput_ok found now afterSeq _
  have allowed : server.allowedExecution id (quiet db now) = .ok (executionFromRow now row) := by
    unfold LoomMcpServer.allowedExecution
    rw [got]
    exact if_pos ours
  simp only [LoomMcpServer.read, allowed, paged, bind, Except.bind, pure, Except.pure]

/-! ## Progress -/

/-- A response that says there is more moves the cursor on. -/
def Progresses (server : LoomMcpServer) (input : ReadInput) (db : Database) : Prop :=
  ∀ first second reply, second.db = db → server.read input first second = .ok reply →
    reply.hasMore = true → input.afterSeq < reply.nextSeq

/-- The documented protocol against a log that no longer changes: read on from `next_seq`
while `has_more` is set. The list gives the time of each call; `none` says that the calls
did not reach the end. -/
def pageThrough (server : LoomMcpServer) (db : Database) (input : ReadInput) :
    List Int → Option (List ToolEvent)
  | [] => none
  | now :: rest =>
    match server.read input (quiet db now) (quiet db now) with
    | .ok reply =>
        if reply.hasMore then
          (pageThrough server db { input with afterSeq := reply.nextSeq } rest).map
            (reply.events ++ ·)
        else some reply.events
    | .error _ => none

/-- The client gets every event behind its start, in finitely many calls. -/
def Completes (server : LoomMcpServer) (db : Database) (input : ReadInput) : Prop :=
  ∃ calls : Nat, ∀ clocks : List Int, calls ≤ clocks.length →
    pageThrough server db input clocks =
      some (((db.log input.executionId).drop input.afterSeq).map
        (convertEvent input.outputFormat))

namespace IsReply

variable {format : OutputFormat} {limit afterSeq lastSeq : Nat} {log : List ExecutionEvent}
  {reply : ToolOutputResponse}

theorem start (limit afterSeq : Nat) (log : List ExecutionEvent) :
    fitting ExecutionEvent.bytes limit ((log.drop afterSeq).take 4096) <+: log.drop afterSeq :=
  List.IsPrefix.trans ( fitting_prefix _ _ _) (List.take_prefix _ _)

/-- A log goes on behind a response with what the response left out. -/
theorem drop_eq (spec : IsReply format limit afterSeq log lastSeq reply) :
    fitting ExecutionEvent.bytes limit ((log.drop afterSeq).take 4096) ++
      log.drop reply.nextSeq = log.drop afterSeq := by
  have length : reply.nextSeq = afterSeq +
      (fitting ExecutionEvent.bytes limit ((log.drop afterSeq).take 4096)).length := by
    rw [spec.nextSeq, spec.events, List.length_map]
  rw [length, ← List.drop_drop]
  exact List.prefix_iff_eq_append.mp (start limit afterSeq log)

theorem nextSeq_le (spec : IsReply format limit afterSeq log lastSeq reply)
    (length : log.length = lastSeq) : reply.nextSeq ≤ max afterSeq lastSeq := by
  have sizes := congrArg List.length spec.drop_eq
  have count := congrArg List.length spec.events
  have next := spec.nextSeq
  simp only [List.length_append, List.length_drop, List.length_map] at sizes count
  omega

/-- An event that fits is handed out when its turn comes. -/
theorem progress (spec : IsReply format limit afterSeq log lastSeq reply)
    {event : ExecutionEvent} {rest : List ExecutionEvent}
    (next : log.drop afterSeq = event :: rest) (fits : event.bytes ≤ limit) :
    afterSeq < reply.nextSeq := by
  have events := spec.events
  rw [next, List.take_succ_cons, fitting_cons fits] at events
  have length := congrArg List.length events
  rw [List.map_cons, List.length_cons] at length
  have cursor := spec.nextSeq
  omega

/-- An event that does not fit when its turn comes is not handed out. -/
theorem stuck (spec : IsReply format limit afterSeq log lastSeq reply)
    {event : ExecutionEvent} {rest : List ExecutionEvent}
    (next : log.drop afterSeq = event :: rest) (beyond : limit < event.bytes) :
    reply.nextSeq = afterSeq := by
  have events := spec.events
  rw [next, List.take_succ_cons, fitting_cons_of_lt beyond] at events
  rw [spec.nextSeq, events]
  rfl

/-- An event above the budget stays ahead of the cursor. -/
theorem ahead (spec : IsReply format limit afterSeq log lastSeq reply) {event : ExecutionEvent}
    (member : event ∈ log.drop afterSeq) (beyond : limit < event.bytes) :
    event ∈ log.drop reply.nextSeq := by
  rw [← spec.drop_eq] at member
  rcases List.mem_append.mp member with taken | later
  · have small := fitting_small taken
    omega
  · exact later

end IsReply

section

variable (numbered : db.Numbered id row) {server : LoomMcpServer}
  (ours : row.workspaceId = server.workspace.id) {format : OutputFormat} {maxBytes : Option Nat}

include numbered ours

/-- At a quiet moment a call within the log gets its reply. -/
theorem read_reply (format : OutputFormat) (maxBytes : Option Nat) {afterSeq : Nat}
    (inside : afterSeq < 2 ^ 63) (now : Int) :
    ∃ reply, server.read ⟨id, afterSeq, format, maxBytes⟩ (quiet db now) (quiet db now) =
        .ok reply ∧
      IsReply format (normalizedMax maxBytes) afterSeq (db.log id) row.lastSeq reply :=
  ⟨_, read_quiet numbered.found ours format maxBytes afterSeq now,
    numbered.isReply now format (normalizedMax maxBytes) inside⟩

/-- As long as every event fits, the protocol gets through the log. -/
theorem pageThrough_eq {clocks : List Int} {afterSeq : Nat} (within : afterSeq ≤ row.lastSeq)
    (fits : ∀ event ∈ (db.log id).drop afterSeq, event.bytes ≤ normalizedMax maxBytes)
    (enough : row.lastSeq - afterSeq < clocks.length) :
    pageThrough server db ⟨id, afterSeq, format, maxBytes⟩ clocks =
      some (((db.log id).drop afterSeq).map (convertEvent format)) := by
  induction clocks generalizing afterSeq with
  | nil => exact absurd enough (Nat.not_lt_zero _)
  | cons now rest ih =>
    have inside : afterSeq < 2 ^ 63 := lt_of_le_of_lt within numbered.bound
    obtain ⟨reply, ran, spec⟩ := read_reply numbered ours format maxBytes inside now
    have length := numbered.length
    have next : reply.nextSeq ≤ row.lastSeq := by
      have last := spec.nextSeq_le length
      omega
    have joined := congrArg (List.map (convertEvent format)) spec.drop_eq
    rw [List.map_append, ← spec.events] at joined
    simp only [pageThrough, ran]
    rw [List.length_cons] at enough
    split
    · rename_i more
      have behind := spec.more.mp more
      have moved : afterSeq < reply.nextSeq := by
        cases left : (db.log id).drop afterSeq with
        | nil =>
          have none := congrArg List.length left
          have cursor := spec.nextSeq
          rw [List.length_drop, List.length_nil] at none
          omega
        | cons event later =>
          have first : event ∈ (db.log id).drop afterSeq := by
            rw [left]
            exact List.mem_cons_self
          exact spec.progress left (fits event first)
      rw [ih next _ (by omega), ← joined]
      · rfl
      · intro event member
        refine fits event ?_
        rw [← spec.drop_eq]
        exact List.mem_append_right _ member
    · rename_i last
      have beyond : (db.log id).length ≤ reply.nextSeq := by
        rw [length]
        exact Nat.le_of_not_lt fun behind => last (spec.more.mpr behind)
      rw [List.drop_eq_nil_of_le beyond, List.map_nil, List.append_nil] at joined
      rw [joined]

/-- An event above the budget is never passed, whatever the number of calls. -/
theorem pageThrough_eq_none {clocks : List Int} {afterSeq : Nat} (within : afterSeq ≤ row.lastSeq)
    {event : ExecutionEvent} (member : event ∈ (db.log id).drop afterSeq)
    (beyond : normalizedMax maxBytes < event.bytes) :
    pageThrough server db ⟨id, afterSeq, format, maxBytes⟩ clocks = none := by
  induction clocks generalizing afterSeq with
  | nil => rfl
  | cons now rest ih =>
    have inside : afterSeq < 2 ^ 63 := lt_of_le_of_lt within numbered.bound
    obtain ⟨reply, ran, spec⟩ := read_reply numbered ours format maxBytes inside now
    have next : reply.nextSeq ≤ row.lastSeq := by
      have last := spec.nextSeq_le numbered.length
      omega
    have later := spec.ahead member beyond
    have behind : reply.nextSeq < row.lastSeq := by
      have some := List.length_pos_of_mem later
      rw [List.length_drop, numbered.length] at some
      omega
    simp only [pageThrough, ran, spec.more.mpr behind, if_true]
    rw [ih next later, Option.map_none]

theorem completes_iff {start : Nat} (within : start ≤ row.lastSeq) :
    Completes server db ⟨id, start, format, maxBytes⟩ ↔
      ∀ event ∈ (db.log id).drop start, event.bytes ≤ normalizedMax maxBytes := by
  constructor
  · intro completes event member
    obtain ⟨calls, done⟩ := completes
    by_contra beyond
    have all := done (List.replicate calls 0) (by simp)
    rw [pageThrough_eq_none numbered ours within member (by omega)] at all
    cases all
  · intro fits
    refine ⟨row.lastSeq - start + 1, fun clocks enough => ?_⟩
    exact pageThrough_eq numbered ours within fits (by omega)

/-- Behind a cursor that is an `i64`, a call makes progress just when the next event fits. -/
theorem progresses_iff {afterSeq : Nat} (inside : afterSeq < 2 ^ 63) :
    Progresses server ⟨id, afterSeq, format, maxBytes⟩ db ↔
      ∀ event ∈ ((db.log id).drop afterSeq).head?, event.bytes ≤ normalizedMax maxBytes := by
  have length := numbered.length
  constructor
  · intro progresses event first
    obtain ⟨rest, next⟩ := List.head?_eq_some_iff.mp first
    by_contra beyond
    obtain ⟨reply, ran, spec⟩ := read_reply numbered ours format maxBytes inside 0
    have stays := spec.stuck next (by omega)
    have some := congrArg List.length next
    rw [List.length_drop, length, List.length_cons] at some
    have moved := progresses _ _ reply rfl ran (spec.more.mpr (by omega))
    simp only at moved
    omega
  · intro fits first second reply same ok more
    obtain ⟨row', found, made⟩ := read_ok ok
    rw [same, numbered.found] at found
    have spec := numbered.isReply second.now format (normalizedMax maxBytes) inside
    rw [made, same, ← Option.some.inj found] at more ⊢
    have behind := spec.more.mp more
    cases left : (db.log id).drop afterSeq with
    | nil =>
      have none := congrArg List.length left
      have cursor := spec.nextSeq
      rw [List.length_drop, List.length_nil] at none
      omega
    | cons event rest => exact spec.progress left (fits event (by rw [left]; rfl))

/-- Behind a cursor past the `i64` range a call makes progress, or rather says that there is
no more, just when one response has room for the whole log. -/
theorem progresses_wrapped_iff {afterSeq : Nat} (past : 2 ^ 63 ≤ afterSeq)
    (inside : afterSeq < 2 ^ 64) :
    Progresses server ⟨id, afterSeq, format, maxBytes⟩ db ↔
      row.lastSeq ≤ 4096 ∧
        ((db.log id).map ExecutionEvent.bytes).sum ≤ normalizedMax maxBytes := by
  constructor
  · intro progresses
    by_contra beyond
    obtain ⟨back, more⟩ := numbered.reply_wrapped past inside 0 format (normalizedMax maxBytes)
    have moved := progresses _ _ _ rfl
      (read_quiet numbered.found ours format maxBytes afterSeq 0) (more.mpr beyond)
    exact absurd back (Nat.not_le_of_lt moved)
  · intro whole first second reply same ok flag
    obtain ⟨row', found, made⟩ := read_ok ok
    rw [same, numbered.found] at found
    rw [made, same, ← Option.some.inj found] at flag
    have more := (numbered.reply_wrapped past inside second.now format (normalizedMax maxBytes)).2
    exact absurd whole (more.mp flag)

end

/-- Every call within a log makes progress, and every client gets through it, if and only if
no event of the log is above the budget. A single call makes progress if and only if the
next event fits; with a cursor past the `i64` range, if and only if the whole log does. -/
theorem loom_read_progress_iff (numbered : db.Numbered id row) {server : LoomMcpServer}
    (ours : row.workspaceId = server.workspace.id) (format : OutputFormat)
    (maxBytes : Option Nat) :
    ((∀ afterSeq ≤ row.lastSeq, Progresses server ⟨id, afterSeq, format, maxBytes⟩ db ∧
        Completes server db ⟨id, afterSeq, format, maxBytes⟩) ↔
      ∀ event ∈ db.log id, event.bytes ≤ normalizedMax maxBytes) ∧
    (∀ afterSeq < 2 ^ 63, Progresses server ⟨id, afterSeq, format, maxBytes⟩ db ↔
      ∀ event ∈ ((db.log id).drop afterSeq).head?, event.bytes ≤ normalizedMax maxBytes) ∧
    ∀ afterSeq, 2 ^ 63 ≤ afterSeq → afterSeq < 2 ^ 64 →
      (Progresses server ⟨id, afterSeq, format, maxBytes⟩ db ↔
        row.lastSeq ≤ 4096 ∧
          ((db.log id).map ExecutionEvent.bytes).sum ≤ normalizedMax maxBytes) := by
  refine ⟨?_, fun afterSeq inside => progresses_iff numbered ours inside,
    fun afterSeq past inside => progresses_wrapped_iff numbered ours past inside⟩
  constructor
  · intro calls
    have all := (completes_iff numbered ours (Nat.zero_le _)).mp (calls 0 (Nat.zero_le _)).2
    simpa using all
  · intro fits afterSeq within
    have behind : ∀ event ∈ (db.log id).drop afterSeq,
        event.bytes ≤ normalizedMax maxBytes :=
      fun event member => fits event (List.mem_of_mem_drop member)
    have inside : afterSeq < 2 ^ 63 := lt_of_le_of_lt within numbered.bound
    exact ⟨(progresses_iff numbered ours inside).mpr fun event first =>
        behind event (List.mem_of_mem_head? first),
      (completes_iff numbered ours within).mpr behind⟩

/-- The server of the workspace of `sampleDatabase`. -/
def sampleServer : LoomMcpServer where
  workspace := { id := "w", name := "demo", root := "/demo", createdAtMs := 0 }

/-- The database after `sampleOps`. -/
theorem sampleOps_numbered : ∃ db row, store.run sampleDatabase sampleOps = some db ∧
    db.Numbered "a" row ∧ row.workspaceId = sampleServer.workspace.id := by
  have present : (store.run sampleDatabase sampleOps).bind (fun db =>
      (db.executions.find? "a").map (·.workspaceId)) = some "w" := by decide +kernel
  obtain ⟨db, ran, found⟩ := Option.bind_eq_some_iff.mp present
  obtain ⟨row, found, ours⟩ := Option.map_eq_some_iff.mp found
  have sound := store_sound (System.run_reachable ⟨rfl, rfl⟩ ran)
  exact ⟨db, row, ran, sound.numbered found, ours⟩

theorem loom_read_progress_iff_sample : ∃ db row, db.Numbered "a" row ∧
    row.workspaceId = sampleServer.workspace.id ∧
    Progresses sampleServer ⟨"a", 1, .text, some 2⟩ db := by
  obtain ⟨db, row, ran, numbered, ours⟩ := sampleOps_numbered
  refine ⟨db, row, numbered, ours, ?_⟩
  apply ((loom_read_progress_iff numbered ours .text (some 2)).2.1 1 (by decide)).mpr
  intro event first
  have next : (store.run sampleDatabase sampleOps).bind (fun db =>
      (((db.log "a").drop 1).head?).map ExecutionEvent.bytes) = some 2 := by decide +kernel
  rw [ran, Option.bind_some, first] at next
  have size : event.bytes = 2 := Option.some.inj next
  rw [size]
  decide

/-- A budget of one byte never gets past two bytes of output: the response is empty, says
that there is more, and leaves the cursor where it was. -/
theorem loom_read_stuck :
    (store.run sampleDatabase sampleOps).map (fun db =>
      (sampleServer.read ⟨"a", 1, .text, some 1⟩ (quiet db 9) (quiet db 9)).toOption.map
        fun reply => (reply.events, reply.nextSeq, reply.hasMore)) =
      some (some ([], 1, true)) ∧
    ∃ db, store.Reachable db ∧ ¬ Progresses sampleServer ⟨"a", 1, .text, some 1⟩ db ∧
      ¬ Completes sampleServer db ⟨"a", 0, .text, some 1⟩ := by
  refine ⟨by decide +kernel, ?_⟩
  obtain ⟨db, row, ran, numbered, ours⟩ := sampleOps_numbered
  have large : (store.run sampleDatabase sampleOps).map (fun db =>
      (((db.log "a").drop 1).head?).map ExecutionEvent.bytes) = some (some 2) := by
    decide +kernel
  rw [ran, Option.map_some] at large
  obtain ⟨event, first, size⟩ := Option.map_eq_some_iff.mp (Option.some.inj large)
  refine ⟨db, System.run_reachable ⟨rfl, rfl⟩ ran, ?_, ?_⟩
  · intro progresses
    have small := (progresses_iff numbered ours (by decide)).mp progresses event first
    rw [size] at small
    exact absurd small (by decide)
  · intro completes
    have small := (completes_iff numbered ours (Nat.zero_le _)).mp completes event
      (List.mem_of_mem_drop (List.mem_of_mem_head? first))
    rw [size] at small
    exact absurd small (by decide)

end Loomterm
