import Loomterm.Misc.Aggregate
import Loomterm.Session.Detail
import Loomterm.Store.Pruning
import Mathlib.Data.String.Basic

/-!
# Statistics

`Database::execution_stats` counts the executions of a window by three queries, whose conditions
read the stored JSON in the logic of SQL. What they compute is compared with counts of the rows
themselves.
-/

namespace Loomterm

open Json

/-- `ExecutionStatusCounts` (`src/model.rs:451`). -/
structure ExecutionStatusCounts where
  queued : Nat
  running : Nat
  exitedZero : Nat
  exitedNonzero : Nat
  signaled : Nat
  spawnError : Nat
  cancelled : Nat
  interrupted : Nat
  unknownTerminal : Nat
  deriving DecidableEq

/-- `InitiatorStats` (`src/model.rs:464`). -/
structure InitiatorStats where
  kind : String
  count : Nat
  deriving DecidableEq

/-- `ExecutionStats` (`src/model.rs:470`). -/
structure ExecutionStats where
  workspace : Workspace
  sinceMs : Int
  untilMs : Int
  total : Nat
  status : ExecutionStatusCounts
  byInitiator : List InitiatorStats
  capturedBytes : Nat
  truncatedExecutions : Nat
  durationSamples : Nat
  durationP50Ms : Option Nat
  durationP95Ms : Option Nat
  deriving DecidableEq

/-- The counters of `ExecutionStatusCounts`. -/
inductive StatusKind where
  | queued
  | running
  | exitedZero
  | exitedNonzero
  | signaled
  | spawnError
  | cancelled
  | interrupted
  | unknownTerminal
  deriving DecidableEq

def ExecutionStatusCounts.get (counts : ExecutionStatusCounts) : StatusKind → Nat
  | .queued => counts.queued
  | .running => counts.running
  | .exitedZero => counts.exitedZero
  | .exitedNonzero => counts.exitedNonzero
  | .signaled => counts.signaled
  | .spawnError => counts.spawnError
  | .cancelled => counts.cancelled
  | .interrupted => counts.interrupted
  | .unknownTerminal => counts.unknownTerminal

/-- The sum of the counters. -/
def ExecutionStatusCounts.sum (counts : ExecutionStatusCounts) : Nat :=
  counts.queued + counts.running + counts.exitedZero + counts.exitedNonzero + counts.signaled +
    counts.spawnError + counts.cancelled + counts.interrupted + counts.unknownTerminal

/-! ## The queries -/

/-- `json_extract` of a text under the root, `NULL` where there is none. -/
def extractText (key : String) (document : Option Json) : Option String :=
  document.bind fun json => (json.asObject.bind (field key)).bind asStr

/-- `json_extract` of an integer under the root. -/
def extractInt (key : String) (document : Option Json) : Option Int :=
  document.bind fun json => (json.asObject.bind (field key)).bind asInt

namespace ExecutionRow

variable (row : ExecutionRow)

def outcomeJson : Option Json := row.outcome.map ExecutionOutcome.toJson

/-- `state = '..'`. -/
def inState (state : ExecutionState) : Truth := some (row.state = state)

/-- `json_extract(outcome_json, '$.kind') = '..'`. -/
def outcomeIs (kind : String) : Truth :=
  Truth.equals (extractText "kind" row.outcomeJson) (some kind)

/-- `COALESCE(NULLIF(json_extract(initiator_json, '$.kind'), ''), 'unknown')`. -/
def initiatorKind : String :=
  ((extractText "kind" (some row.initiator.toJson)).filter (· ≠ "")).getD "unknown"

/-- `duration_ms`, of a row that has both times. -/
def durationMs? : Option Nat :=
  match row.startedAtMs, row.endedAtMs with
  | some started, some ended =>
      if row.state.isTerminal then
        some (if started ≤ ended then (ended - started).toNat else 0)
      else none
  | _, _ => none

end ExecutionRow

/-- The conditions that the counters sum (`src/store.rs:1040-1056`). -/
def StatusKind.condition (row : ExecutionRow) : StatusKind → Truth
  | .queued => row.inState .queued
  | .running => row.inState .running
  | .exitedZero =>
      ((row.inState .finished).and (row.outcomeIs "exited")).and
        (Truth.equals (extractInt "code" row.outcomeJson) (some 0))
  | .exitedNonzero =>
      ((row.inState .finished).and (row.outcomeIs "exited")).and
        (Truth.differs (extractInt "code" row.outcomeJson) (some 0))
  | .signaled => (row.inState .finished).and (row.outcomeIs "signaled")
  | .spawnError => (row.inState .finished).and (row.outcomeIs "spawn_error")
  | .cancelled =>
      (row.inState .cancelled).or ((row.inState .finished).and (row.outcomeIs "cancelled"))
  | .interrupted =>
      (row.inState .interrupted).or ((row.inState .finished).and (row.outcomeIs "interrupted"))
  | .unknownTerminal => (row.inState .finished).and (some row.outcomeJson.isNone)

/-- `COALESCE(SUM(..), 0)` of a condition. -/
def countWhere (rows : List ExecutionRow) (condition : ExecutionRow → Truth) : Nat :=
  (sumTruths (rows.map condition)).getD 0

def statusCounts (rows : List ExecutionRow) : ExecutionStatusCounts :=
  let count (kind : StatusKind) := countWhere rows kind.condition
  { queued := count .queued
    running := count .running
    exitedZero := count .exitedZero
    exitedNonzero := count .exitedNonzero
    signaled := count .signaled
    spawnError := count .spawnError
    cancelled := count .cancelled
    interrupted := count .interrupted
    unknownTerminal := count .unknownTerminal }

/-- The name that SQLite gives to the column of a percentile. -/
def percentileColumn (percent : Nat) : String :=
  "MAX(CASE WHEN rank_number = ((sample_count * " ++ toString percent ++ " + 99) / 100)\n" ++
    "                    THEN duration_ms END)"

/-- Reads a percentile. SQLite turns a difference past the `i64` range into a real number, which
does not convert back. -/
def readPercentile (index percent : Nat) (durations : List Nat) : Except Error (Option Nat) :=
  match atRank ((durations.length * percent + 99) / 100) durations with
  | none => .ok none
  | some duration =>
      if duration < 2 ^ 63 then .ok (some duration)
      else .error (.database ("Invalid column type Real at index: " ++ toString index ++
        ", name: " ++ percentileColumn percent))

/-- The row of the first query (`src/store.rs:1038`). -/
def countStats (rows : List ExecutionRow) :
    Except Error (Nat × ExecutionStatusCounts × Nat × Nat) := do
  let capturedBytes ← Database.sumColumn (rows.map (·.capturedBytes))
  pure (rows.length, statusCounts rows, capturedBytes,
    countWhere rows fun row => some row.outputTruncated)

/-- The rows of the second query (`src/store.rs:1082`). -/
def initiatorStats (rows : List ExecutionRow) : List InitiatorStats :=
  (groupCounts (rows.map (·.initiatorKind))).map fun group =>
    { kind := group.1, count := group.2 }

/-- The row of the third query (`src/store.rs:1099`). -/
def durationStats (rows : List ExecutionRow) : Except Error (Nat × Option Nat × Option Nat) := do
  let durations := rows.filterMap (·.durationMs?)
  let p50 ← readPercentile 1 50 durations
  let p95 ← readPercentile 2 95 durations
  pure ((durations.map fun _ => durations.length).max?.getD 0, p50, p95)

namespace Database

/-- `WHERE workspace_id = ?1 AND created_at_ms >= ?2 AND created_at_ms <= ?3`. -/
def window (db : Database) (workspaceId : WorkspaceId) (sinceMs untilMs : Int) :
    List ExecutionRow :=
  db.executions.rows.filter fun row =>
    row.workspaceId = workspaceId && sinceMs ≤ row.createdAtMs && row.createdAtMs ≤ untilMs

/-- `Database::execution_stats` (`src/store.rs:1024`). -/
def executionStats (identifier : String) (sinceMs untilMs : Int) : Store ExecutionStats :=
  if untilMs < sinceMs then
    Sql.fail (.invalidRequest "statistics window start must not exceed its end")
  else do
    let workspace ← getWorkspace identifier
    let counts ← Sql.select fun db => countStats (db.window workspace.id sinceMs untilMs)
    let byInitiator ← Sql.select fun db =>
      .ok (initiatorStats (db.window workspace.id sinceMs untilMs))
    let durations ← Sql.select fun db => durationStats (db.window workspace.id sinceMs untilMs)
    let (total, status, capturedBytes, truncatedExecutions) := counts
    let (durationSamples, durationP50Ms, durationP95Ms) := durations
    pure
      { workspace, sinceMs, untilMs, total, status, byInitiator, capturedBytes,
        truncatedExecutions, durationSamples, durationP50Ms, durationP95Ms }

end Database

/-! ## The reference -/

/-- What an execution counts as. -/
def ExecutionRow.statusKind (row : ExecutionRow) : StatusKind :=
  match row.state, row.outcome with
  | .queued, _ => .queued
  | .running, _ => .running
  | .cancelled, _ => .cancelled
  | .interrupted, _ => .interrupted
  | .finished, none => .unknownTerminal
  | .finished, some (.exited code) => if code = 0 then .exitedZero else .exitedNonzero
  | .finished, some (.signaled _) => .signaled
  | .finished, some (.spawnError _) => .spawnError
  | .finished, some (.cancelled _) => .cancelled
  | .finished, some (.interrupted _) => .interrupted

/-- The kind of client that an execution counts for. -/
def ExecutionRow.clientKind (row : ExecutionRow) : String :=
  if row.initiator.kind = "" then "unknown" else row.initiator.kind

/-- The durations of the terminal executions that have run, none of them negative. -/
def durationsOf (rows : List ExecutionRow) : List Nat :=
  rows.filterMap fun row => do
    guard row.state.isTerminal
    let started ← row.startedAtMs
    let ended ← row.endedAtMs
    some (max 0 (ended - started)).toNat

/-- What the statistics of some rows say. -/
structure StatsOf (rows : List ExecutionRow) (stats : ExecutionStats) : Prop where
  total : stats.total = rows.length
  status : ∀ kind, stats.status.get kind = rows.countP fun row => row.statusKind = kind
  statusSum : stats.status.sum = stats.total
  initiators : ∀ entry, entry ∈ stats.byInitiator ↔ entry.kind ∈ rows.map (·.clientKind) ∧
    entry.count = rows.countP fun row => row.clientKind = entry.kind
  sorted : (stats.byInitiator.map (·.kind)).Pairwise (· < ·)
  initiatorSum : (stats.byInitiator.map (·.count)).sum = stats.total
  capturedBytes : stats.capturedBytes = (rows.map (·.capturedBytes)).sum
  truncated : stats.truncatedExecutions = rows.countP (·.outputTruncated)
  samples : stats.durationSamples = (durationsOf rows).length
  p50 : stats.durationP50Ms = percentile 50 (durationsOf rows)
  p95 : stats.durationP95Ms = percentile 95 (durationsOf rows)
  sampled : (stats.durationP50Ms = none ↔ durationsOf rows = []) ∧
    (stats.durationP95Ms = none ↔ durationsOf rows = [])
  ordered : ∀ low ∈ stats.durationP50Ms, ∀ high ∈ stats.durationP95Ms, low ≤ high

variable {rows : List ExecutionRow} {row : ExecutionRow}

/-- The tag of a stored outcome. -/
theorem outcomeIs_iff (kind : String) :
    row.outcomeIs kind = some true ↔ ∃ outcome, row.outcome = some outcome ∧
      outcome.kind = kind := by
  unfold ExecutionRow.outcomeIs ExecutionRow.outcomeJson
  rw [Truth.equals_eq_true]
  cases row.outcome with
  | none => simp [extractText]
  | some outcome =>
    have text : extractText "kind" (some outcome.toJson) = some outcome.kind := by
      cases outcome <;> rfl
    simp [text]

/-- The code of a stored outcome, if it has one. -/
theorem exitCode_iff (code : Int) :
    extractInt "code" row.outcomeJson = some code ↔ row.outcome = some (.exited code) := by
  unfold ExecutionRow.outcomeJson
  cases row.outcome with
  | none => simp [extractInt]
  | some outcome =>
    cases outcome with
    | exited own =>
      have number : extractInt "code" (some (ExecutionOutcome.exited own).toJson) = some own := rfl
      simp [number]
    | _ => simp [extractInt, ExecutionOutcome.toJson, asObject, field]

theorem outcomeJson_isNone : row.outcomeJson.isNone = row.outcome.isNone :=
  Option.isNone_map

/-- The conditions hold of a row just as it counts. -/
theorem condition_iff (kind : StatusKind) :
    kind.condition row = some true ↔ row.statusKind = kind := by
  unfold ExecutionRow.statusKind
  cases state : row.state with
  | finished =>
    cases own : row.outcome with
    | none =>
      cases kind <;> simp [StatusKind.condition, ExecutionRow.inState, outcomeIs_iff,
        outcomeJson_isNone, state, own]
    | some outcome =>
      cases outcome with
      | exited code =>
        by_cases zero : code = 0 <;> cases kind <;>
          simp [StatusKind.condition, ExecutionRow.inState, outcomeIs_iff, exitCode_iff,
            outcomeJson_isNone, ExecutionOutcome.kind, state, own, zero]
      | _ =>
        cases kind <;> simp [StatusKind.condition, ExecutionRow.inState, outcomeIs_iff,
          outcomeJson_isNone, ExecutionOutcome.kind, state, own]
  | _ => cases kind <;> simp [StatusKind.condition, ExecutionRow.inState, state]

theorem countWhere_eq (condition : ExecutionRow → Truth) :
    countWhere rows condition = rows.countP fun row => condition row = some true := by
  rw [countWhere, sumTruths_getD, List.countP_map]
  rfl

/-- Every counter counts the rows of its kind. -/
theorem statusCounts_get (kind : StatusKind) :
    (statusCounts rows).get kind = rows.countP fun row => row.statusKind = kind := by
  have counts : countWhere rows kind.condition = rows.countP fun row => row.statusKind = kind := by
    rw [countWhere_eq]
    refine List.countP_congr fun row _ => ?_
    rw [decide_eq_true_eq, decide_eq_true_eq]
    exact condition_iff kind
  rw [← counts]
  cases kind <;> rfl

/-- No row is counted twice, and none is left out. -/
theorem statusCounts_sum : (statusCounts rows).sum = rows.length := by
  have total : (statusCounts rows).sum = ([.queued, .running, .exitedZero, .exitedNonzero,
      .signaled, .spawnError, .cancelled, .interrupted, .unknownTerminal].map
        fun kind => rows.countP fun row => row.statusKind = kind).sum := by
    simp only [← statusCounts_get]
    simp [ExecutionStatusCounts.sum, ExecutionStatusCounts.get, Nat.add_assoc]
  rw [total]
  clear total
  induction rows with
  | nil => rfl
  | cons row rest ih =>
    simp only [List.countP_cons, List.length_cons, ← ih]
    cases row.statusKind <;> simp <;> omega

theorem initiatorKind_eq : row.initiatorKind = row.clientKind := by
  have text : extractText "kind" (some row.initiator.toJson) = some row.initiator.kind := rfl
  unfold ExecutionRow.initiatorKind ExecutionRow.clientKind
  rw [text]
  by_cases empty : row.initiator.kind = "" <;> simp [empty, Option.filter]

theorem filterMap_durationMs : rows.filterMap (·.durationMs?) = durationsOf rows := by
  unfold durationsOf
  refine List.filterMap_congr fun row _ => ?_
  unfold ExecutionRow.durationMs?
  cases row.startedAtMs with
  | none => cases row.state.isTerminal <;> rfl
  | some started =>
    cases row.endedAtMs with
    | none => cases row.state.isTerminal <;> rfl
    | some ended =>
      cases row.state.isTerminal with
      | false => rfl
      | true =>
        show some _ = some _
        congr 1
        split <;> omega

/-- The sums over some rows and the times of each of them fit in an `i64`. -/
def StatsFit (rows : List ExecutionRow) : Prop :=
  (rows.map (·.capturedBytes)).sum < 2 ^ 63 ∧ ∀ duration ∈ durationsOf rows, duration < 2 ^ 63

theorem countStats_cases (rows : List ExecutionRow) :
    countStats rows = .ok (rows.length, statusCounts rows, (rows.map (·.capturedBytes)).sum,
      rows.countP (·.outputTruncated)) ∨ ∃ e, countStats rows = .error e ∧ ¬ StatsFit rows := by
  have truncated : (countWhere rows fun row => some row.outputTruncated) =
      rows.countP (·.outputTruncated) := by
    rw [countWhere_eq]
    exact List.countP_congr fun row _ => by simp
  unfold countStats Database.sumColumn
  rw [truncated]
  split
  · exact .inl rfl
  · rename_i large
    exact .inr ⟨_, rfl, fun fits => large fits.1⟩

/-- The percentile is read, or a duration does not fit. -/
theorem readPercentile_cases {percent : Nat} (index : Nat) (positive : 0 < percent)
    (atMost : percent ≤ 100) (rows : List ExecutionRow) :
    readPercentile index percent (durationsOf rows) = .ok (percentile percent (durationsOf rows)) ∨
      ∃ e, readPercentile index percent (durationsOf rows) = .error e ∧ ¬ StatsFit rows := by
  unfold readPercentile
  rw [atRank_nearest _ positive atMost]
  cases read : percentile percent (durationsOf rows) with
  | none => exact .inl rfl
  | some duration =>
    dsimp only
    split
    · exact .inl rfl
    · rename_i large
      obtain ⟨inside, same⟩ := List.getElem?_eq_some_iff.mp read
      have member : duration ∈ durationsOf rows := by
        rw [← List.mem_insertionSort (· ≤ ·), ← same]
        exact List.getElem_mem inside
      exact .inr ⟨_, rfl, fun fits => large (fits.2 duration member)⟩

theorem durationStats_cases (rows : List ExecutionRow) :
    durationStats rows = .ok ((durationsOf rows).length, percentile 50 (durationsOf rows),
      percentile 95 (durationsOf rows)) ∨ ∃ e, durationStats rows = .error e ∧ ¬ StatsFit rows := by
  have samples : ((durationsOf rows).map fun _ => (durationsOf rows).length).max?.getD 0 =
      (durationsOf rows).length := by
    rw [List.map_const']
    cases (durationsOf rows).length <;> simp
  unfold durationStats
  rw [filterMap_durationMs]
  dsimp only
  rw [samples]
  obtain half | ⟨e, failed, large⟩ := readPercentile_cases 1 (by decide : 0 < 50)
    (by decide) rows
  · rw [half]
    obtain most | ⟨e, failed, large⟩ := readPercentile_cases 2 (by decide : 0 < 95)
      (by decide) rows
    · rw [most]
      exact .inl rfl
    · rw [failed]
      exact .inr ⟨e, rfl, large⟩
  · rw [failed]
    exact .inr ⟨e, rfl, large⟩

theorem initiatorStats_eq (rows : List ExecutionRow) :
    initiatorStats rows = (groupCounts (rows.map (·.clientKind))).map fun group =>
      { kind := group.1, count := group.2 } := by
  have kinds : rows.map (·.initiatorKind) = rows.map (·.clientKind) :=
    List.map_congr_left fun row _ => initiatorKind_eq
  rw [initiatorStats, kinds]

/-- What the queries find is what the rows say. -/
theorem statsOf_queries (rows : List ExecutionRow) (workspace : Workspace) (sinceMs untilMs : Int) :
    StatsOf rows
      { workspace, sinceMs, untilMs
        total := rows.length
        status := statusCounts rows
        byInitiator := initiatorStats rows
        capturedBytes := (rows.map (·.capturedBytes)).sum
        truncatedExecutions := rows.countP (·.outputTruncated)
        durationSamples := (durationsOf rows).length
        durationP50Ms := percentile 50 (durationsOf rows)
        durationP95Ms := percentile 95 (durationsOf rows) } where
  total := rfl
  status := statusCounts_get
  statusSum := statusCounts_sum
  initiators entry := by
    have counted : rows.countP (fun row => row.clientKind = entry.kind) =
        (rows.map (·.clientKind)).count entry.kind := by
      rw [List.count, List.countP_map]
      rfl
    rw [initiatorStats_eq, List.mem_map, counted]
    constructor
    · rintro ⟨group, member, rfl⟩
      exact mem_groupCounts.mp member
    · intro held
      exact ⟨(entry.kind, entry.count), mem_groupCounts.mpr held, rfl⟩
  sorted := by
    rw [initiatorStats_eq, List.map_map]
    exact groupCounts_sorted _
  initiatorSum := by
    rw [initiatorStats_eq, List.map_map]
    exact (groupCounts_sum _).trans (List.length_map _)
  capturedBytes := rfl
  truncated := rfl
  samples := rfl
  p50 := rfl
  p95 := rfl
  sampled := ⟨percentile_eq_none (by decide) (by decide),
    percentile_eq_none (by decide) (by decide)⟩
  ordered low lower high upper := percentile_mono (by decide) lower upper

namespace Database

/-- The workspace that an identifier may stand for. -/
def Names (identifier : String) (row : WorkspaceRow) : Prop :=
  (row.id = identifier ∨ row.name = identifier) ∧ row.active = true

theorem executionStats_spec (fault : Error → Prop) (db : Database) (identifier : String)
    (sinceMs untilMs : Int) :
    Sql.Post fault (executionStats identifier sinceMs untilMs) db fun r db' => db' = db ∧
      match r with
      | .ok stats => ∃ row ∈ db.workspaces.rows, Names identifier row ∧
          stats.workspace = row.toWorkspace ∧ stats.sinceMs = sinceMs ∧ stats.untilMs = untilMs ∧
          StatsOf (db.window row.id sinceMs untilMs) stats
      | .error e => fault e ∨ untilMs < sinceMs ∨
          (∀ row ∈ db.workspaces.rows, ¬ Names identifier row) ∨
          ∃ row ∈ db.workspaces.rows, Names identifier row ∧
            ¬ StatsFit (db.window row.id sinceMs untilMs) := by
  unfold executionStats
  by_cases empty : untilMs < sinceMs
  · rw [if_pos empty]
    exact Sql.post_fail ⟨rfl, .inr (.inl empty)⟩
  · rw [if_neg empty]
    refine Sql.post_bind (Sql.post_select (fun e raised => ⟨rfl, .inl raised⟩) ?_)
    cases found : db.namedWorkspace identifier (·.active) with
    | none =>
      refine ⟨rfl, .inr (.inr (.inl fun row member named => ?_))⟩
      exact namedWorkspace_eq_none found member named.2 named.1
    | some row =>
      obtain ⟨member, named⟩ := namedWorkspace_eq_some found
      have large {e : Error} (big : ¬ StatsFit (db.window row.id sinceMs untilMs)) :
          fault e ∨ untilMs < sinceMs ∨ (∀ row ∈ db.workspaces.rows, ¬ Names identifier row) ∨
            ∃ row ∈ db.workspaces.rows, Names identifier row ∧
              ¬ StatsFit (db.window row.id sinceMs untilMs) :=
        .inr (.inr (.inr ⟨row, member, named, big⟩))
      refine Sql.post_bind (Sql.post_select (fun e raised => ⟨rfl, .inl raised⟩) ?_)
      obtain counted | ⟨e, failed, big⟩ := countStats_cases (db.window row.id sinceMs untilMs)
      · rw [counted]
        refine Sql.post_bind (Sql.post_select (fun e raised => ⟨rfl, .inl raised⟩) ?_)
        refine Sql.post_bind (Sql.post_select (fun e raised => ⟨rfl, .inl raised⟩) ?_)
        obtain timed | ⟨e, failed, big⟩ := durationStats_cases (db.window row.id sinceMs untilMs)
        · rw [timed]
          exact Sql.post_pure ⟨rfl, row, member, named, rfl, rfl, rfl,
            statsOf_queries _ row.toWorkspace sinceMs untilMs⟩
        · rw [failed]
          exact ⟨rfl, large big⟩
      · rw [failed]
        exact ⟨rfl, large big⟩

end Database

open Database in
/-- For every workspace and every window: the statistics that are answered are those of the rows
in it, and they are answered when the database does not fail and the sums fit in an `i64`. -/
theorem execution_stats_reference (db : Database) (identifier : String) (sinceMs untilMs : Int) :
    (∀ faults stats db',
      Store.run (executionStats identifier sinceMs untilMs) faults db = (.ok stats, db') →
        db' = db ∧ ∃ row ∈ db.workspaces.rows, Names identifier row ∧
          stats.workspace = row.toWorkspace ∧ stats.sinceMs = sinceMs ∧ stats.untilMs = untilMs ∧
          StatsOf (db.window row.id sinceMs untilMs) stats) ∧
    (sinceMs ≤ untilMs → (∃ row ∈ db.workspaces.rows, Names identifier row) →
      (∀ row ∈ db.workspaces.rows, Names identifier row →
        StatsFit (db.window row.id sinceMs untilMs)) →
      ∃ stats, Store.run (executionStats identifier sinceMs untilMs) [] db = (.ok stats, db)) := by
  constructor
  · intro faults stats db' ran
    have done := run_of_post (executionStats_spec _ db identifier sinceMs untilMs) faults
    rw [ran] at done
    exact done
  · rintro ordered ⟨row, member, named⟩ fits
    have done := clean_of_post (executionStats_spec (fun _ => False) db identifier sinceMs untilMs)
    cases ran : Store.run (executionStats identifier sinceMs untilMs) [] db with
    | mk result db' =>
      rw [ran] at done
      obtain ⟨same, done⟩ := done
      cases result with
      | ok stats => exact ⟨stats, congrArg _ same⟩
      | error e =>
        obtain none | reversed | unknown | ⟨other, there, known, large⟩ := done
        · cases none
        · omega
        · exact absurd named (unknown row member)
        · exact absurd (fits other there known) large

theorem execution_stats_reference_sample :
    ∃ db stats, store.run sampleDatabase sampleFull = some db ∧
      Store.run (Database.executionStats "demo" 0 10) [] db = (.ok stats, db) ∧
      (stats.total, stats.capturedBytes, stats.durationP50Ms) = (3, 8, some 3) ∧
      stats.status.sum = 3 := by
  have traced : (store.run sampleDatabase sampleFull).bind (fun db =>
      (Store.run (Database.executionStats "demo" 0 10) [] db).1.toOption.map fun stats =>
        (stats.total, stats.capturedBytes, stats.durationP50Ms)) = some (3, 8, some 3) := by
    decide +kernel
  obtain ⟨db, replay, traced⟩ := Option.bind_eq_some_iff.mp traced
  obtain ⟨stats, answered, seen⟩ := Option.map_eq_some_iff.mp traced
  cases ran : Store.run (Database.executionStats "demo" 0 10) [] db with
  | mk result db' =>
    rw [ran] at answered
    cases result with
    | error e => cases answered
    | ok found =>
      rw [Option.some.inj answered] at ran
      obtain ⟨same, row, _, _, _, _, _, counts⟩ :=
        (execution_stats_reference db "demo" 0 10).1 [] stats db' ran
      have counted : stats.total = 3 := congrArg Prod.fst seen
      exact ⟨db, stats, replay, same ▸ ran, seen, counts.statusSum.trans counted⟩

end Loomterm
