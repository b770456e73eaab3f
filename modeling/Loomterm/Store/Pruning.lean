import Loomterm.Misc.Budget
import Loomterm.Store.Ageing
import Mathlib.Algebra.BigOperators.Group.List.Basic

/-!
# Retention by size

What the age pass of `Database::prune` leaves is cut down to the configured size: the terminal
executions that ended first go, until the excess is covered or none is left.
-/

namespace Loomterm

namespace Database

variable {db db' middle : Database} {gone : List ExecutionId}

/-! ## Removing executions -/

/-- `db'` is `db` without some executions and their events. -/
structure Without (gone : List ExecutionId) (db db' : Database) : Prop where
  executions : db'.executions.rows = db.executions.rows.filter fun row => row.id ∉ gone
  events : db'.events.rows = db.events.rows.filter fun event => event.executionId ∉ gone
  workspaces : db'.workspaces = db.workspaces
  agentSessions : db'.agentSessions = db.agentSessions
  agentTurns : db'.agentTurns = db.agentTurns

theorem Without.nil : Without [] db db := by
  constructor <;> simp

theorem Without.append {more : List ExecutionId} (first : Without gone db middle)
    (second : Without more middle db') : Without (gone ++ more) db db' where
  executions := by
    rw [second.executions, first.executions, List.filter_filter]
    exact List.filter_congr fun row _ => by simp [Bool.and_comm]
  events := by
    rw [second.events, first.events, List.filter_filter]
    exact List.filter_congr fun event _ => by simp [Bool.and_comm]
  workspaces := second.workspaces.trans first.workspaces
  agentSessions := second.agentSessions.trans first.agentSessions
  agentTurns := second.agentTurns.trans first.agentTurns

/-- A row is named by its id. -/
theorem mem_ids {rows : List ExecutionRow} (subset : ∀ row ∈ rows, row ∈ db.executions.rows)
    {row : ExecutionRow} (member : row ∈ db.executions.rows) :
    row.id ∈ rows.map (·.id) ↔ row ∈ rows := by
  constructor
  · intro named
    obtain ⟨other, there, same⟩ := List.mem_map.mp named
    have found := Table.mem_rows_iff.mp (subset other there)
    rw [same, Table.mem_rows_iff.mp member, Option.some.injEq] at found
    rw [found]
    exact there
  · intro there
    exact List.mem_map_of_mem there

theorem mem_selected {p : ExecutionRow → Bool} {row : ExecutionRow}
    (member : row ∈ db.executions.rows) :
    row.id ∈ (db.executions.rows.filter p).map (·.id) ↔ p row = true := by
  rw [mem_ids (fun other there => (List.mem_filter.mp there).1) member, List.mem_filter,
    and_iff_right member]

theorem without_withoutExecutions (db : Database) (p : ExecutionRow → Bool) :
    Without ((db.executions.rows.filter p).map (·.id)) db (db.withoutExecutions p) := by
  constructor
  · refine List.filter_congr fun row member => ?_
    rw [Bool.eq_iff_iff, decide_eq_true_eq, mem_selected member, Bool.not_eq_true',
      Bool.not_eq_true]
  · refine List.filter_congr fun event _ => ?_
    rw [Bool.eq_iff_iff, decide_eq_true_eq, Bool.not_eq_true', ← Bool.not_eq_true]
    refine not_congr ?_
    simp only [List.any_eq_true, List.mem_map, List.mem_filter, Bool.and_eq_true,
      decide_eq_true_eq]
    constructor
    · rintro ⟨row, member, same, chosen⟩
      exact ⟨row, ⟨member, chosen⟩, same⟩
    · rintro ⟨row, ⟨member, chosen⟩, same⟩
      exact ⟨row, member, same, chosen⟩
  · rfl
  · rfl
  · rfl

theorem deleteExecutions_spec (p : ExecutionRow → Bool) :
    Sql.Post StorageFault (deleteExecutions p) db fun r db' =>
      match r with
      | .ok n => n = (db.executions.rows.filter p).length ∧
          Without ((db.executions.rows.filter p).map (·.id)) db db'
      | .error _ => True :=
  Sql.post_statement (fun _ _ => trivial) ⟨rfl, without_withoutExecutions db p⟩

/-! ## The size pass -/

/-- The bytes that some executions have captured. -/
def bytesOf (rows : List ExecutionRow) : Nat := (rows.map (·.capturedBytes)).sum

/-- The terminal executions in the order in which they may go. -/
def oldestFirst (order : EndOrder) (rows : List ExecutionRow) : List ExecutionRow :=
  order.rows (rows.filter fun row => row.state.isTerminal)

/-- The executions that have to go for the rest to fit. -/
def oversized (order : EndOrder) (retentionBytes : Nat) (rows : List ExecutionRow) :
    List ExecutionRow :=
  covering (·.capturedBytes) (bytesOf rows - retentionBytes) (oldestFirst order rows)

/-- The rows that the age pass removes. -/
def aged (now : Int) (retentionDays : Nat) (rows : List ExecutionRow) : List ExecutionRow :=
  rows.filter fun row => row.state.isTerminal && endedBefore (pruneCutoff now retentionDays) row

/-- The rows that it leaves. -/
def unaged (now : Int) (retentionDays : Nat) (rows : List ExecutionRow) : List ExecutionRow :=
  rows.filter fun row => !(row.state.isTerminal &&
    endedBefore (pruneCutoff now retentionDays) row)

/-- The loop removes the shortest prefix that covers the excess. -/
theorem pruneCandidates_spec {excess : Nat} {candidates : List ExecutionRow}
    (nodup : (candidates.map (·.id)).Nodup)
    (present : ∀ row ∈ candidates, row ∈ db.executions.rows) :
    Sql.Post StorageFault (pruneCandidates excess candidates) db fun r db' =>
      match r with
      | .ok n => n = (covering (·.capturedBytes) excess candidates).length ∧
          Without ((covering (·.capturedBytes) excess candidates).map (·.id)) db db'
      | .error _ => True := by
  induction candidates generalizing db excess with
  | nil => exact Sql.post_pure ⟨rfl, .nil⟩
  | cons row rest ih =>
    unfold pruneCandidates covering
    by_cases enough : excess = 0
    · simp only [enough, if_true]
      exact Sql.post_pure ⟨rfl, .nil⟩
    · simp only [enough, if_false]
      rw [List.map_cons, List.nodup_cons] at nodup
      obtain ⟨apart, nodup⟩ := nodup
      have member := present row List.mem_cons_self
      have single : db.executions.rows.filter (fun other => other.id = row.id) = [row] :=
        Table.filter_key member
      refine Sql.post_bind ((deleteExecutions_spec _).mono fun r middle deleted => ?_)
      cases r with
      | error e => trivial
      | ok removed =>
        rw [single] at deleted
        obtain ⟨one, first⟩ := deleted
        have left : ∀ other ∈ rest, other ∈ middle.executions.rows := by
          intro other later
          rw [first.executions]
          refine List.mem_filter.mpr ⟨present other (List.mem_cons_of_mem _ later), ?_⟩
          have differs : other.id ≠ row.id := fun same =>
            apart (same ▸ List.mem_map_of_mem later)
          simpa using differs
        refine Sql.post_bind ((ih nodup left).mono fun r db' after => ?_)
        cases r with
        | error e => trivial
        | ok more =>
          obtain ⟨count, second⟩ := after
          refine Sql.post_pure ⟨?_, ?_⟩
          · rw [one, count, List.length_singleton, List.length_cons, Nat.add_comm]
          · exact first.append second

theorem nodup_ids (db : Database) : (db.executions.rows.map (·.id)).Nodup := db.executions.nodup

theorem sizePass_spec (order : EndOrder) (retentionBytes removed : Nat) :
    Sql.Post StorageFault (sizePass order retentionBytes removed) db fun r db' =>
      match r with
      | .ok n => n = removed + (oversized order retentionBytes db.executions.rows).length ∧
          Without ((oversized order retentionBytes db.executions.rows).map (·.id)) db db'
      | .error _ => True := by
  unfold sizePass
  refine Sql.post_bind (Sql.post_select (fun _ _ => trivial) ?_)
  obtain summed | ⟨e, _, overflow⟩ := sumColumn_cases (db.executions.rows.map (·.capturedBytes))
  · rw [summed]
    show Sql.Post StorageFault (ite (retentionBytes < bytesOf db.executions.rows) _ _) db _
    split
    · refine Sql.post_bind (Sql.post_select (fun _ _ => trivial) ?_)
      have sorted := order.perm (db.executions.rows.filter fun row => row.state.isTerminal)
      have nodup : ((oldestFirst order db.executions.rows).map (·.id)).Nodup :=
        (sorted.map _).nodup_iff.mpr (db.nodup_ids.sublist (List.filter_sublist.map _))
      refine Sql.post_bind ((pruneCandidates_spec nodup fun row member => ?_).mono
        fun r db' done => ?_)
      · exact (List.mem_filter.mp (sorted.mem_iff.mp member)).1
      · cases r with
        | error e => trivial
        | ok more => exact Sql.post_pure ⟨congrArg (removed + ·) done.1, done.2⟩
    · rename_i fits
      have none : oversized order retentionBytes db.executions.rows = [] := by
        rw [oversized, Nat.sub_eq_zero_of_le (Nat.le_of_not_lt fits)]
        cases oldestFirst order db.executions.rows <;> rfl
      rw [none]
      exact Sql.post_pure ⟨rfl, .nil⟩
  · rw [overflow]
    trivial

theorem agePass_spec (now : Int) (retentionDays : Nat) :
    Sql.Post StorageFault (agePass now retentionDays) db fun r middle =>
      match r with
      | .ok n => n = (aged now retentionDays db.executions.rows).length ∧
          Without ((aged now retentionDays db.executions.rows).map (·.id)) db middle ∧
          middle.executions.rows = unaged now retentionDays db.executions.rows
      | .error _ => True := by
  unfold agePass deleteExecutions
  exact Sql.post_statement (fun _ _ => trivial) ⟨rfl, without_withoutExecutions db _, rfl⟩

/-- A prune removes what is too old and what is too much, or nothing. -/
theorem prune_spec (db : Database) (order : EndOrder) (now : Int)
    (retentionDays retentionBytes : Nat) :
    Sql.Post StorageFault (prune order now retentionDays retentionBytes) db fun r db' =>
      match r with
      | .ok n =>
          n = (aged now retentionDays db.executions.rows).length +
              (oversized order retentionBytes (unaged now retentionDays db.executions.rows)).length ∧
            Without ((aged now retentionDays db.executions.rows).map (·.id) ++
              (oversized order retentionBytes (unaged now retentionDays db.executions.rows)).map (·.id))
              db db'
      | .error _ => db' = db := by
  rw [prune_eq]
  refine Sql.post_transaction (fun _ _ => rfl) (Sql.post_bind ?_)
  refine (agePass_spec now retentionDays).mono fun r middle first => ?_
  cases r with
  | error e => rfl
  | ok removed =>
    obtain ⟨count, first, rows⟩ := first
    refine (sizePass_spec order retentionBytes removed).mono fun r db' second => ?_
    cases r with
    | error e => rfl
    | ok n =>
      rw [rows] at second
      rw [← count]
      exact ⟨second.1, first.append second.2⟩

/-! ## What is left -/

variable {order : EndOrder} {rows taken : List ExecutionRow}

theorem mem_oldestFirst {row : ExecutionRow} :
    row ∈ oldestFirst order rows ↔ row ∈ rows ∧ row.state.isTerminal = true := by
  rw [oldestFirst, (order.perm _).mem_iff, List.mem_filter]

/-- What is taken first ended no later than what stays. -/
theorem endedNoLater_of_start (start : taken <+: oldestFirst order rows) {row kept : ExecutionRow}
    (member : row ∈ taken) (stays : kept ∈ oldestFirst order rows) (spared : kept ∉ taken) :
    endedNoLater row kept := by
  have sorted : (oldestFirst order rows).Pairwise endedNoLater := order.sorted _
  obtain ⟨rest, whole⟩ := start
  rw [← whole] at sorted stays
  refine (List.pairwise_append.mp sorted).2.2 row member kept ?_
  exact (List.mem_append.mp stays).resolve_left spared

/-- A prefix of the terminal rows is found among all by its ids. -/
theorem filter_perm_of_start (nodup : (rows.map (·.id)).Nodup)
    (start : taken <+: oldestFirst order rows) :
    (rows.filter fun row => row.id ∈ taken.map (·.id)).Perm taken := by
  have sorted := order.perm (rows.filter fun row => row.state.isTerminal)
  have distinct : (oldestFirst order rows).Nodup :=
    sorted.nodup_iff.mpr (nodup.of_map.sublist List.filter_sublist)
  refine (List.perm_ext_iff_of_nodup (nodup.of_map.sublist List.filter_sublist)
    (distinct.sublist start.sublist)).mpr fun row => ?_
  rw [List.mem_filter, decide_eq_true_eq]
  constructor
  · rintro ⟨member, named⟩
    obtain ⟨other, there, same⟩ := List.mem_map.mp named
    have present := (mem_oldestFirst.mp (start.subset there)).1
    rwa [← List.inj_on_of_nodup_map nodup present member same]
  · intro there
    exact ⟨(mem_oldestFirst.mp (start.subset there)).1, List.mem_map_of_mem there⟩

/-- The bytes of what is taken and of what stays. -/
theorem bytesOf_add (nodup : (rows.map (·.id)).Nodup) (start : taken <+: oldestFirst order rows) :
    bytesOf taken + bytesOf (rows.filter fun row => row.id ∉ taken.map (·.id)) =
      bytesOf rows := by
  have found := filter_perm_of_start nodup start
  have parts := List.filter_append_perm (fun row => decide (row.id ∈ taken.map (·.id))) rows
  unfold bytesOf
  rw [← (found.map _).sum_eq, ← List.sum_append, ← List.map_append]
  refine (List.Perm.map _ ?_).sum_eq
  simpa only [decide_not] using parts

/-- The rows behind a prune, from what the age pass leaves. -/
theorem Without.pruned {now : Int} {retentionDays : Nat}
    (without : Without ((aged now retentionDays db.executions.rows).map (·.id) ++ gone) db db') :
    db'.executions.rows =
      (unaged now retentionDays db.executions.rows).filter fun row => row.id ∉ gone := by
  rw [without.executions, unaged, List.filter_filter]
  refine List.filter_congr fun row member => ?_
  have selected : row.id ∈ (aged now retentionDays db.executions.rows).map (·.id) ↔
      (row.state.isTerminal && endedBefore (pruneCutoff now retentionDays) row) = true :=
    mem_selected member
  simp only [List.mem_append, selected]
  simp [Bool.and_comm]

/-- What is too old ended before what is kept. -/
theorem aged_before {now : Int} {retentionDays : Nat} {row kept : ExecutionRow}
    (member : row ∈ aged now retentionDays rows) (stays : kept ∈ unaged now retentionDays rows)
    (terminal : kept.state.isTerminal = true) {ended later : Int}
    (own : row.endedAtMs = some ended) (other : kept.endedAtMs = some later) : ended ≤ later := by
  have old := (List.mem_filter.mp member).2
  have young := (List.mem_filter.mp stays).2
  simp only [endedBefore, own, other, terminal, Option.any_some, Bool.and_eq_true,
    decide_eq_true_eq, Bool.true_and, Bool.not_eq_true', decide_eq_false_iff_not] at old young
  omega

/-- What a prune that answers `removed` does, `young` being what its age pass leaves: `gone` is
the shortest prefix of the terminal executions of `young`, by their ends, that covers the
excess. Of executions that ended at the same time those go that the database names first. -/
structure SizePruned (order : EndOrder) (retentionBytes : Nat) (old young gone : List ExecutionRow)
    (db db' : Database) (removed : Nat) : Prop where
  oldest : gone <+: oldestFirst order young
  covers : bytesOf young - retentionBytes ≤ bytesOf gone ∨ gone = oldestFirst order young
  shortest : ∀ taken, taken <+: gone → taken ≠ gone →
    bytesOf taken < bytesOf young - retentionBytes
  removes : ∀ row ∈ db.executions.rows, row ∉ db'.executions.rows ↔ row ∈ old ∨ row ∈ gone
  terminal : ∀ row ∈ db.executions.rows, row ∉ db'.executions.rows → row.state.isTerminal = true
  fits : bytesOf db'.executions.rows ≤ retentionBytes ∨
    ∀ row ∈ db'.executions.rows, row.state.isTerminal = false
  ordered : ∀ row ∈ gone, ∀ kept ∈ db'.executions.rows, kept.state.isTerminal = true →
    endedNoLater row kept
  keepsNewest : ∀ row ∈ db.executions.rows, row ∉ db'.executions.rows →
    ∀ kept ∈ db'.executions.rows, kept.state.isTerminal = true →
      ∀ ended ∈ row.endedAtMs, ∀ later ∈ kept.endedAtMs, ended ≤ later
  rest : db'.executions.rows.Sublist db.executions.rows
  events : ∀ event, event ∈ db'.events.rows ↔ event ∈ db.events.rows ∧
    ∀ row ∈ db.executions.rows, row ∉ db'.executions.rows → event.executionId ≠ row.id
  workspaces : db'.workspaces = db.workspaces
  agentSessions : db'.agentSessions = db.agentSessions
  agentTurns : db'.agentTurns = db.agentTurns
  answers : removed = old.length + gone.length
  counts : removed + db'.executions.rows.length = db.executions.rows.length

/-- The size pass, given what the age pass has left and removed. -/
theorem sizePruned_of_without {retentionBytes removed : Nat} {old young : List ExecutionRow}
    (without : Without (old.map (·.id) ++ (oversized order retentionBytes young).map (·.id)) db db')
    (left : db'.executions.rows = young.filter fun row =>
      row.id ∉ (oversized order retentionBytes young).map (·.id))
    (closed : ∀ row ∈ old, row ∈ db.executions.rows ∧ row.state.isTerminal = true)
    (known : young.Sublist db.executions.rows)
    (older : ∀ row ∈ old, ∀ kept ∈ young, kept.state.isTerminal = true →
      ∀ ended ∈ row.endedAtMs, ∀ later ∈ kept.endedAtMs, ended ≤ later)
    (parts : old.length + young.length = db.executions.rows.length)
    (answers : removed = old.length + (oversized order retentionBytes young).length) :
    SizePruned order retentionBytes old young (oversized order retentionBytes young) db db'
      removed := by
  have oldest : oversized order retentionBytes young <+: oldestFirst order young :=
    covering_prefix _ _ _
  have nodup : (young.map (·.id)).Nodup := db.nodup_ids.sublist (known.map _)
  have inside : ∀ row ∈ oversized order retentionBytes young,
      row ∈ young ∧ row.state.isTerminal = true :=
    fun row member => mem_oldestFirst.mp (oldest.subset member)
  have removes : ∀ row ∈ db.executions.rows, row ∉ db'.executions.rows ↔
      row ∈ old ∨ row ∈ oversized order retentionBytes young := by
    intro row member
    rw [without.executions, List.mem_filter, decide_eq_true_eq, and_iff_right member, not_not,
      List.mem_append, mem_ids (fun other there => (closed other there).1) member,
      mem_ids (fun other there => known.subset (inside other there).1) member]
  have stays : ∀ kept ∈ db'.executions.rows,
      kept ∈ young ∧ kept ∉ oversized order retentionBytes young := by
    intro kept member
    rw [left, List.mem_filter, decide_eq_true_eq] at member
    exact ⟨member.1, fun taken => member.2 (List.mem_map_of_mem taken)⟩
  have ordered : ∀ row ∈ oversized order retentionBytes young, ∀ kept ∈ db'.executions.rows,
      kept.state.isTerminal = true → endedNoLater row kept := by
    intro row member kept there terminal
    obtain ⟨present, spared⟩ := stays kept there
    exact endedNoLater_of_start oldest member (mem_oldestFirst.mpr ⟨present, terminal⟩) spared
  have covers := covering_sum (·.capturedBytes) (bytesOf young - retentionBytes)
    (oldestFirst order young)
  have total := bytesOf_add nodup oldest
  rw [← left] at total
  constructor
  · exact oldest
  · exact covers.symm
  · intro taken start ne
    exact sum_lt_of_covering start ne
  · exact removes
  · intro row member gone
    cases (removes row member).mp gone with
    | inl tooOld => exact (closed row tooOld).2
    | inr tooMuch => exact (inside row tooMuch).2
  · cases covers with
    | inl all =>
      right
      intro kept member
      obtain ⟨present, spared⟩ := stays kept member
      by_contra terminal
      apply spared
      rw [oversized, all]
      exact mem_oldestFirst.mpr ⟨present, by simpa using terminal⟩
    | inr enough =>
      left
      have covered : bytesOf young - retentionBytes ≤
          bytesOf (oversized order retentionBytes young) := enough
      omega
  · exact ordered
  · intro row member gone kept there terminal ended own later other
    cases (removes row member).mp gone with
    | inl tooOld => exact older row tooOld kept (stays kept there).1 terminal ended own later other
    | inr tooMuch =>
      have sooner := ordered row tooMuch kept there terminal
      rw [Option.mem_def] at own other
      rw [endedNoLater, own, other] at sooner
      exact sooner
  · rw [left]
    exact List.filter_sublist.trans known
  · intro event
    rw [without.events, List.mem_filter, decide_eq_true_eq]
    refine and_congr_right fun _ => ?_
    constructor
    · intro spared row member gone same
      apply spared
      rw [same, List.mem_append]
      exact ((removes row member).mp gone).imp List.mem_map_of_mem List.mem_map_of_mem
    · intro others named
      rw [← List.map_append] at named
      obtain ⟨row, member, same⟩ := List.mem_map.mp named
      have there : row ∈ db.executions.rows := by
        cases List.mem_append.mp member with
        | inl tooOld => exact (closed row tooOld).1
        | inr tooMuch => exact known.subset (inside row tooMuch).1
      exact others row there ((removes row there).mpr (List.mem_append.mp member)) same.symm
  · exact without.workspaces
  · exact without.agentSessions
  · exact without.agentTurns
  · exact answers
  · have taken := (filter_perm_of_start nodup oldest).length_eq
    have whole := List.length_eq_length_filter_add (l := young)
      fun row => decide (row.id ∈ (oversized order retentionBytes young).map (·.id))
    simp only [← decide_not] at whole
    rw [← left] at whole
    omega

end Database

open Database in
/-- Whatever is in the tables, and in whatever order the database names executions that ended at
the same time, a prune that succeeds cuts what its age pass leaves down to size. -/
theorem prune_size_exact {db db' : Database} {order : EndOrder} {now : Int}
    {retentionDays retentionBytes : Nat} {faults : List (Option String)} {removed : Nat}
    (ran : Store.run (prune order now retentionDays retentionBytes) faults db =
      (.ok removed, db')) :
    ∃ gone, SizePruned order retentionBytes (aged now retentionDays db.executions.rows)
      (unaged now retentionDays db.executions.rows) gone db db' removed := by
  have spec := run_of_post (prune_spec db order now retentionDays retentionBytes) faults
  rw [ran] at spec
  obtain ⟨answers, without⟩ := spec
  refine ⟨_, sizePruned_of_without without without.pruned ?_ List.filter_sublist ?_ ?_ answers⟩
  · intro row member
    obtain ⟨there, chosen⟩ := List.mem_filter.mp member
    exact ⟨there, (Bool.and_eq_true_iff.mp chosen).1⟩
  · intro row member kept stays terminal ended own later other
    exact aged_before member stays terminal own other
  · exact (List.length_eq_length_filter_add _).symm

/-- Behind `sampleOps`, where "b" waits, "c" captures five bytes and ends before "a" did. -/
def sampleFull : List (StoreOp × List (Option String)) :=
  sampleOps ++
    [(.createExecution 2 "c" { workspaceId := "w", command := .argv "make" [] } "/demo", []),
     (.appendCaptureBatch [.output "c" 4 .stdout [1, 2, 3, 4, 5]], []),
     (.finish 5 "c" .cancelled (.cancelled none), [])]

theorem prune_size_exact_sample :
    ∃ db db' gone, store.run sampleDatabase sampleFull = some db ∧
      Store.run (Database.prune (.stable _) 7 30 4) [] db = (.ok 1, db') ∧
      db'.executions.rows.map (·.id) = ["a", "b"] ∧
      Database.SizePruned (.stable _) 4 (Database.aged 7 30 db.executions.rows)
        (Database.unaged 7 30 db.executions.rows) gone db db' 1 := by
  have traced : (store.run sampleDatabase sampleFull).map (fun db =>
      ((Store.run (Database.prune (.stable _) 7 30 4) [] db).1.toOption,
        (Store.run (Database.prune (.stable _) 7 30 4) [] db).2.executions.rows.map (·.id))) =
      some (some 1, ["a", "b"]) := by decide +kernel
  obtain ⟨db, replay, seen⟩ := Option.map_eq_some_iff.mp traced
  obtain ⟨answered, kept⟩ := Prod.mk.inj seen
  cases ran : Store.run (Database.prune (.stable _) 7 30 4) [] db with
  | mk result db' =>
    rw [ran] at answered kept
    cases result with
    | error e => cases answered
    | ok removed =>
      have one : removed = 1 := Option.some.inj answered
      subst one
      obtain ⟨gone, pruned⟩ := prune_size_exact ran
      exact ⟨db, db', gone, replay, ran, kept, pruned⟩

end Loomterm
