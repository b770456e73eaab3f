import Loomterm.Store.Operations

/-!
# Retention by age

The age pass of `Database::prune` compares the end of an execution with a cutoff that the
release build computes in wrapping `i64` arithmetic. The pass is exact for precisely those
settings whose cutoff is a date that an `i64` can hold, or wraps to the earliest date.
-/

namespace Loomterm

namespace Database

/-- The milliseconds of a day. -/
def dayMs : Int := 24 * 60 * 60 * 1000

/-- Only the last of the five wrapping operations on the way to the cutoff matters. -/
theorem pruneCutoff_eq (now : Int) (days : Nat) :
    pruneCutoff now days = toI64 (now - days * dayMs) := by
  have product : toI64 days * 24 * 60 * 60 * 1000 = toI64 days * dayMs := by
    simp only [dayMs]
    omega
  unfold pruneCutoff
  rw [product]
  simp only [toI64, Int.bmod_mul_bmod, Int.sub_bmod_bmod]

/-- The first statement in the transaction of `prune` (`src/store.rs:1533`). -/
def agePass (now : Int) (retentionDays : Nat) : Store Nat :=
  deleteExecutions fun row =>
    row.state.isTerminal && endedBefore (pruneCutoff now retentionDays) row

/-- The rest of that transaction (`src/store.rs:1542-1567`). -/
def sizePass (order : EndOrder) (retentionBytes removed : Nat) : Store Nat := do
  let total ← Sql.select fun db => sumColumn (db.executions.rows.map (·.capturedBytes))
  if retentionBytes < total then
    let candidates ← Sql.select fun db =>
      .ok (order.rows (db.executions.rows.filter fun row => row.state.isTerminal))
    let more ← pruneCandidates (total - retentionBytes) candidates
    pure (removed + more)
  else pure removed

theorem prune_eq (order : EndOrder) (now : Int) (retentionDays retentionBytes : Nat) :
    prune order now retentionDays retentionBytes =
      Sql.transaction (agePass now retentionDays >>= sizePass order retentionBytes) := rfl

/-- The age pass can remove `row` from `db`. -/
def AgedOut (now : Int) (days : Nat) (db : Database) (row : ExecutionRow) : Prop :=
  row ∈ db.executions.rows ∧
    ∃ faults, row ∉ (Store.run (agePass now days) faults db).2.executions.rows

/-- The age pass removes the terminal rows that ended before the cutoff. -/
theorem agedOut_iff {now : Int} {days : Nat} {db : Database} {row : ExecutionRow} :
    AgedOut now days db row ↔ row ∈ db.executions.rows ∧ row.state.isTerminal = true ∧
      ∃ ended, row.endedAtMs = some ended ∧ ended < pruneCutoff now days := by
  have selected : (row.state.isTerminal && endedBefore (pruneCutoff now days) row) = true ↔
      row.state.isTerminal = true ∧
        ∃ ended, row.endedAtMs = some ended ∧ ended < pruneCutoff now days := by
    rw [Bool.and_eq_true, endedBefore, Option.any_eq_true]
    simp only [decide_eq_true_eq]
  rw [← selected]
  unfold AgedOut
  constructor
  · intro aged
    obtain ⟨member, faults, gone⟩ := aged
    have kept : Sql.Post (fun _ => True) (agePass now days) db fun _ db' =>
        row ∉ db'.executions.rows →
          (row.state.isTerminal && endedBefore (pruneCutoff now days) row) = true := by
      unfold agePass deleteExecutions
      apply Sql.post_statement
      · intro _ _ absent
        exact absurd member absent
      · intro absent
        by_contra spared
        refine absent (List.mem_filter.mpr ⟨member, ?_⟩)
        rw [Bool.not_eq_true']
        exact eq_false_of_ne_true spared
    exact ⟨member, (kept _ fun _ _ => trivial).1 gone⟩
  · intro chosen
    obtain ⟨member, chosen⟩ := chosen
    refine ⟨member, [], ?_⟩
    intro kept
    have spared := (List.mem_filter.mp kept).2
    simp [chosen] at spared

/-- Every end that the table holds is an `i64`, as its column is. -/
def Clocked (db : Database) : Prop :=
  ∀ row ∈ db.executions.rows, ∀ ended, row.endedAtMs = some ended → IsI64 ended

/-- What retention by age is for: an execution goes only if it is over and ended more than
`days` days before `now`, and goes under every smaller setting too. -/
structure AgeExact (now : Int) (days : Nat) : Prop where
  old : ∀ db, store.Reachable db → db.Clocked → ∀ row, AgedOut now days db row →
    row.state.isTerminal = true ∧
      ∃ ended, row.endedAtMs = some ended ∧ days * dayMs < now - ended
  monotone : ∀ db, store.Reachable db → db.Clocked → ∀ fewer ≤ days, ∀ row,
    AgedOut now days db row → AgedOut now fewer db row

/-- The date `days` days before `now` is an `i64`, or wraps to the smallest one. -/
def CutoffFits (now : Int) (days : Nat) : Prop :=
  days * dayMs ≤ now + 2 ^ 63 ∨ (days * dayMs - now) % 2 ^ 64 = 2 ^ 63

instance (now : Int) (days : Nat) : Decidable (CutoffFits now days) := by
  unfold CutoffFits
  infer_instance

theorem days_le {fewer days : Nat} (less : fewer ≤ days) : fewer * dayMs ≤ days * dayMs := by
  simp only [dayMs]
  omega

theorem pruneCutoff_of_le {now : Int} {days : Nat} (clock : IsI64 now)
    (fits : days * dayMs ≤ now + 2 ^ 63) : pruneCutoff now days = now - days * dayMs := by
  rw [pruneCutoff_eq]
  apply toI64_of_isI64
  have positive : 0 ≤ days * dayMs := by
    simp only [dayMs]
    omega
  simp only [IsI64] at clock ⊢
  omega

/-- The cutoff is the smallest `i64` exactly when its date wraps to that. -/
theorem pruneCutoff_eq_min {now : Int} {days : Nat} :
    pruneCutoff now days = -2 ^ 63 ↔ (days * dayMs - now) % 2 ^ 64 = 2 ^ 63 := by
  have range := toI64_isI64 (now - days * dayMs)
  have same := toI64_emod (now - days * dayMs)
  rw [pruneCutoff_eq]
  simp only [IsI64] at range
  omega

theorem CutoffFits.ageExact {now : Int} {days : Nat} (clock : IsI64 now)
    (fits : CutoffFits now days) : AgeExact now days := by
  rcases fits with fits | wraps
  · have cutoff := pruneCutoff_of_le clock fits
    constructor
    · intro db _ _ row aged
      obtain ⟨_, terminal, ended, set, before⟩ := agedOut_iff.mp aged
      exact ⟨terminal, ended, set, by omega⟩
    · intro db _ _ fewer less row aged
      have less := days_le less
      have later : pruneCutoff now fewer = now - fewer * dayMs :=
        pruneCutoff_of_le clock (by omega)
      obtain ⟨member, terminal, ended, set, before⟩ := agedOut_iff.mp aged
      exact agedOut_iff.mpr ⟨member, terminal, ended, set, by omega⟩
  · have cutoff := pruneCutoff_eq_min.mpr wraps
    have kept : ∀ db, db.Clocked → ∀ row, ¬ AgedOut now days db row := by
      intro db clocked row aged
      obtain ⟨member, _, ended, set, before⟩ := agedOut_iff.mp aged
      have low := (clocked row member ended set).1
      omega
    exact ⟨fun db _ clocked row aged => absurd aged (kept db clocked row),
      fun db _ clocked _ _ row aged => absurd aged (kept db clocked row)⟩

/-- The commands that leave one execution, which ended at `ended`. -/
def endedOps (ended : Int) : List (StoreOp × List (Option String)) :=
  [(.createExecution 0 "a" { workspaceId := "w", command := .argv "make" [] } "/demo", []),
   (.finish ended "a" .finished (.exited 0), [])]

def endedRow (ended : Int) : ExecutionRow :=
  { queuedRow 0 "a" { workspaceId := "w", command := .argv "make" [] } "/demo" with
    state := .finished
    endedAtMs := some ended
    outcome := some (.exited 0)
    lastSeq := 1 }

theorem endedOps_rows (ended : Int) :
    (store.run sampleDatabase (endedOps ended)).map (·.executions.rows) =
      some [endedRow ended] := by
  rfl

/-- Every end is that of the only execution of some reachable database. -/
theorem ended_reachable (ended : Int) :
    ∃ db, store.Reachable db ∧ db.executions.rows = [endedRow ended] := by
  obtain ⟨db, ran, rows⟩ := Option.map_eq_some_iff.mp (endedOps_rows ended)
  exact ⟨db, System.run_reachable ⟨rfl, rfl⟩ ran, rows⟩

/-- A cutoff that wraps to a later date takes executions that are not old enough. -/
theorem AgeExact.cutoffFits {now : Int} {days : Nat} (exact : AgeExact now days) :
    CutoffFits now days := by
  by_contra misfit
  simp only [CutoffFits, not_or, not_le] at misfit
  obtain ⟨far, other⟩ := misfit
  have range := toI64_isI64 (now - days * dayMs)
  rw [← pruneCutoff_eq] at range
  have above : -2 ^ 63 < pruneCutoff now days :=
    lt_of_le_of_ne range.1 fun least => other (pruneCutoff_eq_min.mp least.symm)
  obtain ⟨db, reached, rows⟩ := ended_reachable (-2 ^ 63)
  have clocked : db.Clocked := by
    intro row member ended set
    rw [rows, List.mem_singleton] at member
    subst member
    rw [← Option.some.inj set]
    exact ⟨le_refl _, by omega⟩
  have aged : AgedOut now days db (endedRow (-2 ^ 63)) :=
    agedOut_iff.mpr ⟨by simp [rows], rfl, _, rfl, above⟩
  obtain ⟨_, ended, set, old⟩ := exact.old db reached clocked _ aged
  have same : -2 ^ 63 = ended := Option.some.inj set
  omega

/-- Retention by age is exact just for the settings whose cutoff fits. -/
theorem agePass_exact_iff {now : Int} (clock : IsI64 now) (days : Nat) :
    AgeExact now days ↔ CutoffFits now days :=
  ⟨AgeExact.cutoffFits, CutoffFits.ageExact clock⟩

theorem agePass_exact_iff_week :
    IsI64 1753000000000 ∧ AgeExact 1753000000000 7 := by
  have clock : IsI64 1753000000000 := ⟨by omega, by omega⟩
  exact ⟨clock, (agePass_exact_iff clock 7).mpr (by decide)⟩

/-- The largest setting, meant to keep everything, puts the cutoff a day ahead of the clock
and removes an execution that ended one second ago. -/
theorem agePass_keeps_nothing :
    (store.run sampleDatabase (endedOps 1752999999000 ++
      [(.prune (.stable _) 1753000000000 (2 ^ 63 - 1) (2 ^ 30), [])])).map (·.executions.rows) = some [] ∧
    ¬ AgeExact 1753000000000 (2 ^ 63 - 1) := by
  refine ⟨by decide +kernel, ?_⟩
  intro exact
  have fits := exact.cutoffFits
  revert fits
  decide

end Database

end Loomterm
