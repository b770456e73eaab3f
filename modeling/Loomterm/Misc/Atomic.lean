import Loomterm.Misc.Sql

/-!
# Failures that leave no trace

A program leaves no trace when, whatever statement fails, it leaves the database as it was if it
ends with an error. A transaction never leaves a trace. A program that goes on behind a statement
of its own may stop there, so the statement must not have changed anything.
-/

namespace Loomterm

namespace Sql

universe u
variable {σ ε : Type*} {α β : Type u}

/-- When `p` ends with an error, the database is `s` again. -/
def LeavesNoTrace (fault : ε → Prop) (p : Sql σ ε α) (s : σ) : Prop :=
  ∀ faults, (∀ e, some e ∈ faults → fault e) →
    ∀ e, (p s faults).result = .error e → (p s faults).state = s

/-- A program whose first statement fails when the schedule says so. -/
def Prompt (p : Sql σ ε α) : Prop :=
  ∀ s e rest, p s (some e :: rest) = ⟨.error e, s, rest⟩

theorem prompt_statement {body : σ → Except ε (α × σ)} : Prompt (statement body) :=
  fun _ _ _ => rfl

theorem prompt_select {body : σ → Except ε α} : Prompt (select body : Sql σ ε α) :=
  prompt_statement

theorem Prompt.bind {p : Sql σ ε α} (prompt : Prompt p) (k : α → Sql σ ε β) :
    Prompt (p >>= k) := by
  intro s e rest
  show andThen p k s (some e :: rest) = _
  unfold andThen
  rw [prompt s e rest]

theorem bind_pure (p : Sql σ ε α) : (p >>= pure) = p := by
  funext s faults
  show andThen p ret s faults = p s faults
  unfold andThen
  rcases p s faults with ⟨result, s', faults'⟩
  cases result <;> rfl

variable {fault : ε → Prop} {s : σ}

theorem leavesNoTrace_pure {a : α} : LeavesNoTrace fault (pure a : Sql σ ε α) s := by
  intro faults _ e failed
  cases failed

theorem leavesNoTrace_fail {e : ε} : LeavesNoTrace fault (fail e : Sql σ ε α) s :=
  fun _ _ _ _ => rfl

/-- A failure inside a transaction, or of its commit, is rolled back. -/
theorem leavesNoTrace_transaction {body : Sql σ ε α} :
    LeavesNoTrace fault (transaction body) s := by
  intro faults _ e failed
  unfold transaction at failed ⊢
  split at failed
  · cases failed
  · rfl

theorem leavesNoTrace_statement {body : σ → Except ε (α × σ)} :
    LeavesNoTrace fault (statement body) s := by
  intro faults _ e failed
  unfold statement at failed ⊢
  split at failed
  · rfl
  · split at failed
    · cases failed
    · rfl

/-- What a schedule makes of a statement. -/
theorem statement_cases (body : σ → Except ε (α × σ)) (faults : Faults ε) :
    (∃ e rest, faults = some e :: rest ∧ statement body s faults = ⟨.error e, s, rest⟩) ∨
      (∀ e, faults.head? ≠ some (some e)) ∧ statement body s faults = match body s with
        | .ok (a, s') => ⟨.ok a, s', faults.tail⟩
        | .error e => ⟨.error e, s, faults.tail⟩ := by
  match faults with
  | [] => exact .inr ⟨by simp, rfl⟩
  | none :: rest => exact .inr ⟨by simp, rfl⟩
  | some e :: rest => exact .inl ⟨e, rest, rfl, rfl⟩

/-- Behind a statement that goes well nothing may fail, unless it has changed nothing. -/
theorem leavesNoTrace_statement_bind {body : σ → Except ε (α × σ)} {k : α → Sql σ ε β} :
    LeavesNoTrace fault (statement body >>= k) s ↔
      ∀ a s', body s = .ok (a, s') → ∀ faults, (∀ e, some e ∈ faults → fault e) →
        ∀ e, (k a s' faults).result = .error e → (k a s' faults).state = s := by
  constructor
  · intro whole a s' ran faults allowed e failed
    have next := whole (none :: faults) (by simpa using allowed) e
    have runs : (statement body >>= k) s (none :: faults) = k a s' faults := by
      show andThen (statement body) k s (none :: faults) = _
      simp only [andThen, statement, ran, List.tail_cons]
    rw [runs] at next
    exact next failed
  · intro rest faults allowed e failed
    have unfolded : (statement body >>= k) s faults = andThen (statement body) k s faults := rfl
    rw [unfolded] at failed ⊢
    unfold andThen at failed ⊢
    rcases statement_cases body (s := s) faults with ⟨e', left, _, failure⟩ | ⟨_, goes⟩
    · rw [failure]
    · rw [goes] at failed ⊢
      cases ran : body s with
      | error e' => rfl
      | ok answer =>
        simp only [ran] at failed ⊢
        apply rest _ _ ran _ _ e failed
        intro e member
        exact allowed e (List.mem_of_mem_tail member)

theorem leavesNoTrace_select_bind {body : σ → Except ε α} {k : α → Sql σ ε β} :
    LeavesNoTrace fault (select body >>= k) s ↔
      ∀ a, body s = .ok a → LeavesNoTrace fault (k a) s := by
  unfold select
  rw [leavesNoTrace_statement_bind]
  constructor
  · intro whole a found
    exact whole a s (by rw [found]; rfl)
  · intro rest a s' ran
    cases found : body s with
    | error e =>
      rw [found] at ran
      cases ran
    | ok a' =>
      rw [found] at ran
      cases ran
      exact rest a found

/-- The program stops behind its statement when the next one fails. -/
theorem leavesNoTrace_then {body : σ → Except ε (α × σ)} {k : α → Sql σ ε β}
    (prompt : ∀ a, Prompt (k a)) (possible : ∃ e, fault e) :
    LeavesNoTrace fault (statement body >>= k) s ↔
      ∀ a s', body s = .ok (a, s') → s' = s ∧ LeavesNoTrace fault (k a) s := by
  rw [leavesNoTrace_statement_bind]
  constructor
  · intro whole a s' ran
    obtain ⟨e, allowed⟩ := possible
    have stopped := whole a s' ran [some e] (by simpa using allowed) e
    rw [prompt a s' e []] at stopped
    have same : s' = s := stopped rfl
    subst same
    exact ⟨rfl, whole a s' ran⟩
  · intro rest a s' ran
    obtain ⟨rfl, later⟩ := rest a s' ran
    exact later

/-- Behind its last statement a program ends well. -/
theorem leavesNoTrace_last {body : σ → Except ε (α × σ)} {f : α → β} :
    LeavesNoTrace fault (statement body >>= fun a => pure (f a)) s := by
  rw [leavesNoTrace_statement_bind]
  intro a s' _ faults _ e failed
  cases failed

/-- A program that reads whatever fails may come before one that leaves no trace. -/
theorem LeavesNoTrace.after_attempt {body : σ → Except ε α} {k : Option α → Sql σ ε β}
    (rest : ∀ found, LeavesNoTrace fault (k found) s) :
    LeavesNoTrace fault (attempt (select body) >>= k) s := by
  intro faults allowed e failed
  have left : ∀ e, some e ∈ faults.tail → fault e :=
    fun e member => allowed e (List.mem_of_mem_tail member)
  have reads : ∃ found, (attempt (select body) >>= k) s faults = k found s faults.tail := by
    show ∃ found, andThen (attempt (select body)) k s faults = k found s faults.tail
    unfold andThen attempt select
    rcases statement_cases (fun s => (body s).map (·, s)) (s := s) faults with
      ⟨e', tail, rfl, failure⟩ | ⟨_, goes⟩
    · rw [failure]
      exact ⟨none, rfl⟩
    · rw [goes]
      cases found : body s with
      | error e' => exact ⟨none, rfl⟩
      | ok a => exact ⟨some a, rfl⟩
  obtain ⟨found, same⟩ := reads
  rw [same] at failed ⊢
  exact rest found faults.tail left e failed

end Sql

end Loomterm
