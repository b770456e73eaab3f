import Mathlib.Algebra.Order.Ring.Int
import Mathlib.Data.List.Sort
import Mathlib.Tactic.Common

/-!
# Database programs whose statements may fail

`Sql σ ε α` reads and writes a database `σ`, and ends with an `α` or an error `ε`. Every
statement draws the next entry of a schedule of faults: an entry `some e` makes the
statement fail with `e` and leave the database as it was. A statement outside a
transaction is durable at once. A transaction draws one entry to begin and one to
commit, and a failure inside it, or of its commit, restores the database it began with.

`Sql.Post fault p s Q` is the weakest precondition over the schedules whose entries meet
`fault`; it is proved by following the program with one rule for each construct.
-/

namespace Loomterm

/-- One entry for each statement to come; a statement past the end does not fail. -/
abbrev Faults (ε : Type*) := List (Option ε)

/-- How a database program ended, and what it left behind. -/
structure Outcome (σ ε α : Type*) where
  result : Except ε α
  state : σ
  faults : Faults ε

/-- A program over the database `σ`. -/
def Sql (σ ε α : Type*) := σ → Faults ε → Outcome σ ε α

namespace Sql

universe u
variable {σ ε : Type*} {α β : Type u}

def ret (a : α) : Sql σ ε α := fun s faults => ⟨.ok a, s, faults⟩

def fail (e : ε) : Sql σ ε α := fun s faults => ⟨.error e, s, faults⟩

def andThen (p : Sql σ ε α) (k : α → Sql σ ε β) : Sql σ ε β := fun s faults =>
  match p s faults with
  | ⟨.ok a, s', faults'⟩ => k a s' faults'
  | ⟨.error e, s', faults'⟩ => ⟨.error e, s', faults'⟩

instance : Monad (Sql.{_, _, u} σ ε) where
  pure := ret
  bind := andThen

/-- One statement: it runs `body` unless the schedule makes it fail. -/
def statement (body : σ → Except ε (α × σ)) : Sql σ ε α := fun s faults =>
  match faults with
  | some e :: rest => ⟨.error e, s, rest⟩
  | _ =>
    match body s with
    | .ok (a, s') => ⟨.ok a, s', faults.tail⟩
    | .error e => ⟨.error e, s, faults.tail⟩

/-- What `ORDER BY` may answer with: the rows that were selected, sorted. Rows that come neither
before nor behind each other are in any order. -/
structure OrderBy {ρ : Type*} (before : ρ → ρ → Prop) where
  rows : List ρ → List ρ
  perm (selected : List ρ) : (rows selected).Perm selected
  sorted (selected : List ρ) : (rows selected).Pairwise before

/-- The order that keeps such rows as they were inserted. -/
def OrderBy.stable {ρ : Type*} (before : ρ → ρ → Prop) [DecidableRel before]
    [Std.Total before] [IsTrans ρ before] : OrderBy before where
  rows := List.insertionSort before
  perm := List.perm_insertionSort before
  sorted := List.pairwise_insertionSort before

/-- A statement that only reads. -/
def select (body : σ → Except ε α) : Sql σ ε α :=
  statement fun s => (body s).map (·, s)

/-- Runs `p` and drops its error, as `Result::ok` does. -/
def attempt (p : Sql σ ε α) : Sql σ ε (Option α) := fun s faults =>
  match p s faults with
  | ⟨.ok a, s', faults'⟩ => ⟨.ok (some a), s', faults'⟩
  | ⟨.error _, s', faults'⟩ => ⟨.ok none, s', faults'⟩

/-- A point at which the program may fail without having done anything. -/
def checkpoint : Sql σ ε PUnit := statement fun s => .ok (⟨⟩, s)

/-- `BEGIN`, then `body`, then `COMMIT`; a failure of any of them rolls back. -/
def transaction (body : Sql σ ε α) : Sql σ ε α := fun s faults =>
  match (andThen checkpoint fun _ => andThen body fun a => andThen checkpoint fun _ => ret a)
      s faults with
  | ⟨.ok a, s', faults'⟩ => ⟨.ok a, s', faults'⟩
  | ⟨.error e, _, faults'⟩ => ⟨.error e, s, faults'⟩

theorem bind_bind {γ : Type u} (p : Sql σ ε α) (k : α → Sql σ ε β) (l : β → Sql σ ε γ) :
    (p >>= fun a => k a >>= l) = ((p >>= k) >>= l) := by
  funext s faults
  show andThen p (fun a => andThen (k a) l) s faults = andThen (andThen p k) l s faults
  unfold andThen
  rcases p s faults with ⟨result, s', faults'⟩
  cases result <;> rfl

/-- Every outcome of `p` from `s` meets `Q`, for every schedule whose faults meet
`fault`; the entries it leaves over meet `fault` too. -/
def Post (fault : ε → Prop) (p : Sql σ ε α) (s : σ) (Q : Except ε α → σ → Prop) : Prop :=
  ∀ faults, (∀ e, some e ∈ faults → fault e) →
    Q (p s faults).result (p s faults).state ∧ ∀ e, some e ∈ (p s faults).faults → fault e

variable {fault : ε → Prop} {s : σ}

theorem Post.mono {p : Sql σ ε α} {Q Q' : Except ε α → σ → Prop}
    (holds : Post fault p s Q) (weaker : ∀ r s', Q r s' → Q' r s') : Post fault p s Q' :=
  fun faults allowed => ⟨weaker _ _ (holds faults allowed).1, (holds faults allowed).2⟩

/-- What a program that ends well and one that ends with an error leave may be proved
apart. -/
theorem Post.and {p : Sql σ ε α} {Q Q' : Except ε α → σ → Prop}
    (left : Post fault p s Q) (right : Post fault p s Q') :
    Post fault p s fun r s' => Q r s' ∧ Q' r s' :=
  fun faults allowed =>
    ⟨⟨(left faults allowed).1, (right faults allowed).1⟩, (left faults allowed).2⟩

theorem post_pure {a : α} {Q : Except ε α → σ → Prop} (holds : Q (.ok a) s) :
    Post fault (pure a : Sql σ ε α) s Q :=
  fun _ allowed => ⟨holds, allowed⟩

theorem post_fail {e : ε} {Q : Except ε α → σ → Prop} (holds : Q (.error e) s) :
    Post fault (fail e : Sql σ ε α) s Q :=
  fun _ allowed => ⟨holds, allowed⟩

theorem post_andThen {p : Sql σ ε α} {k : α → Sql σ ε β} {Q : Except ε β → σ → Prop}
    (holds : Post fault p s fun r s' => match r with
      | .ok a => Post fault (k a) s' Q
      | .error e => Q (.error e) s') : Post fault (andThen p k) s Q := by
  intro faults allowed
  have first := holds faults allowed
  unfold andThen
  cases ran : p s faults with
  | mk result state rest =>
    rw [ran] at first
    cases result with
    | ok a => exact first.1 rest first.2
    | error e => exact ⟨first.1, first.2⟩

theorem post_bind {p : Sql σ ε α} {k : α → Sql σ ε β} {Q : Except ε β → σ → Prop}
    (holds : Post fault p s fun r s' => match r with
      | .ok a => Post fault (k a) s' Q
      | .error e => Q (.error e) s') : Post fault (p >>= k) s Q :=
  post_andThen holds

theorem post_statement {body : σ → Except ε (α × σ)} {Q : Except ε α → σ → Prop}
    (failed : ∀ e, fault e → Q (.error e) s)
    (holds : match body s with
      | .ok (a, s') => Q (.ok a) s'
      | .error e => Q (.error e) s) : Post fault (statement body) s Q := by
  intro faults allowed
  have left : ∀ e, some e ∈ faults.tail → fault e :=
    fun e member => allowed e (List.mem_of_mem_tail member)
  match faults with
  | some e :: rest => exact ⟨failed e (allowed e List.mem_cons_self), left⟩
  | [] => simp only [statement]; cases ran : body s <;> simp_all
  | none :: rest => simp only [statement]; cases ran : body s <;> simp_all

theorem post_select {body : σ → Except ε α} {Q : Except ε α → σ → Prop}
    (failed : ∀ e, fault e → Q (.error e) s) (holds : Q (body s) s) :
    Post fault (select body) s Q := by
  refine post_statement failed ?_
  cases read : body s <;> simpa [Except.map, read] using holds

theorem post_attempt {p : Sql σ ε α} {Q : Except ε (Option α) → σ → Prop}
    (holds : Post fault p s fun r s' => match r with
      | .ok a => Q (.ok (some a)) s'
      | .error _ => Q (.ok none) s') : Post fault (attempt p) s Q := by
  intro faults allowed
  have all := holds faults allowed
  unfold attempt
  cases ran : p s faults with
  | mk result state rest =>
    rw [ran] at all
    cases result <;> exact all

theorem post_checkpoint {Q : Except ε PUnit → σ → Prop}
    (failed : ∀ e, fault e → Q (.error e) s) (holds : Q (.ok ⟨⟩) s) :
    Post fault checkpoint s Q :=
  post_statement failed holds

/-- The rule of transactions: an error, wherever it comes from, is reported over the
database the transaction began with. -/
theorem post_transaction {body : Sql σ ε α} {Q : Except ε α → σ → Prop}
    (failed : ∀ e, fault e → Q (.error e) s)
    (holds : Post fault body s fun r s' => match r with
      | .ok a => Q (.ok a) s'
      | .error e => Q (.error e) s) : Post fault (transaction body) s Q := by
  have inner : Post fault
      (andThen checkpoint fun _ => andThen body fun a => andThen checkpoint fun _ => ret a) s
      fun r s' => match r with
        | .ok a => Q (.ok a) s'
        | .error e => Q (.error e) s := by
    refine post_andThen (post_checkpoint failed ?_)
    refine post_andThen (holds.mono fun r s' held => ?_)
    cases r with
    | error e => exact held
    | ok a => exact post_andThen (post_checkpoint failed (post_pure held))
  intro faults allowed
  have all := inner faults allowed
  unfold transaction
  cases ran : (andThen checkpoint fun _ => andThen body fun a =>
      andThen checkpoint fun _ => ret a) s faults with
  | mk result state rest =>
    rw [ran] at all
    cases result <;> exact all

/-! ## What every statement keeps -/

/-- Begun where `Inv` holds, the program ends where it holds, whether it fails or not. -/
def Keeps (fault : ε → Prop) (Inv : σ → Prop) (p : Sql σ ε α) : Prop :=
  ∀ s, Inv s → Post fault p s fun _ s' => Inv s'

variable {Inv : σ → Prop}

theorem Keeps.pure {a : α} : Keeps fault Inv (pure a : Sql σ ε α) :=
  fun _ held => post_pure held

theorem Keeps.fail {e : ε} : Keeps fault Inv (fail e : Sql σ ε α) :=
  fun _ held => post_fail held

theorem Keeps.bind {p : Sql σ ε α} {k : α → Sql σ ε β} (first : Keeps fault Inv p)
    (rest : ∀ a, Keeps fault Inv (k a)) : Keeps fault Inv (p >>= k) := by
  intro s held
  refine post_bind ((first s held).mono fun r s' kept => ?_)
  cases r with
  | ok a => exact rest a s' kept
  | error e => exact kept

theorem Keeps.statement {body : σ → Except ε (α × σ)}
    (step : ∀ s a s', Inv s → body s = .ok (a, s') → Inv s') :
    Keeps fault Inv (statement body) := by
  intro s held
  refine post_statement (fun _ _ => held) ?_
  cases ran : body s with
  | ok answer => exact step s answer.1 answer.2 held ran
  | error e => exact held

/-- A statement keeps what holds of a part of the database that it does not write. -/
theorem Keeps.frame {τ : Type*} (view : σ → τ) {P : τ → Prop} {body : σ → Except ε (α × σ)}
    (same : ∀ s a s', body s = .ok (a, s') → view s' = view s) :
    Keeps fault (fun s => P (view s)) (Sql.statement body) := by
  refine Keeps.statement fun s a s' held ran => ?_
  rw [same s a s' ran]
  exact held

theorem Keeps.attempt {p : Sql σ ε α} (kept : Keeps fault Inv p) :
    Keeps fault Inv (attempt p) := by
  intro s held
  refine post_attempt ((kept s held).mono fun r s' after => ?_)
  cases r <;> exact after

theorem Keeps.select {body : σ → Except ε α} : Keeps fault Inv (select body) :=
  fun _ held => post_select (fun _ _ => held) held

theorem Keeps.transaction {p : Sql σ ε α} (body : Keeps fault Inv p) :
    Keeps fault Inv (transaction p) := by
  intro s held
  refine post_transaction (fun _ _ => held) ((body s held).mono fun r s' kept => ?_)
  cases r with
  | ok a => exact kept
  | error e => exact held

theorem Keeps.ite {c : Prop} [Decidable c] {p q : Sql σ ε α} (first : Keeps fault Inv p)
    (second : Keeps fault Inv q) : Keeps fault Inv (if c then p else q) := by
  by_cases holds : c
  · rw [if_pos holds]
    exact first
  · rw [if_neg holds]
    exact second

/-- A read answers what it finds, or a fault. -/
theorem post_select_of_ok {body : σ → Except ε α} {a : α} (found : body s = .ok a) :
    Post fault (select body) s fun r s' => s' = s ∧ (r = .ok a ∨ ∃ e, fault e ∧ r = .error e) :=
  post_select (fun e allowed => ⟨rfl, .inr ⟨e, allowed, rfl⟩⟩) ⟨rfl, .inl found⟩

/-! ## Programs that only read -/

/-- The first fault that the next `n` statements meet. -/
def firstFault (n : Nat) (faults : Faults ε) : Option ε := (faults.take n).findSome? id

theorem firstFault_add (m n : Nat) (faults : Faults ε) :
    firstFault (m + n) faults = (firstFault m faults).or (firstFault n (faults.drop m)) := by
  unfold firstFault
  rw [List.take_add, List.findSome?_append]

theorem firstFault_map {ε' : Type*} (n : Nat) (f : ε → ε') (faults : Faults ε) :
    firstFault n (faults.map (Option.map f)) = (firstFault n faults).map f := by
  unfold firstFault
  rw [← List.map_take, List.findSome?_map, List.map_findSome?]
  rfl

/-- From `s` the program answers `r` after `n` statements, unless one of them fails. -/
def ReadsAs (p : Sql σ ε α) (s : σ) (n : Nat) (r : Except ε α) : Prop :=
  ∀ faults, match firstFault n faults with
    | some e => (p s faults).result = .error e
    | none => p s faults = ⟨r, s, faults.drop n⟩

theorem readsAs_pure (a : α) : ReadsAs (pure a : Sql σ ε α) s 0 (.ok a) :=
  fun _ => rfl

theorem readsAs_fail (e : ε) : ReadsAs (fail e : Sql σ ε α) s 0 (.error e) :=
  fun _ => rfl

theorem readsAs_select (body : σ → Except ε α) : ReadsAs (select body) s 1 (body s) := by
  intro faults
  match faults with
  | some e :: rest => rfl
  | [] =>
    show select body s [] = ⟨body s, s, []⟩
    cases read : body s <;> simp [select, statement, Except.map, read]
  | none :: rest =>
    show select body s (none :: rest) = ⟨body s, s, rest⟩
    cases read : body s <;> simp [select, statement, Except.map, read]

theorem ReadsAs.bind {p : Sql σ ε α} {k : α → Sql σ ε β} {a : α} {m n : Nat} {r : Except ε β}
    (first : ReadsAs p s m (.ok a)) (more : ReadsAs (k a) s n r) :
    ReadsAs (p >>= k) s (m + n) r := by
  intro faults
  have begun := first faults
  have ended := more (faults.drop m)
  show match firstFault (m + n) faults with
    | some e => (andThen p k s faults).result = .error e
    | none => andThen p k s faults = ⟨r, s, faults.drop (m + n)⟩
  rw [firstFault_add]
  unfold andThen
  cases hit : firstFault m faults with
  | some e =>
    rw [hit] at begun
    rcases ran : p s faults with ⟨result, s', rest⟩
    rw [ran] at begun
    subst begun
    rfl
  | none =>
    rw [hit] at begun
    rw [begun, Option.none_or, ← List.drop_drop]
    exact ended

theorem ReadsAs.bind_error {p : Sql σ ε α} {k : α → Sql σ ε β} {e : ε} {n : Nat}
    (failed : ReadsAs p s n (.error e)) : ReadsAs (p >>= k) s n (.error e) := by
  intro faults
  have begun := failed faults
  show match firstFault n faults with
    | some e => (andThen p k s faults).result = .error e
    | none => andThen p k s faults = ⟨.error e, s, faults.drop n⟩
  unfold andThen
  cases hit : firstFault n faults with
  | some e =>
    rw [hit] at begun
    rcases ran : p s faults with ⟨result, s', rest⟩
    rw [ran] at begun
    subst begun
    rfl
  | none =>
    rw [hit] at begun
    rw [begun]

/-- What the program ends with. -/
theorem ReadsAs.result {p : Sql σ ε α} {n : Nat} {r : Except ε α} (reads : ReadsAs p s n r)
    (faults : Faults ε) :
    (p s faults).result = match firstFault n faults with
      | some e => .error e
      | none => r := by
  have ran := reads faults
  cases hit : firstFault n faults with
  | some e =>
    rw [hit] at ran
    exact ran
  | none =>
    rw [hit] at ran
    rw [ran]

end Sql

end Loomterm
