import Mathlib.Algebra.Order.Ring.Int
import Mathlib.Tactic.Common

/-!
# Advisory locks

A lock of `flock` belongs to an open file description. It is given up when the last descriptor
of the description is closed, and a fork leaves the child with a descriptor of its own: a
process that has closed the file may still keep others from the lock.
-/

namespace Loomterm

/-- The description that holds a lock: the party that took it, whether that party still has it
open, and how many descriptors were inherited from it. -/
structure Holding (δ : Type*) where
  party : δ
  own : Bool
  inherited : Nat
  referred : own = true ∨ 0 < inherited

/-- What holds the lock of a file. -/
abbrev Flock (δ : Type*) := Option (Holding δ)

namespace Flock

variable {δ : Type*}

/-- The lock, as far as descriptors are left. -/
def settle (party : δ) (own : Bool) (inherited : Nat) : Flock δ :=
  if referred : own = true ∨ 0 < inherited then some ⟨party, own, inherited, referred⟩ else none

/-- The lock is taken, unless it is held; also by the same party through another description. -/
def tryLock (party : δ) : Flock δ → Option (Flock δ)
  | none => some (some ⟨party, true, 0, .inl rfl⟩)
  | some _ => none

/-- A fork of a process that has the file open. -/
def inherit (lock : Flock δ) : Flock δ :=
  lock.bind fun held => settle held.party held.own (held.inherited + 1)

/-- A child closes the descriptor that it inherited. -/
def execed (lock : Flock δ) : Flock δ :=
  lock.bind fun held => settle held.party held.own (held.inherited - 1)

/-- The parties that `p` selects close the file. -/
def close (p : δ → Bool) (lock : Flock δ) : Flock δ :=
  lock.bind fun held => settle held.party (held.own && !p held.party) held.inherited

/-- The party holds the lock, and has the file open. -/
def OwnedBy (lock : Flock δ) (party : δ) : Prop :=
  ∃ held, lock = some held ∧ held.party = party ∧ held.own = true

variable {lock lock' : Flock δ} {party other : δ} {p : δ → Bool}

theorem ownedBy_settle {own : Bool} {inherited : Nat} :
    (settle other own inherited).OwnedBy party ↔ other = party ∧ own = true := by
  unfold settle OwnedBy
  split
  · simp
  · rename_i closed
    simp only [not_or] at closed
    simp [closed.1]

/-- Only one party can own a lock. -/
theorem OwnedBy.unique (one : lock.OwnedBy party) (two : lock.OwnedBy other) : party = other := by
  obtain ⟨held, there, rfl, _⟩ := one
  obtain ⟨held', there', rfl, _⟩ := two
  rw [there, Option.some.injEq] at there'
  rw [there']

theorem tryLock_eq_some (taken : lock.tryLock party = some lock') :
    lock = none ∧ lock'.OwnedBy party := by
  cases lock with
  | none => exact ⟨rfl, _, (Option.some.inj taken).symm, rfl, rfl⟩
  | some held => cases taken

theorem not_ownedBy_of_tryLock (taken : lock.tryLock party = some lock') (other : δ) :
    ¬ lock.OwnedBy other := by
  rintro ⟨held, there, _⟩
  rw [(tryLock_eq_some taken).1] at there
  cases there

@[simp] theorem ownedBy_inherit : lock.inherit.OwnedBy party ↔ lock.OwnedBy party := by
  cases lock with
  | none => rfl
  | some held =>
    show (settle _ _ _).OwnedBy _ ↔ _
    rw [ownedBy_settle]
    simp [OwnedBy]

@[simp] theorem ownedBy_execed : lock.execed.OwnedBy party ↔ lock.OwnedBy party := by
  cases lock with
  | none => rfl
  | some held =>
    show (settle _ _ _).OwnedBy _ ↔ _
    rw [ownedBy_settle]
    simp [OwnedBy]

@[simp] theorem ownedBy_close :
    (lock.close p).OwnedBy party ↔ lock.OwnedBy party ∧ p party = false := by
  cases lock with
  | none =>
    show OwnedBy none party ↔ _
    simp [OwnedBy]
  | some held =>
    show (settle _ _ _).OwnedBy _ ↔ _
    rw [ownedBy_settle]
    constructor
    · rintro ⟨rfl, own⟩
      simpa [OwnedBy] using own
    · rintro ⟨⟨_, there, rfl, own⟩, spared⟩
      cases there
      simp [own, spared]

end Flock

end Loomterm
