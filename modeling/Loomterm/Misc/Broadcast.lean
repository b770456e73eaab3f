import Mathlib.Algebra.Order.Ring.Int
import Mathlib.Tactic.Common

/-!
# Receivers of a bounded broadcast channel

A channel keeps the last `capacity` values. A receiver reads them in the order they were
sent; when a value that it has not read is overwritten, its next read reports how many it
has missed and goes on with the oldest value that is left.
-/

namespace Loomterm

/-- What a receiver still has to read, and how many values it has missed. -/
structure Receiver (α : Type*) (capacity : Nat) where
  queue : List α := []
  missed : Nat := 0
  bounded : queue.length ≤ capacity := by exact Nat.zero_le _

/-- What a read of a receiver returns. -/
inductive Received (α : Type*) where
  | value (a : α)
  | lagged (missed : Nat)
  deriving DecidableEq, Repr

namespace Receiver

variable {α : Type*} {capacity : Nat}

/-- The values that are lost to the receiver when `a` is sent. -/
def overwritten (r : Receiver α capacity) (a : α) : List α :=
  (r.queue ++ [a]).take ((r.queue ++ [a]).length - capacity)

/-- Sends `a`. -/
def send (r : Receiver α capacity) (a : α) : Receiver α capacity where
  queue := (r.queue ++ [a]).drop ((r.queue ++ [a]).length - capacity)
  missed := r.missed + (r.overwritten a).length
  bounded := by
    rw [List.length_drop]
    omega

/-- Reads the next value; `none` while there is nothing to read. -/
def recv (r : Receiver α capacity) : Option (Received α × Receiver α capacity) :=
  if r.missed ≠ 0 then some (.lagged r.missed, { r with missed := 0 })
  else
    match queue : r.queue with
    | [] => none
    | a :: rest => some (.value a, ⟨rest, 0, by
        have bounded := r.bounded
        rw [queue, List.length_cons] at bounded
        omega⟩)

/-- There is nothing to read. -/
def Empty (r : Receiver α capacity) : Prop := r.queue = [] ∧ r.missed = 0

variable {r : Receiver α capacity} {a b : α}

@[simp] theorem overwritten_append_send :
    r.overwritten a ++ (r.send a).queue = r.queue ++ [a] :=
  List.take_append_drop _ _

/-- A value that was there or is sent is there afterwards, or lost. -/
theorem mem_send : b ∈ r.queue ∨ b = a ↔ b ∈ r.overwritten a ∨ b ∈ (r.send a).queue := by
  have split := congrArg (fun values => b ∈ values) (overwritten_append_send (r := r) (a := a))
  simp only [List.mem_append, List.mem_singleton] at split
  exact Iff.of_eq split.symm

theorem recv_eq_none : r.recv = none ↔ r.Empty := by
  unfold recv Empty
  by_cases missed : r.missed = 0
  · rw [if_neg (by simp [missed])]
    split
    · simp_all
    · simp_all
  · rw [if_pos missed]
    simp [missed]

/-- A read takes a value off the queue, or reports that some were missed. -/
theorem recv_cases {received : Received α} {r' : Receiver α capacity}
    (read : r.recv = some (received, r')) :
    (∃ a, received = .value a ∧ r.queue = a :: r'.queue ∧ r.missed = 0 ∧ r'.missed = 0) ∨
      received = .lagged r.missed ∧ r.missed ≠ 0 ∧ r'.queue = r.queue ∧ r'.missed = 0 := by
  unfold recv at read
  by_cases missed : r.missed = 0
  · rw [if_neg (by simp [missed])] at read
    split at read
    · cases read
    · rename_i a rest queue
      cases read
      exact .inl ⟨a, rfl, queue, missed, rfl⟩
  · rw [if_pos missed] at read
    cases read
    exact .inr ⟨rfl, missed, rfl, rfl⟩

/-- Sends values one after the other. -/
def sendAll (r : Receiver α capacity) (values : List α) : Receiver α capacity :=
  values.foldl send r

@[simp] theorem sendAll_nil : r.sendAll [] = r := rfl

@[simp] theorem sendAll_cons (values : List α) :
    r.sendAll (a :: values) = (r.send a).sendAll values := rfl

/-- After many values the last ones are left, and the others have been missed. -/
theorem sendAll_spec (values : List α) :
    (r.sendAll values).queue =
        (r.queue ++ values).drop ((r.queue ++ values).length - capacity) ∧
      (r.sendAll values).missed = r.missed + ((r.queue ++ values).length - capacity) := by
  induction values generalizing r with
  | nil =>
    have bounded := r.bounded
    rw [sendAll_nil, List.append_nil, Nat.sub_eq_zero_of_le bounded]
    exact ⟨rfl, rfl⟩
  | cons a values ih =>
    have bounded := r.bounded
    obtain ⟨queue, missed⟩ := ih (r := r.send a)
    rw [sendAll_cons, queue, missed]
    have first : (r.send a).queue = (r.queue ++ [a]).drop (r.queue.length + 1 - capacity) := by
      simp [send]
    have lost : (r.send a).missed = r.missed + (r.queue.length + 1 - capacity) := by
      simp only [send, overwritten, List.length_take, List.length_append, List.length_singleton]
      omega
    have whole : r.queue ++ a :: values = (r.queue ++ [a]) ++ values := by simp
    constructor
    · rw [first, ← List.drop_append_of_le_length (by simp), List.drop_drop, whole]
      congr 1
      simp only [List.length_drop, List.length_append, List.length_singleton]
      omega
    · rw [lost, first]
      simp only [List.length_drop, List.length_append, List.length_cons, List.length_nil]
      omega

end Receiver

end Loomterm
