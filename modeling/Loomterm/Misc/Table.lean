import Mathlib.Algebra.Order.Ring.Int
import Mathlib.Data.List.Nodup
import Mathlib.Tactic.Common

/-!
# Tables with a primary key

A table is a list of rows whose keys are pairwise different, in insertion order; the
type keeps the key constraint, so no operation can leave two rows with one key.
-/

namespace Loomterm

/-- Rows of type `ρ` under the primary key `key`. -/
structure Table {κ ρ : Type*} (key : ρ → κ) where
  rows : List ρ
  nodup : (rows.map key).Nodup

namespace Table

variable {κ ρ : Type*} [DecidableEq κ] {key : ρ → κ}

def empty : Table key := ⟨[], List.nodup_nil⟩

/-- The row with key `k`. -/
def find? (t : Table key) (k : κ) : Option ρ := t.rows.find? fun r => key r = k

/-- Adds a row; `none` when its key is taken. -/
def insert? (t : Table key) (r : ρ) : Option (Table key) :=
  if fresh : ∀ r' ∈ t.rows, key r' ≠ key r then
    some ⟨t.rows ++ [r], by
      rw [List.map_append, List.map_singleton, List.nodup_append]
      refine ⟨t.nodup, List.nodup_singleton _, ?_⟩
      intro k member k' member'
      obtain ⟨r', present, rfl⟩ := List.mem_map.mp member
      rw [List.mem_singleton.mp member']
      exact fresh r' present⟩
  else none

/-- Rewrites the rows that `p` selects; `f` must keep their keys. -/
def update (t : Table key) (p : ρ → Bool) (f : ρ → ρ) (keeps : ∀ r, key (f r) = key r) :
    Table key :=
  ⟨t.rows.map fun r => if p r then f r else r, by
    have same : (key ∘ fun r => if p r then f r else r) = key := by
      funext r
      simp only [Function.comp_apply]
      split <;> simp [keeps]
    rw [List.map_map, same]
    exact t.nodup⟩

/-- Removes the rows that `p` selects. -/
def delete (t : Table key) (p : ρ → Bool) : Table key :=
  ⟨t.rows.filter fun r => !p r, t.nodup.sublist (List.filter_sublist.map key)⟩

theorem find?_key {t : Table key} {k : κ} {r : ρ} (found : t.find? k = some r) : key r = k := by
  simpa using List.find?_some found

theorem mem_of_find? {t : Table key} {k : κ} {r : ρ} (found : t.find? k = some r) :
    r ∈ t.rows :=
  List.mem_of_find?_eq_some found

theorem find?_eq_none {t : Table key} {k : κ} : t.find? k = none ↔ ∀ r ∈ t.rows, key r ≠ k := by
  simp [find?]

private theorem find?_of_mem_aux {rows : List ρ} (nodup : (rows.map key).Nodup) {r : ρ}
    (member : r ∈ rows) : rows.find? (fun r' => key r' = key r) = some r := by
  induction rows with
  | nil => simp at member
  | cons head tail ih =>
    rw [List.map_cons, List.nodup_cons] at nodup
    rcases List.mem_cons.mp member with rfl | member
    · simp
    · have different : key head ≠ key r := by
        intro equal
        exact nodup.1 (equal ▸ List.mem_map_of_mem member)
      rw [List.find?_cons_of_neg (by simpa using different)]
      exact ih nodup.2 member

/-- The key constraint makes membership and lookup agree. -/
theorem mem_rows_iff {t : Table key} {r : ρ} : r ∈ t.rows ↔ t.find? (key r) = some r :=
  ⟨find?_of_mem_aux t.nodup, mem_of_find?⟩

private theorem filter_key_aux {rows : List ρ} (nodup : (rows.map key).Nodup) {r : ρ}
    (member : r ∈ rows) : rows.filter (fun r' => key r' = key r) = [r] := by
  induction rows with
  | nil => cases member
  | cons head tail ih =>
    rw [List.map_cons, List.nodup_cons] at nodup
    rw [List.filter_cons]
    cases List.mem_cons.mp member with
    | inl same =>
      subst same
      have others : tail.filter (fun r' => key r' = key r) = [] := by
        refine List.filter_eq_nil_iff.mpr fun r' later same => nodup.1 ?_
        exact of_decide_eq_true same ▸ List.mem_map_of_mem later
      rw [if_pos (by simp), others]
    | inr later =>
      have differs : key head ≠ key r := fun same => nodup.1 (same ▸ List.mem_map_of_mem later)
      rw [if_neg (by simpa using differs)]
      exact ih nodup.2 later

/-- One row has the key of a row. -/
theorem filter_key {t : Table key} {r : ρ} (member : r ∈ t.rows) :
    t.rows.filter (fun r' => key r' = key r) = [r] :=
  filter_key_aux t.nodup member

/-- What is found under a key, read off the rows. -/
theorem find?_map_eq_some {β : Type*} {t : Table key} {k : κ} {g : ρ → β} {b : β} :
    (t.find? k).map g = some b ↔ ∃ r ∈ t.rows, key r = k ∧ g r = b := by
  constructor
  · intro found
    obtain ⟨r, there, same⟩ := Option.map_eq_some_iff.mp found
    exact ⟨r, mem_of_find? there, find?_key there, same⟩
  · rintro ⟨r, member, rfl, rfl⟩
    rw [mem_rows_iff.mp member, Option.map_some]

@[simp] theorem find?_empty (k : κ) : (empty : Table key).find? k = none := rfl

theorem insert?_eq_some {t t' : Table key} {r : ρ} :
    t.insert? r = some t' ↔ t.find? (key r) = none ∧ t'.rows = t.rows ++ [r] := by
  unfold insert?
  rw [find?_eq_none]
  constructor
  · intro inserted
    split at inserted
    · rename_i fresh
      exact ⟨fresh, by rw [← Option.some.inj inserted]⟩
    · simp at inserted
  · rintro ⟨fresh, rows⟩
    rw [dif_pos fresh]
    cases t'
    simp only at rows
    simp [rows]

theorem insert?_eq_none {t : Table key} {r : ρ} :
    t.insert? r = none ↔ ∃ r', t.find? (key r) = some r' := by
  cases inserted : t.insert? r with
  | some t' =>
    rw [insert?_eq_some] at inserted
    simp [inserted.1]
  | none =>
    refine ⟨fun _ => ?_, fun _ => rfl⟩
    cases found : t.find? (key r) with
    | some r' => exact ⟨r', rfl⟩
    | none =>
      unfold insert? at inserted
      rw [dif_pos (find?_eq_none.mp found)] at inserted
      simp at inserted

theorem find?_insert {t t' : Table key} {r : ρ} (inserted : t.insert? r = some t') (k : κ) :
    t'.find? k = if key r = k then some r else t.find? k := by
  obtain ⟨fresh, rows⟩ := insert?_eq_some.mp inserted
  unfold find?
  rw [rows, List.find?_append]
  by_cases equal : key r = k
  · subst equal
    have absent : t.rows.find? (fun r' => key r' = key r) = none := fresh
    simp [absent]
  · cases found : t.rows.find? (fun r' => key r' = k) <;> simp [equal]

theorem find?_update {t : Table key} {p : ρ → Bool} {f : ρ → ρ}
    {keeps : ∀ r, key (f r) = key r} (k : κ) :
    (t.update p f keeps).find? k = (t.find? k).map fun r => if p r then f r else r := by
  unfold find? update
  rw [List.find?_map]
  congr 2
  funext r
  simp only [Function.comp_apply]
  split <;> simp [keeps]

/-- An update does not show in what it leaves alone. -/
theorem find?_update_map {β : Type*} {t : Table key} {p : ρ → Bool} {f : ρ → ρ}
    (keeps : ∀ r, key (f r) = key r) {g : ρ → β} (same : ∀ r, g (f r) = g r) (k : κ) :
    ((t.update p f keeps).find? k).map g = (t.find? k).map g := by
  rw [find?_update, Option.map_map]
  congr 1
  funext r
  simp only [Function.comp_apply]
  split <;> simp [same]

omit [DecidableEq κ] in
theorem mem_update {t : Table key} {p : ρ → Bool} {f : ρ → ρ} (keeps : ∀ r, key (f r) = key r)
    {r' : ρ} : r' ∈ (t.update p f keeps).rows ↔ ∃ r ∈ t.rows, (if p r then f r else r) = r' := by
  simp [update]

omit [DecidableEq κ] in
theorem mem_delete {t : Table key} {p : ρ → Bool} {r : ρ} :
    r ∈ (t.delete p).rows ↔ r ∈ t.rows ∧ p r = false := by
  simp [delete]

theorem find?_delete {t : Table key} {p : ρ → Bool} (k : κ) :
    (t.delete p).find? k = (t.find? k).filter fun r => !p r := by
  cases found : t.find? k with
  | none =>
    rw [Option.filter_none, find?_eq_none]
    intro r member
    exact find?_eq_none.mp found r (List.mem_filter.mp member).1
  | some r =>
    have same := find?_key found
    by_cases gone : p r
    · rw [Option.filter_some_neg (by simp [gone]), find?_eq_none]
      intro r' member equal
      obtain ⟨present, kept⟩ := List.mem_filter.mp member
      have unique := mem_rows_iff.mp present
      rw [equal, found] at unique
      rw [← Option.some.inj unique] at kept
      simp [gone] at kept
    · rw [Option.filter_some_pos (by simp [gone]), ← same]
      apply mem_rows_iff.mp
      exact List.mem_filter.mpr ⟨mem_of_find? found, by simp [gone]⟩

end Table

end Loomterm
