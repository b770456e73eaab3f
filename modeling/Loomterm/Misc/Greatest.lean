import Mathlib.Algebra.Order.Ring.Int
import Mathlib.Tactic.Common

/-!
# The item with the greatest key

Two keys that order the items of a list alike pick the same item.
-/

namespace Loomterm

variable {α : Type*}

/-- `Iterator::max_by_key`: the last of the items that have the greatest key. -/
def maxByKey (key : α → Nat) : List α → Option α
  | [] => none
  | item :: rest =>
      match maxByKey key rest with
      | some best => if key item ≤ key best then some best else some item
      | none => some item

variable {key key' : α → Nat} {items : List α} {best : α}

@[simp] theorem maxByKey_eq_none : maxByKey key items = none ↔ items = [] := by
  cases items with
  | nil => simp [maxByKey]
  | cons item rest =>
    simp only [maxByKey, reduceCtorEq, iff_false]
    split
    · split <;> simp
    · simp

/-- The greatest item is one of the items, and no other has a greater key. -/
theorem maxByKey_spec (found : maxByKey key items = some best) :
    best ∈ items ∧ ∀ item ∈ items, key item ≤ key best := by
  induction items generalizing best with
  | nil => cases found
  | cons item rest ih =>
    simp only [maxByKey] at found
    cases later : maxByKey key rest with
    | none =>
      rw [later] at found
      cases found
      rw [maxByKey_eq_none.mp later]
      simp
    | some greatest =>
      rw [later] at found
      obtain ⟨member, bound⟩ := ih later
      simp only at found
      split at found
      · rename_i within
        cases found
        exact ⟨List.mem_cons_of_mem item member, List.forall_mem_cons.mpr ⟨within, bound⟩⟩
      · rename_i above
        cases found
        refine ⟨List.mem_cons_self, List.forall_mem_cons.mpr ⟨le_rfl, ?_⟩⟩
        intro other listed
        have least := bound other listed
        omega

/-- Keys that order the items alike pick the same item. -/
theorem maxByKey_congr (alike : ∀ a ∈ items, ∀ b ∈ items, key a ≤ key b ↔ key' a ≤ key' b) :
    maxByKey key items = maxByKey key' items := by
  induction items with
  | nil => rfl
  | cons item rest ih =>
    have same := ih fun a first b second =>
      alike a (List.mem_cons_of_mem item first) b (List.mem_cons_of_mem item second)
    simp only [maxByKey, ← same]
    cases later : maxByKey key rest with
    | none => rfl
    | some greatest =>
      have member := (maxByKey_spec later).1
      have compared := alike item List.mem_cons_self greatest (List.mem_cons_of_mem item member)
      by_cases within : key item ≤ key greatest
      · simp only [if_pos within, if_pos (compared.mp within)]
      · simp only [if_neg within, if_neg fun other => within (compared.mpr other)]

end Loomterm
