import Mathlib.Algebra.Order.Ring.Int
import Mathlib.Data.List.Sort
import Mathlib.Tactic.Common

/-!
# Prefixes under a budget

`fitting size budget items` is the longest prefix of `items` whose sizes sum to at most
`budget`, `covering size excess items` the shortest whose sizes sum to at least `excess`. Items
of a numbered list are found by number as by position.
-/

namespace Loomterm

variable {α : Type*} {size : α → Nat} {budget : Nat} {items : List α}

/-- The longest prefix whose sizes sum to at most `budget`. -/
def fitting (size : α → Nat) : Nat → List α → List α
  | _, [] => []
  | budget, item :: rest =>
      if size item ≤ budget then item :: fitting size (budget - size item) rest else []

theorem fitting_item (size : α → Nat) (budget : Nat) (item : α) (rest : List α) :
    fitting size budget (item :: rest) =
      if size item ≤ budget then item :: fitting size (budget - size item) rest else [] := rfl

theorem fitting_prefix (size : α → Nat) (budget : Nat) (items : List α) :
    fitting size budget items <+: items := by
  induction items generalizing budget with
  | nil => exact List.prefix_rfl
  | cons item rest ih =>
    rw [fitting_item]
    split
    · exact List.cons_prefix_cons.mpr ⟨rfl, ih _⟩
    · exact List.nil_prefix

theorem fitting_sum (size : α → Nat) (budget : Nat) (items : List α) :
    ((fitting size budget items).map size).sum ≤ budget := by
  induction items generalizing budget with
  | nil => exact Nat.zero_le _
  | cons item rest ih =>
    rw [fitting_item]
    split
    · have later := ih (budget - size item)
      simp only [List.map_cons, List.sum_cons]
      omega
    · simp

/-- Nothing above the budget fits. -/
theorem fitting_small {item : α} (member : item ∈ fitting size budget items) :
    size item ≤ budget := by
  induction items generalizing budget with
  | nil => cases member
  | cons first rest ih =>
    rw [fitting_item] at member
    split at member
    · rcases List.mem_cons.mp member with same | later
      · rw [same]
        assumption
      · have small := ih later
        omega
    · cases member

/-- What fits, fits as a whole. -/
theorem fitting_of_sum_le (fits : (items.map size).sum ≤ budget) :
    fitting size budget items = items := by
  induction items generalizing budget with
  | nil => rfl
  | cons item rest ih =>
    simp only [List.map_cons, List.sum_cons] at fits
    rw [fitting_item, if_pos (by omega), ih (by omega)]

@[simp] theorem fitting_fitting :
    fitting size budget (fitting size budget items) = fitting size budget items :=
  fitting_of_sum_le (fitting_sum size budget items)

theorem fitting_cons {item : α} {rest : List α} (fits : size item ≤ budget) :
    fitting size budget (item :: rest) = item :: fitting size (budget - size item) rest := by
  rw [fitting_item, if_pos fits]

theorem fitting_cons_of_lt {item : α} {rest : List α} (isOver : budget < size item) :
    fitting size budget (item :: rest) = [] := by
  rw [fitting_item, if_neg (by omega)]

/-! ## Covering an excess -/

/-- The shortest prefix whose sizes sum to at least `excess`; all items when none does. -/
def covering (size : α → Nat) : Nat → List α → List α
  | _, [] => []
  | excess, item :: rest =>
      if excess = 0 then [] else item :: covering size (excess - size item) rest

variable {excess : Nat}

theorem covering_item (size : α → Nat) (excess : Nat) (item : α) (rest : List α) :
    covering size excess (item :: rest) =
      if excess = 0 then [] else item :: covering size (excess - size item) rest := rfl

theorem covering_prefix (size : α → Nat) (excess : Nat) (items : List α) :
    covering size excess items <+: items := by
  induction items generalizing excess with
  | nil => exact List.prefix_rfl
  | cons item rest ih =>
    rw [covering_item]
    split
    · exact List.nil_prefix
    · exact List.cons_prefix_cons.mpr ⟨rfl, ih _⟩

theorem covering_sum (size : α → Nat) (excess : Nat) (items : List α) :
    covering size excess items = items ∨ excess ≤ ((covering size excess items).map size).sum := by
  induction items generalizing excess with
  | nil => exact .inl rfl
  | cons item rest ih =>
    rw [covering_item]
    split
    · rename_i done
      right
      omega
    · cases ih (excess - size item) with
      | inl all => exact .inl (by rw [all])
      | inr enough =>
        right
        simp only [List.map_cons, List.sum_cons]
        omega

/-- A shorter prefix does not cover the excess. -/
theorem sum_lt_of_covering {taken : List α} (start : taken <+: covering size excess items)
    (ne : taken ≠ covering size excess items) : (taken.map size).sum < excess := by
  induction items generalizing excess taken with
  | nil => exact absurd (List.prefix_nil.mp start) ne
  | cons item rest ih =>
    rw [covering_item] at start ne
    split at start
    · rename_i done
      rw [if_pos done] at ne
      exact absurd (List.prefix_nil.mp start) ne
    · rename_i more
      rw [if_neg more] at ne
      cases taken with
      | nil => exact Nat.pos_of_ne_zero more
      | cons first later =>
        obtain ⟨same, start⟩ := List.cons_prefix_cons.mp start
        subst same
        have short := ih start fun whole => ne (by rw [whole])
        simp only [List.map_cons, List.sum_cons]
        omega

/-! ## Numbered lists -/

variable {number : α → Nat} {first count : Nat}

/-- In a list numbered from `first` on, the items numbered above `first + k - 1` are those
from position `k` on. -/
theorem filter_number_eq_drop (numbered : items.map number = List.range' first count)
    (k : Nat) : (items.filter fun item => decide (first + k ≤ number item)) = items.drop k := by
  induction items generalizing first count k with
  | nil => simp
  | cons item rest ih =>
    obtain ⟨head, _, tail⟩ := List.range'_eq_cons_iff.mp numbered.symm
    cases k with
    | zero =>
      refine List.filter_eq_self.mpr fun item' member => ?_
      have named : number item' ∈ List.range' first count := by
        rw [← numbered]
        exact List.mem_map_of_mem member
      simpa using (List.mem_range'_1.mp named).1
    | succ k =>
      have left : ¬ first + (k + 1) ≤ number item := by omega
      have rest := ih tail k
      rw [List.filter_cons_of_neg (by simpa using left), List.drop_succ_cons, ← rest]
      congr 1
      funext item'
      congr 1
      exact propext ⟨fun above => by omega, fun above => by omega⟩

/-- In a list numbered from `first` on, the items numbered below `first + k` are the first `k`. -/
theorem filter_number_eq_take (numbered : items.map number = List.range' first count)
    (k : Nat) : (items.filter fun item => decide (number item < first + k)) = items.take k := by
  induction items generalizing first count k with
  | nil => simp
  | cons item rest ih =>
    obtain ⟨head, _, tail⟩ := List.range'_eq_cons_iff.mp numbered.symm
    cases k with
    | zero =>
      refine List.filter_eq_nil_iff.mpr fun item' member => ?_
      have named : number item' ∈ List.range' first count := by
        rw [← numbered]
        exact List.mem_map_of_mem member
      simpa using (List.mem_range'_1.mp named).1
    | succ k =>
      have within : number item < first + (k + 1) := by omega
      have rest := ih tail k
      rw [List.filter_cons_of_pos (by simpa using within), List.take_succ_cons, ← rest]
      congr 2
      funext item'
      congr 1
      exact propext ⟨fun below => by omega, fun below => by omega⟩

/-- A numbered list is sorted by number. -/
theorem sorted_of_numbered (numbered : items.map number = List.range' first count) :
    items.Pairwise fun left right => number left ≤ number right := by
  have sorted : (items.map number).Pairwise (· < ·) := by
    rw [numbered]
    exact List.pairwise_lt_range' 1
  exact (List.pairwise_map.mp sorted).imp Nat.le_of_lt

theorem insertionSort_of_numbered (numbered : items.map number = List.range' first count) :
    items.insertionSort (fun left right => number left ≤ number right) = items :=
  List.Pairwise.insertionSort_eq (sorted_of_numbered numbered)

theorem length_of_numbered (numbered : items.map number = List.range' first count) :
    items.length = count := by
  have lengths := congrArg List.length numbered
  simpa using lengths

theorem numbered_drop (numbered : items.map number = List.range' first count) (k : Nat) :
    (items.drop k).map number = List.range' (first + k) (count - k) := by
  rw [List.map_drop, numbered, List.drop_range', Nat.mul_one]

/-- A prefix of a numbered list is numbered alike. -/
theorem numbered_prefix {taken : List α} (numbered : items.map number = List.range' first count)
    (start : taken <+: items) : taken.map number = List.range' first taken.length := by
  have length := length_of_numbered numbered
  have shorter := start.length_le
  rw [List.prefix_iff_eq_take.mp start, List.map_take, numbered,
    List.take_range'_of_length_ge (by omega), List.length_take]
  congr 1
  omega

/-- In a list numbered from 1 on, the items numbered above `k` and up to `l` are those between
the two positions. -/
theorem filter_number_between (numbered : items.map number = List.range' 1 count) (k l : Nat) :
    (items.filter fun item => decide (k < number item ∧ number item ≤ l)) =
      (items.take l).drop k := by
  have below : (items.filter fun item => decide (number item ≤ l)) = items.take l := by
    rw [← filter_number_eq_take numbered l]
    exact List.filter_congr fun item _ => decide_eq_decide.mpr (by omega)
  have start := numbered_prefix numbered (List.take_prefix l items)
  rw [← filter_number_eq_drop start k, ← below, List.filter_filter]
  refine List.filter_congr fun item _ => ?_
  rw [← Bool.decide_and]
  exact decide_eq_decide.mpr (by omega)

/-- The last number of a numbered list, or a default for an empty one. -/
theorem last_number_getD (numbered : items.map number = List.range' 1 count) (default : Nat) :
    (items.getLast?.map number).getD default = if count = 0 then default else count := by
  rw [← List.getLast?_map, numbered, List.getLast?_range']
  split
  · rfl
  · simp only [Option.getD_some]
    omega

/-- The last number of a numbered list, or the one before its first. -/
theorem last_number (numbered : items.map number = List.range' (first + 1) count) :
    (items.getLast?.map number).getD first = first + count := by
  rw [← List.getLast?_map, numbered, List.getLast?_range']
  split
  · simp_all
  · simp only [Option.getD_some]
    omega

end Loomterm
