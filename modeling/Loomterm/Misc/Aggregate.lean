import Mathlib.Algebra.Order.Floor.Div
import Mathlib.Algebra.Order.Ring.Int
import Mathlib.Algebra.BigOperators.Group.List.Lemmas
import Mathlib.Data.List.Sort

/-!
# Aggregates

Truth with a third value as SQL has it, and what a query computes over many rows: sums of truth
values, counts by group, and the value at a rank.
-/

namespace Loomterm

/-! ## Truth values -/

/-- True, false, or unknown as `NULL` is. -/
abbrev Truth := Option Bool

namespace Truth

/-- `left = right`, which nobody knows of `NULL`. -/
def equals {α : Type*} [DecidableEq α] (left right : Option α) : Truth :=
  left.bind fun l => right.map fun r => decide (l = r)

/-- `left != right`. -/
def differs {α : Type*} [DecidableEq α] (left right : Option α) : Truth :=
  (equals left right).map not

def and : Truth → Truth → Truth
  | some false, _ => some false
  | _, some false => some false
  | some true, some true => some true
  | _, _ => none

def or : Truth → Truth → Truth
  | some true, _ => some true
  | _, some true => some true
  | some false, some false => some false
  | _, _ => none

@[simp] theorem and_eq_true {left right : Truth} :
    left.and right = some true ↔ left = some true ∧ right = some true := by
  rcases left with _ | _ | _ <;> rcases right with _ | _ | _ <;> simp [Truth.and]

@[simp] theorem or_eq_true {left right : Truth} :
    left.or right = some true ↔ left = some true ∨ right = some true := by
  rcases left with _ | _ | _ <;> rcases right with _ | _ | _ <;> simp [Truth.or]

@[simp] theorem equals_eq_true {α : Type*} [DecidableEq α] {left : Option α} {value : α} :
    equals left (some value) = some true ↔ left = some value := by
  cases left <;> simp [equals]

@[simp] theorem differs_eq_true {α : Type*} [DecidableEq α] {left : Option α} {value : α} :
    differs left (some value) = some true ↔ ∃ other, left = some other ∧ other ≠ value := by
  cases left <;> simp [differs, equals]

end Truth

/-- `SUM` over truth values: `NULL` values do not count, and nothing sums to `NULL`. -/
def sumTruths (values : List Truth) : Option Nat :=
  match values.filterMap id with
  | [] => none
  | known => some (known.map Bool.toNat).sum

/-- The sum counts what is true. -/
theorem sumTruths_getD (values : List Truth) :
    (sumTruths values).getD 0 = values.countP fun value => value = some true := by
  have sum : ((values.filterMap id).map Bool.toNat).sum =
      values.countP fun value => value = some true := by
    induction values with
    | nil => rfl
    | cons value rest ih =>
      cases value with
      | none => simpa using ih
      | some known => cases known <;> simpa [Nat.add_comm] using ih
  rw [← sum]
  unfold sumTruths
  cases values.filterMap id with
  | nil => rfl
  | cons known rest => rfl

/-! ## Groups -/

section Groups

variable {α : Type*} [LinearOrder α]

/-- `SELECT key, COUNT(*) .. GROUP BY 1 ORDER BY 1`. -/
def groupCounts (keys : List α) : List (α × Nat) :=
  (keys.dedup.insertionSort (· ≤ ·)).map fun key => (key, keys.count key)

theorem groupCounts_keys (keys : List α) :
    (groupCounts keys).map Prod.fst = keys.dedup.insertionSort (· ≤ ·) := by
  rw [groupCounts, List.map_map]
  exact List.map_id _

theorem groupCounts_sorted (keys : List α) :
    ((groupCounts keys).map Prod.fst).Pairwise (· < ·) := by
  rw [groupCounts_keys]
  have sorted : (keys.dedup.insertionSort (· ≤ ·)).Pairwise (· ≤ ·) :=
    List.pairwise_insertionSort _ _
  have distinct : (keys.dedup.insertionSort (· ≤ ·)).Nodup :=
    (List.perm_insertionSort _ _).nodup_iff.mpr (List.nodup_dedup keys)
  exact (sorted.and distinct).imp fun both => lt_of_le_of_ne both.1 both.2

theorem mem_groupCounts {keys : List α} {entry : α × Nat} :
    entry ∈ groupCounts keys ↔ entry.1 ∈ keys ∧ entry.2 = keys.count entry.1 := by
  rw [groupCounts, List.mem_map]
  constructor
  · rintro ⟨key, member, rfl⟩
    rw [List.mem_insertionSort, List.mem_dedup] at member
    exact ⟨member, rfl⟩
  · intro held
    refine ⟨entry.1, ?_, Prod.ext rfl held.2.symm⟩
    rw [List.mem_insertionSort, List.mem_dedup]
    exact held.1

theorem groupCounts_sum (keys : List α) :
    ((groupCounts keys).map Prod.snd).sum = keys.length := by
  rw [groupCounts, List.map_map]
  refine ((List.perm_insertionSort _ _).map _).sum_eq.trans ?_
  exact List.sum_map_count_dedup_eq_length keys

end Groups

/-! ## Ranks -/

section Ranks

variable {α : Type*} [LinearOrder α]

/-- `ROW_NUMBER() OVER (ORDER BY value)`. -/
def ranked (values : List α) : List (α × Nat) := (values.insertionSort (· ≤ ·)).zipIdx 1

/-- `CASE WHEN rank_number = rank THEN value END`. -/
def valueAt {α : Type*} (rank : Nat) (entry : α × Nat) : Option α :=
  if entry.2 = rank then some entry.1 else none

/-- `MAX(CASE WHEN rank_number = rank THEN value END)`. -/
def atRank (rank : Nat) (values : List α) : Option α :=
  ((ranked values).filterMap (valueAt rank)).max?

/-- The nearest rank of a percentile among `count` values. -/
def nearestRank (percent count : Nat) : Nat := (count * percent) ⌈/⌉ 100

/-- The percentile of some values: the one at the nearest rank, in ascending order. -/
def percentile (percent : Nat) (values : List α) : Option α :=
  (values.insertionSort (· ≤ ·))[nearestRank percent values.length - 1]?

theorem nearestRank_eq (percent count : Nat) :
    nearestRank percent count = (count * percent + 99) / 100 :=
  Nat.ceilDiv_eq_add_pred_div _ _

omit [LinearOrder α] in
theorem zipIdx_past {values : List α} {first rank : Nat} (past : rank < first) :
    (values.zipIdx first).filterMap (valueAt rank) = [] := by
  induction values generalizing first with
  | nil => rfl
  | cons value rest ih =>
    have other : valueAt rank (value, first) = none := if_neg (Nat.ne_of_gt past)
    rw [List.zipIdx_cons, List.filterMap_cons_none other]
    exact ih (Nat.lt_succ_of_lt past)

omit [LinearOrder α] in
theorem zipIdx_at {values : List α} {first rank : Nat} (reached : first ≤ rank) :
    (values.zipIdx first).filterMap (valueAt rank) = (values[rank - first]?).toList := by
  induction values generalizing first with
  | nil => rfl
  | cons value rest ih =>
    rw [List.zipIdx_cons]
    by_cases own : first = rank
    · have this : valueAt rank (value, first) = some value := if_pos own
      rw [List.filterMap_cons_some this, zipIdx_past (by omega), own, Nat.sub_self]
      rfl
    · have other : valueAt rank (value, first) = none := if_neg own
      have next : rank - first = rank - (first + 1) + 1 := by omega
      rw [List.filterMap_cons_none other, ih (by omega), next, List.getElem?_cons_succ]

/-- At a rank there is one value at most. -/
theorem atRank_eq {rank : Nat} (positive : 1 ≤ rank) (values : List α) :
    atRank rank values = (values.insertionSort (· ≤ ·))[rank - 1]? := by
  rw [atRank, ranked, zipIdx_at positive]
  cases (values.insertionSort (· ≤ ·))[rank - 1]? <;> rfl

variable {percent : Nat}

theorem nearestRank_bounds {count : Nat} (positive : 0 < percent) (atMost : percent ≤ 100)
    (some : 0 < count) :
    1 ≤ nearestRank percent count ∧ nearestRank percent count ≤ count := by
  have lower : 1 ≤ count * percent := Nat.mul_pos some positive
  have upper : count * percent ≤ count * 100 := Nat.mul_le_mul_left count atMost
  rw [nearestRank_eq]
  omega

theorem atRank_nearest (values : List α) (positive : 0 < percent) (atMost : percent ≤ 100) :
    atRank ((values.length * percent + 99) / 100) values = percentile percent values := by
  cases values with
  | nil => rfl
  | cons value rest =>
    have bounds := nearestRank_bounds positive atMost (Nat.succ_pos rest.length)
    rw [percentile, ← nearestRank_eq]
    exact atRank_eq bounds.1 _

theorem percentile_eq_none {values : List α} (positive : 0 < percent) (atMost : percent ≤ 100) :
    percentile percent values = none ↔ values = [] := by
  constructor
  · intro none
    by_contra some
    have bounds := nearestRank_bounds positive atMost (List.length_pos_of_ne_nil some)
    rw [percentile, List.getElem?_eq_none_iff, List.length_insertionSort] at none
    omega
  · intro empty
    rw [empty]
    rfl

/-- A higher percentile is no smaller. -/
theorem percentile_mono {values : List α} {higher : Nat} (more : percent ≤ higher) {low high : α}
    (lower : percentile percent values = some low) (upper : percentile higher values = some high) :
    low ≤ high := by
  obtain ⟨inside, rfl⟩ := List.getElem?_eq_some_iff.mp lower
  obtain ⟨inside', rfl⟩ := List.getElem?_eq_some_iff.mp upper
  have sorted : (values.insertionSort (· ≤ ·)).Pairwise (· ≤ ·) := List.pairwise_insertionSort _ _
  have ranks : nearestRank percent values.length ≤ nearestRank higher values.length := by
    rw [nearestRank_eq, nearestRank_eq]
    have scaled := Nat.mul_le_mul_left values.length more
    omega
  cases Nat.lt_or_eq_of_le (Nat.sub_le_sub_right ranks 1) with
  | inl before => exact List.pairwise_iff_getElem.mp sorted _ _ inside inside' before
  | inr same => exact le_of_eq (by simp only [same])

end Ranks

end Loomterm
