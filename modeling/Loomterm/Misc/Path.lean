import Mathlib.Algebra.Order.Ring.Int
import Mathlib.Data.List.Induction
import Mathlib.Tactic.Common

/-!
# Paths of a Unix file system

A path is the list of its components, as `std::path` splits it: repeated and trailing
separators and inner `.` components do not count, and `..` stays. Two paths are compared by
their components. `resolve` walks the components: a name goes down, `..` goes up again, and
`..` at the root of an absolute path stays there.
-/

namespace Loomterm

/-- A component of a path (`std::path::Component`). -/
inductive Component (ν : Type*) where
  | rootDir
  | curDir
  | parentDir
  | normal (name : ν)
  deriving DecidableEq, Repr

/-- The components of the text of a path. -/
def components (path : String) : List (Component String) :=
  let pieces := path.toList.splitOn '/'
  let steps := pieces.filterMap fun piece =>
    if piece = [] ∨ piece = ['.'] then none
    else if piece = ['.', '.'] then some .parentDir
    else some (.normal (String.ofList piece))
  if path.toList.head? = some '/' then .rootDir :: steps
  else if pieces.head? = some ['.'] then .curDir :: steps
  else steps

namespace Component

variable {ν : Type*}

/-- The components that stand behind the first one. -/
def Inner : Component ν → Prop
  | .parentDir | .normal _ => True
  | .rootDir | .curDir => False

/-- `Path::parent`: the path without its last component, unless that is the root. -/
def parent (path : List (Component ν)) : Option (List (Component ν)) :=
  match path.getLast? with
  | none | some .rootDir => none
  | some _ => some path.dropLast

/-- `Path::file_name`: the last component, when that is a name. -/
def fileName (path : List (Component ν)) : Option ν :=
  match path.getLast? with
  | some (.normal name) => some name
  | _ => none

/-- What a path comes to: names below the root, or below the directory that lies `ups`
levels above the one the path is read in. -/
structure Resolved (ν : Type*) where
  absolute : Bool := false
  ups : Nat := 0
  names : List ν := []
  deriving DecidableEq, Repr

/-- One component of the walk. -/
def walk (here : Resolved ν) : Component ν → Resolved ν
  | .rootDir => { absolute := true }
  | .curDir => here
  | .normal name => { here with names := here.names ++ [name] }
  | .parentDir =>
      if here.names = [] then
        if here.absolute then here else { here with ups := here.ups + 1 }
      else { here with names := here.names.dropLast }

/-- Resolves `.` and `..`. -/
def resolve (path : List (Component ν)) : Resolved ν := path.foldl walk {}

/-- Something below `outer`, and not `outer` itself. -/
def StrictlyInside (inner outer : Resolved ν) : Prop :=
  inner.absolute = outer.absolute ∧ inner.ups = outer.ups ∧
    ∃ more, more ≠ [] ∧ inner.names = outer.names ++ more

/-- Where a walk that goes up `ups` levels and then down along `names` leads. -/
def Resolved.enter (start : Resolved ν) (ups : Nat) (names : List ν) : Resolved ν where
  absolute := start.absolute
  ups := if start.absolute then start.ups else start.ups + (ups - start.names.length)
  names := start.names.take (start.names.length - ups) ++ names

theorem resolve_concat (path : List (Component ν)) (last : Component ν) :
    resolve (path ++ [last]) = walk (resolve path) last := by
  simp [resolve]

/-- One more level up, once the walk is at the end of its way up. -/
theorem walk_enter_up (start : Resolved ν) (ups : Nat) :
    walk (start.enter ups []) .parentDir = start.enter (ups + 1) [] := by
  simp only [walk, Resolved.enter, List.append_nil, List.take_eq_nil_iff]
  by_cases climbed : start.names.length ≤ ups
  · -- the walk is at the top of the path that it started from
    have gone : start.names.length - ups = 0 := by omega
    have beyond : start.names.length - (ups + 1) = 0 := by omega
    have level : ups + 1 - start.names.length = ups - start.names.length + 1 := by omega
    cases root : start.absolute <;> simp [gone, beyond, level, Nat.add_assoc]
  · have some_left : ¬ (start.names.length - ups = 0 ∨ start.names = []) := by
      intro top
      cases top with
      | inl zero => omega
      | inr empty => simp [empty] at climbed
    have same : ups - start.names.length = 0 := by omega
    have next : ups + 1 - start.names.length = 0 := by omega
    have up : (start.names.take (start.names.length - ups)).dropLast =
        start.names.take (start.names.length - (ups + 1)) := by
      rw [List.dropLast_eq_take, List.take_take, List.length_take]
      congr 1
      omega
    rw [if_neg some_left, up, same, next]

theorem walk_enter_down (start : Resolved ν) (ups : Nat) {names : List ν} (down : names ≠ []) :
    walk (start.enter ups names) .parentDir = start.enter ups names.dropLast := by
  have deeper : (start.enter ups names).names ≠ [] := by simp [Resolved.enter, down]
  calc walk (start.enter ups names) .parentDir
      = { start.enter ups names with names := (start.enter ups names).names.dropLast } :=
        if_neg deeper
    _ = start.enter ups names.dropLast := by
        simp only [Resolved.enter, List.dropLast_append_of_ne_nil down]

/-- A walk behind the first component is one up and one down. -/
theorem foldl_walk (start : Resolved ν) (rest : List (Component ν)) (inner : ∀ c ∈ rest, c.Inner) :
    (resolve rest).absolute = false ∧
      rest.foldl walk start = start.enter (resolve rest).ups (resolve rest).names := by
  induction rest using List.reverseRecOn with
  | nil => simp [resolve, Resolved.enter]
  | append_singleton rest last ih =>
    obtain ⟨relative, same⟩ := ih fun c member => inner c (List.mem_append_left _ member)
    have step : last.Inner := inner last (by simp)
    rw [List.foldl_append, same, resolve_concat, List.foldl_cons, List.foldl_nil]
    clear same ih
    generalize resolve rest = walked at relative
    obtain ⟨absolute, ups, names⟩ := walked
    simp only at relative
    subst relative
    cases last with
    | rootDir => exact step.elim
    | curDir => exact step.elim
    | normal name => simp [walk, Resolved.enter]
    | parentDir =>
      by_cases top : names = []
      · subst top
        rw [walk_enter_up]
        simp [walk]
      · rw [walk_enter_down start ups top]
        simp [walk, top]

/-- Where a path leads that continues another one. -/
theorem resolve_append (path rest : List (Component ν)) (inner : ∀ c ∈ rest, c.Inner) :
    resolve (path ++ rest) =
      (resolve path).enter (resolve rest).ups (resolve rest).names := by
  rw [resolve, List.foldl_append]
  exact (foldl_walk _ rest inner).2

/-- A walk ends strictly inside where it started when it goes up no further than the names
there and then down along the names it went up, and further. -/
theorem strictlyInside_enter {start : Resolved ν} {ups : Nat} {names : List ν} :
    StrictlyInside (start.enter ups names) start ↔
      (start.absolute = true ∨ ups ≤ start.names.length) ∧
        start.names.drop (start.names.length - ups) <+: names ∧
        start.names.drop (start.names.length - ups) ≠ names := by
  simp only [StrictlyInside, Resolved.enter, true_and]
  refine and_congr ?_ ?_
  · cases start.absolute <;> simp
    omega
  constructor
  · rintro ⟨more, further, same⟩
    have split : start.names.take (start.names.length - ups) ++ names =
        start.names.take (start.names.length - ups) ++
          (start.names.drop (start.names.length - ups) ++ more) := by
      rw [same, ← List.append_assoc, List.take_append_drop]
    have down := List.append_cancel_left split
    refine ⟨⟨more, down.symm⟩, fun equal => further ?_⟩
    rw [← equal] at down
    exact List.self_eq_append_right.mp down
  · rintro ⟨⟨more, down⟩, different⟩
    refine ⟨more, fun none => different ?_, ?_⟩
    · rw [← down, none, List.append_nil]
    · rw [← down, ← List.append_assoc, List.take_append_drop]

end Component

/-- Only the first component of a path can be the root or `.`. -/
theorem components_tail_inner (path : String) : ∀ c ∈ (components path).tail, c.Inner := by
  have steps : ∀ c ∈ (path.toList.splitOn '/').filterMap (fun piece =>
      if piece = [] ∨ piece = ['.'] then none
      else if piece = ['.', '.'] then some Component.parentDir
      else some (.normal (String.ofList piece))), c.Inner := by
    intro c member
    obtain ⟨piece, _, made⟩ := List.mem_filterMap.mp member
    split at made
    · cases made
    · split at made <;> cases made <;> trivial
  intro c member
  unfold components at member
  dsimp only at member
  split at member
  · exact steps c member
  · split at member
    · exact steps c member
    · exact steps c (List.mem_of_mem_tail member)

end Loomterm
