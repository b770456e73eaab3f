import Mathlib.Algebra.Order.Ring.Int
import Mathlib.Logic.Relation

/-!
# Guarded transition systems

A system is a set of start states with a partial step function: `step s a` is
`some s'` when action `a` is enabled in `s`, and `none` when it is not. Proofs, and
replays of a fixed trace, read the same guards. A run may be held to a condition on
each of its steps, given as a predicate on the state before the step and the action;
every invariant is proved by the one induction of `ReachableVia.invariant`.
-/

namespace Loomterm

/-- Start states and a guarded, executable step function. -/
structure System (σ α : Type*) where
  start : σ → Prop
  step : σ → α → Option σ

namespace System

variable {σ α : Type*} (sys : System σ α)

/-- The states reached by runs all of whose steps meet `cond`. -/
inductive ReachableVia (cond : σ → α → Prop) : σ → Prop
  | start {s : σ} : sys.start s → ReachableVia cond s
  | step {s s' : σ} {a : α} :
      ReachableVia cond s → cond s a → sys.step s a = some s' → ReachableVia cond s'

/-- The states reached by any run. -/
abbrev Reachable : σ → Prop := sys.ReachableVia fun _ _ => True

/-- One step that meets `cond`. -/
def StepVia (cond : σ → α → Prop) (s s' : σ) : Prop :=
  ∃ a, cond s a ∧ sys.step s a = some s'

/-- Any number of steps that each meet `cond`. -/
abbrev RunVia (cond : σ → α → Prop) : σ → σ → Prop := Relation.ReflTransGen (sys.StepVia cond)

/-- Replays a list of actions; `none` once one of them is not enabled. -/
def run : σ → List α → Option σ
  | s, [] => some s
  | s, a :: rest => (sys.step s a).bind fun s' => run s' rest

variable {sys} {cond cond' : σ → α → Prop}

/-- A property of the start states that every permitted step from a reachable state
keeps holds of every reachable state. -/
theorem ReachableVia.invariant (Inv : σ → Prop) (start : ∀ s, sys.start s → Inv s)
    (step : ∀ s a s', sys.ReachableVia cond s → Inv s → cond s a → sys.step s a = some s' →
      Inv s') {s : σ} (reached : sys.ReachableVia cond s) : Inv s := by
  induction reached with
  | start first => exact start _ first
  | step before permitted enabled ih => exact step _ _ _ before ih permitted enabled

/-- Weakening the condition on the steps keeps a state reachable. -/
theorem ReachableVia.mono (weaker : ∀ s a, cond s a → cond' s a) {s : σ}
    (reached : sys.ReachableVia cond s) : sys.ReachableVia cond' s := by
  induction reached with
  | start first => exact .start first
  | step _ permitted enabled ih => exact .step ih (weaker _ _ permitted) enabled

theorem ReachableVia.reachable {s : σ} (reached : sys.ReachableVia cond s) : sys.Reachable s :=
  reached.mono fun _ _ _ => trivial

theorem ReachableVia.run {s s' : σ} (reached : sys.ReachableVia cond s)
    (steps : sys.RunVia cond s s') : sys.ReachableVia cond s' := by
  induction steps with
  | refl => exact reached
  | tail _ last ih =>
    obtain ⟨_, permitted, enabled⟩ := last
    exact .step ih permitted enabled

/-- A relation between the first and the present state of a run, kept by every step from
a reachable state, holds at the end of the run. -/
theorem RunVia.invariant {s : σ} (Inv : σ → Prop) (reached : sys.ReachableVia cond s)
    (first : Inv s)
    (step : ∀ t a t', sys.ReachableVia cond t → Inv t → cond t a → sys.step t a = some t' →
      Inv t') {s' : σ} (steps : sys.RunVia cond s s') : Inv s' := by
  induction steps with
  | refl => exact first
  | tail before last ih =>
    obtain ⟨a, permitted, enabled⟩ := last
    exact step _ a _ (reached.run before) ih permitted enabled

/-- The end of a replay is reached by a run. -/
theorem run_runVia {s s' : σ} {actions : List α} (replay : sys.run s actions = some s') :
    sys.RunVia (fun _ _ => True) s s' := by
  induction actions generalizing s with
  | nil =>
    simp only [System.run, Option.some.injEq] at replay
    exact replay ▸ .refl
  | cons a rest ih =>
    obtain ⟨middle, enabled, replay⟩ := Option.bind_eq_some_iff.mp replay
    exact .head ⟨a, trivial, enabled⟩ (ih replay)

theorem run_append {s : σ} {first second : List α} :
    sys.run s (first ++ second) = (sys.run s first).bind fun s' => sys.run s' second := by
  induction first generalizing s with
  | nil => rfl
  | cons a rest ih =>
    simp only [List.cons_append, System.run]
    cases sys.step s a with
    | none => rfl
    | some s' => exact ih

/-- A replay whose actions all meet a condition is a run that meets it. -/
theorem run_runVia_of_forall {cond : σ → α → Prop} {s s' : σ} {actions : List α}
    (replay : sys.run s actions = some s') (met : ∀ a ∈ actions, ∀ t, cond t a) :
    sys.RunVia cond s s' := by
  induction actions generalizing s with
  | nil =>
    simp only [System.run, Option.some.injEq] at replay
    exact replay ▸ .refl
  | cons a rest ih =>
    obtain ⟨middle, enabled, replay⟩ := Option.bind_eq_some_iff.mp replay
    have later := ih replay fun b member => met b (List.mem_cons_of_mem a member)
    exact .head ⟨a, met a List.mem_cons_self s, enabled⟩ later

/-- Replays a list of actions, each of which has to meet a condition. -/
def runIf (sys : System σ α) (cond : σ → α → Prop) [∀ s a, Decidable (cond s a)] :
    σ → List α → Option σ
  | s, [] => some s
  | s, a :: rest =>
    if cond s a then (sys.step s a).bind fun s' => sys.runIf cond s' rest else none

theorem runIf_runVia {cond : σ → α → Prop} [∀ s a, Decidable (cond s a)] {s s' : σ}
    {actions : List α} (replay : sys.runIf cond s actions = some s') : sys.RunVia cond s s' := by
  induction actions generalizing s with
  | nil =>
    simp only [System.runIf, Option.some.injEq] at replay
    exact replay ▸ .refl
  | cons a rest ih =>
    simp only [System.runIf] at replay
    split at replay
    · rename_i met
      obtain ⟨middle, enabled, replay⟩ := Option.bind_eq_some_iff.mp replay
      exact .head ⟨a, met, enabled⟩ (ih replay)
    · cases replay

theorem run_reachable {s s' : σ} {actions : List α} (first : sys.start s)
    (replay : sys.run s actions = some s') : sys.Reachable s' :=
  (ReachableVia.start first).run (run_runVia replay)

end System

end Loomterm
