import Mathlib.Data.List.Nodup
import Mathlib.Logic.Function.Basic
import Mathlib.Tactic.Common

/-!
# Edits that can be resumed

Some files are edited one after another, each to a content that is planned from what the file
holds. A run may be cut between any two edits, and it may leave files of its own behind. If no
content, once written, asks for another one, a run after any number of cut ones ends as the first
would have ended.
-/

namespace Loomterm

namespace Edits

variable {π κ ε : Type}

/-- What the files hold. -/
abbrev Files (π κ : Type) := π → Option κ

/-- How one file is edited: the content to write, if there is any. -/
structure Editor (π κ ε : Type) where
  path : π
  plan : Option κ → Except ε (Option κ)

/-- What is planned for one file. -/
structure Edit (π κ : Type) where
  path : π
  content : Option κ

/-- The plans for all files, made before the first is edited. -/
def planAll (editors : List (Editor π κ ε)) (files : Files π κ) :
    Except ε (List (Edit π κ)) :=
  editors.mapM fun editor => (editor.plan (files editor.path)).map fun content =>
    ⟨editor.path, content⟩

/-- What is written over `before` is left alone from then on. -/
def Editor.Settles (editor : Editor π κ ε) (before : Option κ) : Prop :=
  ∀ content, editor.plan before = .ok (some content) → editor.plan (some content) = .ok none

/-! ## Plans -/

section

variable {editors : List (Editor π κ ε)} {files files' : Files π κ} {edits : List (Edit π κ)}

theorem planAll_cons {editor : Editor π κ ε} {rest : List (Editor π κ ε)}
    {content : Option κ} {edits : List (Edit π κ)}
    (first : editor.plan (files editor.path) = .ok content)
    (others : planAll rest files = .ok edits) :
    planAll (editor :: rest) files = .ok (⟨editor.path, content⟩ :: edits) := by
  unfold planAll at others ⊢
  rw [List.mapM_cons, first, others]
  rfl

/-- Each editor plans for its own file. -/
theorem planAll_ok (planned : planAll editors files = .ok edits) :
    List.Forall₂ (fun editor edit => edit.path = editor.path ∧
      editor.plan (files editor.path) = .ok edit.content) editors edits := by
  induction editors generalizing edits with
  | nil =>
    cases planned
    exact .nil
  | cons editor rest ih =>
    cases first : editor.plan (files editor.path) with
    | error e =>
      unfold planAll at planned
      rw [List.mapM_cons, first] at planned
      cases planned
    | ok content =>
      cases others : planAll rest files with
      | error e =>
        unfold planAll at planned others
        rw [List.mapM_cons, first, others] at planned
        cases planned
      | ok edits' =>
        rw [planAll_cons first others] at planned
        cases planned
        exact .cons ⟨rfl, first⟩ (ih others)

theorem paths_of_forall₂ {relation : Editor π κ ε → Edit π κ → Prop}
    (same : List.Forall₂ (fun editor edit => edit.path = editor.path ∧ relation editor edit)
      editors edits) : edits.map Edit.path = editors.map Editor.path := by
  induction same with
  | nil => rfl
  | cons first _ ih => rw [List.map_cons, List.map_cons, first.1, ih]

/-- Each file holds what it held, or what was planned for it. -/
def Between (edits : List (Edit π κ)) (scratch : π → Prop) (files files' : Files π κ) : Prop :=
  ∀ path, ¬ scratch path → files' path = files path ∨
    ∃ edit ∈ edits, edit.path = path ∧ ∃ content, edit.content = some content ∧
      files' path = some content

end

section

variable {editors : List (Editor π κ ε)} {scratch : π → Prop} {files files' : Files π κ}
  {edits edits' : List (Edit π κ)} {edit : Edit π κ}

theorem planAll_congr (known : ∀ editor ∈ editors, ¬ scratch editor.path)
    (same : ∀ path, ¬ scratch path → files' path = files path) :
    planAll editors files' = planAll editors files := by
  induction editors with
  | nil => rfl
  | cons editor rest ih =>
    have later := ih fun editor member => known editor (List.mem_cons_of_mem _ member)
    unfold planAll at later ⊢
    rw [List.mapM_cons, List.mapM_cons, same editor.path (known editor List.mem_cons_self), later]

theorem Between.at (between : Between edits scratch files files')
    (distinct : (edits.map Edit.path).Nodup) (member : edit ∈ edits) (known : ¬ scratch edit.path) :
    files' edit.path = files edit.path ∨
      ∃ content, edit.content = some content ∧ files' edit.path = some content := by
  rcases between edit.path known with same | ⟨edit', member', same, content, planned, now⟩
  · exact .inl same
  · have one : edit' = edit := List.inj_on_of_nodup_map distinct member' member same
    subst one
    exact .inr ⟨content, planned, now⟩

/-- What is planned again: all of an edit that is not done yet, and nothing where it is. -/
def Replans (files files' : Files π κ) (edit edit' : Edit π κ) : Prop :=
  edit'.path = edit.path ∧
    ((files' edit.path = files edit.path ∧ edit'.content = edit.content) ∨
      edit'.content = none ∧ ∃ content, edit.content = some content ∧
        files' edit.path = some content)

theorem planAll_again (settles : ∀ editor ∈ editors, editor.Settles (files editor.path))
    (known : ∀ editor ∈ editors, ¬ scratch editor.path)
    (distinct : (editors.map Editor.path).Nodup)
    (planned : planAll editors files = .ok edits) (between : Between edits scratch files files') :
    ∃ edits', planAll editors files' = .ok edits' ∧
      List.Forall₂ (Replans files files') edits edits' := by
  have plans := planAll_ok planned
  rw [← paths_of_forall₂ plans] at distinct
  have held (edit : Edit π κ) (member : edit ∈ edits) := between.at distinct member
  clear planned between distinct
  induction plans with
  | nil => exact ⟨[], rfl, .nil⟩
  | @cons editor edit editors edits first _ ih =>
    obtain ⟨same, plan⟩ := first
    obtain ⟨edits', later, replans⟩ := ih
      (fun editor member => settles editor (List.mem_cons_of_mem _ member))
      (fun editor member => known editor (List.mem_cons_of_mem _ member))
      (fun edit member => held edit (List.mem_cons_of_mem _ member))
    have here := held edit List.mem_cons_self (same ▸ known editor List.mem_cons_self)
    rcases here with unchanged | ⟨content, wanted, done⟩
    · have again : editor.plan (files' editor.path) = .ok edit.content := by
        rw [← same, unchanged, same, plan]
      exact ⟨_, planAll_cons again later, .cons ⟨same.symm, .inl ⟨unchanged, rfl⟩⟩ replans⟩
    · have again : editor.plan (files' editor.path) = .ok none := by
        rw [← same, done]
        apply settles editor List.mem_cons_self content
        rw [plan, wanted]
      exact ⟨_, planAll_cons again later,
        .cons ⟨same.symm, .inr ⟨rfl, content, wanted, done⟩⟩ replans⟩

theorem paths_of_replans (replans : List.Forall₂ (Replans files files') edits edits') :
    edits'.map Edit.path = edits.map Edit.path := by
  induction replans with
  | nil => rfl
  | cons first _ ih => rw [List.map_cons, List.map_cons, first.1, ih]

theorem replans_of_mem {edit' : Edit π κ}
    (replans : List.Forall₂ (Replans files files') edits edits') (member : edit' ∈ edits') :
    ∃ edit ∈ edits, Replans files files' edit edit' := by
  induction replans with
  | nil => cases member
  | cons first _ ih =>
    rcases List.mem_cons.mp member with rfl | later
    · exact ⟨_, List.mem_cons_self, first⟩
    · obtain ⟨edit, there, same⟩ := ih later
      exact ⟨edit, List.mem_cons_of_mem _ there, same⟩

end

/-! ## Editing -/

variable [DecidableEq π]

def Edit.apply (files : Files π κ) (edit : Edit π κ) : Files π κ :=
  match edit.content with
  | some content => Function.update files edit.path (some content)
  | none => files

def applyAll (files : Files π κ) (edits : List (Edit π κ)) : Files π κ :=
  edits.foldl Edit.apply files

/-- Runs that were cut, each behind some of its edits; what they left at the paths of `scratch` is
not known. -/
inductive Attempts (editors : List (Editor π κ ε)) (scratch : π → Prop) (files : Files π κ) :
    Files π κ → Prop
  | none : Attempts editors scratch files files
  | more {files' files'' : Files π κ} {edits : List (Edit π κ)} (n : Nat) :
      Attempts editors scratch files files' → planAll editors files' = .ok edits →
      (∀ path, ¬ scratch path → files'' path = applyAll files' (edits.take n) path) →
      Attempts editors scratch files files''

section

variable {files files' : Files π κ} {edits : List (Edit π κ)} {edit : Edit π κ} {path : π}

theorem apply_other (other : edit.path ≠ path) : edit.apply files path = files path := by
  unfold Edit.apply
  cases edit.content with
  | none => rfl
  | some content => exact Function.update_of_ne (Ne.symm other) _ _

theorem apply_self : edit.apply files edit.path = edit.content.or (files edit.path) := by
  unfold Edit.apply
  cases edit.content with
  | none => rfl
  | some content => exact Function.update_self _ _ _

theorem applyAll_congr (edits : List (Edit π κ)) (same : files' path = files path) :
    applyAll files' edits path = applyAll files edits path := by
  induction edits generalizing files files' with
  | nil => exact same
  | cons edit rest ih =>
    refine ih ?_
    by_cases here : edit.path = path
    · rw [← here] at same ⊢
      rw [apply_self, apply_self, same]
    · rw [apply_other here, apply_other here, same]

theorem applyAll_other (other : ∀ edit ∈ edits, edit.path ≠ path) :
    applyAll files edits path = files path := by
  induction edits generalizing files with
  | nil => rfl
  | cons edit rest ih =>
    have later : applyAll (edit.apply files) rest path = edit.apply files path :=
      ih fun edit' member => other edit' (List.mem_cons_of_mem _ member)
    exact later.trans (apply_other (other edit List.mem_cons_self))

theorem applyAll_self (distinct : (edits.map Edit.path).Nodup) (member : edit ∈ edits) :
    applyAll files edits edit.path = edit.content.or (files edit.path) := by
  induction edits generalizing files with
  | nil => cases member
  | cons first rest ih =>
    rw [List.map_cons, List.nodup_cons] at distinct
    rcases List.mem_cons.mp member with rfl | later
    · have others : ∀ edit' ∈ rest, edit'.path ≠ edit.path := fun edit' member' same =>
        distinct.1 (same ▸ List.mem_map_of_mem member')
      exact (applyAll_other others).trans apply_self
    · have other : first.path ≠ edit.path := fun same =>
        distinct.1 (same ▸ List.mem_map_of_mem later)
      have behind : applyAll (first.apply files) rest edit.path =
          edit.content.or (first.apply files edit.path) := ih distinct.2 later
      exact behind.trans (congrArg edit.content.or (apply_other other))

/-- A file that another order of events left as it was, or edited. -/
theorem applyAll_take (files : Files π κ) (distinct : (edits.map Edit.path).Nodup) (n : Nat)
    (path : π) :
    applyAll files (edits.take n) path = files path ∨
      ∃ edit ∈ edits, edit.path = path ∧ ∃ content, edit.content = some content ∧
        applyAll files (edits.take n) path = some content := by
  by_cases touched : ∃ edit ∈ edits.take n, edit.path = path
  · obtain ⟨edit, member, rfl⟩ := touched
    have known : applyAll files (edits.take n) edit.path =
        edit.content.or (files edit.path) :=
      applyAll_self (distinct.sublist ((List.take_sublist n edits).map _)) member
    rw [known]
    cases content : edit.content with
    | none => exact .inl rfl
    | some content' =>
      exact .inr ⟨edit, List.mem_of_mem_take member, rfl, content', content, rfl⟩
  · left
    apply applyAll_other
    exact fun edit member same => touched ⟨edit, member, same⟩

end

/-! ## Resuming -/

section

variable {editors : List (Editor π κ ε)} {scratch : π → Prop} {files files' files'' : Files π κ}
  {edits edits' : List (Edit π κ)}

/-- What is planned again ends as what was planned first. -/
theorem applyAll_replans (distinct : (edits.map Edit.path).Nodup)
    (between : Between edits scratch files files')
    (replans : List.Forall₂ (Replans files files') edits edits') {path : π}
    (known : ¬ scratch path) : applyAll files' edits' path = applyAll files edits path := by
  have paths := paths_of_replans replans
  by_cases touched : ∃ edit' ∈ edits', edit'.path = path
  · obtain ⟨edit', member', rfl⟩ := touched
    obtain ⟨edit, member, same, replanned⟩ := replans_of_mem replans member'
    rw [applyAll_self (paths ▸ distinct) member', same, applyAll_self distinct member]
    rcases replanned with ⟨unchanged, content⟩ | ⟨nothing, content, wanted, done⟩
    · rw [content, unchanged]
    · rw [nothing, wanted, done]
      rfl
  · have other : ∀ edit ∈ edits, edit.path ≠ path := by
      intro edit member same
      obtain ⟨edit', member', same'⟩ := List.mem_map.mp
        (paths ▸ List.mem_map_of_mem member : edit.path ∈ edits'.map Edit.path)
      exact touched ⟨edit', member', same'.trans same⟩
    rw [applyAll_other other, applyAll_other fun edit' member' same =>
      touched ⟨edit', member', same⟩]
    rcases between path known with same | ⟨edit, member, same, -⟩
    · exact same
    · exact absurd same (other edit member)

/-- A cut run leaves each file as it was or as it was to be. -/
theorem Between.cut (between : Between edits scratch files files')
    (replans : List.Forall₂ (Replans files files') edits edits')
    (distinct : (edits.map Edit.path).Nodup) (n : Nat)
    (left : ∀ path, ¬ scratch path → files'' path = applyAll files' (edits'.take n) path) :
    Between edits scratch files files'' := by
  intro path known
  have paths := paths_of_replans replans
  rw [left path known]
  rcases applyAll_take files' (paths ▸ distinct) n path with
    same | ⟨edit', member', rfl, content, planned, now⟩
  · rw [same]
    exact between path known
  · obtain ⟨edit, member, same, ⟨-, again⟩ | ⟨nothing, -⟩⟩ := replans_of_mem replans member'
    · exact .inr ⟨edit, member, same.symm, content, again ▸ planned, now⟩
    · rw [nothing] at planned
      cases planned

theorem Attempts.between (settles : ∀ editor ∈ editors, editor.Settles (files editor.path))
    (known : ∀ editor ∈ editors, ¬ scratch editor.path)
    (distinct : (editors.map Editor.path).Nodup)
    (planned : planAll editors files = .ok edits)
    (attempts : Attempts editors scratch files files') : Between edits scratch files files' := by
  induction attempts with
  | none => exact fun _ _ => .inl rfl
  | @more files' files'' edits'' n _ again left ih =>
    obtain ⟨edits', planned', replans⟩ := planAll_again settles known distinct planned ih
    obtain rfl : edits'' = edits' := Except.ok.inj (again.symm.trans planned')
    exact ih.cut replans (paths_of_forall₂ (planAll_ok planned) ▸ distinct) n left

/-- Edits that are done plan nothing more. -/
theorem planAll_settled (settles : ∀ editor ∈ editors, editor.Settles (files editor.path))
    (distinct : (editors.map Editor.path).Nodup) (planned : planAll editors files = .ok edits) :
    planAll editors (applyAll files edits) =
      .ok (edits.map fun edit => { edit with content := none }) := by
  have plans := planAll_ok planned
  rw [← paths_of_forall₂ plans] at distinct
  have held (edit : Edit π κ) (member : edit ∈ edits) :
      applyAll files edits edit.path = edit.content.or (files edit.path) :=
    applyAll_self distinct member
  clear planned distinct
  generalize applyAll files edits = after at held ⊢
  induction plans with
  | nil => rfl
  | @cons editor edit editors edits first _ ih =>
    obtain ⟨same, plan⟩ := first
    have later := ih (fun editor member => settles editor (List.mem_cons_of_mem _ member))
      fun edit member => held edit (List.mem_cons_of_mem _ member)
    have here := held edit List.mem_cons_self
    rw [List.map_cons, same]
    refine planAll_cons ?_ later
    rw [← same, here]
    cases wanted : edit.content with
    | none => rw [Option.none_or, same, plan, wanted]
    | some content =>
      rw [Option.some_or]
      apply settles editor List.mem_cons_self content
      rw [plan, wanted]

/-- After any number of runs that were cut, one that is not ends as the first would have ended, and
leaves nothing to do. -/
theorem resumes (settles : ∀ editor ∈ editors, editor.Settles (files editor.path))
    (known : ∀ editor ∈ editors, ¬ scratch editor.path)
    (distinct : (editors.map Editor.path).Nodup)
    (planned : planAll editors files = .ok edits)
    (attempts : Attempts editors scratch files files') :
    ∃ edits', planAll editors files' = .ok edits' ∧
      (∀ path, ¬ scratch path → applyAll files' edits' path = applyAll files edits path) ∧
      planAll editors (applyAll files' edits') =
        .ok (edits.map fun edit => { edit with content := none }) := by
  have between := attempts.between settles known distinct planned
  obtain ⟨edits', planned', replans⟩ := planAll_again settles known distinct planned between
  have ends {path : π} (known : ¬ scratch path) :
      applyAll files' edits' path = applyAll files edits path :=
    applyAll_replans (paths_of_forall₂ (planAll_ok planned) ▸ distinct) between replans known
  refine ⟨edits', planned', fun path known => ends known, ?_⟩
  rw [planAll_congr known fun path known => ends known]
  exact planAll_settled settles distinct planned

end

end Edits

end Loomterm
