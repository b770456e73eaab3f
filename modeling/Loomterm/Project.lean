import Loomterm.Misc.Greatest
import Loomterm.Misc.Path
import Loomterm.Misc.Utf8
import Loomterm.Model
import Mathlib.Data.List.Nodup

/-!
# The workspace of a directory

The MCP server and the command line each look for the workspace that a directory belongs to:
one for the root with the most components, the other for the root with the longest text.
-/

namespace Loomterm

/-- A component with another spelling of its name. -/
def Component.map {ν μ : Type*} (f : ν → μ) : Component ν → Component μ
  | .rootDir => .rootDir
  | .curDir => .curDir
  | .parentDir => .parentDir
  | .normal name => .normal (f name)

/-- `Path::new` of a text; the names of a path are bytes. -/
def pathOf (text : String) : List (Component Bytes) :=
  (components text).map (Component.map Utf8.bytes)

/-- `Path::starts_with`, which compares whole components. -/
def startsWith (path base : List (Component Bytes)) : Bool := base.isPrefixOf path

/-- `select_project_workspace` (`src/mcp.rs:436`). -/
def selectProjectWorkspace (workspaces : List Workspace) (cwd : List (Component Bytes)) :
    Option Workspace :=
  maxByKey (fun workspace => (pathOf workspace.root).length)
    (workspaces.filter fun workspace =>
      cwd = pathOf workspace.root || startsWith cwd (pathOf workspace.root))

/-- The workspace that `resolve_workspace` looks for (`src/bin/loom.rs:1478`). -/
def longestWorkspace (workspaces : List Workspace) (cwd : List (Component Bytes)) :
    Option Workspace :=
  maxByKey (fun workspace => workspace.root.utf8ByteSize)
    (workspaces.filter fun workspace => startsWith cwd (pathOf workspace.root))

/-- `resolve_workspace` (`src/bin/loom.rs:1473`), where the current directory is known. -/
def resolveWorkspace (requested : Option String) (workspaces : List Workspace)
    (cwd : List (Component Bytes)) : Except Error String :=
  match requested with
  | some requested => .ok requested
  | none =>
      match longestWorkspace workspaces cwd with
      | some workspace => .ok workspace.id
      | none => .error (.invalidRequest
          "current directory is not in a registered workspace; run \x60loom workspace add .\x60")

/-! ## Canonical paths -/

/-- A name of a file, as a canonical path has it. -/
structure IsFileName (name : String) : Prop where
  noSeparator : '/' ∉ name.toList
  nonempty : name ≠ ""
  notDot : name ≠ "."
  notDots : name ≠ ".."

/-- The text of an absolute path without anything to resolve. -/
def canonicalPath (names : List String) : String := "/" ++ "/".intercalate names

def IsCanonical (text : String) : Prop :=
  ∃ names, (∀ name ∈ names, IsFileName name) ∧ text = canonicalPath names

variable {names names' : List String}

theorem components_canonicalPath (valid : ∀ name ∈ names, IsFileName name) :
    components (canonicalPath names) = .rootDir :: names.map .normal := by
  have text : (canonicalPath names).toList = '/' :: ['/'].intercalate (names.map String.toList) := by
    rw [canonicalPath, String.toList_append, String.toList_intercalate]
    rfl
  have first : (canonicalPath names).toList.head? = some '/' := by rw [text]; rfl
  have steps : ∀ name ∈ names, (if name.toList = [] ∨ name.toList = ['.'] then none
      else if name.toList = ['.', '.'] then some Component.parentDir
      else some (.normal (String.ofList name.toList))) = some (Component.normal name) := by
    intro name member
    obtain ⟨_, nonempty, notDot, notDots⟩ := valid name member
    have empty : name.toList ≠ [] := by simpa using nonempty
    have dot : name.toList ≠ ['.'] := fun same => notDot (String.toList_inj.mp same)
    have dots : name.toList ≠ ['.', '.'] := fun same => notDots (String.toList_inj.mp same)
    rw [if_neg (by simp [empty, dot]), if_neg dots, String.ofList_toList]
  simp only [components, first, if_true]
  congr 1
  rw [text]
  have pieces : ('/' :: ['/'].intercalate (names.map String.toList)).splitOn '/' =
      [] :: (['/'].intercalate (names.map String.toList)).splitOn '/' :=
    List.splitOn_append_cons_self [] _
  rw [pieces]
  cases names with
  | nil => rfl
  | cons name names =>
    rw [List.splitOn_intercalate '/' (by
      intro chars member
      obtain ⟨other, listed, rfl⟩ := List.mem_map.mp member
      exact (valid other listed).noSeparator) (by simp), List.filterMap_cons, if_pos (.inl rfl),
      List.filterMap_map]
    exact (List.filterMap_congr steps).trans (congrFun List.filterMap_eq_map' (name :: names))

theorem pathOf_canonicalPath (valid : ∀ name ∈ names, IsFileName name) :
    pathOf (canonicalPath names) = .rootDir :: names.map fun name => .normal (Utf8.bytes name) := by
  rw [pathOf, components_canonicalPath valid, List.map_cons, List.map_map]
  rfl

/-- Canonical paths are compared by their names. -/
theorem pathOf_prefix_iff (valid : ∀ name ∈ names, IsFileName name)
    (valid' : ∀ name ∈ names', IsFileName name) :
    pathOf (canonicalPath names) <+: pathOf (canonicalPath names') ↔ names <+: names' := by
  rw [pathOf_canonicalPath valid, pathOf_canonicalPath valid', List.cons_prefix_cons]
  have injective : Function.Injective fun name => Component.normal (Utf8.bytes name) := by
    intro first second same
    exact Utf8.bytes_injective (Component.normal.inj same)
  rw [List.prefix_map_iff_of_injective injective]
  exact ⟨And.right, fun start => ⟨rfl, start⟩⟩

/-- A path below another has the longer text. -/
theorem canonicalPath_size (valid : ∀ name ∈ names', IsFileName name) (start : names <+: names')
    (shorter : names ≠ names') :
    (canonicalPath names).utf8ByteSize < (canonicalPath names').utf8ByteSize := by
  obtain ⟨more, rfl⟩ := start
  cases more with
  | nil => exact absurd (List.append_nil names).symm shorter
  | cons name more =>
    have positive : 0 < name.utf8ByteSize := by
      have nonempty := (valid name (by simp)).nonempty
      exact Nat.pos_of_ne_zero fun zero => nonempty (String.utf8ByteSize_eq_zero_iff.mp zero)
    have last : name.utf8ByteSize ≤ ("/".intercalate (name :: more)).utf8ByteSize := by
      cases more with
      | nil => simp
      | cons next more =>
        simp only [String.intercalate_cons_cons, String.utf8ByteSize_append]
        omega
    simp only [canonicalPath, String.utf8ByteSize_append]
    cases names with
    | nil => simp only [List.nil_append, String.intercalate_nil, String.utf8ByteSize_empty]; omega
    | cons first names =>
      rw [String.intercalate_append_of_ne_nil (by simp) (by simp)]
      simp only [String.utf8ByteSize_append]
      omega

/-! ## The innermost root -/

/-- The directory lies in the tree below a root. -/
def Contains (root : String) (directory : List (Component Bytes)) : Prop :=
  pathOf root <+: directory

instance (root : String) (directory : List (Component Bytes)) :
    Decidable (Contains root directory) := inferInstanceAs (Decidable (_ <+: _))

variable {workspaces : List Workspace} {cwd : List (Component Bytes)} {chosen : Workspace}

/-- Both programs rank the workspaces whose roots contain the directory. -/
theorem candidates_eq (workspaces : List Workspace) (cwd : List (Component Bytes)) :
    (workspaces.filter fun workspace =>
      cwd = pathOf workspace.root || startsWith cwd (pathOf workspace.root)) =
    workspaces.filter fun workspace => startsWith cwd (pathOf workspace.root) := by
  refine List.filter_congr fun workspace _ => ?_
  by_cases same : cwd = pathOf workspace.root
  · simp [startsWith, ← same]
  · simp [same]

theorem mem_candidates {workspace : Workspace} :
    workspace ∈ workspaces.filter (fun workspace => startsWith cwd (pathOf workspace.root)) ↔
      workspace ∈ workspaces ∧ Contains workspace.root cwd := by
  rw [List.mem_filter, startsWith, List.isPrefixOf_iff_prefix]
  exact Iff.rfl

/-- Of two canonical roots that contain a directory, the one with more components has the
longer text. -/
theorem sizes_alike {first second : String} (canonical : IsCanonical first)
    (canonical' : IsCanonical second) (contains : Contains first cwd)
    (contains' : Contains second cwd) :
    (pathOf first).length ≤ (pathOf second).length ↔ first.utf8ByteSize ≤ second.utf8ByteSize := by
  obtain ⟨names, valid, rfl⟩ := canonical
  obtain ⟨names', valid', rfl⟩ := canonical'
  have chain := List.prefix_or_prefix_of_prefix contains contains'
  rw [pathOf_prefix_iff valid valid', pathOf_prefix_iff valid' valid] at chain
  rw [pathOf_canonicalPath valid, pathOf_canonicalPath valid', List.length_cons, List.length_cons,
    List.length_map, List.length_map]
  by_cases same : names = names'
  · rw [same]
    simp
  rcases chain with inner | outer
  · have longer := canonicalPath_size valid' inner same
    have more := inner.length_le
    constructor <;> intro <;> omega
  · have longer := canonicalPath_size valid outer (Ne.symm same)
    have more := outer.length_le
    have different : names.length ≠ names'.length := fun equal =>
      same (outer.eq_of_length equal.symm).symm
    constructor <;> intro <;> omega

theorem selectProjectWorkspace_eq (canonical : ∀ workspace ∈ workspaces, IsCanonical workspace.root)
    (cwd : List (Component Bytes)) :
    selectProjectWorkspace workspaces cwd = longestWorkspace workspaces cwd := by
  rw [selectProjectWorkspace, candidates_eq]
  apply maxByKey_congr
  intro first listed second listed'
  obtain ⟨member, contains⟩ := mem_candidates.mp listed
  obtain ⟨member', contains'⟩ := mem_candidates.mp listed'
  exact sizes_alike (canonical first member) (canonical second member') contains contains'

theorem selectProjectWorkspace_eq_none :
    selectProjectWorkspace workspaces cwd = none ↔
      ∀ workspace ∈ workspaces, ¬ Contains workspace.root cwd := by
  rw [selectProjectWorkspace, candidates_eq, maxByKey_eq_none, List.eq_nil_iff_forall_not_mem]
  constructor
  · intro nothing workspace member contains
    exact nothing workspace (mem_candidates.mpr ⟨member, contains⟩)
  · intro outside workspace listed
    obtain ⟨member, contains⟩ := mem_candidates.mp listed
    exact outside workspace member contains

/-- A root that lies in another one and is no longer is that one. -/
theorem root_eq_of_contains {first second : String} (canonical : IsCanonical first)
    (canonical' : IsCanonical second) (contains : Contains first (pathOf second))
    (length : (pathOf second).length ≤ (pathOf first).length) : first = second := by
  obtain ⟨names, valid, rfl⟩ := canonical
  obtain ⟨names', valid', rfl⟩ := canonical'
  have start := (pathOf_prefix_iff valid valid').mp contains
  rw [pathOf_canonicalPath valid, pathOf_canonicalPath valid', List.length_cons, List.length_cons,
    List.length_map, List.length_map] at length
  rw [start.eq_of_length_le (by omega)]

/-- The chosen root contains the directory, and no other such root lies in it. -/
theorem selectProjectWorkspace_iff
    (canonical : ∀ workspace ∈ workspaces, IsCanonical workspace.root)
    (distinct : ∀ first ∈ workspaces, ∀ second ∈ workspaces, first.root = second.root →
      first = second) :
    selectProjectWorkspace workspaces cwd = some chosen ↔
      chosen ∈ workspaces ∧ Contains chosen.root cwd ∧
        ∀ other ∈ workspaces, other ≠ chosen → Contains other.root cwd →
          ¬ Contains chosen.root (pathOf other.root) := by
  rw [selectProjectWorkspace, candidates_eq]
  constructor
  · intro found
    obtain ⟨listed, greatest⟩ := maxByKey_spec found
    obtain ⟨member, contains⟩ := mem_candidates.mp listed
    refine ⟨member, contains, ?_⟩
    intro other member' ne contains' inside
    have length := greatest other (mem_candidates.mpr ⟨member', contains'⟩)
    exact ne (distinct other member' chosen member
      (root_eq_of_contains (canonical chosen member) (canonical other member') inside length).symm)
  · rintro ⟨member, contains, innermost⟩
    cases found : maxByKey (fun workspace => (pathOf workspace.root).length)
        (workspaces.filter fun workspace => startsWith cwd (pathOf workspace.root)) with
    | none =>
      have nothing := maxByKey_eq_none.mp found
      have listed := mem_candidates.mpr ⟨member, contains⟩
      rw [nothing] at listed
      cases listed
    | some greatest =>
      obtain ⟨listed, bound⟩ := maxByKey_spec found
      obtain ⟨member', contains'⟩ := mem_candidates.mp listed
      congr 1
      by_contra ne
      have length := bound chosen (mem_candidates.mpr ⟨member, contains⟩)
      rcases List.prefix_or_prefix_of_prefix contains contains' with inside | outside
      · exact innermost greatest member' ne contains' inside
      · exact ne (distinct greatest member' chosen member (root_eq_of_contains
          (canonical greatest member') (canonical chosen member) outside length))

/-- The MCP server and the command line choose the same workspace for a directory: the one
whose root contains it and contains no other such root; and none if and only if no root
contains it. -/
theorem workspace_of_directory
    (canonical : ∀ workspace ∈ workspaces, IsCanonical workspace.root)
    (distinct : (workspaces.map Workspace.root).Nodup) (cwd : List (Component Bytes)) :
    selectProjectWorkspace workspaces cwd = longestWorkspace workspaces cwd ∧
    (resolveWorkspace none workspaces cwd).toOption =
      (selectProjectWorkspace workspaces cwd).map Workspace.id ∧
    (∀ chosen, selectProjectWorkspace workspaces cwd = some chosen ↔
      chosen ∈ workspaces ∧ Contains chosen.root cwd ∧
        ∀ other ∈ workspaces, other ≠ chosen → Contains other.root cwd →
          ¬ Contains chosen.root (pathOf other.root)) ∧
    (selectProjectWorkspace workspaces cwd = none ↔
      ∀ workspace ∈ workspaces, ¬ Contains workspace.root cwd) := by
  have same := selectProjectWorkspace_eq canonical cwd
  refine ⟨same, ?_, ?_, selectProjectWorkspace_eq_none⟩
  · rw [same]
    unfold resolveWorkspace
    cases longestWorkspace workspaces cwd <;> rfl
  · intro chosen
    exact selectProjectWorkspace_iff canonical fun first member second member' equal =>
      List.inj_on_of_nodup_map distinct member member' equal

/-- The workspaces of a nested project, and of a sibling whose root has the same text in
front. -/
def nestedWorkspaces : List Workspace :=
  [{ id := "parent", name := "parent", root := "/work", createdAtMs := 0 },
   { id := "project", name := "project", root := "/work/project", createdAtMs := 0 },
   { id := "other", name := "other", root := "/work/proj", createdAtMs := 0 }]

theorem workspace_of_directory_nested :
    ¬ Contains "/work/project" (pathOf "/work") ∧
      selectProjectWorkspace nestedWorkspaces (pathOf "/work/project/src") =
        longestWorkspace nestedWorkspaces (pathOf "/work/project/src") := by
  have canonical : ∀ workspace ∈ nestedWorkspaces, IsCanonical workspace.root := by
    intro workspace member
    simp only [nestedWorkspaces, List.mem_cons, List.not_mem_nil, or_false] at member
    rcases member with rfl | rfl | rfl
    · refine ⟨["work"], ?_, by decide⟩
      simp only [List.mem_singleton, forall_eq]
      exact ⟨by decide, by decide, by decide, by decide⟩
    · refine ⟨["work", "project"], ?_, by decide⟩
      simp only [List.forall_mem_cons, List.not_mem_nil, false_implies, implies_true, and_true]
      exact ⟨⟨by decide, by decide, by decide, by decide⟩,
        ⟨by decide, by decide, by decide, by decide⟩⟩
    · refine ⟨["work", "proj"], ?_, by decide⟩
      simp only [List.forall_mem_cons, List.not_mem_nil, false_implies, implies_true, and_true]
      exact ⟨⟨by decide, by decide, by decide, by decide⟩,
        ⟨by decide, by decide, by decide, by decide⟩⟩
  exact ⟨by decide +kernel,
    (workspace_of_directory canonical (by decide) (pathOf "/work/project/src")).1⟩

/-- The chosen root may itself lie in another one that contains the directory. -/
theorem chosen_root_contained :
    ∃ chosen ∈ nestedWorkspaces,
      selectProjectWorkspace nestedWorkspaces (pathOf "/work/project/src") = some chosen ∧
      longestWorkspace nestedWorkspaces (pathOf "/work/project/src") = some chosen ∧
      ¬ ∀ other ∈ nestedWorkspaces, other ≠ chosen →
        Contains other.root (pathOf "/work/project/src") →
        ¬ Contains other.root (pathOf chosen.root) := by
  refine ⟨{ id := "project", name := "project", root := "/work/project", createdAtMs := 0 },
    by decide, by decide +kernel, by decide +kernel, by decide +kernel⟩

end Loomterm
