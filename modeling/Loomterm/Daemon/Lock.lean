import Loomterm.Misc.System
import Mathlib.Algebra.Order.Ring.Int
import Mathlib.Logic.Function.Basic

/-!
# The daemon lock

`DaemonLock::acquire` of `src/daemon.rs`, run by any number of processes, one system call
at a time. A process creates the lock file and then writes its pid to it; where the file
exists already it reads the pid, asks whether that process is alive, and removes the file
if it is not. A directory entry and the file it names are told apart, since a file that
was opened can still be read when another one has taken its place.
-/

namespace Loomterm

/-- Where a process is in `acquire`, with the attempts of its loop that are left, and the
file that it created or looked at. A process does not know which file a path names now. -/
inductive LockPhase where
  | absent
  | creating (attempts : Nat)
  | writing (file : Nat)
  | holding (file : Nat)
  | opening (attempts : Nat)
  | reading (attempts file : Nat)
  | probing (attempts file : Nat) (pid : Int)
  | removing (attempts file : Nat)
  | failed
  | released
  | gone
  deriving DecidableEq, Repr

/-- The file that a process created and has not let go of. -/
def LockPhase.owned : LockPhase → Option Nat
  | .writing file | .holding file => some file
  | _ => none

/-- The file of somebody else that a process looks at. -/
def LockPhase.seen : LockPhase → Option Nat
  | .reading _ file | .probing _ file _ | .removing _ file => some file
  | _ => none

/-- One run of `loomd`. -/
structure LoomdProcess where
  pid : Int := 0
  phase : LockPhase := .absent

/-- Whether the process exists. -/
def LoomdProcess.live (process : LoomdProcess) : Bool :=
  process.phase ≠ .absent && process.phase ≠ .gone

/-- The processes, and what the file system holds at the path of the lock. -/
structure LockState where
  entry : Option Nat := none
  /-- The pid that the text of a file parses to. -/
  content : Nat → Option Int := fun _ => none
  files : Nat := 0
  procs : Nat → LoomdProcess := fun _ => {}
  started : Nat := 0
  /-- The pids of other processes that `kill` accepts. -/
  others : Int → Bool := fun _ => false

/-- The system calls of the processes, and what else happens to them. -/
inductive LockStep where
  | start (pid : Int)
  | createNew (p : Nat)
  | writePid (p : Nat)
  | openFile (p : Nat)
  | readPid (p : Nat)
  | kill (p : Nat)
  | removeFile (p : Nat)
  | ioError (p : Nat)
  | drop (p : Nat) (removed : Bool)
  | exit (p : Nat)
  | other (pid : Int) (alive : Bool)
  deriving DecidableEq, Repr

namespace LockState

/-- Moves a process to another phase. -/
def go (s : LockState) (p : Nat) (phase : LockPhase) : LockState :=
  { s with procs := Function.update s.procs p { s.procs p with phase } }

/-- The answer of `kill(pid, None)` in `lock_owner_alive`. -/
def alive (s : LockState) (pid : Int) : Bool :=
  s.others pid || (List.range s.started).any fun p => (s.procs p).live && (s.procs p).pid = pid

/-- One step; `none` where the process is not there (`src/daemon.rs:601-646`). -/
def step (s : LockState) : LockStep → Option LockState
  | .start pid => some { s with
      procs := Function.update s.procs s.started ⟨pid, .creating 2⟩
      started := s.started + 1 }
  | .createNew p =>
      match (s.procs p).phase with
      | .creating 0 => some (s.go p .failed)
      | .creating (attempts + 1) =>
          match s.entry with
          | some _ => some (s.go p (.opening attempts))
          | none => some { s.go p (.writing s.files) with
              entry := some s.files
              content := Function.update s.content s.files none
              files := s.files + 1 }
      | _ => none
  | .writePid p =>
      match (s.procs p).phase with
      | .writing file => some { s.go p (.holding file) with
          content := Function.update s.content file (some (s.procs p).pid) }
      | _ => none
  | .openFile p =>
      match (s.procs p).phase with
      | .opening attempts =>
          match s.entry with
          | some file => some (s.go p (.reading attempts file))
          | none => some (s.go p .failed)
      | _ => none
  | .readPid p =>
      match (s.procs p).phase with
      | .reading attempts file =>
          match s.content file with
          | some pid => some (s.go p (.probing attempts file pid))
          | none => some (s.go p (.removing attempts file))
      | _ => none
  | .kill p =>
      match (s.procs p).phase with
      | .probing attempts file pid =>
          some (s.go p (if s.alive pid then .failed else .removing attempts file))
      | _ => none
  | .removeFile p =>
      match (s.procs p).phase with
      | .removing attempts _ =>
          match s.entry with
          | some _ => some { s.go p (.creating attempts) with entry := none }
          | none => some (s.go p .failed)
      | _ => none
  | .ioError p =>
      match (s.procs p).phase with
      | .creating _ | .writing _ | .opening _ | .reading _ _ | .probing _ _ _ | .removing _ _ =>
          some (s.go p .failed)
      | _ => none
  | .drop p removed =>
      match (s.procs p).phase with
      | .holding _ =>
          some { s.go p .released with entry := if removed then none else s.entry }
      | _ => none
  | .exit p => if (s.procs p).live then some (s.go p .gone) else none
  | .other pid alive => some { s with others := Function.update s.others pid alive }

end LockState

/-- Processes that start one after another, without a lock file or with one that a dead
process left. -/
def daemonLock : System LockState LockStep where
  start s := s.started = 0 ∧ (∀ p, (s.procs p).phase = .absent) ∧ ∀ file ∈ s.entry, file < s.files
  step := LockState.step

/-- A step outside the two windows of `acquire`: a file is not read between its creation and
the writing of its pid, and the file that is removed is the one that was looked at. -/
def OutsideWindows (s : LockState) : LockStep → Prop
  | .readPid p =>
      match (s.procs p).phase with
      | .reading _ file => ∀ q < s.started, (s.procs q).phase ≠ .writing file
      | _ => True
  | .removeFile p =>
      match (s.procs p).phase with
      | .removing _ file => s.entry = none ∨ s.entry = some file
      | _ => True
  | _ => True

instance (s : LockState) (step : LockStep) : Decidable (OutsideWindows s step) := by
  unfold OutsideWindows
  split
  · split <;> infer_instance
  · split <;> infer_instance
  · infer_instance

/-- What holds of the lock in runs outside the windows: a file that a process owns is the
one that the path names, and who is about to remove a file looked at one without owner. -/
structure LockState.Safe (s : LockState) : Prop where
  absent : ∀ p, s.started ≤ p → (s.procs p).phase = .absent
  entry : ∀ file, s.entry = some file → file < s.files
  named : ∀ p file, (s.procs p).phase.owned = some file → s.entry = some file
  unique : ∀ p q file, (s.procs p).phase.owned = some file →
    (s.procs q).phase.owned = some file → p = q
  blank : ∀ p file, (s.procs p).phase = .writing file → s.content file = none
  written : ∀ p file, (s.procs p).phase = .holding file → s.content file = some (s.procs p).pid
  seen : ∀ p file, (s.procs p).phase.seen = some file → file < s.files
  probed : ∀ p attempts file pid, (s.procs p).phase = .probing attempts file pid →
    ∀ q, (s.procs q).phase.owned = some file → (s.procs q).pid = pid
  judged : ∀ p attempts file, (s.procs p).phase = .removing attempts file →
    ∀ q, (s.procs q).phase.owned ≠ some file

namespace LockState

variable {s : LockState} {p q : Nat} {phase : LockPhase}

@[simp] theorem go_self : ((s.go p phase).procs p).phase = phase := by
  simp [go]

@[simp] theorem go_pid : ((s.go p phase).procs q).pid = (s.procs q).pid := by
  by_cases same : q = p
  · subst same
    simp [go]
  · simp [go, Function.update_of_ne same]

theorem go_of_ne (other : q ≠ p) : (s.go p phase).procs q = s.procs q := by
  simp [go, Function.update_of_ne other]

/-- After a step of `p` to a phase that owns nothing, the owners are among those before. -/
theorem owned_go (idle : phase.owned = none) {file : Nat}
    (owned : ((s.go p phase).procs q).phase.owned = some file) :
    q ≠ p ∧ (s.procs q).phase.owned = some file := by
  by_cases same : q = p
  · subst same
    rw [go_self, idle] at owned
    cases owned
  · rw [go_of_ne same] at owned
    exact ⟨same, owned⟩

/-- A process without a file may go on without one, or look at a file as the invariant
allows. -/
theorem Safe.go (safe : s.Safe) (known : p < s.started) (idle : phase.owned = none)
    (seen : ∀ file, phase.seen = some file → file < s.files)
    (probed : ∀ attempts file pid, phase = .probing attempts file pid →
      ∀ q, (s.procs q).phase.owned = some file → (s.procs q).pid = pid)
    (judged : ∀ attempts file, phase = .removing attempts file →
      ∀ q, (s.procs q).phase.owned ≠ some file) : (s.go p phase).Safe where
  absent q late := by
    have other : q ≠ p := by
      intro same
      have late : s.started ≤ q := late
      omega
    rw [go_of_ne other]
    exact safe.absent q late
  entry := safe.entry
  named q file owned := safe.named q file (owned_go idle owned).2
  unique q r file left right :=
    safe.unique q r file (owned_go idle left).2 (owned_go idle right).2
  blank q file writing := by
    have owned : ((s.go p phase).procs q).phase.owned = some file := by rw [writing]; rfl
    rw [go_of_ne (owned_go idle owned).1] at writing
    exact safe.blank q file writing
  written q file holding := by
    have owned : ((s.go p phase).procs q).phase.owned = some file := by rw [holding]; rfl
    rw [go_of_ne (owned_go idle owned).1] at holding
    rw [go_pid]
    exact safe.written q file holding
  seen q file looked := by
    by_cases same : q = p
    · subst same
      rw [go_self] at looked
      exact seen file looked
    · rw [go_of_ne same] at looked
      exact safe.seen q file looked
  probed q attempts file pid probing r owned := by
    have before := (owned_go idle owned).2
    rw [go_pid]
    by_cases same : q = p
    · subst same
      rw [go_self] at probing
      exact probed attempts file pid probing r before
    · rw [go_of_ne same] at probing
      exact safe.probed q attempts file pid probing r before
  judged q attempts file removing r owned := by
    have before := (owned_go idle owned).2
    by_cases same : q = p
    · subst same
      rw [go_self] at removing
      exact judged attempts file removing r before
    · rw [go_of_ne same] at removing
      exact safe.judged q attempts file removing r before

/-- A process is free to go where it neither owns nor looks at a file. -/
theorem Safe.leave (safe : s.Safe) (known : p < s.started) (idle : phase.owned = none)
    (blind : phase.seen = none) : (s.go p phase).Safe := by
  refine safe.go known idle ?_ ?_ ?_
  · intro file looked
    rw [blind] at looked
    cases looked
  · intro attempts file pid probing
    rw [probing] at blind
    cases blind
  · intro attempts file removing
    rw [removing] at blind
    cases blind

/-- A process that does anything has started. -/
theorem Safe.known (safe : s.Safe) (busy : (s.procs p).phase ≠ .absent) : p < s.started := by
  by_contra late
  exact busy (safe.absent p (by omega))

/-- The path may be cleared once nobody owns a file. -/
theorem Safe.clear (safe : s.Safe) (free : ∀ q file, (s.procs q).phase.owned ≠ some file) :
    { s with entry := none : LockState }.Safe where
  absent := safe.absent
  entry := by simp
  named q file owned := absurd owned (free q file)
  unique := safe.unique
  blank := safe.blank
  written := safe.written
  seen := safe.seen
  probed := safe.probed
  judged := safe.judged

theorem Safe.start (safe : s.Safe) (pid : Int) :
    { s with
      procs := Function.update s.procs s.started ⟨pid, .creating 2⟩
      started := s.started + 1 : LockState }.Safe := by
  have fresh := safe.absent s.started (Nat.le_refl _)
  have owned : ∀ q file, (Function.update s.procs s.started ⟨pid, .creating 2⟩ q).phase.owned =
      some file → q ≠ s.started ∧ (s.procs q).phase.owned = some file := by
    intro q file owned
    by_cases same : q = s.started
    · subst same
      simp [LockPhase.owned] at owned
    · rw [Function.update_of_ne same] at owned
      exact ⟨same, owned⟩
  have old : ∀ q phase, (Function.update s.procs s.started ⟨pid, .creating 2⟩ q).phase = phase →
      phase ≠ .creating 2 → q ≠ s.started ∧ (s.procs q).phase = phase := by
    intro q phase at_phase other
    by_cases same : q = s.started
    · subst same
      rw [Function.update_self] at at_phase
      exact absurd at_phase.symm other
    · rw [Function.update_of_ne same] at at_phase
      exact ⟨same, at_phase⟩
  constructor
  · intro q late
    have late : s.started + 1 ≤ q := late
    have other : q ≠ s.started := by omega
    show (Function.update s.procs s.started ⟨pid, .creating 2⟩ q).phase = _
    rw [Function.update_of_ne other]
    exact safe.absent q (by omega)
  · exact safe.entry
  · intro q file own
    exact safe.named q file (owned q file own).2
  · intro q r file left right
    exact safe.unique q r file (owned q file left).2 (owned r file right).2
  · intro q file writing
    exact safe.blank q file (old q _ writing (by simp)).2
  · intro q file holding
    obtain ⟨other, before⟩ := old q _ holding (by simp)
    show _ = some (Function.update s.procs s.started ⟨pid, .creating 2⟩ q).pid
    rw [Function.update_of_ne other]
    exact safe.written q file before
  · intro q file looked
    by_cases same : q = s.started
    · subst same
      simp [LockPhase.seen] at looked
    · simp only [Function.update_of_ne same] at looked
      exact safe.seen q file looked
  · intro q attempts file pid' probing r own
    obtain ⟨other, before⟩ := owned r file own
    show (Function.update s.procs s.started ⟨pid, .creating 2⟩ r).pid = _
    rw [Function.update_of_ne other]
    exact safe.probed q attempts file pid' (old q _ probing (by simp)).2 r before
  · intro q attempts file removing r own
    exact safe.judged q attempts file (old q _ removing (by simp)).2 r (owned r file own).2

/-- Where the path names nothing nobody owns a file, so the creator is the only owner. -/
theorem Safe.create (safe : s.Safe) (known : p < s.started) (nothing : s.entry = none) :
    { s.go p (.writing s.files) with
      entry := some s.files
      content := Function.update s.content s.files none
      files := s.files + 1 : LockState }.Safe := by
  have free : ∀ q file, (s.procs q).phase.owned ≠ some file := by
    intro q file owned
    have named := safe.named q file owned
    rw [nothing] at named
    cases named
  have owner : ∀ q file, ((s.go p (.writing s.files)).procs q).phase.owned = some file →
      q = p ∧ file = s.files := by
    intro q file owned
    by_cases same : q = p
    · subst same
      rw [go_self] at owned
      exact ⟨rfl, (Option.some.inj owned).symm⟩
    · rw [go_of_ne same] at owned
      exact absurd owned (free q file)
  have old : ∀ q file, ((s.go p (.writing s.files)).procs q).phase.seen = some file →
      q ≠ p ∧ file < s.files := by
    intro q file looked
    by_cases same : q = p
    · subst same
      simp [LockPhase.seen] at looked
    · rw [go_of_ne same] at looked
      exact ⟨same, safe.seen q file looked⟩
  constructor
  · intro q late
    have late : s.started ≤ q := late
    have other : q ≠ p := by omega
    show ((s.go p _).procs q).phase = _
    rw [go_of_ne other]
    exact safe.absent q late
  · intro file same
    rw [← Option.some.inj same]
    exact Nat.lt_succ_self _
  · intro q file owned
    rw [(owner q file owned).2]
  · intro q r file left right
    rw [(owner q file left).1, (owner r file right).1]
  · intro q file writing
    have same : file = s.files := (owner q file (by rw [writing]; rfl)).2
    subst same
    exact Function.update_self _ _ _
  · intro q file holding
    have same : q = p := (owner q file (by rw [holding]; rfl)).1
    subst same
    simp at holding
  · intro q file looked
    exact Nat.lt_succ_of_lt (old q file looked).2
  · intro q attempts file pid probing r owned
    have older := (old q file (by rw [probing]; rfl)).2
    have newer := (owner r file owned).2
    omega
  · intro q attempts file removing r owned
    have older := (old q file (by rw [removing]; rfl)).2
    have newer := (owner r file owned).2
    omega

/-- The owner of a file writes its pid into it, and owns it still. -/
theorem Safe.write (safe : s.Safe) {file : Nat} (writing : (s.procs p).phase = .writing file) :
    { s.go p (.holding file) with
      content := Function.update s.content file (some (s.procs p).pid) : LockState }.Safe := by
  have mine : (s.procs p).phase.owned = some file := by rw [writing]; rfl
  have known := safe.known (p := p) (by rw [writing]; simp)
  have owner : ∀ q file', ((s.go p (.holding file)).procs q).phase.owned = some file' →
      (s.procs q).phase.owned = some file' := by
    intro q file' owned
    by_cases same : q = p
    · subst same
      rw [go_self] at owned
      rw [mine]
      exact owned
    · rwa [go_of_ne same] at owned
  have elsewhere : ∀ q file', q ≠ p → (s.procs q).phase.owned = some file' → file' ≠ file := by
    intro q file' other owned same
    subst same
    exact other (safe.unique q p file' owned mine)
  have looked : ∀ q phase, ((s.go p (.holding file)).procs q).phase = phase →
      phase ≠ .holding file → (s.procs q).phase = phase := by
    intro q phase at_phase other
    by_cases same : q = p
    · subst same
      rw [go_self] at at_phase
      exact absurd at_phase.symm other
    · rwa [go_of_ne same] at at_phase
  constructor
  · intro q late
    have late : s.started ≤ q := late
    have other : q ≠ p := by omega
    show ((s.go p _).procs q).phase = _
    rw [go_of_ne other]
    exact safe.absent q late
  · exact safe.entry
  · intro q file' owned
    exact safe.named q file' (owner q file' owned)
  · intro q r file' left right
    exact safe.unique q r file' (owner q file' left) (owner r file' right)
  · intro q file' blank
    have before := looked q _ blank (by simp)
    have other : q ≠ p := by
      intro same
      subst same
      rw [show ((s.go q (.holding file)).procs q).phase = _ from go_self] at blank
      cases blank
    have apart := elsewhere q file' other (by rw [before]; rfl)
    show Function.update s.content file _ file' = none
    rw [Function.update_of_ne apart]
    exact safe.blank q file' before
  · intro q file' holding
    show Function.update s.content file _ file' = some ((s.go p _).procs q).pid
    rw [go_pid]
    by_cases same : q = p
    · subst same
      rw [show ((s.go q (.holding file)).procs q).phase = _ from go_self] at holding
      cases holding
      exact Function.update_self _ _ _
    · have before : (s.procs q).phase = .holding file' := by
        rwa [show (s.go p (.holding file)).procs q = _ from go_of_ne same] at holding
      rw [Function.update_of_ne (elsewhere q file' same (by rw [before]; rfl))]
      exact safe.written q file' before
  · intro q file' seen
    have seen : ((s.go p (.holding file)).procs q).phase.seen = some file' := seen
    have before := looked q _ rfl (by
      intro same
      rw [same] at seen
      cases seen)
    rw [← before] at seen
    exact safe.seen q file' seen
  · intro q attempts file' pid probing r owned
    show ((s.go p _).procs r).pid = _
    rw [go_pid]
    exact safe.probed q attempts file' pid (looked q _ probing (by simp)) r (owner r file' owned)
  · intro q attempts file' removing r owned
    exact safe.judged q attempts file' (looked q _ removing (by simp)) r (owner r file' owned)

theorem alive_of_owned (safe : s.Safe) {file : Nat}
    (owned : (s.procs p).phase.owned = some file) : s.alive (s.procs p).pid = true := by
  have live : (s.procs p).live = true := by
    unfold LoomdProcess.live
    cases phase : (s.procs p).phase <;> simp [phase, LockPhase.owned] at owned ⊢
  have known : p < s.started := by
    apply safe.known
    intro absent
    rw [absent] at owned
    cases owned
  unfold alive
  rw [Bool.or_eq_true, List.any_eq_true]
  exact .inr ⟨p, List.mem_range.mpr known, by simp [live]⟩

theorem Safe.busy (safe : s.Safe) {phase : LockPhase} (same : (s.procs p).phase = phase)
    (other : phase ≠ .absent) : p < s.started :=
  safe.known (same ▸ other)

theorem Safe.createNew (safe : s.Safe) {s' : LockState}
    (enabled : s.step (.createNew p) = some s') : s'.Safe := by
  simp only [LockState.step] at enabled
  split at enabled
  · rename_i last
    rw [← Option.some.inj enabled]
    exact safe.leave (safe.busy last (by simp)) rfl rfl
  · rename_i attempts creating
    split at enabled
    · rw [← Option.some.inj enabled]
      exact safe.leave (safe.busy creating (by simp)) rfl rfl
    · rename_i nothing
      rw [← Option.some.inj enabled]
      exact safe.create (safe.busy creating (by simp)) nothing
  · cases enabled

theorem Safe.openFile (safe : s.Safe) {s' : LockState}
    (enabled : s.step (.openFile p) = some s') : s'.Safe := by
  simp only [LockState.step] at enabled
  split at enabled
  · rename_i attempts opening
    have known := safe.busy opening (by simp)
    split at enabled
    · rename_i file named
      rw [← Option.some.inj enabled]
      refine safe.go known rfl ?_ (by simp) (by simp)
      intro file' same
      rw [← Option.some.inj same]
      exact safe.entry file named
    · rw [← Option.some.inj enabled]
      exact safe.leave known rfl rfl
  · cases enabled

/-- What is read is the pid of the owner, since nobody is still about to write it. -/
theorem Safe.readPid (safe : s.Safe) (outside : OutsideWindows s (.readPid p)) {s' : LockState}
    (enabled : s.step (.readPid p) = some s') : s'.Safe := by
  simp only [LockState.step] at enabled
  split at enabled
  · rename_i attempts file reading
    have known := safe.busy reading (by simp)
    have inside := safe.seen p file (by rw [reading]; rfl)
    have finished : ∀ q, (s.procs q).phase ≠ .writing file := by
      intro q writing
      simp only [OutsideWindows, reading] at outside
      exact outside q (safe.busy writing (by simp)) writing
    split at enabled
    · rename_i pid text
      rw [← Option.some.inj enabled]
      refine safe.go known rfl ?_ ?_ (by simp)
      · intro file' same
        rw [← Option.some.inj same]
        exact inside
      · intro _ file' pid' same q owned
        cases same
        cases phase : (s.procs q).phase <;> rw [phase] at owned <;> cases owned
        · exact absurd phase (finished q)
        · have written := safe.written q file phase
          rw [text] at written
          exact (Option.some.inj written).symm
    · rename_i empty
      rw [← Option.some.inj enabled]
      refine safe.go known rfl ?_ (by simp) ?_
      · intro file' same
        rw [← Option.some.inj same]
        exact inside
      · intro _ file' same q owned
        cases same
        cases phase : (s.procs q).phase <;> rw [phase] at owned <;> cases owned
        · exact absurd phase (finished q)
        · have written := safe.written q file phase
          rw [empty] at written
          cases written
  · cases enabled

/-- No owner is judged dead. -/
theorem Safe.kill (safe : s.Safe) {s' : LockState}
    (enabled : s.step (.kill p) = some s') : s'.Safe := by
  simp only [LockState.step] at enabled
  split at enabled
  · rename_i attempts file pid probing
    have known := safe.busy probing (by simp)
    rw [← Option.some.inj enabled]
    by_cases answer : s.alive pid = true
    · rw [if_pos answer]
      exact safe.leave known rfl rfl
    · rw [if_neg answer]
      refine safe.go known rfl ?_ (by simp) ?_
      · intro file' same
        rw [← Option.some.inj same]
        exact safe.seen p file (by rw [probing]; rfl)
      · intro _ file' same q owned
        cases same
        have own := alive_of_owned safe owned
        rw [safe.probed p attempts file pid probing q owned] at own
        exact answer own
  · cases enabled

/-- The file that goes is the one that was judged, and has no owner. -/
theorem Safe.removeFile (safe : s.Safe) (outside : OutsideWindows s (.removeFile p))
    {s' : LockState} (enabled : s.step (.removeFile p) = some s') : s'.Safe := by
  simp only [LockState.step] at enabled
  split at enabled
  · rename_i attempts file removing
    have known := safe.busy removing (by simp)
    split at enabled
    · rename_i named entry
      have same : named = file := by
        simp only [OutsideWindows, removing, entry] at outside
        simpa using outside
      have free : ∀ q file', (s.procs q).phase.owned ≠ some file' := by
        intro q file' owned
        have names := safe.named q file' owned
        rw [entry, same] at names
        cases names
        exact safe.judged p attempts file removing q owned
      rw [← Option.some.inj enabled]
      refine (safe.leave known rfl rfl).clear ?_
      intro q file' owned
      exact free q file' (owned_go rfl owned).2
    · rw [← Option.some.inj enabled]
      exact safe.leave known rfl rfl
  · cases enabled

theorem Safe.drop (safe : s.Safe) {removed : Bool} {s' : LockState}
    (enabled : s.step (.drop p removed) = some s') : s'.Safe := by
  simp only [LockState.step] at enabled
  split at enabled
  · rename_i file holding
    have known := safe.busy holding (by simp)
    have left : (s.go p .released).Safe := safe.leave known rfl rfl
    rw [← Option.some.inj enabled]
    cases removed with
    | false => exact left
    | true =>
      refine left.clear ?_
      intro q file' owned
      obtain ⟨other, before⟩ := owned_go rfl owned
      have mine : (s.procs p).phase.owned = some file := by rw [holding]; rfl
      have names := safe.named q file' before
      rw [safe.named p file mine] at names
      cases names
      exact other (safe.unique q p file before mine)
  · cases enabled

/-- Outside the windows every step keeps the lock safe. -/
theorem Safe.step (safe : s.Safe) {a : LockStep} (outside : OutsideWindows s a) {s' : LockState}
    (enabled : s.step a = some s') : s'.Safe := by
  cases a with
  | start pid =>
    rw [← Option.some.inj enabled]
    exact safe.start pid
  | createNew p => exact safe.createNew enabled
  | writePid p =>
    simp only [LockState.step] at enabled
    split at enabled
    · rename_i file writing
      rw [← Option.some.inj enabled]
      exact safe.write writing
    · cases enabled
  | openFile p => exact safe.openFile enabled
  | readPid p => exact safe.readPid outside enabled
  | kill p => exact safe.kill enabled
  | removeFile p => exact safe.removeFile outside enabled
  | ioError p =>
    simp only [LockState.step] at enabled
    split at enabled <;> first
      | cases enabled; done
      | rename_i phase
        rw [← Option.some.inj enabled]
        exact safe.leave (safe.busy phase (by simp)) rfl rfl
  | drop p removed => exact safe.drop enabled
  | exit p =>
    simp only [LockState.step] at enabled
    split at enabled
    · rename_i live
      have known : p < s.started := by
        apply safe.known
        intro absent
        simp [LoomdProcess.live, absent] at live
      rw [← Option.some.inj enabled]
      exact safe.leave known rfl rfl
    · cases enabled
  | other pid alive =>
    rw [← Option.some.inj enabled]
    exact ⟨safe.absent, safe.entry, safe.named, safe.unique, safe.blank, safe.written, safe.seen,
      safe.probed, safe.judged⟩

end LockState

theorem daemonLock_safe {s : LockState} (reached : daemonLock.ReachableVia OutsideWindows s) :
    s.Safe := by
  refine reached.invariant LockState.Safe ?_ ?_
  · intro s first
    obtain ⟨_, absent, entry⟩ := first
    constructor
    · exact fun p _ => absent p
    · exact entry
    · simp [absent, LockPhase.owned]
    · simp [absent, LockPhase.owned]
    · simp [absent]
    · simp [absent]
    · simp [absent, LockPhase.seen]
    · simp [absent]
    · simp [absent]
  · intro s a s' _ safe outside enabled
    exact safe.step outside enabled

/-- In every run outside the windows, at most one live process holds the lock. -/
theorem lock_exclusive {s : LockState} (reached : daemonLock.ReachableVia OutsideWindows s)
    {p q file file' : Nat} (first : (s.procs p).phase = .holding file)
    (second : (s.procs q).phase = .holding file') : p = q := by
  have safe := daemonLock_safe reached
  have owned : (s.procs p).phase.owned = some file := by rw [first]; rfl
  have owned' : (s.procs q).phase.owned = some file' := by rw [second]; rfl
  have named := safe.named p file owned
  rw [safe.named q file' owned'] at named
  cases named
  exact safe.unique p q file owned owned'

/-- A path that a dead process left its lock file at. -/
def leftLock : LockState where
  entry := some 0
  content := fun _ => some 99
  files := 1

/-- One process takes the left file over, and another one finds it alive. -/
def takeOver : List LockStep :=
  [.start 10, .createNew 0, .openFile 0, .readPid 0, .kill 0, .removeFile 0, .createNew 0,
   .start 20, .writePid 0, .createNew 1, .openFile 1, .readPid 1, .kill 1, .exit 1]

theorem lock_exclusive_sample :
    (daemonLock.runIf OutsideWindows leftLock takeOver).map (fun s =>
      ((s.procs 0).phase, (s.procs 1).phase)) = some (.holding 1, .gone) ∧
    ∃ s, daemonLock.ReachableVia OutsideWindows s ∧ (s.procs 0).phase = .holding 1 ∧
      ∀ q file, (s.procs q).phase = .holding file → 0 = q := by
  have ran : (daemonLock.runIf OutsideWindows leftLock takeOver).map (fun s =>
      ((s.procs 0).phase, (s.procs 1).phase)) = some (.holding 1, .gone) := by decide +kernel
  refine ⟨ran, ?_⟩
  obtain ⟨s, replay, phases⟩ := Option.map_eq_some_iff.mp ran
  have first : daemonLock.start leftLock := ⟨rfl, fun _ => rfl, by simp [leftLock]⟩
  have reached := (System.ReachableVia.start first).run (System.runIf_runVia replay)
  have holder : (s.procs 0).phase = .holding 1 := congrArg Prod.fst phases
  exact ⟨s, reached, holder, fun q file holds => lock_exclusive reached holder holds⟩

/-- Two processes start without a lock file. The second one reads the file that the first has
created but not written yet, takes it for a dead one's, and removes it under the first. -/
def emptyWindow : List LockStep :=
  [.start 10, .start 20, .createNew 0, .createNew 1, .openFile 1, .readPid 1, .writePid 0,
   .removeFile 1, .createNew 1, .writePid 1]

/-- Both processes find the file of a dead one; the first replaces it before the second
removes what it takes for that file. -/
def removeWindow : List LockStep :=
  [.start 10, .start 20, .createNew 0, .openFile 0, .readPid 0, .kill 0, .createNew 1,
   .openFile 1, .readPid 1, .kill 1, .removeFile 0, .createNew 0, .writePid 0, .removeFile 1,
   .createNew 1, .writePid 1]

/-- Through either window two live processes come to hold the lock. -/
theorem lock_held_twice :
    (∃ s, daemonLock.Reachable s ∧ (s.procs 0).phase = .holding 0 ∧
      (s.procs 1).phase = .holding 1) ∧
    ∃ s, daemonLock.Reachable s ∧ (s.procs 0).phase = .holding 1 ∧
      (s.procs 1).phase = .holding 2 := by
  constructor
  · have ran : (daemonLock.run {} emptyWindow).map (fun s =>
        ((s.procs 0).phase, (s.procs 1).phase)) = some (.holding 0, .holding 1) := by
      decide +kernel
    obtain ⟨s, replay, phases⟩ := Option.map_eq_some_iff.mp ran
    have first : daemonLock.start {} := ⟨rfl, fun _ => rfl, by simp⟩
    exact ⟨s, System.run_reachable first replay, congrArg Prod.fst phases,
      congrArg Prod.snd phases⟩
  · have ran : (daemonLock.run leftLock removeWindow).map (fun s =>
        ((s.procs 0).phase, (s.procs 1).phase)) = some (.holding 1, .holding 2) := by
      decide +kernel
    obtain ⟨s, replay, phases⟩ := Option.map_eq_some_iff.mp ran
    have first : daemonLock.start leftLock := ⟨rfl, fun _ => rfl, by simp [leftLock]⟩
    exact ⟨s, System.run_reachable first replay, congrArg Prod.fst phases,
      congrArg Prod.snd phases⟩

end Loomterm
