import Loomterm.Supervisor.Protocol

/-!
# The signals of a supervisor

The loop of `run` signals the process group at the first cancellation that it takes. It is left
when the leader has exited, and whoever asks later is heard by nobody: then nothing of the group
may be left, or it must have been killed. A signal that the system refuses reaches nobody.
-/

namespace Loomterm

/-- The steps for which a supervisor waits for nobody else, and whose signals are taken. -/
def SupervisorStep.own : SupervisorStep → Bool
  | .start | .message none | .deadline none | .report | .sendFlush | .awaitFlush => true
  | .forward _ | .relay | .stopWriter => true
  | _ => false

/-- The steps of `run`. -/
def SupervisorStep.ofMain : SupervisorStep → Bool
  | .begin .. | .start | .wait .. | .message _ | .deadline _ | .join _ | .joinStdin _ => true
  | .report | .sendFlush | .awaitFlush => true
  | _ => false

/-- The steps of the process group. -/
def SupervisorStep.ofGroup : SupervisorStep → Bool
  | .leaderExits _ | .fork | .othersExit => true
  | _ => false

namespace Supervisor

/-- The loop has been left. -/
def Left (s : Supervisor) : Prop :=
  match s.main with
  | .receiving | .sendStarted _ | .looping => False
  | _ => True

/-- Nothing but the end of the pipes of the command is waited for. -/
def OnlyWaits (s : Supervisor) : Prop := ∃ stream status, s.main = .joining stream status

/-- The group has been signalled, or is by steps of the supervisor alone. -/
def CanSignal (s : Supervisor) : Prop :=
  ∃ steps s', (∀ action ∈ steps, SupervisorStep.own action = true) ∧
    supervisor.run s steps = some s' ∧ s'.signals ≠ []

/-- While a member of the group lives, the loop is not left because its leader has exited: not
before a cancellation, and not because the member may not be signalled. Nor does `run` give up
before the group was signalled, and the SIGKILL of the deadline is not refused. -/
def Attentive (s : Supervisor) : SupervisorStep → Prop
  | .wait none refused => s.groupAlive = false ∨ s.cancelled = true ∧ refused = false
  | .wait (some _) _ => s.groupAlive = false ∨ s.signals ≠ []
  | .message refused => s.cancelled = true ∨ s.internal.head? ≠ some .cancel ∨ refused = none
  | .deadline refused => refused = none
  | _ => True

instance (s : Supervisor) (action : SupervisorStep) : Decidable (s.Attentive action) :=
  match action with
  | .wait none _ => inferInstanceAs (Decidable (_ ∨ _ ∧ _))
  | .wait (some _) _ => inferInstanceAs (Decidable (_ ∨ _))
  | .message _ => inferInstanceAs (Decidable (_ ∨ _ ∨ _))
  | .deadline _ => inferInstanceAs (Decidable (_ = _))
  | .begin .. | .start | .join _ | .joinStdin _ | .report | .sendFlush => .isTrue trivial
  | .awaitFlush | .read .. | .forward _ | .receive _ | .relay | .write _ => .isTrue trivial
  | .stopWriter | .leaderExits _ | .fork | .othersExit => .isTrue trivial

/-- What `run` and the group have to do with signals. -/
def group (s : Supervisor) : MainPoint × Bool × Bool × Leader × Bool × List Signal :=
  (s.main, s.cancelled, s.killDeadline, s.leader, s.others, s.signals)

variable {s s' : Supervisor}

theorem sendEvent_group {event : SupervisorEvent} {opened : Bool}
    (sent : s.sendEvent event = some (s', opened)) : s'.group = s.group := by
  rcases Valid.sendEvent_eq_some sent with ⟨_, _, rfl⟩ | ⟨_, _, rfl⟩ <;> rfl

theorem notify_group {event : InternalEvent} {opened : Bool}
    (told : s.notify event = some (s', opened)) : s'.group = s.group := by
  obtain ⟨internal, rfl⟩ := Valid.notify_eq_some told
  rfl

/-- Only `run` sends signals, and only the group changes the group. -/
theorem aside_group {action : SupervisorStep} (aside : action.ofMain = false)
    (apart : action.ofGroup = false) (stepped : s.step action = some s') :
    s'.group = s.group := by
  cases action with
  | read stream result =>
    obtain ⟨_, same⟩ := Option.ite_none_right_eq_some.mp stepped
    cases same
    unfold Supervisor.read
    split <;> rfl
  | forward stream =>
    simp only [Supervisor.step, Supervisor.forward] at stepped
    split at stepped
    · obtain ⟨⟨told, opened⟩, sent, same⟩ := Option.map_eq_some_iff.mp stepped
      cases same
      have kept := sendEvent_group sent
      exact kept
    · obtain ⟨⟨told, opened⟩, sent, same⟩ := Option.map_eq_some_iff.mp stepped
      cases same
      have kept := notify_group sent
      exact kept
    · cases stepped
  | receive frame =>
    obtain ⟨_, same⟩ := Option.ite_none_right_eq_some.mp stepped
    cases same
    rfl
  | relay =>
    simp only [Supervisor.step, Supervisor.relay] at stepped
    split at stepped
    · obtain ⟨⟨told, opened⟩, sent, same⟩ := Option.map_eq_some_iff.mp stepped
      cases same
      have kept := notify_group sent
      exact kept
    · cases stepped
  | write succeeds =>
    obtain ⟨_, went⟩ := Option.ite_none_right_eq_some.mp stepped
    unfold Supervisor.write at went
    split at went
    · cases went
    · split at went
      · split at went <;> (cases went; rfl)
      · cases went
        rfl
  | stopWriter =>
    obtain ⟨_, went⟩ := Option.ite_none_right_eq_some.mp stepped
    obtain ⟨⟨told, opened⟩, sent, same⟩ := Option.map_eq_some_iff.mp went
    cases same
    have kept := notify_group sent
    exact kept
  | _ => first
      | exact absurd aside.symm Bool.false_ne_true
      | exact absurd apart.symm Bool.false_ne_true

/-! ## Behind the loop -/

theorem left_of_main (same : s'.main = s.main) (left : s.Left) : s'.Left := by
  unfold Left
  rw [same]
  exact left

theorem sendEvent_main {event : SupervisorEvent} {opened : Bool}
    (sent : s.sendEvent event = some (s', opened)) :
    s'.cancelled = s.cancelled ∧ s'.signals = s.signals ∧ s'.leader = s.leader ∧
      s'.others = s.others := by
  rcases Valid.sendEvent_eq_some sent with ⟨_, _, rfl⟩ | ⟨_, _, rfl⟩ <;> exact ⟨rfl, rfl, rfl, rfl⟩

/-- Behind the loop `run` goes on to its end, and signals nobody. -/
theorem left_main {action : SupervisorStep} (left : s.Left) (own : action.ofMain = true)
    (stepped : s.step action = some s') :
    s'.Left ∧ s'.cancelled = s.cancelled ∧ s'.signals = s.signals ∧ s'.leader = s.leader ∧
      s'.others = s.others := by
  unfold Left at left
  cases point : s.main with
  | receiving => simp only [point] at left
  | sendStarted pid => simp only [point] at left
  | looping => simp only [point] at left
  | joining stream status =>
    cases action with
    | join panicked =>
      simp only [Supervisor.step, point, Supervisor.join] at stepped
      split at stepped
      · cases stepped
        exact ⟨trivial, rfl, rfl, rfl, rfl⟩
      · split at stepped <;> (cases stepped; exact ⟨trivial, rfl, rfl, rfl, rfl⟩)
      · cases stepped
    | _ => first | exact absurd own Bool.false_ne_true | simp [Supervisor.step, point] at stepped
  | joiningStdin status =>
    cases action with
    | joinStdin failed =>
      simp only [Supervisor.step, point, Supervisor.joinStdin] at stepped
      split at stepped
      · cases stepped
        exact ⟨trivial, rfl, rfl, rfl, rfl⟩
      · split at stepped <;> (cases stepped; exact ⟨trivial, rfl, rfl, rfl, rfl⟩)
    | _ => first | exact absurd own Bool.false_ne_true | simp [Supervisor.step, point] at stepped
  | report outcome =>
    cases action with
    | report =>
      simp only [Supervisor.step, point, Supervisor.report] at stepped
      obtain ⟨⟨told, opened⟩, sent, same⟩ := Option.map_eq_some_iff.mp stepped
      have kept := sendEvent_main sent
      cases opened <;> (cases same; exact ⟨trivial, kept⟩)
    | _ => first | exact absurd own Bool.false_ne_true | simp [Supervisor.step, point] at stepped
  | sendFlush =>
    cases action with
    | sendFlush =>
      simp only [Supervisor.step, point, Supervisor.sendFlush] at stepped
      split at stepped
      · cases stepped
        exact ⟨trivial, rfl, rfl, rfl, rfl⟩
      · split at stepped
        · cases stepped
          exact ⟨trivial, rfl, rfl, rfl, rfl⟩
        · cases stepped
    | _ => first | exact absurd own Bool.false_ne_true | simp [Supervisor.step, point] at stepped
  | flushing =>
    cases action with
    | awaitFlush =>
      simp only [Supervisor.step, point, Supervisor.awaitFlush] at stepped
      split at stepped
      · cases stepped
        exact ⟨trivial, rfl, rfl, rfl, rfl⟩
      · split at stepped
        · cases stepped
          exact ⟨trivial, rfl, rfl, rfl, rfl⟩
        · cases stepped
    | _ => first | exact absurd own Bool.false_ne_true | simp [Supervisor.step, point] at stepped
  | returned result =>
    cases action <;> first
      | exact absurd own Bool.false_ne_true
      | simp [Supervisor.step, point] at stepped

/-- The group lives on only if it was alive. -/
theorem group_step {action : SupervisorStep} (outside : action.ofGroup = true)
    (stepped : s.step action = some s') :
    ∃ leader others, s' = { s with leader, others } ∧ (s'.Alive → s.Alive) := by
  cases action with
  | leaderExits status =>
    obtain ⟨running, same⟩ := Option.ite_none_right_eq_some.mp stepped
    cases same
    exact ⟨_, _, rfl, fun _ => .inl running⟩
  | fork =>
    obtain ⟨alive, same⟩ := Option.ite_none_right_eq_some.mp stepped
    cases same
    exact ⟨_, _, rfl, fun _ => alive⟩
  | othersExit =>
    cases stepped
    refine ⟨_, _, rfl, ?_⟩
    rintro (running | other)
    · exact .inl running
    · cases other
  | _ => cases outside

/-- Once the loop is left, no signal is sent any more, and the group can only die. -/
theorem left_step {action : SupervisorStep} (left : s.Left)
    (stepped : s.step action = some s') :
    s'.Left ∧ s'.signals = s.signals ∧ (s'.Alive → s.Alive) := by
  cases own : action.ofMain with
  | true =>
    obtain ⟨behind, _, signals, leader, others⟩ := left_main left own stepped
    refine ⟨behind, signals, ?_⟩
    unfold Alive
    rw [leader, others]
    exact id
  | false =>
    cases outside : action.ofGroup with
    | true =>
      obtain ⟨leader, others, rfl, alive⟩ := group_step outside stepped
      exact ⟨left, rfl, alive⟩
    | false =>
      have kept := aside_group own outside stepped
      simp only [group, Prod.mk.injEq] at kept
      obtain ⟨main, _, _, leader, others, signals⟩ := kept
      refine ⟨left_of_main main left, signals, ?_⟩
      unfold Alive
      rw [leader, others]
      exact id

theorem left_run {steps : List SupervisorStep} (left : s.Left)
    (ran : supervisor.run s steps = some s') : s'.signals = s.signals := by
  induction steps generalizing s with
  | nil =>
    cases ran
    rfl
  | cons action rest ih =>
    obtain ⟨next, stepped, after⟩ := Option.bind_eq_some_iff.mp ran
    obtain ⟨behind, signals, _⟩ := left_step left stepped
    exact (ih behind after).trans signals

/-! ## Up to the end of the loop -/

/-- Nothing was given to the writer, and no message was taken. -/
def Fresh (s : Supervisor) : Prop :=
  s.writer = .writing ∧ s.outgoing = [] ∧ s.cancelled = false

/-- What holds of the group at each await of `run`. -/
def Placed (s : Supervisor) : Prop :=
  match s.main with
  | .receiving => s.Fresh ∧ s.others = false ∧ s.control = .idle
  | .sendStarted _ => s.Fresh
  | .looping => s.cancelled = true → s.killDeadline = true ∨ .kill ∈ s.signals
  | .returned _ => s.Alive → s.signals ≠ []
  | _ => s.Alive → .kill ∈ s.signals

/-- What every supervisor keeps to whose loop is left as it should be. -/
structure Minded (s : Supervisor) : Prop where
  valid : s.Valid
  placed : s.Placed

/-- Behind the loop a group that lives has been signalled. -/
theorem Placed.left (placed : s.Placed) (left : s.Left) (alive : s.Alive) : s.signals ≠ [] := by
  unfold Placed at placed
  unfold Left at left
  split at placed
  · simp_all
  · simp_all
  · simp_all
  · exact placed alive
  · exact List.ne_nil_of_mem (placed alive)

theorem Placed.onlyWaits (placed : s.Placed) (waits : s.OnlyWaits) (alive : s.Alive) :
    .kill ∈ s.signals := by
  obtain ⟨stream, status, joining⟩ := waits
  rw [Placed, joining] at placed
  exact placed alive

theorem kill_mem_deadline (s : Supervisor) : .kill ∈ (s.deadline none).signals := by
  cases present : s.exited <;> simp [Supervisor.deadline, terminate, present]

namespace Minded

/-- The first message that the loop takes makes it signal the group, and wait for the deadline. -/
theorem handle (looping : s.main = .looping) (placed : s.Placed) (event : InternalEvent)
    (refused : Option String)
    (taken : s.cancelled = true ∨ event ≠ .cancel ∨ refused = none) :
    (s.handle event refused).Placed := by
  rw [Placed, looping] at placed
  have once (refused : Option String) : (s.cancelOnce refused).main = .looping ∧
      ((s.cancelOnce refused).killDeadline = true ∨ .kill ∈ (s.cancelOnce refused).signals) := by
    obtain ⟨signals, same⟩ := s.terminate_keeps .term refused
    unfold cancelOnce
    rw [same]
    split
    · rename_i already
      exact ⟨looping, placed already⟩
    · exact ⟨looping, .inl rfl⟩
  cases event with
  | cancel =>
    simp only [Supervisor.handle]
    split
    · rw [Placed, looping]
      exact placed
    · rename_i unasked
      have given : refused = none := by simpa [unasked] using taken
      subst given
      simp only [Placed, (once none).1]
      exact fun _ => (once none).2
  | daemonGone =>
    simp only [Supervisor.handle, Placed, (once refused).1]
    exact fun _ => (once refused).2
  | captureFailed reason =>
    simp only [Supervisor.handle, Placed, (once refused).1]
    exact fun _ => (once refused).2

theorem message (minded : s.Minded) (looping : s.main = .looping) {event : InternalEvent}
    {rest : List InternalEvent} (queued : s.internal = event :: rest) {refused : Option String}
    (attentive : s.Attentive (.message refused)) :
    (Supervisor.handle { s with internal := rest, processed := s.processed ++ [event] }
      event refused).Minded := by
  have placed := minded.placed
  rw [Placed, looping] at placed
  refine ⟨minded.valid.message looping event rest refused, ?_⟩
  apply handle (s := { s with internal := rest, processed := s.processed ++ [event] }) looping
  · simpa only [Placed, looping] using placed
  · simpa [Attentive, queued] using attentive

/-- The loop is left with a live group only when it has been killed. -/
theorem wait (minded : s.Minded) (looping : s.main = .looping) {status : ExitStatus}
    (ended : s.leader = .exited status) {refused : Bool}
    (attentive : s.Attentive (.wait none refused)) : (s.wait status refused).Minded := by
  refine ⟨minded.valid.wait looping ended refused, ?_⟩
  have placed := minded.placed
  rw [Placed, looping] at placed
  unfold Supervisor.wait
  split
  · rename_i leaves
    show s.Alive → .kill ∈ s.signals
    rintro (running | other)
    · rw [ended] at running
      cases running
    · have group : s.groupAlive = true := other
      obtain dead | ⟨cancelled, answered⟩ := attentive
      · rw [group] at dead
        cases dead
      · have noDeadline : s.killDeadline = false := by
          simpa [processGroupAlive, group, answered] using leaves
        simpa [noDeadline] using placed cancelled
  · simpa only [Placed, looping] using placed

theorem deadline (minded : s.Minded) (looping : s.main = .looping) :
    (s.deadline none).Minded := by
  refine ⟨minded.valid.deadline looping none, ?_⟩
  have killed := s.kill_mem_deadline
  cases present : s.exited with
  | some status =>
    simp only [Supervisor.deadline, terminate, present] at killed ⊢
    exact fun _ => killed
  | none =>
    simp only [Supervisor.deadline, terminate, present] at killed ⊢
    simp only [Placed, looping]
    exact fun _ => .inr killed

/-- A command that cannot be started has no group. -/
theorem begin (minded : s.Minded) (receiving : s.main = .receiving)
    (first : Option (Except Error SupervisorCommand)) (launched : Except String Nat) :
    (s.begin first launched).Minded := by
  have placed := minded.placed
  rw [Placed, receiving] at placed
  obtain ⟨fresh, nobody, _⟩ := placed
  have standing := minded.valid.standing
  rw [Standing, receiving] at standing
  have dead : ¬ s.Alive := by
    rintro (running | other)
    · rw [standing.2] at running
      cases running
    · rw [nobody] at other
      cases other
  refine ⟨minded.valid.begin receiving first launched, ?_⟩
  unfold Supervisor.begin
  split
  · exact fun alive => absurd alive dead
  · exact fun alive => absurd alive dead
  · exact fun alive => absurd alive dead
  · dsimp only
    split
    · exact fun alive => absurd alive dead
    · exact fun alive => absurd alive dead
    · exact fresh

/-- Started finds an empty queue, and the loop begins. -/
theorem start_eq {pid : Nat} (minded : s.Minded) (starting : s.main = .sendStarted pid) :
    s.start pid = some { s with
      main := .looping, captures := fun _ => { point := .reading },
      outgoing := [.event (.started pid pid)], sent := s.sent ++ [.started pid pid] } := by
  have placed := minded.placed
  rw [Placed, starting] at placed
  obtain ⟨writing, nothing, _⟩ := placed
  simp [Supervisor.start, sendEvent, writing, nothing, eventQueueDepth]

theorem start (minded : s.Minded) {pid : Nat} (starting : s.main = .sendStarted pid)
    (went : s.start pid = some s') : s'.Minded := by
  refine ⟨minded.valid.start starting went, ?_⟩
  have placed := minded.placed
  rw [Placed, starting] at placed
  rw [minded.start_eq starting] at went
  cases went
  intro cancelled
  exact absurd (placed.2.2.symm.trans cancelled) Bool.false_ne_true

end Minded

theorem Placed.of_left (left : s.Left) (killed : s.Alive → .kill ∈ s.signals) : s.Placed := by
  unfold Left at left
  unfold Placed
  cases point : s.main with
  | receiving => simp only [point] at left
  | sendStarted pid => simp only [point] at left
  | looping => simp only [point] at left
  | returned result => exact fun alive => List.ne_nil_of_mem (killed alive)
  | _ => exact killed

/-- A step at one await leaves what holds of the group there. -/
theorem Placed.of_group (placed : s.Placed) (same : s'.group = s.group) (standing : s.Standing)
    (fresh : s.Quiet → s.Fresh → s'.Fresh ∧ (s.control = .idle → s'.control = .idle)) :
    s'.Placed := by
  simp only [group, Prod.mk.injEq] at same
  obtain ⟨main, cancelled, deadline, leader, others, signals⟩ := same
  have alive : s'.Alive ↔ s.Alive := by rw [Alive, Alive, leader, others]
  unfold Placed at placed ⊢
  unfold Standing at standing
  rw [main]
  cases point : s.main with
  | receiving =>
    rw [point] at placed standing
    obtain ⟨start, nobody, resting⟩ := placed
    obtain ⟨remains, rests⟩ := fresh standing.1 start
    exact ⟨remains, others.trans nobody, rests resting⟩
  | sendStarted pid =>
    rw [point] at placed standing
    exact (fresh standing placed).1
  | looping =>
    rw [point] at placed
    simpa only [cancelled, deadline, signals] using placed
  | _ =>
    rw [point] at placed
    simpa only [alive, signals] using placed

/-- The other tasks give nothing to the writer before Started. -/
theorem aside_fresh {action : SupervisorStep} (idle : ∀ stream, (s.captures stream).point = .idle)
    (aside : action.ofMain = false) (apart : action.ofGroup = false) (fresh : s.Fresh)
    (stepped : s.step action = some s') :
    s'.Fresh ∧ (s.control = .idle → s'.control = .idle) := by
  obtain ⟨writing, nothing, uncancelled⟩ := fresh
  cases action with
  | read stream result =>
    obtain ⟨⟨reading, _⟩, _⟩ := Option.ite_none_right_eq_some.mp stepped
    rw [idle stream] at reading
    cases reading
  | forward stream =>
    simp only [Supervisor.step, Supervisor.forward, idle stream] at stepped
    cases stepped
  | receive frame =>
    obtain ⟨reading, same⟩ := Option.ite_none_right_eq_some.mp stepped
    cases same
    refine ⟨⟨writing, nothing, uncancelled⟩, fun resting => ?_⟩
    rw [resting] at reading
    cases reading
  | relay =>
    simp only [Supervisor.step, Supervisor.relay] at stepped
    split at stepped
    · rename_i sending
      obtain ⟨⟨told, opened⟩, sent, same⟩ := Option.map_eq_some_iff.mp stepped
      obtain ⟨internal, rfl⟩ := Valid.notify_eq_some sent
      cases same
      refine ⟨⟨writing, nothing, uncancelled⟩, fun resting => ?_⟩
      rw [resting] at sending
      cases sending
    · cases stepped
  | write succeeds =>
    obtain ⟨_, went⟩ := Option.ite_none_right_eq_some.mp stepped
    simp only [Supervisor.write, nothing] at went
    cases went
  | stopWriter =>
    obtain ⟨failing, _⟩ := Option.ite_none_right_eq_some.mp stepped
    rw [writing] at failing
    cases failing
  | _ => first
      | exact absurd aside.symm Bool.false_ne_true
      | exact absurd apart.symm Bool.false_ne_true

/-- Before `run` has returned, a group that lives behind the loop has been killed. -/
theorem Placed.killed (placed : s.Placed) (left : s.Left) (running : s.returned = false)
    (alive : s.Alive) : .kill ∈ s.signals := by
  unfold Left at left
  unfold Placed at placed
  unfold returned at running
  cases point : s.main with
  | receiving => simp only [point] at left
  | sendStarted pid => simp only [point] at left
  | looping => simp only [point] at left
  | returned result => simp [point] at running
  | _ =>
    rw [point] at placed
    exact placed alive

theorem running_of_main {action : SupervisorStep} (own : action.ofMain = true)
    (stepped : s.step action = some s') : s.returned = false := by
  unfold returned
  split
  · rename_i point
    cases action <;> first
      | exact absurd own Bool.false_ne_true
      | simp [Supervisor.step, point] at stepped
  · rfl

namespace Minded

theorem aside (minded : s.Minded) {action : SupervisorStep} (aside : action.ofMain = false)
    (apart : action.ofGroup = false) (stepped : s.step action = some s') : s'.Minded := by
  have same := aside_group aside apart stepped
  refine ⟨minded.valid.step stepped, minded.placed.of_group same minded.valid.standing ?_⟩
  intro quiet fresh
  exact aside_fresh quiet.2 aside apart fresh stepped

theorem outside (minded : s.Minded) {action : SupervisorStep} (outside : action.ofGroup = true)
    (stepped : s.step action = some s') : s'.Minded := by
  have valid := minded.valid.step stepped
  obtain ⟨leader, others, rfl, alive⟩ := group_step outside stepped
  refine ⟨valid, ?_⟩
  have placed := minded.placed
  have standing := minded.valid.standing
  unfold Placed at placed ⊢
  unfold Standing at standing
  cases point : s.main with
  | receiving =>
    rw [point] at placed standing
    refine ⟨placed.1, ?_, placed.2.2⟩
    have dead : ¬ s.Alive := by
      rw [Alive, standing.2, placed.2.1]
      simp
    cases other : others with
    | false => rfl
    | true => exact absurd (alive (.inr other)) dead
  | sendStarted pid =>
    rw [point] at placed
    exact placed
  | looping =>
    rw [point] at placed
    exact placed
  | _ =>
    rw [point] at placed
    exact fun lives => placed (alive lives)

/-- `run` behind its loop. -/
theorem behind (minded : s.Minded) {action : SupervisorStep} (left : s.Left)
    (own : action.ofMain = true) (stepped : s.step action = some s') : s'.Minded := by
  obtain ⟨behind, _, signals, leader, others⟩ := left_main left own stepped
  have running := running_of_main own stepped
  refine ⟨minded.valid.step stepped, Placed.of_left behind ?_⟩
  rw [signals, Alive, leader, others]
  exact minded.placed.killed left running

/-- When the leader cannot be waited for, `run` leaves its loop. -/
theorem waitFailed (minded : s.Minded) {status : ExitStatus} (ended : s.leader = .exited status)
    (attentive : s.groupAlive = false ∨ s.signals ≠ []) (error : Error) :
    (s.abandon error).Minded := by
  refine ⟨minded.valid.abandon error, ?_⟩
  show s.Alive → s.signals ≠ []
  rintro (running | other)
  · rw [ended] at running
    cases running
  · obtain dead | signalled := attentive
    · exact absurd (dead.symm.trans other) Bool.false_ne_true
    · exact signalled

theorem step (minded : s.Minded) {action : SupervisorStep} (attentive : s.Attentive action)
    (stepped : s.step action = some s') : s'.Minded := by
  cases own : action.ofMain with
  | false =>
    cases outside : action.ofGroup with
    | false => exact minded.aside own outside stepped
    | true => exact minded.outside outside stepped
  | true =>
    cases point : s.main with
    | receiving =>
      cases action with
      | begin first launched =>
        simp only [Supervisor.step, point, Option.some.injEq] at stepped
        subst stepped
        exact minded.begin point first launched
      | _ => first | exact absurd own Bool.false_ne_true | simp [Supervisor.step, point] at stepped
    | sendStarted pid =>
      cases action with
      | start =>
        simp only [Supervisor.step, point] at stepped
        exact minded.start point stepped
      | _ => first | exact absurd own Bool.false_ne_true | simp [Supervisor.step, point] at stepped
    | looping =>
      cases action with
      | wait failed refused =>
        simp only [Supervisor.step] at stepped
        split at stepped
        · rename_i status _ _ ended
          cases failed with
          | none =>
            cases stepped
            exact minded.wait point ended attentive
          | some e =>
            cases stepped
            exact minded.waitFailed ended attentive _
        · cases stepped
      | message refused =>
        simp only [Supervisor.step] at stepped
        split at stepped
        · rename_i event rest _ queued
          cases stepped
          exact minded.message point queued attentive
        · cases stepped
      | deadline refused =>
        cases attentive
        simp only [Supervisor.step, point] at stepped
        obtain ⟨_, same⟩ := Option.ite_none_right_eq_some.mp stepped
        cases same
        exact minded.deadline point
      | _ => first | exact absurd own Bool.false_ne_true | simp [Supervisor.step, point] at stepped
    | _ => exact minded.behind (by simp only [Left, point]) own stepped

end Minded

theorem minded_start : Minded {} where
  valid := valid_start
  placed := ⟨⟨rfl, rfl, rfl⟩, rfl, rfl⟩

theorem minded (reached : supervisor.ReachableVia Attentive s) : s.Minded := by
  apply reached.invariant Minded
  · intro s start
    rw [show s = {} from start]
    exact minded_start
  · intro s action s' _ minded attentive stepped
    exact minded.step attentive stepped

/-! ## What was asked is heard -/

/-- A message for the loop is on its way, or came. -/
def Heard (s : Supervisor) : Prop :=
  s.Left ∨ s.cancelled = true ∨ s.internal ≠ [] ∨ ∃ event more, s.control = .sending event more

theorem Left.of_returned (returned : s.returned = true) : s.Left := by
  unfold Supervisor.returned at returned
  split at returned
  · rename_i point
    simp only [Left, point]
  · cases returned

/-- A message that is given to the loop is queued, unless `run` has returned. -/
theorem notify_heard {event : InternalEvent} {opened : Bool}
    (told : s.notify event = some (s', opened)) :
    s.Left ∧ s' = s ∨ s' = { s with internal := s.internal ++ [event] } := by
  unfold notify at told
  split at told
  · rename_i returned
    cases told
    exact .inl ⟨Left.of_returned returned, rfl⟩
  · split at told
    · cases told
      exact .inr rfl
    · cases told

theorem receive_heard {frame : Option (Except Error SupervisorCommand)} :
    (s.receive frame).Heard := by
  refine .inr (.inr (.inr ?_))
  unfold Supervisor.receive
  dsimp only
  split <;> exact ⟨_, _, rfl⟩

namespace Heard

theorem aside (heard : s.Heard) {action : SupervisorStep} (aside : action.ofMain = false)
    (apart : action.ofGroup = false) (stepped : s.step action = some s') : s'.Heard := by
  have same := aside_group aside apart stepped
  simp only [group, Prod.mk.injEq] at same
  obtain ⟨main, cancelled, _⟩ := same
  rcases heard with left | took | asked
  · exact .inl (left_of_main main left)
  · exact .inr (.inl (cancelled.trans took))
  cases action with
  | read stream result =>
    obtain ⟨_, same⟩ := Option.ite_none_right_eq_some.mp stepped
    cases same
    refine .inr (.inr ?_)
    unfold Supervisor.read
    split <;> exact asked
  | forward stream =>
    simp only [Supervisor.step, Supervisor.forward] at stepped
    split at stepped
    · obtain ⟨⟨told, opened⟩, sent, same⟩ := Option.map_eq_some_iff.mp stepped
      cases same
      rcases Valid.sendEvent_eq_some sent with ⟨_, _, rfl⟩ | ⟨_, _, rfl⟩ <;>
        exact .inr (.inr asked)
    · obtain ⟨⟨told, opened⟩, sent, same⟩ := Option.map_eq_some_iff.mp stepped
      cases same
      rcases notify_heard sent with ⟨left, rfl⟩ | rfl
      · exact .inl left
      · exact .inr (.inr (.inl (by simp [capturing])))
    · cases stepped
  | receive frame =>
    obtain ⟨_, same⟩ := Option.ite_none_right_eq_some.mp stepped
    cases same
    exact receive_heard
  | relay =>
    simp only [Supervisor.step, Supervisor.relay] at stepped
    split at stepped
    · obtain ⟨⟨told, opened⟩, sent, same⟩ := Option.map_eq_some_iff.mp stepped
      cases same
      rcases notify_heard sent with ⟨left, rfl⟩ | rfl
      · exact .inl left
      · exact .inr (.inr (.inl (by simp)))
    · cases stepped
  | write succeeds =>
    obtain ⟨_, went⟩ := Option.ite_none_right_eq_some.mp stepped
    unfold Supervisor.write at went
    split at went
    · cases went
    · split at went
      · split at went <;> (cases went; exact .inr (.inr asked))
      · cases went
        exact .inr (.inr asked)
  | stopWriter =>
    obtain ⟨_, went⟩ := Option.ite_none_right_eq_some.mp stepped
    obtain ⟨⟨told, opened⟩, sent, same⟩ := Option.map_eq_some_iff.mp went
    cases same
    rcases notify_heard sent with ⟨left, rfl⟩ | rfl
    · exact .inl left
    · exact .inr (.inr (.inl (by simp)))
  | _ => first
      | exact absurd aside.symm Bool.false_ne_true
      | exact absurd apart.symm Bool.false_ne_true

theorem message (event : InternalEvent) (refused : Option String) :
    (s.handle event refused).Heard := .inr (.inl (Valid.handle_flags event refused).1)

theorem step (heard : s.Heard) (minded : s.Minded) {action : SupervisorStep}
    (stepped : s.step action = some s') : s'.Heard := by
  cases own : action.ofMain with
  | false =>
    cases outside : action.ofGroup with
    | false => exact heard.aside own outside stepped
    | true =>
      obtain ⟨leader, others, rfl, _⟩ := group_step outside stepped
      exact heard
  | true =>
    rcases heard with left | heard
    · exact .inl (left_main left own stepped).1
    cases point : s.main with
    | receiving =>
      have placed := minded.placed
      rw [Placed, point] at placed
      obtain ⟨⟨_, _, uncancelled⟩, _, idle⟩ := placed
      have waiting : s.internal ≠ [] := by
        rcases heard with took | waiting | ⟨event, more, sending⟩
        · exact absurd (uncancelled.symm.trans took) Bool.false_ne_true
        · exact waiting
        · rw [idle] at sending
          cases sending
      cases action with
      | begin first launched =>
        simp only [Supervisor.step, point, Option.some.injEq] at stepped
        subst stepped
        unfold Supervisor.begin
        split
        · exact .inl trivial
        · exact .inl trivial
        · exact .inl trivial
        · dsimp only
          split
          · exact .inl trivial
          · exact .inl trivial
          · exact .inr (.inr (.inl waiting))
      | _ => first | exact absurd own Bool.false_ne_true | simp [Supervisor.step, point] at stepped
    | sendStarted pid =>
      cases action with
      | start =>
        simp only [Supervisor.step, point] at stepped
        rw [minded.start_eq point] at stepped
        cases stepped
        exact .inr heard
      | _ => first | exact absurd own Bool.false_ne_true | simp [Supervisor.step, point] at stepped
    | looping =>
      cases action with
      | wait failed refused =>
        simp only [Supervisor.step] at stepped
        split at stepped
        · cases failed with
          | none =>
            cases stepped
            unfold Supervisor.wait
            split <;> exact .inr heard
          | some e =>
            cases stepped
            exact .inl trivial
        · cases stepped
      | message refused =>
        simp only [Supervisor.step] at stepped
        split at stepped
        · cases stepped
          exact message _ _
        · cases stepped
      | deadline refused =>
        simp only [Supervisor.step, point] at stepped
        obtain ⟨_, same⟩ := Option.ite_none_right_eq_some.mp stepped
        cases same
        obtain ⟨signals, kept⟩ := s.terminate_keeps .kill refused
        unfold Supervisor.deadline
        rw [kept]
        cases present : s.exited <;> exact .inr heard
      | _ => first | exact absurd own Bool.false_ne_true | simp [Supervisor.step, point] at stepped
    | _ => exact .inl (left_main (by simp only [Left, point]) own stepped).1

end Heard

/-! ## What is heard is acted on -/

theorem CanSignal.cons {action : SupervisorStep} (own : action.own = true)
    (stepped : s.step action = some s') (later : s'.CanSignal) : s.CanSignal := by
  obtain ⟨steps, final, all, ran, sent⟩ := later
  refine ⟨action :: steps, final, ?_, ?_, sent⟩
  · exact List.forall_mem_cons.mpr ⟨own, all⟩
  · exact Option.bind_eq_some_iff.mpr ⟨s', stepped, ran⟩

theorem CanSignal.of_signals (sent : s.signals ≠ []) : s.CanSignal :=
  ⟨[], s, by simp, rfl, sent⟩

namespace Minded

/-- Behind its first message, the loop kills the group at the deadline, unless it has. -/
theorem canSignal_cancelled (minded : s.Minded) (looping : s.main = .looping)
    (took : s.cancelled = true) : s.CanSignal := by
  have placed := minded.placed
  rw [Placed, looping] at placed
  obtain armed | killed := placed took
  · have stepped : s.step (.deadline none) = some (s.deadline none) := by
      simp only [Supervisor.step, looping, armed, if_true]
    exact .cons rfl stepped (.of_signals (List.ne_nil_of_mem s.kill_mem_deadline))
  · exact .of_signals (List.ne_nil_of_mem killed)

/-- The loop takes the message that waits for it. -/
theorem canSignal_message (minded : s.Minded) (looping : s.main = .looping)
    (waiting : s.internal ≠ []) : s.CanSignal := by
  cases took : s.cancelled with
  | true => exact minded.canSignal_cancelled looping took
  | false =>
    cases messages : s.internal with
    | nil => exact absurd messages waiting
    | cons event rest =>
      have stepped : s.step (.message none) = some (Supervisor.handle { s with
          internal := rest, processed := s.processed ++ [event] } event none) := by
        simp only [Supervisor.step, looping, messages]
      refine .cons rfl stepped (.of_signals ?_)
      cases event <;> simp [Supervisor.handle, cancelOnce, terminate, took]

theorem canSignal_looping (minded : s.Minded) (looping : s.main = .looping) (heard : s.Heard) :
    s.CanSignal := by
  by_cases waiting : s.internal = []
  · rcases heard with left | took | queued | ⟨event, more, sending⟩
    · simp only [Left, looping] at left
    · exact minded.canSignal_cancelled looping took
    · exact absurd waiting queued
    · have told : s.notify event = some ({ s with internal := [event] }, true) := by
        simp [notify, returned, looping, waiting, internalDepth]
      have stepped : s.step .relay = some { s with
          internal := [event], control := if more then .reading else .stopped } := by
        simp only [Supervisor.step, Supervisor.relay, sending, told, Option.map_some,
          Bool.true_and]
      have next := minded.step (by exact trivial) stepped
      exact .cons rfl stepped (next.canSignal_message looping (by simp))
  · exact minded.canSignal_message looping waiting

/-- Whoever was heard is acted on, as long as anybody of the group lives. -/
theorem canSignal (minded : s.Minded) (heard : s.Heard) (alive : s.Alive) : s.CanSignal := by
  by_cases left : s.Left
  · exact .of_signals (minded.placed.left left alive)
  cases point : s.main with
  | receiving =>
    have placed := minded.placed
    have standing := minded.valid.standing
    rw [Placed, point] at placed
    rw [Standing, point] at standing
    rw [Alive, standing.2, placed.2.1] at alive
    simp at alive
  | sendStarted pid =>
    have went : s.step .start = s.start pid := by simp only [Supervisor.step, point]
    have stepped := went.trans (minded.start_eq point)
    have next := minded.step (by exact trivial) stepped
    exact .cons rfl stepped (next.canSignal_looping rfl (heard.step minded stepped))
  | looping => exact minded.canSignal_looping point heard
  | _ => simp only [Left, point, not_true_eq_false] at left

end Minded

end Supervisor

open Supervisor in
/-- In every run whose loop is not left because the leader has exited, or cannot be waited for,
while a member of the group lives that was not signalled, and in which the system refuses neither
the SIGTERM of a client, nor the SIGKILL of the deadline, nor the question whether the group
lives: once the supervisor has read a message of its daemon, or the end of the pipe, a group that
lives has been signalled, or is by steps of the supervisor alone; and when only the end of the
pipes is waited for, it has been killed. -/
theorem cancellation_heeded {s s₁ s' : Supervisor}
    {frame : Option (Except Error SupervisorCommand)}
    (reached : supervisor.ReachableVia Attentive s)
    (arrived : supervisor.step s (.receive frame) = some s₁)
    (later : supervisor.RunVia Attentive s₁ s') (alive : s'.Alive) :
    s'.CanSignal ∧ (s'.OnlyWaits → .kill ∈ s'.signals) := by
  have first : supervisor.ReachableVia Attentive s₁ :=
    .step (a := .receive frame) reached trivial arrived
  have heard : s₁.Heard := by
    obtain ⟨_, same⟩ := Option.ite_none_right_eq_some.mp arrived
    cases same
    exact receive_heard
  have kept : s'.Heard := by
    apply System.RunVia.invariant Heard first heard _ later
    intro t action t' before heard _ stepped
    exact heard.step (minded before) stepped
  have minded := minded (first.run later)
  exact ⟨minded.canSignal kept alive, fun waits => minded.placed.onlyWaits waits alive⟩

/-- A command whose leader exits and leaves a member of its group behind. -/
def sampleOrphan : List SupervisorStep :=
  [.begin (some (.ok sampleSpawn)) (.ok 7), .start, .fork,
   .leaderExits { code := some 0, signal := none }]

/-- Cancelled before the exit of the leader is seen, the supervisor kills the member. -/
theorem cancellation_heeded_sample :
    ∃ s s₁ s', supervisor.ReachableVia Supervisor.Attentive s ∧
      supervisor.step s (.receive (some (.ok .cancel))) = some s₁ ∧
      supervisor.RunVia Supervisor.Attentive s₁ s' ∧ s'.Alive ∧ s'.signals = [.term, .kill] ∧
      s'.CanSignal ∧ (s'.OnlyWaits → .kill ∈ s'.signals) := by
  have ran : supervisor.runIf Supervisor.Attentive {} sampleOrphan = some _ := rfl
  have reached := (System.ReachableVia.start rfl).run (System.runIf_runVia ran)
  refine ⟨_, _, _, reached, rfl, System.runIf_runVia (show supervisor.runIf _ _
      [.relay, .message none, .wait none false, .deadline none] = some _ from rfl), .inr rfl,
      rfl, ?_⟩
  exact cancellation_heeded reached
    (show supervisor.step _ (.receive (some (.ok .cancel))) = some _ from rfl)
    (System.runIf_runVia (show supervisor.runIf _ _
      [.relay, .message none, .wait none false, .deadline none] = some _ from rfl)) (.inr rfl)

/-- Cancelled behind it, the supervisor waits for the pipes and signals nobody. -/
theorem cancel_unheard :
    ∃ s s₁ s', supervisor.Reachable s ∧
      supervisor.step s (.receive (some (.ok .cancel))) = some s₁ ∧
      supervisor.RunVia (fun _ _ => True) s₁ s' ∧
      (∀ outcome, .finished outcome ∉ s'.sent) ∧ s'.Alive ∧ s'.OnlyWaits ∧
      s'.signals = [] ∧ ¬ s'.CanSignal := by
  have reached : supervisor.run {} (sampleOrphan ++ [.wait none false]) = some _ := rfl
  refine ⟨_, _, _, System.run_reachable rfl reached, rfl, .tail .refl ⟨.relay, trivial, rfl⟩, ?_,
    .inr rfl, ⟨_, _, rfl⟩, rfl, ?_⟩
  · intro outcome sent
    cases sent with
    | tail _ sent => cases sent
  · rintro ⟨steps, s', _, ran, sent⟩
    exact sent (Supervisor.left_run (by exact trivial) ran)

end Loomterm
