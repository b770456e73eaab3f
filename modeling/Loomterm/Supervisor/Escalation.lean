import Loomterm.Supervisor.Signals

/-!
# Escalation

A supervisor that has begun to cancel its command does not leave its loop while the group may
live on unsignalled: the grace deadline is armed until the group was seen dead or SIGKILL was
sent. This takes `killpg` to fail with `ESRCH` only, which `terminate` takes for success.
-/

namespace Loomterm

namespace Supervisor

/-- No call of `killpg` of this step is refused. -/
def Delivered (_ : Supervisor) : SupervisorStep → Prop
  | .wait _ refused => refused = false
  | .message refused | .deadline refused => refused = none
  | _ => True

instance (s : Supervisor) (action : SupervisorStep) : Decidable (s.Delivered action) := by
  unfold Delivered
  split <;> infer_instance

/-- The flag, the deadline and the signals of a cancellation. -/
def cancellation (s : Supervisor) : Bool × Bool × List Signal :=
  (s.cancelled, s.killDeadline, s.signals)

/-- How far the cancellation of a command has come. -/
def Escalating (s : Supervisor) : Prop :=
  s.cancellation = (false, false, []) ∨ s.cancellation = (true, true, [.term]) ∨
    s.cancellation = (true, false, [.term, .kill])

variable {s s' : Supervisor}

theorem Escalating.of_same (escalating : s.Escalating)
    (same : s'.cancellation = s.cancellation) : s'.Escalating := by
  unfold Escalating
  rw [same]
  exact escalating

theorem cancellation_of_group (same : s'.group = s.group) :
    s'.cancellation = s.cancellation := by
  simp only [group, Prod.mk.injEq] at same
  obtain ⟨_, cancelled, deadline, _, _, signals⟩ := same
  rw [cancellation, cancelled, deadline, signals, cancellation]

theorem cancellation_begin (first : Option (Except Error SupervisorCommand))
    (launched : Except String Nat) :
    (s.begin first launched).cancellation = s.cancellation := by
  unfold Supervisor.begin
  repeat' split
  all_goals rfl

theorem cancellation_start {pid : Nat} (went : s.start pid = some s') :
    s'.cancellation = s.cancellation := by
  obtain ⟨⟨told, opened⟩, sent, same⟩ := Option.map_eq_some_iff.mp went
  have kept := cancellation_of_group (sendEvent_group sent)
  cases opened <;> (cases same; exact kept)

theorem cancellation_wait (status : ExitStatus) (refused : Bool) :
    (s.wait status refused).cancellation = s.cancellation := by
  unfold Supervisor.wait
  split <;> rfl

theorem cancellation_join {stream : OutputStream} {status : ExitStatus}
    {panicked : Option String} (went : s.join stream status panicked = some s') :
    s'.cancellation = s.cancellation := by
  unfold Supervisor.join at went
  split at went
  · cases went
    rfl
  · cases stream <;> (cases went; rfl)
  · cases went

theorem cancellation_joinStdin (status : ExitStatus) (failed : Option Error) :
    (s.joinStdin status failed).cancellation = s.cancellation := by
  unfold Supervisor.joinStdin
  repeat' split
  all_goals rfl

theorem cancellation_report {outcome : ExecutionOutcome} (went : s.report outcome = some s') :
    s'.cancellation = s.cancellation := by
  obtain ⟨⟨told, opened⟩, sent, same⟩ := Option.map_eq_some_iff.mp went
  have kept := cancellation_of_group (sendEvent_group sent)
  cases opened <;> (cases same; exact kept)

theorem cancellation_sendFlush (went : s.sendFlush = some s') :
    s'.cancellation = s.cancellation := by
  unfold Supervisor.sendFlush at went
  split at went
  · cases went
    rfl
  · obtain ⟨_, same⟩ := Option.ite_none_right_eq_some.mp went
    cases same
    rfl

theorem cancellation_awaitFlush (went : s.awaitFlush = some s') :
    s'.cancellation = s.cancellation := by
  unfold Supervisor.awaitFlush at went
  split at went
  · cases went
    rfl
  · obtain ⟨_, same⟩ := Option.ite_none_right_eq_some.mp went
    cases same
    rfl

/-- The first cancellation sends SIGTERM and arms the deadline; a later one does nothing. -/
theorem Escalating.cancelOnce (escalating : s.Escalating) :
    (s.cancelOnce none).Escalating := by
  unfold Supervisor.cancelOnce
  cases cancelled : s.cancelled with
  | true => exact escalating
  | false =>
    refine .inr (.inl ?_)
    unfold Escalating cancellation at escalating
    simp_all [cancellation, terminate]

/-- A message of the loop begins the cancellation. -/
theorem Escalating.handle (escalating : s.Escalating) (event : InternalEvent) :
    (s.handle event none).Escalating := by
  cases event with
  | cancel =>
    unfold Supervisor.handle
    cases s.cancelled with
    | true => exact escalating
    | false => exact escalating.cancelOnce
  | daemonGone => exact escalating.cancelOnce
  | captureFailed reason => exact escalating.cancelOnce

/-- The deadline sends SIGKILL, and is not armed again. -/
theorem Escalating.deadline (escalating : s.Escalating) (armed : s.killDeadline = true) :
    (s.deadline none).Escalating := by
  have begun : s.cancellation = (true, true, [.term]) := by
    obtain idle | begun | done := escalating
    · simp [cancellation, armed] at idle
    · exact begun
    · simp [cancellation, armed] at done
  simp only [cancellation, Prod.mk.injEq] at begun
  refine .inr (.inr ?_)
  unfold Supervisor.deadline cancellation
  cases present : s.exited <;> simp [begun, terminate, present]

theorem Escalating.step (escalating : s.Escalating) {action : SupervisorStep}
    (delivered : s.Delivered action) (stepped : s.step action = some s') : s'.Escalating := by
  cases action with
  | begin first launched =>
    simp only [Supervisor.step] at stepped
    split at stepped
    · cases stepped
      exact escalating.of_same (cancellation_begin first launched)
    · cases stepped
  | start =>
    simp only [Supervisor.step] at stepped
    split at stepped
    · exact escalating.of_same (cancellation_start stepped)
    · cases stepped
  | wait failed refused =>
    simp only [Supervisor.step] at stepped
    split at stepped
    · cases failed with
      | none =>
        cases stepped
        exact escalating.of_same (cancellation_wait _ refused)
      | some e =>
        cases stepped
        exact escalating
    · cases stepped
  | message refused =>
    simp only [Supervisor.step] at stepped
    split at stepped
    · rename_i event rest _ _
      cases delivered
      cases stepped
      have taken : Escalating { s with internal := rest, processed := s.processed ++ [event] } :=
        escalating
      exact taken.handle event
    · cases stepped
  | deadline refused =>
    cases delivered
    simp only [Supervisor.step] at stepped
    split at stepped
    · obtain ⟨armed, same⟩ := Option.ite_none_right_eq_some.mp stepped
      cases same
      exact escalating.deadline armed
    · cases stepped
  | join panicked =>
    simp only [Supervisor.step] at stepped
    split at stepped
    · exact escalating.of_same (cancellation_join stepped)
    · cases stepped
  | joinStdin failed =>
    simp only [Supervisor.step] at stepped
    split at stepped
    · cases stepped
      exact escalating.of_same (cancellation_joinStdin _ failed)
    · cases stepped
  | report =>
    simp only [Supervisor.step] at stepped
    split at stepped
    · exact escalating.of_same (cancellation_report stepped)
    · cases stepped
  | sendFlush =>
    simp only [Supervisor.step] at stepped
    split at stepped
    · exact escalating.of_same (cancellation_sendFlush stepped)
    · cases stepped
  | awaitFlush =>
    simp only [Supervisor.step] at stepped
    split at stepped
    · exact escalating.of_same (cancellation_awaitFlush stepped)
    · cases stepped
  | leaderExits status =>
    obtain ⟨_, same⟩ := Option.ite_none_right_eq_some.mp stepped
    cases same
    exact escalating
  | fork =>
    obtain ⟨_, same⟩ := Option.ite_none_right_eq_some.mp stepped
    cases same
    exact escalating
  | othersExit =>
    cases stepped
    exact escalating
  | _ => exact escalating.of_same (cancellation_of_group (aside_group rfl rfl stepped))

theorem escalating_run (reached : supervisor.ReachableVia Delivered s) : s.Escalating := by
  apply reached.invariant Escalating
  · intro t first
    cases first
    exact .inl rfl
  · intro t action t' _ escalating delivered stepped
    exact escalating.step delivered stepped

/-- A message leaves the loop only with an error. -/
theorem handle_main (event : InternalEvent) (refused : Option String) :
    (s.handle event refused).main = s.main ∨
      ∃ e, (s.handle event refused).main = .returned (.error e) := by
  have once (refused : Option String) : (s.cancelOnce refused).main = s.main := by
    obtain ⟨_, _, _, same⟩ := s.cancelOnce_keeps refused
    rw [same]
  cases event with
  | cancel =>
    unfold Supervisor.handle
    cases s.cancelled with
    | true => exact .inl rfl
    | false =>
      cases refused with
      | none => exact .inl (once none)
      | some e => exact .inr ⟨_, rfl⟩
  | daemonGone => exact .inl (once refused)
  | captureFailed reason => exact .inl (once refused)

/-- The step that ends the loop: the leader was waited for, with no deadline to come or with its
group seen dead, or the deadline has come behind that. -/
theorem loop_end {action : SupervisorStep} {stream : OutputStream} {status : ExitStatus}
    (looping : s.main = .looping) (stepped : s.step action = some s')
    (ended : s'.main = .joining stream status) :
    (∃ refused, action = .wait none refused ∧ s.leader = .exited status ∧
        (s.killDeadline = false ∨ s.processGroupAlive refused = false) ∧
        s' = s.goto (.joining .stdout status)) ∨
      (∃ refused, action = .deadline refused ∧ s.exited = some status ∧
        s' = s.deadline refused) := by
  have stays : s'.main ≠ .looping := by
    rw [ended]
    exact MainPoint.noConfusion
  cases own : action.ofMain with
  | false =>
    cases outside : action.ofGroup with
    | true =>
      obtain ⟨leader, others, same, _⟩ := group_step outside stepped
      exact absurd (by rw [same]; exact looping) stays
    | false =>
      have kept := aside_group own outside stepped
      simp only [group, Prod.mk.injEq] at kept
      exact absurd (kept.1.trans looping) stays
  | true =>
    cases action with
    | wait failed refused =>
      simp only [Supervisor.step, looping] at stepped
      split at stepped
      · rename_i seen exits
        cases failed with
        | none =>
          cases stepped
          unfold Supervisor.wait at ended ⊢
          split at ended
          · rename_i free
            rw [if_pos free]
            cases ended
            exact .inl ⟨_, rfl, exits, free, rfl⟩
          · rw [show s.main = _ from ended] at looping
            cases looping
        | some e =>
          cases stepped
          cases ended
      · cases stepped
    | message refused =>
      simp only [Supervisor.step, looping] at stepped
      split at stepped
      · rename_i event rest _ _
        cases stepped
        have left := handle_main (s := { s with
          main := .looping, internal := rest, processed := s.processed ++ [event] }) event refused
        obtain same | ⟨e, failed⟩ := left
        · exact absurd same stays
        · rw [failed] at ended
          cases ended
      · cases stepped
    | deadline refused =>
      simp only [Supervisor.step, looping] at stepped
      obtain ⟨_, same⟩ := Option.ite_none_right_eq_some.mp stepped
      cases same
      obtain ⟨signals, kept⟩ := s.terminate_keeps .kill refused
      unfold Supervisor.deadline at ended
      rw [kept] at ended
      cases seen : s.exited with
      | none =>
        simp only [seen, looping] at ended
        cases ended
      | some other =>
        simp only [seen] at ended
        cases ended
        exact .inr ⟨_, rfl, rfl, rfl⟩
    | _ => first | exact absurd own Bool.false_ne_true | simp [Supervisor.step, looping] at stepped

end Supervisor

open Supervisor in
/-- When no signal is refused, then at every moment of every run: a supervisor has signalled its
group only once it took a message, with SIGTERM first and SIGKILL, if at all, behind it; the loop
is left with the status that the leader was waited for, and behind a message only when the group
is seen dead at that wait or when SIGKILL was sent; and this status is what is reported, unless
a capture has failed. Nothing is said of a loop that is left by the error of `child.wait`
(`status?`): it gets no status, and `run` returns that error. -/
theorem cancellation_escalates {s : Supervisor} (reached : supervisor.ReachableVia Delivered s) :
    (s.processed = [] ∧ s.signals = [] ∨
      s.processed ≠ [] ∧ (s.signals = [.term] ∨ s.signals = [.term, .kill])) ∧
    (∀ action s' stream status, s.main = .looping → s.Delivered action →
      s.step action = some s' → s'.main = .joining stream status → s.leader = .exited status ∧
        (s'.processed ≠ [] →
          action = .wait none false ∧ s.groupAlive = false ∨ .kill ∈ s'.signals)) ∧
    ∀ pid outs outcome, s.emitted = .started pid pid :: outs ++ [.finished outcome] →
      s.processed ≠ [] → ∃ status, s.leader = .exited status ∧
        outcome = match lastFailure s.processed with
          | some reason => .interrupted reason
          | none => .cancelled status.signal := by
  have escalating := escalating_run reached
  have valid := supervisor_valid reached.reachable
  refine ⟨?_, ?_, ?_⟩
  · have took := valid.cancelled
    obtain idle | begun | done := escalating
    · simp only [cancellation, Prod.mk.injEq] at idle
      refine .inl ⟨?_, idle.2.2⟩
      by_contra some
      have cancelled := took.mpr some
      rw [idle.1] at cancelled
      cases cancelled
    · simp only [cancellation, Prod.mk.injEq] at begun
      exact .inr ⟨took.mp begun.1, .inl begun.2.2⟩
    · simp only [cancellation, Prod.mk.injEq] at done
      exact .inr ⟨took.mp done.1, .inr done.2.2⟩
  · intro action s' stream status looping delivered stepped ended
    obtain ⟨refused, rfl, exits, free, same⟩ | ⟨refused, rfl, seen, same⟩ :=
      loop_end looping stepped ended
    · refine ⟨exits, ?_⟩
      cases delivered
      rw [same]
      intro took
      have cancelled : s.cancelled = true := valid.cancelled.mpr took
      obtain disarmed | dead := free
      · right
        obtain idle | begun | done := escalating
        · simp [cancellation, cancelled] at idle
        · simp [cancellation, disarmed] at begun
        · simp only [cancellation, Prod.mk.injEq] at done
          show Signal.kill ∈ s.signals
          rw [done.2.2]
          simp
      · exact .inl ⟨rfl, by simpa [processGroupAlive] using dead⟩
    · cases delivered
      refine ⟨valid.exited status seen, fun _ => .inr ?_⟩
      rw [same]
      exact s.kill_mem_deadline
  · intro pid outs outcome written took
    obtain ⟨⟨status, exits, rfl⟩, _⟩ := valid.finished written
    refine ⟨status, exits, ?_⟩
    rw [← valid.reason]
    unfold Supervisor.outcome
    cases s.interruptedReason with
    | some reason => rfl
    | none => simp only [valid.cancelled.mpr took, if_true]

/-- A command is cancelled, its leader dies of SIGTERM, and a member of its group does not. -/
def sampleSurvivor : List SupervisorStep :=
  [.begin (some (.ok sampleSpawn)) (.ok 7), .start, .fork, .receive (some (.ok .cancel)), .relay,
   .message none, .leaderExits { code := none, signal := some 15 }, .wait none false]

/-- Only SIGKILL ends the loop. -/
theorem cancellation_escalates_sample :
    ∃ s s', supervisor.ReachableVia Supervisor.Delivered s ∧ s.main = .looping ∧
      s.signals = [.term] ∧ s.groupAlive = true ∧ s.step (.deadline none) = some s' ∧
      s'.main = .joining .stdout { code := none, signal := some 15 } ∧ .kill ∈ s'.signals := by
  have traced : (supervisor.runIf Supervisor.Delivered {} sampleSurvivor).map (fun s =>
      (s.main, s.signals, s.others, s.exited, s.killDeadline, s.processed)) =
      some (.looping, [.term], true, some { code := none, signal := some 15 }, true,
        [.cancel]) := rfl
  obtain ⟨s, ran, values⟩ := Option.map_eq_some_iff.mp traced
  simp only [Prod.mk.injEq] at values
  obtain ⟨looping, term, others, waited, armed, took⟩ := values
  have reached := (System.ReachableVia.start rfl).run (System.runIf_runVia ran)
  have stepped : s.step (.deadline none) = some (s.deadline none) := by
    simp only [Supervisor.step, looping, armed, if_true]
  have ended : (s.deadline none).main = .joining .stdout { code := none, signal := some 15 } := by
    simp only [Supervisor.deadline, Supervisor.terminate, waited]
  have processed : (s.deadline none).processed ≠ [] := by
    simp [Supervisor.deadline, Supervisor.terminate, waited, took]
  refine ⟨s, _, reached, looping, term, others, stepped, ended, ?_⟩
  obtain ⟨waits, _⟩ | killed :=
    ((cancellation_escalates reached).2.1 (.deadline none) _ _ _ looping rfl stepped ended).2
      processed
  · cases waits
  · exact killed

end Loomterm
