import Loomterm.Executor.Wait
import Loomterm.Mcp.Paging

/-!
# Cursors

A cursor crosses the wire as a `u64` and is compared by the database as an `i64`. Half of its
range is honoured by the reads of the daemon; from 2^63 on a read starts from the beginning of
the log and answers with a smaller cursor.
-/

namespace Loomterm

/-- Nothing at or before the cursor is returned, and the cursor does not move back. -/
def ReadOutputResponse.Honours (page : ReadOutputResponse) (cursor : Nat) : Prop :=
  (∀ event ∈ page.events, cursor < event.seq) ∧ cursor ≤ page.nextSeq

namespace Database

variable {db : Database} {id : ExecutionId} {row : ExecutionRow} {afterSeq : Nat}

theorem IsPage.honours {log : List ExecutionEvent} {lastSeq maxBytes : Nat}
    {page : ReadOutputResponse} (spec : IsPage log lastSeq afterSeq maxBytes page) :
    page.Honours afterSeq := by
  constructor
  · intro event member
    have seq := List.mem_map_of_mem (f := ExecutionEvent.seq) member
    rw [spec.seqs, List.mem_range'_1] at seq
    omega
  · rw [spec.nextSeq_eq]
    omega

/-- Past the `i64` range a page starts with the first event of the log. -/
theorem Numbered.page_wrapped (numbered : db.Numbered id row) (past : 2 ^ 63 ≤ afterSeq)
    (inside : afterSeq < 2 ^ 64) (now : Int) (maxBytes : Nat) :
    (db.page now row afterSeq maxBytes).events =
      pageEvents maxBytes ((db.log id).take 4096) := by
  have key : row.id = id := Table.find?_key numbered.found
  simp only [page, key, numbered.selectEvents_wrapped past inside]

theorem Numbered.page_honours_iff (numbered : db.Numbered id row) (inside : afterSeq < 2 ^ 64)
    (now : Int) (maxBytes : Nat) :
    (db.page now row afterSeq maxBytes).Honours afterSeq ↔
      afterSeq < 2 ^ 63 ∨ db.log id = [] := by
  by_cases fits : afterSeq < 2 ^ 63
  · exact iff_of_true (numbered.isPage now fits maxBytes).honours (.inl fits)
  · have past : 2 ^ 63 ≤ afterSeq := Nat.le_of_not_lt fits
    have events := numbered.page_wrapped past inside now maxBytes
    constructor
    · intro honours
      cases log : db.log id with
      | nil => exact .inr rfl
      | cons first rest =>
        -- the first event of the log is on the page, and it has the number 1
        have first_seq : first.seq ≤ row.lastSeq :=
          numbered.seq_le (by rw [log]; exact List.mem_cons_self)
        have bound := numbered.bound
        have taken : first ∈ pageEvents maxBytes ((first :: rest).take 4096) := by
          rw [List.take_succ_cons]
          by_cases small : first.bytes ≤ maxBytes
          · rw [pageEvents_of_le small, fitting_cons small]
            exact List.mem_cons_self
          · rw [pageEvents_of_lt (Nat.lt_of_not_le small)]
            exact List.mem_cons_self
        rw [log] at events
        have behind := honours.1 first (by rw [events]; exact taken)
        omega
    · rintro (inside' | empty)
      · exact absurd inside' fits
      · rw [empty] at events
        have none : (db.page now row afterSeq maxBytes).events = [] := events
        refine ⟨by rw [none]; simp, ?_⟩
        show afterSeq ≤
          (((db.page now row afterSeq maxBytes).events.getLast?).map ExecutionEvent.seq).getD afterSeq
        rw [none]
        exact le_refl _

/-- A read that succeeds honours its cursor if and only if that is an `i64`, or there is nothing
to be read. -/
theorem Sound.request_honours_iff (sound : db.Sound) (inside : afterSeq < 2 ^ 64) {now : Int}
    {maxBytes : Nat} {conditions : Conditions} {response : ReadOutputResponse}
    (read : (Store.request (readOutput now id afterSeq maxBytes) conditions db).1 =
      .ok response) :
    response.Honours afterSeq ↔ afterSeq < 2 ^ 63 ∨ db.log id = [] := by
  have answer := request_of_post (post_readOutput db now id afterSeq maxBytes)
    (fun message => ⟨rfl, .inl rfl⟩) conditions
  rw [read] at answer
  obtain ⟨_, row, found, same⟩ := answer
  rw [same]
  exact (sound.numbered found).page_honours_iff inside now maxBytes

end Database

/-- The step of a wait that returns a response has read it from the store. -/
theorem WaitState.returned_read {capacity : Nat} {call : WaitCall} {s s' : WaitState capacity}
    {step : WaitStep} {response : WaitResponse} (open_ : ∀ result, s.phase ≠ .returned result)
    (enabled : (wait call capacity).step s step = some s')
    (returned : s'.phase = .returned (.ok response)) :
    ∃ now conditions,
      (Store.request (call.read now) conditions s.db).1 = .ok response.toReadOutputResponse := by
  cases step with
  | command op faults =>
    obtain ⟨_, same⟩ := Option.ite_none_left_eq_some.mp enabled
    cases same
    exact absurd returned (open_ _)
  | broadcast event =>
    obtain ⟨_, same⟩ := Option.ite_none_left_eq_some.mp enabled
    cases same
    exact absurd returned (open_ _)
  | close =>
    cases enabled
    exact absurd returned (open_ _)
  | firstRead now conditions =>
    obtain ⟨_, same⟩ := Option.ite_none_right_eq_some.mp enabled
    cases same
    refine ⟨now, conditions, ?_⟩
    unfold WaitState.firstRead at returned
    split at returned
    · cases returned
    · rename_i first read
      split at returned
      · cases returned
        exact read
      · cases returned
  | poll =>
    obtain ⟨_, polled⟩ := Option.ite_none_right_eq_some.mp enabled
    obtain ⟨receiver, rfl, _⟩ | ⟨receiver, rfl, _⟩ := WaitState.Tracked.poll_cases polled
    · cases returned
    · exact absurd returned (open_ _)
  | timeout =>
    obtain ⟨_, same⟩ := Option.ite_none_right_eq_some.mp enabled
    cases same
    cases returned
  | lastRead now conditions =>
    refine ⟨now, conditions, ?_⟩
    cases phase : s.phase with
    | left timedOut =>
      simp only [wait, phase, Option.some.injEq] at enabled
      rw [← enabled] at returned
      unfold WaitState.lastRead at returned
      cases answer : (Store.request (call.read now) conditions s.db).1 with
      | error e =>
        rw [answer] at returned
        cases returned
      | ok output =>
        rw [answer] at returned
        cases returned
        rfl
    | _ => simp [wait, phase] at enabled

open Database in
/-- In every reachable store, and at every moment of every wait, a cursor is honoured by the
answer if and only if it is below 2^63 or the execution has no events when it is read. -/
theorem cursor_honoured_iff {afterSeq : Nat} (inside : afterSeq < 2 ^ 64) :
    (∀ db id now maxBytes conditions response, store.Reachable db →
      (Store.request (daemonReadOutput id afterSeq maxBytes now) conditions db).1 =
        .ok response →
      (response.Honours afterSeq ↔ afterSeq < 2 ^ 63 ∨ db.log id = [])) ∧
    ∀ (capacity : Nat) (call : WaitCall) (s s' : WaitState capacity) step response,
      call.afterSeq = afterSeq → (wait call capacity).Reachable s →
      (∀ result, s.phase ≠ .returned result) → (wait call capacity).step s step = some s' →
      s'.phase = .returned (.ok response) →
      (response.Honours afterSeq ↔ afterSeq < 2 ^ 63 ∨ s.db.log call.id = []) := by
  refine ⟨?_, ?_⟩
  · intro db id now maxBytes conditions response reached read
    exact (store_sound reached).request_honours_iff inside read
  · rintro capacity call s s' step response rfl reached open_ enabled returned
    obtain ⟨now, conditions, read⟩ := WaitState.returned_read open_ enabled returned
    exact (WaitState.tracked_run reached).sound.request_honours_iff inside read

/-- The read of the daemon in the database after `sampleOps`. -/
theorem sampleRead (afterSeq : Nat) : ∃ db response, store.Reachable db ∧
    (db.log "a").length = 4 ∧
    (Store.request (daemonReadOutput "a" afterSeq 8192 9) {} db).1 = .ok response := by
  obtain ⟨db, row, ran, numbered, _⟩ := sampleOps_numbered
  have size : (store.run sampleDatabase sampleOps).map (fun db => (db.log "a").length) =
      some 4 := by decide +kernel
  rw [ran, Option.map_some] at size
  exact ⟨db, _, System.run_reachable ⟨rfl, rfl⟩ ran, Option.some.inj size,
    Database.readOutput_ok numbered.found 9 afterSeq _⟩

theorem cursor_honoured_iff_sample : ∃ db response, store.Reachable db ∧
    (Store.request (daemonReadOutput "a" 2 8192 9) {} db).1 = .ok response ∧
    response.Honours 2 := by
  obtain ⟨db, response, reached, _, read⟩ := sampleRead 2
  exact ⟨db, response, reached, read,
    ((cursor_honoured_iff (by decide)).1 db "a" 9 8192 {} response reached read).mpr
      (.inl (by decide))⟩

/-- A cursor of 2^63 is answered with the whole log. -/
theorem cursor_moves_back : ∃ db response, store.Reachable db ∧
    (Store.request (daemonReadOutput "a" (2 ^ 63) 8192 9) {} db).1 = .ok response ∧
    ¬ response.Honours (2 ^ 63) := by
  obtain ⟨db, response, reached, size, read⟩ := sampleRead (2 ^ 63)
  refine ⟨db, response, reached, read, ?_⟩
  intro honours
  have read' : (Store.request (Database.readOutput 9 "a" (2 ^ 63) _) {} db).1 = _ := read
  obtain fits | empty :=
    ((store_sound reached).request_honours_iff (by decide) read').mp honours
  · exact absurd fits (by decide)
  · rw [empty] at size
    cases size

end Loomterm
