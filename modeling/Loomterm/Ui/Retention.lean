import Loomterm.Ui.Operator
import Loomterm.Ui.Watch

/-!
# What the output panes retain

`loom watch` and `loom ui` have the same loop that removes chunks from the front. Behind any
number of calls of `ingest` the chunks that are left are the longest tail of all that came
that is within the cap.
-/

namespace Loomterm

/-- `WatchState::ingest` (`src/watch.rs:147`). -/
def Watch.WatchState.ingest (state : WatchState) (events : List ExecutionEvent) (nextSeq : Nat) :
    WatchState :=
  { state with toOutputPane := state.toOutputPane.ingest events nextSeq }

/-- `OperatorState::ingest` (`src/ui.rs:474`). -/
def Ui.OperatorState.ingest (state : OperatorState) (events : List ExecutionEvent)
    (nextSeq : Nat) : OperatorState :=
  { state with toOutputPane := state.toOutputPane.ingest events nextSeq }

/-- The events of some calls of `ingest`, with the chunks of their output. -/
def ingestedChunks (calls : List (List ExecutionEvent × Nat)) : List OutputChunk :=
  chunksOf (calls.flatMap Prod.fst)

/-- A pane retains the longest tail within the cap of all that it was given, and counts its
bytes. -/
structure OutputPane.Retains (pane : OutputPane) (chunks : List OutputChunk) : Prop where
  counted : pane.outputBytes = (pane.output.map OutputChunk.bytes).sum
  within : pane.outputBytes ≤ outputCapBytes
  suffix : pane.output <:+ chunks
  longest : ∀ tail, tail <:+ chunks → (tail.map OutputChunk.bytes).sum ≤ outputCapBytes →
    tail <:+ pane.output

namespace OutputPane

variable {pane : OutputPane} {events : List ExecutionEvent}

theorem Holds.ingest (holds : pane.Holds events) (more : List ExecutionEvent) (nextSeq : Nat) :
    (pane.ingest more nextSeq).Holds (events ++ more) := by
  obtain ⟨output, counted⟩ := holds.foldl more
  exact ⟨output, counted⟩

/-- What a pane holds after one call after the other. -/
theorem Holds.ingestAll (holds : pane.Holds events) (calls : List (List ExecutionEvent × Nat)) :
    (calls.foldl (fun pane call => pane.ingest call.1 call.2) pane).Holds
      (events ++ calls.flatMap Prod.fst) := by
  induction calls generalizing pane events with
  | nil => simpa using holds
  | cons call calls ih =>
    have later := ih (holds.ingest call.1 call.2)
    rwa [List.append_assoc, ← List.flatMap_cons] at later

theorem Holds.retains (holds : pane.Holds events) : pane.Retains (chunksOf events) := by
  obtain ⟨output, counted⟩ := holds
  refine ⟨counted, ?_, ?_, ?_⟩
  · rw [counted, output]
    exact retained_within _
  · rw [output]
    exact retained_suffix _
  · intro tail suffix within
    rw [output]
    exact retained_longest suffix within

theorem holds_resetOutput (pane : OutputPane) : pane.resetOutput.Holds [] := ⟨rfl, rfl⟩

end OutputPane

/-- Whatever is ingested after a reset, both views retain the longest tail of it within the
cap, and count its bytes. -/
theorem output_retained (calls : List (List ExecutionEvent × Nat)) :
    (∀ state : Watch.WatchState,
      (calls.foldl (fun state call => state.ingest call.1 call.2)
        state.resetOutput).toOutputPane.Retains (ingestedChunks calls)) ∧
    ∀ state : Ui.OperatorState,
      (calls.foldl (fun state call => state.ingest call.1 call.2)
        state.resetOutput).toOutputPane.Retains (ingestedChunks calls) := by
  constructor
  · intro state
    have same : calls.foldl (fun pane call => pane.ingest call.1 call.2)
        state.resetOutput.toOutputPane =
        (calls.foldl (fun state call => state.ingest call.1 call.2)
          state.resetOutput).toOutputPane :=
      List.foldl_hom Watch.WatchState.toOutputPane fun _ _ => rfl
    rw [← same]
    exact (state.toOutputPane.holds_resetOutput.ingestAll calls).retains
  · intro state
    have same : calls.foldl (fun pane call => pane.ingest call.1 call.2)
        state.resetOutput.toOutputPane =
        (calls.foldl (fun state call => state.ingest call.1 call.2)
          state.resetOutput).toOutputPane :=
      List.foldl_hom Ui.OperatorState.toOutputPane fun _ _ => rfl
    rw [← same]
    exact (state.toOutputPane.holds_resetOutput.ingestAll calls).retains

end Loomterm
