import Loomterm.Misc.Utf8
import Loomterm.Store.Paging

/-!
# Keys and the output pane

`loom watch` (`src/watch.rs`) and `loom ui` (`src/ui.rs`) show the output of one execution
at a time. Both keep its last chunks, up to a mebibyte, and the cursor up to which they have
read its events. `Shows` says when the chunks are those of the events before the cursor.

The daemon encodes what it sends, so a payload that is not base64 is left out.
-/

namespace Loomterm

/-! ## Keys -/

/-- `crossterm::event::KeyCode`; the codes that no loop reads are one. -/
inductive KeyCode where
  | char (c : Char)
  | enter | esc | tab | backTab | backspace | up | down | left | right | home | fin
  | other
  deriving DecidableEq, Repr

/-- `crossterm::event::KeyEventKind`. -/
inductive KeyEventKind where
  | press
  | hold
  | release
  deriving DecidableEq, Repr

/-- `crossterm::event::KeyEvent`. -/
structure KeyEvent where
  code : KeyCode
  kind : KeyEventKind := .press
  control : Bool := false
  alt : Bool := false
  deriving DecidableEq, Repr

/-- `(current + amount).clamp(0, last)`. -/
def clampIndex (current : Nat) (amount : Int) (last : Nat) : Nat :=
  min (current + amount).toNat last

/-! ## Output -/

/-- `OUTPUT_CAP_BYTES`. -/
def outputCapBytes : Nat := 1024 * 1024

/-- `char::is_control`. -/
def isControl (c : Char) : Bool := c.toNat < 0x20 || (0x7F ≤ c.toNat && c.toNat ≤ 0x9F)

/-- `sanitize_output`. -/
def sanitizeOutput (value : String) : String :=
  String.ofList (value.toList.map fun c =>
    if c = '\n' then '\n' else if c = '\t' then ' ' else if isControl c then '?' else c)

/-- `OutputChunk`. -/
structure OutputChunk where
  stream : OutputStream
  text : String
  bytes : Nat
  deriving DecidableEq, Repr

/-- The fields of `WatchState` and `OperatorState` that a run of events changes. -/
structure OutputPane where
  follow : Bool := true
  outputScroll : Nat := 0
  outputCursor : Nat := 0
  output : List OutputChunk := []
  outputBytes : Nat := 0
  notice : Option String := none
  deriving DecidableEq, Repr

/-- The chunk of an output event. -/
def OutputChunk.of (stream : OutputStream) (data : Bytes) : OutputChunk :=
  ⟨stream, sanitizeOutput (Utf8.fromUtf8Lossy data), data.length⟩

/-- The loop that removes chunks from the front. -/
def trimOutput : Nat → List OutputChunk → Nat × List OutputChunk
  | outputBytes, [] => (outputBytes, [])
  | outputBytes, removed :: rest =>
      if outputCapBytes < outputBytes then trimOutput (outputBytes - removed.bytes) rest
      else (outputBytes, removed :: rest)

namespace OutputPane

/-- `reset_output`. -/
def resetOutput (pane : OutputPane) : OutputPane :=
  { pane with
    output := [], outputBytes := 0, outputCursor := 0, outputScroll := 0, follow := true }

/-- One event in `ingest`. -/
def ingestEvent (pane : OutputPane) (event : ExecutionEvent) : OutputPane :=
  match event.payload with
  | .output stream data =>
      let (outputBytes, output) :=
        trimOutput (pane.outputBytes + data.length) (pane.output ++ [.of stream data])
      { pane with output, outputBytes }
  | .captureTruncated limitBytes =>
      { pane with
        notice := some ("capture truncated at " ++ toString limitBytes ++ " bytes") }
  | .started _ _ | .finished _ => pane

/-- `ingest`. -/
def ingest (pane : OutputPane) (events : List ExecutionEvent) (nextSeq : Nat) : OutputPane :=
  { events.foldl ingestEvent pane with outputCursor := nextSeq }

end OutputPane

/-! ## What is retained -/

/-- The bytes of chunks. -/
def chunkBytes (chunks : List OutputChunk) : Nat := (chunks.map OutputChunk.bytes).sum

/-- The longest tail within the cap. -/
def retained : List OutputChunk → List OutputChunk
  | [] => []
  | chunk :: rest =>
      if chunkBytes (chunk :: rest) ≤ outputCapBytes then chunk :: rest else retained rest

/-- The chunks of the output events. -/
def chunksOf (events : List ExecutionEvent) : List OutputChunk :=
  events.filterMap fun event =>
    match event.payload with
    | .output stream data => some (.of stream data)
    | _ => none

@[simp] theorem chunkBytes_nil : chunkBytes [] = 0 := rfl

@[simp] theorem chunkBytes_cons (chunk : OutputChunk) (rest : List OutputChunk) :
    chunkBytes (chunk :: rest) = chunk.bytes + chunkBytes rest := by
  simp [chunkBytes]

@[simp] theorem chunkBytes_append (front rest : List OutputChunk) :
    chunkBytes (front ++ rest) = chunkBytes front + chunkBytes rest := by
  simp [chunkBytes]

theorem retained_suffix (chunks : List OutputChunk) : retained chunks <:+ chunks := by
  induction chunks with
  | nil => exact List.suffix_rfl
  | cons chunk rest ih =>
    unfold retained
    split
    · exact List.suffix_rfl
    · exact ih.trans (List.suffix_cons chunk rest)

theorem retained_within (chunks : List OutputChunk) :
    chunkBytes (retained chunks) ≤ outputCapBytes := by
  induction chunks with
  | nil => simp [retained]
  | cons chunk rest ih =>
    unfold retained
    split
    · assumption
    · exact ih

/-- No longer tail is within the cap. -/
theorem retained_longest {chunks tail : List OutputChunk} (suffix : tail <:+ chunks)
    (within : chunkBytes tail ≤ outputCapBytes) : tail <:+ retained chunks := by
  induction chunks with
  | nil => exact suffix
  | cons chunk rest ih =>
    unfold retained
    split
    · exact suffix
    · next beyond =>
      obtain rfl | later := List.suffix_cons_iff.mp suffix
      · exact absurd within beyond
      · exact ih later

/-- The loop keeps the longest tail, and counts its bytes. -/
theorem trimOutput_eq (chunks : List OutputChunk) :
    trimOutput (chunkBytes chunks) chunks = (chunkBytes (retained chunks), retained chunks) := by
  induction chunks with
  | nil => rfl
  | cons chunk rest ih =>
    by_cases within : chunkBytes (chunk :: rest) ≤ outputCapBytes
    · rw [trimOutput, retained, if_neg (by omega), if_pos within]
    · have left : chunkBytes (chunk :: rest) - chunk.bytes = chunkBytes rest := by simp
      rw [trimOutput, retained, if_pos (by omega), if_neg within, left, ih]

/-- What was removed before would be removed with a chunk more. -/
theorem retained_append (front rest : List OutputChunk) :
    retained (retained front ++ rest) = retained (front ++ rest) := by
  induction front with
  | nil => rfl
  | cons chunk front ih =>
    by_cases within : chunkBytes (chunk :: front) ≤ outputCapBytes
    · rw [retained, if_pos within]
    · have beyond : ¬ chunkBytes (chunk :: (front ++ rest)) ≤ outputCapBytes := by
        rw [chunkBytes_cons] at within
        rw [chunkBytes_cons, chunkBytes_append]
        omega
      rw [retained, if_neg within, ih, List.cons_append, retained, if_neg beyond]

theorem chunksOf_append (front rest : List ExecutionEvent) :
    chunksOf (front ++ rest) = chunksOf front ++ chunksOf rest := by
  simp [chunksOf]

namespace OutputPane

/-- The pane holds the last chunks of these events. -/
structure Holds (pane : OutputPane) (events : List ExecutionEvent) : Prop where
  output : pane.output = retained (chunksOf events)
  outputBytes : pane.outputBytes = chunkBytes pane.output

/-- The pane shows a log up to its cursor. -/
structure Shows (pane : OutputPane) (log : List ExecutionEvent) : Prop where
  holds : pane.Holds (log.take pane.outputCursor)
  cursor : pane.outputCursor ≤ log.length

theorem Holds.ingestEvent {pane : OutputPane} {events : List ExecutionEvent}
    (holds : pane.Holds events) (event : ExecutionEvent) :
    (pane.ingestEvent event).Holds (events ++ [event]) := by
  obtain ⟨chunks, counted⟩ := holds
  cases payload : event.payload with
  | output stream data =>
    have one : chunksOf [event] = [.of stream data] := by simp [chunksOf, payload]
    have total : pane.outputBytes + data.length =
        chunkBytes (pane.output ++ [.of stream data]) := by
      rw [counted, chunkBytes_append, chunkBytes_cons]
      rfl
    have kept : retained (pane.output ++ [.of stream data]) =
        retained (chunksOf (events ++ [event])) := by
      rw [chunks, retained_append, chunksOf_append, one]
    have trimmed := trimOutput_eq (pane.output ++ [.of stream data])
    rw [← total] at trimmed
    constructor
    · simp only [OutputPane.ingestEvent, payload, trimmed, kept]
    · simp only [OutputPane.ingestEvent, payload, trimmed]
  | started pid pgid =>
    have none : chunksOf [event] = [] := by simp [chunksOf, payload]
    constructor
    · simp only [OutputPane.ingestEvent, payload, chunksOf_append, none, List.append_nil, chunks]
    · simp only [OutputPane.ingestEvent, payload, counted]
  | captureTruncated limit =>
    have none : chunksOf [event] = [] := by simp [chunksOf, payload]
    constructor
    · simp only [OutputPane.ingestEvent, payload, chunksOf_append, none, List.append_nil, chunks]
    · simp only [OutputPane.ingestEvent, payload, counted]
  | finished outcome =>
    have none : chunksOf [event] = [] := by simp [chunksOf, payload]
    constructor
    · simp only [OutputPane.ingestEvent, payload, chunksOf_append, none, List.append_nil, chunks]
    · simp only [OutputPane.ingestEvent, payload, counted]

theorem Holds.foldl {pane : OutputPane} {events : List ExecutionEvent} (holds : pane.Holds events)
    (more : List ExecutionEvent) :
    (more.foldl OutputPane.ingestEvent pane).Holds (events ++ more) := by
  induction more generalizing pane events with
  | nil => simpa using holds
  | cons event more ih =>
    have later := ih (holds.ingestEvent event)
    rwa [List.append_assoc, List.singleton_append] at later

/-- The next events of the log, with the cursor behind them. -/
theorem Shows.ingest {pane : OutputPane} {log events : List ExecutionEvent} {nextSeq : Nat}
    (shows : pane.Shows log) (next : log.take nextSeq = log.take pane.outputCursor ++ events)
    (inside : nextSeq ≤ log.length) : (pane.ingest events nextSeq).Shows log := by
  obtain ⟨output, counted⟩ := shows.holds.foldl events
  rw [← next] at output
  exact ⟨⟨output, counted⟩, inside⟩

/-- New events at the end of the log do not matter. -/
theorem Shows.append {pane : OutputPane} {log : List ExecutionEvent} (shows : pane.Shows log)
    (more : List ExecutionEvent) : pane.Shows (log ++ more) := by
  obtain ⟨holds, inside⟩ := shows
  have same : (log ++ more).take pane.outputCursor = log.take pane.outputCursor :=
    List.take_append_of_le_length inside
  exact ⟨same ▸ holds, by rw [List.length_append]; omega⟩

/-- Only the chunks and the cursor play a role. -/
theorem Shows.congr {pane pane' : OutputPane} {log : List ExecutionEvent} (shows : pane.Shows log)
    (output : pane'.output = pane.output) (bytes : pane'.outputBytes = pane.outputBytes)
    (cursor : pane'.outputCursor = pane.outputCursor) : pane'.Shows log := by
  obtain ⟨⟨chunks, counted⟩, inside⟩ := shows
  exact ⟨⟨by rw [output, cursor, chunks], by rw [bytes, output, counted]⟩, by rwa [cursor]⟩

end OutputPane

end Loomterm
