import Loomterm.Mcp.Client

/-!
# Text output in pieces

`convert_event` decodes every event on its own, so how the pipe reads cut a stream shows in
its text: the texts of a stream join to it just when no cut is inside a character.
-/

namespace Loomterm

/-- The text field of an output event of `stream`. -/
def ToolEventPayload.streamText (stream : OutputStream) : ToolEventPayload → Option String
  | .output own _ text _ _ => if own = stream then text else none
  | _ => none

/-- Whether an output event of `stream` is reported lossy. -/
def ToolEventPayload.isLossy (stream : OutputStream) : ToolEventPayload → Bool
  | .output own _ _ _ lossy => decide (own = stream) && lossy.getD false
  | _ => false

/-- The bytes of an output event of `stream`. -/
def ExecutionEventPayload.streamData (stream : OutputStream) :
    ExecutionEventPayload → Option Bytes
  | .output own data => if own = stream then some data else none
  | _ => none

/-- The pieces in which a log holds a stream. -/
def streamPieces (stream : OutputStream) (log : List ExecutionEvent) : List Bytes :=
  log.filterMap (·.payload.streamData stream)

/-- The text fields of a stream. -/
def texts (stream : OutputStream) (events : List ToolEvent) : List String :=
  events.filterMap (·.payload.streamText stream)

/-- What the text format makes of the bytes of one event. -/
def pieceText (data : Bytes) : String := (Utf8.fromUtf8 data).getD (Utf8.fromUtf8Lossy data)

theorem convertEvent_output (event : ExecutionEvent) {stream : OutputStream} {data : Bytes}
    (output : event.payload = .output stream data) :
    (convertEvent .text event).payload = .output stream data.length (some (pieceText data)) none
      (if Utf8.IsText data then none else some true) := by
  simp only [convertEvent, output, pieceText, Utf8.isText_iff]
  cases Utf8.fromUtf8 data <;> rfl

theorem convertEvent_streamText (stream : OutputStream) (event : ExecutionEvent) :
    (convertEvent .text event).payload.streamText stream =
      (event.payload.streamData stream).map pieceText := by
  cases payload : event.payload with
  | output own data =>
    rw [convertEvent_output event payload]
    simp only [ToolEventPayload.streamText, ExecutionEventPayload.streamData]
    split <;> rfl
  | _ => simp [convertEvent, payload, ToolEventPayload.streamText,
      ExecutionEventPayload.streamData]

theorem convertEvent_isLossy (stream : OutputStream) (event : ExecutionEvent) :
    (convertEvent .text event).payload.isLossy stream = true ↔
      ∃ data, event.payload.streamData stream = some data ∧ ¬ Utf8.IsText data := by
  cases payload : event.payload with
  | output own data =>
    rw [convertEvent_output event payload]
    simp only [ToolEventPayload.isLossy, ExecutionEventPayload.streamData, Bool.and_eq_true,
      decide_eq_true_eq]
    by_cases valid : Utf8.IsText data <;> by_cases same : own = stream <;> simp [valid, same]
  | _ => simp [convertEvent, payload, ToolEventPayload.isLossy,
      ExecutionEventPayload.streamData]

theorem texts_convert (stream : OutputStream) (log : List ExecutionEvent) :
    texts stream (log.map (convertEvent .text)) = (streamPieces stream log).map pieceText := by
  unfold texts streamPieces
  rw [List.filterMap_map, List.map_filterMap]
  congr 1
  funext event
  exact convertEvent_streamText stream event

theorem lossy_convert (stream : OutputStream) (log : List ExecutionEvent) :
    (∃ event ∈ log.map (convertEvent .text), event.payload.isLossy stream = true) ↔
      ∃ data ∈ streamPieces stream log, ¬ Utf8.IsText data := by
  unfold streamPieces
  simp only [List.mem_map, List.mem_filterMap]
  constructor
  · intro lossy
    obtain ⟨_, ⟨event, member, rfl⟩, flagged⟩ := lossy
    obtain ⟨data, output, invalid⟩ := (convertEvent_isLossy stream event).mp flagged
    exact ⟨data, ⟨event, member, output⟩, invalid⟩
  · intro invalid
    obtain ⟨data, ⟨event, member, output⟩, invalid⟩ := invalid
    exact ⟨_, ⟨event, member, rfl⟩, (convertEvent_isLossy stream event).mpr ⟨data, output, invalid⟩⟩

/-- Pieces that are all texts join to the text of their bytes. -/
theorem join_pieceText {pieces : List Bytes} {text : String}
    (valid : ∀ data ∈ pieces, Utf8.IsText data) (whole : pieces.flatten = Utf8.bytes text) :
    String.join (pieces.map pieceText) = text := by
  rw [Utf8.join_eq_iff, ← whole, List.map_map]
  congr 1
  have same : ∀ data ∈ pieces, (Utf8.bytes ∘ pieceText) data = data := by
    intro data member
    obtain ⟨part, encoded⟩ := valid data member
    simp only [Function.comp_apply, pieceText]
    rw [Utf8.fromUtf8_eq_some.mpr encoded, Option.getD_some, encoded]
  exact (List.map_congr_left same).trans (List.map_id pieces)

/-- The client has been given the whole log. -/
def ToolClient.Complete (client : ToolClient) (id : ExecutionId) : Prop :=
  ∃ row, client.db.executions.find? id = some row ∧ client.cursor = row.lastSeq

/-- The text fields of `stream` join to `text`, and no event of it is lossy. -/
def ReadsAs (stream : OutputStream) (events : List ToolEvent) (text : String) : Prop :=
  String.join (texts stream events) = text ∧
    ∀ event ∈ events, event.payload.isLossy stream = false

/-- However a client pages through the log of an execution whose stream is a text, it reads
that text if and only if every event of the stream ends at the end of a character. -/
theorem text_output_iff {server : LoomMcpServer} {id : ExecutionId} {client : ToolClient}
    (reached : (toolClient server id .text).ReachableVia (ClientKeeps id) client)
    (complete : client.Complete id) (stream : OutputStream) {text : String}
    (whole : (streamPieces stream (client.db.log id)).flatten = Utf8.bytes text) :
    ReadsAs stream client.received text ↔
      ∀ k, Utf8.IsText ((streamPieces stream (client.db.log id)).take k).flatten := by
  have served := toolClient_served reached
  obtain ⟨row, found, last⟩ := complete
  have length := (served.sound.numbered found).length
  have everything : client.received = (client.db.log id).map (convertEvent .text) := by
    rw [served.received.events, List.take_of_length_le (by omega)]
  rw [Utf8.isText_pieces_iff, everything]
  unfold ReadsAs
  rw [texts_convert]
  constructor
  · intro reads data member
    by_contra invalid
    obtain ⟨event, given, lossy⟩ := (lossy_convert stream _).mpr ⟨data, member, invalid⟩
    rw [reads.2 event given] at lossy
    cases lossy
  · intro valid
    refine ⟨join_pieceText valid whole, ?_⟩
    intro event given
    by_contra lossy
    obtain ⟨data, member, invalid⟩ :=
      (lossy_convert stream _).mp ⟨event, given, eq_true_of_ne_false lossy⟩
    exact invalid (valid data member)

/-- An execution that wrote the two bytes of one character, and an exclamation mark, in the
given chunks. -/
def chunkedOps (chunks : List Bytes) : List (StoreOp × List (Option String)) :=
  [(.createExecution 1 "a" { workspaceId := "w", command := .argv "printf" [] } "/demo", []),
   (.markRunning 2 "a" 10 10, []),
   (.appendCaptureBatch (chunks.map fun data => .output "a" 3 .stdout data), []),
   (.finish 4 "a" .finished (.exited 0), [])]

/-- A client that waits, and then reads the rest. -/
def sampleCalls (db : Database) : List ClientStep :=
  [.wait (some 1) (quiet db 5) ⟨6, none, {}⟩, .wait (some 2) (quiet db 7) ⟨8, none, {}⟩,
   .read none (quiet db 9) ⟨10, none, {}⟩]

/-- What `sampleCalls` get of `chunkedOps`. -/
def chunkedRead (chunks : List Bytes) : Option ToolClient :=
  (store.run sampleDatabase (chunkedOps chunks)).bind fun db =>
    (toolClient sampleServer "a" .text).run { db } (sampleCalls db)

theorem chunkedRead_reached {chunks : List Bytes} {client : ToolClient}
    (ran : chunkedRead chunks = some client)
    (present : (store.run sampleDatabase (chunkedOps chunks)).bind
      (fun db => db.executions.find? "a") ≠ none) :
    (toolClient sampleServer "a" .text).ReachableVia (ClientKeeps "a") client := by
  obtain ⟨db, stored, called⟩ := Option.bind_eq_some_iff.mp ran
  rw [stored, Option.bind_some] at present
  have sound := store_sound (System.run_reachable ⟨rfl, rfl⟩ stored)
  have first : (toolClient sampleServer "a" .text).start { db } :=
    ⟨sound, Option.isSome_iff_ne_none.mpr present, rfl, rfl, .inl rfl⟩
  refine (System.ReachableVia.start first).run (System.run_runVia_of_forall called ?_)
  intro step member client
  simp only [sampleCalls, List.mem_cons, List.not_mem_nil, or_false] at member
  rcases member with rfl | rfl | rfl <;> trivial

theorem text_output_iff_sample : ∃ client,
    chunkedRead [[0xC3, 0xA9], [0x21]] = some client ∧
    ReadsAs .stdout client.received "é!" := by
  have facts : (chunkedRead [[0xC3, 0xA9], [0x21]]).map (fun client =>
      (client.cursor, (client.db.executions.find? "a").map (·.lastSeq),
        streamPieces .stdout (client.db.log "a"))) =
      some (4, some 4, [[0xC3, 0xA9], [0x21]]) := by decide +kernel
  obtain ⟨client, ran, values⟩ := Option.map_eq_some_iff.mp facts
  have reached := chunkedRead_reached ran (by decide +kernel)
  obtain ⟨cursor, rest⟩ := Prod.ext_iff.mp values
  obtain ⟨last, chunks⟩ := Prod.ext_iff.mp rest
  obtain ⟨row, found, count⟩ := Option.map_eq_some_iff.mp last
  simp only at cursor count chunks
  refine ⟨client, ran, (text_output_iff reached ⟨row, found, by rw [cursor, count]⟩ .stdout
    (by rw [chunks]; decide +kernel)).mpr ?_⟩
  rw [chunks]
  refine Utf8.isText_pieces_iff.mpr ?_
  decide +kernel

/-- A cut inside the character turns it into two replacement characters, both lossy. -/
theorem text_output_split :
    (chunkedRead [[0xC3], [0xA9, 0x21]]).map (fun client =>
      (texts .stdout client.received, client.cursor)) = some (["\uFFFD", "\uFFFD!"], 4) ∧
    ∃ client, (toolClient sampleServer "a" .text).ReachableVia (ClientKeeps "a") client ∧
      client.Complete "a" ∧
      (streamPieces .stdout (client.db.log "a")).flatten = Utf8.bytes "é!" ∧
      ¬ ReadsAs .stdout client.received "é!" := by
  refine ⟨by decide +kernel, ?_⟩
  have facts : (chunkedRead [[0xC3], [0xA9, 0x21]]).map (fun client =>
      (client.cursor, (client.db.executions.find? "a").map (·.lastSeq),
        streamPieces .stdout (client.db.log "a"), String.join (texts .stdout client.received))) =
      some (4, some 4, [[0xC3], [0xA9, 0x21]], "\uFFFD\uFFFD!") := by decide +kernel
  obtain ⟨client, ran, values⟩ := Option.map_eq_some_iff.mp facts
  have reached := chunkedRead_reached ran (by decide +kernel)
  obtain ⟨cursor, rest⟩ := Prod.ext_iff.mp values
  obtain ⟨last, rest⟩ := Prod.ext_iff.mp rest
  obtain ⟨chunks, text⟩ := Prod.ext_iff.mp rest
  obtain ⟨row, found, count⟩ := Option.map_eq_some_iff.mp last
  simp only at cursor count chunks text
  refine ⟨client, reached, ⟨row, found, by rw [cursor, count]⟩, ?_, ?_⟩
  · rw [chunks]
    decide +kernel
  · intro reads
    have joined := reads.1
    rw [text] at joined
    revert joined
    decide

end Loomterm
