import Loomterm.Mcp.Tools
import Loomterm.Session.Detail
import Mathlib.Data.List.Sort

/-!
# Executions in hook results

`find_execution_id` of `src/agent.rs` searches the result of a tool for the execution that it was
about. The results of the tools of `src/mcp.rs` are JSON records; the provider passes a result on
as it is, or as the text of a content block. How JSON is written and read as text is a parameter.
-/

namespace Loomterm

open Json

namespace Json

/-- The fields of an object in the order of their names. -/
def inOrder (fields : List (String × Json)) : List (String × Json) :=
  fields.insertionSort fun left right => left.1 ≤ right.1

theorem mem_inOrder {fields : List (String × Json)} {field : String × Json} :
    field ∈ inOrder fields ↔ field ∈ fields :=
  (List.perm_insertionSort _ _).mem_iff

mutual

/-- Every text of a value. -/
@[simp] def texts : Json → List String
  | .string text => [text]
  | .array values => textsOf values
  | .object fields => textsIn fields
  | _ => []

@[simp] def textsOf : List Json → List String
  | [] => []
  | value :: rest => texts value ++ textsOf rest

@[simp] def textsIn : List (String × Json) → List String
  | [] => []
  | (_, value) :: rest => texts value ++ textsIn rest

end

mutual

/-- Every name of a field in a value. -/
@[simp] def names : Json → List String
  | .array values => namesOf values
  | .object fields => namesIn fields
  | _ => []

@[simp] def namesOf : List Json → List String
  | [] => []
  | value :: rest => names value ++ namesOf rest

@[simp] def namesIn : List (String × Json) → List String
  | [] => []
  | (name, value) :: rest => name :: names value ++ namesIn rest

end

theorem textsOf_eq (values : List Json) : textsOf values = values.flatMap texts := by
  induction values with
  | nil => rfl
  | cons value rest ih => rw [textsOf, ih, List.flatMap_cons]

theorem textsIn_eq (fields : List (String × Json)) :
    textsIn fields = fields.flatMap fun field => field.2.texts := by
  induction fields with
  | nil => rfl
  | cons field rest ih => rw [textsIn, ih, List.flatMap_cons]

theorem namesOf_eq (values : List Json) : namesOf values = values.flatMap names := by
  induction values with
  | nil => rfl
  | cons value rest ih => rw [namesOf, ih, List.flatMap_cons]

theorem namesIn_eq (fields : List (String × Json)) :
    namesIn fields = fields.flatMap fun field => field.1 :: field.2.names := by
  induction fields with
  | nil => rfl
  | cons field rest ih => rw [namesIn, ih, List.flatMap_cons, List.cons_append]

/-- An object has no field whose name it does not have. -/
theorem field_eq_none {name : String} {fields : List (String × Json)}
    (absent : name ∉ namesIn fields) : field name fields = none := by
  induction fields with
  | nil => rfl
  | cons entry rest ih =>
    simp only [namesIn, List.cons_append, List.mem_cons, List.mem_append, not_or] at absent
    rw [field, if_neg fun same => absent.1 same.symm]
    exact ih absent.2.2

end Json

/-- `MAX_HOOK_INPUT_BYTES`. -/
def maxHookInputBytes : Nat := 1024 * 1024

/-- `find_execution_id_at_depth` (`src/agent.rs:115`), where `left` counts the levels that are
left; `parse` is `serde_json::from_str`. -/
def findExecutionIdAtDepth (parse : String → Option Json) : Nat → Json → Option ExecutionId
  | 0, _ => none
  | left + 1, .object fields =>
      match (field "execution_id" fields).bind asStr with
      | some id => some id
      | none =>
        match (((field "execution" fields).bind asObject).bind (field "id")).bind asStr with
        | some id => some id
        | none => (inOrder fields).findSome? fun entry =>
            findExecutionIdAtDepth parse left entry.2
  | left + 1, .array values => values.findSome? (findExecutionIdAtDepth parse left)
  | left + 1, .string text =>
      if text.utf8ByteSize ≤ maxHookInputBytes then
        (parse text).bind (findExecutionIdAtDepth parse left)
      else none
  | _ + 1, _ => none

/-- `find_execution_id` (`src/agent.rs:111`): the depths up to 8. -/
def findExecutionId (parse : String → Option Json) (value : Json) : Option ExecutionId :=
  findExecutionIdAtDepth parse 9 value

/-! ## Results of tools -/

/-- `OutputStream::as_str` (`src/model.rs:524`). -/
def OutputStream.asStr : OutputStream → String
  | .stdout => "stdout"
  | .stderr => "stderr"

/-- The payload of a tool's event; `encode` is base64. -/
def ToolEventPayload.fields (encode : Bytes → String) : ToolEventPayload → List (String × Json)
  | .started pid pgid =>
      [("kind", .string "started"), ("pid", natural pid), ("pgid", .number pgid)]
  | .output stream rawBytes text dataBase64 lossy =>
      [("kind", .string "output"), ("stream", .string stream.asStr),
        ("raw_bytes", natural rawBytes)] ++ optionField "text" .string text ++
        optionField "data_base64" (fun data => .string (encode data)) dataBase64 ++
        optionField "lossy" .bool lossy
  | .captureTruncated limitBytes =>
      [("kind", .string "capture_truncated"), ("limit_bytes", natural limitBytes)]
  | .finished outcome => [("kind", .string "finished"), ("outcome", outcome.toJson)]

def ToolEvent.toJson (encode : Bytes → String) (event : ToolEvent) : Json :=
  .object ([("execution_id", .string event.executionId), ("seq", natural event.seq),
    ("timestamp_ms", .number event.timestampMs)] ++ event.payload.fields encode)

/-- What `loom_run` and `loom_read` return, and `loom_wait` but for one field. -/
structure WrappedResult where
  execution : DisplayedExecution
  events : List ToolEvent
  nextSeq : Nat
  hasMore : Bool

def WrappedResult.fields (encode : Bytes → String) (result : WrappedResult) :
    List (String × Json) :=
  [("execution", result.execution.toJson),
    ("events", .array (result.events.map (ToolEvent.toJson encode))),
    ("next_seq", natural result.nextSeq), ("has_more", .bool result.hasMore)]

/-- The results of the tools that are about one execution (`src/mcp.rs:186-388`). -/
inductive ToolResult where
  | run (result : WrappedResult)
  | get (execution : DisplayedExecution)
  | read (result : WrappedResult)
  | wait (result : WrappedResult) (timedOut : Bool)
  | cancel (execution : DisplayedExecution)

namespace ToolResult

/-- The execution that a result is about. -/
def execution : ToolResult → DisplayedExecution
  | .run result | .read result | .wait result _ => result.execution
  | .get execution | .cancel execution => execution

/-- The record of the execution is a field of the result. -/
def wraps : ToolResult → Bool
  | .run _ | .read _ | .wait .. => true
  | .get _ | .cancel _ => false

def toJson (encode : Bytes → String) : ToolResult → Json
  | .run result | .read result => .object (result.fields encode)
  | .wait result timedOut =>
      .object (result.fields encode ++ [("timed_out", .bool timedOut)])
  | .get execution | .cancel execution => execution.toJson

end ToolResult

/-- How a provider passes a result on in `tool_response`. -/
inductive Passing where
  | structured
  | content
  deriving DecidableEq, Repr

/-- The `tool_response` of a result; `serialize` is `serde_json::to_string`. -/
def Passing.response (serialize : Json → String) (value : Json) : Passing → Json
  | .structured => value
  | .content => .object [("content", .array
      [.object [("type", .string "text"), ("text", .string (serialize value))]])]

/-! ## What is found -/

variable {parse : String → Option Json} {encode : Bytes → String}

/-- The fields that are looked for. -/
def NamesExecution (name : String) : Prop := name = "execution_id" ∨ name = "execution"

/-- A value without a field for an execution yields an id only from one of its texts. -/
theorem find_in_texts {left : Nat} {value : Json} {id : ExecutionId}
    (unnamed : ∀ name ∈ value.names, ¬ NamesExecution name)
    (found : findExecutionIdAtDepth parse left value = some id) :
    ∃ text ∈ value.texts, ∃ left, findExecutionIdAtDepth parse left (.string text) = some id := by
  induction left generalizing value with
  | zero => cases found
  | succ left ih =>
    cases value with
    | string text => exact ⟨text, by simp [Json.texts], left + 1, found⟩
    | array values =>
      rw [Json.names, namesOf_eq] at unnamed
      rw [findExecutionIdAtDepth] at found
      obtain ⟨value, member, found⟩ := List.exists_of_findSome?_eq_some found
      have inner : ∀ name ∈ value.names, ¬ NamesExecution name := fun name inside =>
        unnamed name (List.mem_flatMap.mpr ⟨value, member, inside⟩)
      obtain ⟨text, inside, level, found⟩ := ih inner found
      refine ⟨text, ?_, level, found⟩
      rw [Json.texts, textsOf_eq]
      exact List.mem_flatMap.mpr ⟨value, member, inside⟩
    | object fields =>
      rw [Json.names] at unnamed
      rw [findExecutionIdAtDepth, field_eq_none fun named => unnamed _ named (.inl rfl),
        field_eq_none fun named => unnamed _ named (.inr rfl)] at found
      obtain ⟨entry, member, found⟩ := List.exists_of_findSome?_eq_some found
      have present := mem_inOrder.mp member
      rw [namesIn_eq] at unnamed
      have inner : ∀ name ∈ entry.2.names, ¬ NamesExecution name := fun name inside =>
        unnamed name (List.mem_flatMap.mpr ⟨entry, present, List.mem_cons_of_mem _ inside⟩)
      obtain ⟨text, inside, level, found⟩ := ih inner found
      refine ⟨text, ?_, level, found⟩
      rw [Json.texts, textsIn_eq]
      exact List.mem_flatMap.mpr ⟨entry, present, inside⟩
    | _ => cases found

theorem names_strings (values : List String) : (strings values).names = [] := by
  rw [strings, Json.names, namesOf_eq]
  induction values with
  | nil => rfl
  | cons value rest ih =>
    rw [List.map_cons, List.flatMap_cons, ih]
    rfl

theorem CommandSpec.unnamed (command : CommandSpec) :
    ∀ name ∈ command.toJson.names, ¬ NamesExecution name := by
  cases command with
  | argv program args =>
    simp [CommandSpec.toJson, Json.names, namesIn, names_strings, NamesExecution]
  | shell text path =>
    cases path <;> simp [CommandSpec.toJson, optionField, Json.names, namesIn, NamesExecution]

theorem ExecutionOutcome.unnamed (outcome : ExecutionOutcome) :
    ∀ name ∈ outcome.toJson.names, ¬ NamesExecution name := by
  cases outcome with
  | cancelled signal =>
    cases signal <;>
      simp [ExecutionOutcome.toJson, ofOption, Json.names, namesIn, NamesExecution]
  | _ => simp [ExecutionOutcome.toJson, Json.names, namesIn, NamesExecution]

theorem Initiator.unnamed (initiator : Initiator) :
    ∀ name ∈ initiator.toJson.names, ¬ NamesExecution name := by
  cases initiator with
  | mk kind name sessionId =>
    cases name <;> cases sessionId <;>
      simp [Initiator.toJson, optionField, Json.names, namesIn, NamesExecution]

theorem names_ofOption {α : Type} {encode : α → Json} {value : Option α}
    (unnamed : ∀ value, ∀ name ∈ (encode value).names, ¬ NamesExecution name) :
    ∀ name ∈ (ofOption encode value).names, ¬ NamesExecution name := by
  cases value with
  | none => simp [ofOption, Json.names]
  | some value => exact unnamed value

/-- The record of an execution has no field that names an execution. -/
theorem DisplayedExecution.unnamed (execution : DisplayedExecution) :
    ∀ name ∈ execution.toJson.names, ¬ NamesExecution name := by
  have outcome : ∀ name ∈ (ofOption ExecutionOutcome.toJson execution.outcome).names,
      ¬ NamesExecution name := names_ofOption ExecutionOutcome.unnamed
  have number : ∀ value : Option Int, ∀ name ∈ (ofOption Json.number value).names,
      ¬ NamesExecution name := fun _ => names_ofOption (by simp [Json.names])
  have natural : ∀ value : Option Nat, ∀ name ∈ (ofOption Json.natural value).names,
      ¬ NamesExecution name := fun _ => names_ofOption (by simp [Json.names, Json.natural])
  have keys : ∀ field ∈ execution.fields, ¬ NamesExecution field.1 := by
    simp [DisplayedExecution.fields, NamesExecution]
  have values : ∀ field ∈ execution.fields, ∀ name ∈ field.2.names, ¬ NamesExecution name := by
    have plain : ∀ value : Nat, (Json.natural value).names = [] := fun value => by
      simp [Json.names, Json.natural]
    simp only [DisplayedExecution.fields, List.forall_mem_cons, names_strings, plain]
    simp only [Json.names, List.not_mem_nil, false_implies, implies_true, true_and, and_true]
    exact ⟨execution.command.unnamed, execution.initiator.unnamed, number _, number _, natural _,
      natural _, number _, outcome⟩
  intro name member
  rw [DisplayedExecution.toJson, Json.names, namesIn_eq] at member
  obtain ⟨field, present, member⟩ := List.mem_flatMap.mp member
  rcases List.mem_cons.mp member with rfl | member
  · exact keys field present
  · exact values field present name member

theorem find_wrapped {left : Nat} {result : ToolResult} (wraps : result.wraps = true) :
    findExecutionIdAtDepth parse (left + 1) (result.toJson encode) =
      some result.execution.id := by
  cases result with
  | run result => rfl
  | read result => rfl
  | wait result timedOut => rfl
  | get execution => cases wraps
  | cancel execution => cases wraps

/-- In a content block the text is searched, as nothing else is JSON. -/
theorem find_content {serialize : Json → String} {value : Json} (word : parse "text" = none) :
    findExecutionId parse (Passing.content.response serialize value) =
      if (serialize value).utf8ByteSize ≤ maxHookInputBytes then
        (parse (serialize value)).bind (findExecutionIdAtDepth parse 5)
      else none := by
  have alone : ∀ field : String × Json, inOrder [field] = [field] := fun _ => rfl
  have block : inOrder [("type", .string "text"), ("text", .string (serialize value))] =
      [("text", .string (serialize value)), ("type", .string "text")] := by
    have order : ¬ "type" ≤ "text" := by decide
    simp [inOrder, List.insertionSort, List.orderedInsert, order]
  have tag : findExecutionIdAtDepth parse 6 (.string "text") = none := by
    rw [findExecutionIdAtDepth, word]
    split <;> rfl
  have text : findExecutionIdAtDepth parse 6 (.string (serialize value)) =
      if (serialize value).utf8ByteSize ≤ maxHookInputBytes then
        (parse (serialize value)).bind (findExecutionIdAtDepth parse 5)
      else none := by rw [findExecutionIdAtDepth]
  have inside : ∀ left, findExecutionIdAtDepth parse (left + 1)
      (.object [("type", .string "text"), ("text", .string (serialize value))]) =
      [("text", .string (serialize value)), ("type", .string "text")].findSome? fun entry =>
        findExecutionIdAtDepth parse left entry.2 := by
    intro left
    rw [findExecutionIdAtDepth, ← block]
    rfl
  have outer : ∀ left blocks, findExecutionIdAtDepth parse (left + 2)
      (.object [("content", .array [blocks])]) = findExecutionIdAtDepth parse left blocks := by
    intro left blocks
    rw [findExecutionIdAtDepth, alone]
    simp only [field, List.findSome?_singleton]
    rw [findExecutionIdAtDepth, List.findSome?_singleton]
    rfl
  rw [← text, findExecutionId, Passing.response, outer, inside, List.findSome?_cons,
    List.findSome?_singleton, tag]
  cases findExecutionIdAtDepth parse 6 (.string (serialize value)) <;> rfl

/-- A text of the record of an execution is JSON that names the execution itself. -/
def DisplayedExecution.NamesItself (parse : String → Option Json)
    (execution : DisplayedExecution) : Prop :=
  ∃ text ∈ execution.toJson.texts, ∃ left,
    findExecutionIdAtDepth parse left (.string text) = some execution.id

/-- From the result of a tool the hook finds its execution when the record is a field of the
result, and the result is passed on as it is or as a text that is not too long; and otherwise
only when a text of the record names the execution. -/
theorem tool_result_linked (parse : String → Option Json) (serialize : Json → String)
    (encode : Bytes → String) (passing : Passing) (result : ToolResult)
    (reads : parse (serialize (result.toJson encode)) = some (result.toJson encode))
    (word : parse "text" = none) :
    (result.wraps = true → (passing = .structured ∨
        (serialize (result.toJson encode)).utf8ByteSize ≤ maxHookInputBytes) →
      findExecutionId parse (passing.response serialize (result.toJson encode)) =
        some result.execution.id) ∧
    (findExecutionId parse (passing.response serialize (result.toJson encode)) =
        some result.execution.id →
      result.wraps = true ∧ (passing = .structured ∨
        (serialize (result.toJson encode)).utf8ByteSize ≤ maxHookInputBytes) ∨
      result.wraps = false ∧ result.execution.NamesItself parse) := by
  have bare : ∀ left, result.wraps = false →
      findExecutionIdAtDepth parse left (result.toJson encode) = some result.execution.id →
        result.execution.NamesItself parse := by
    intro left wraps found
    cases result with
    | get execution => exact find_in_texts execution.unnamed found
    | cancel execution => exact find_in_texts execution.unnamed found
    | _ => cases wraps
  cases passing with
  | structured =>
    refine ⟨fun wraps _ => find_wrapped wraps, fun found => ?_⟩
    cases wraps : result.wraps with
    | true => exact .inl ⟨rfl, .inl rfl⟩
    | false => exact .inr ⟨rfl, bare 9 wraps found⟩
  | content =>
    rw [find_content word, reads, Option.bind_some]
    constructor
    · rintro wraps (passed | short)
      · cases passed
      · rw [if_pos short]
        exact find_wrapped wraps
    · intro found
      split at found
      · rename_i short
        cases wraps : result.wraps with
        | true => exact .inl ⟨rfl, .inr short⟩
        | false => exact .inr ⟨rfl, bare 5 wraps found⟩
      · cases found

/-- The result of `loom_run` for `sampleExecution`. -/
def sampleResult : ToolResult :=
  .run { execution := sampleExecution "a", events := [], nextSeq := 0, hasMore := false }

/-- The text of `sampleResult`. -/
def sampleResultText : String :=
    r#"{"events":[],"execution":{"captured_bytes":0,"command":{"args":[],"# ++
    r#""kind":"argv","program":"make"},"command_display":"make","# ++
    r#""created_at_ms":0,"cwd":"/w","duration_ms":null,"ended_at_ms":null,"# ++
    r#""env_keys":[],"id":"a","initiator":{"kind":"unknown"},"last_seq":1,"# ++
    r#""outcome":null,"output_truncated":false,"pgid":10,"pid":10,"started_at_ms":1,"# ++
    r#""state":"running","workspace_id":"w"},"has_more":false,"next_seq":0}"#

theorem tool_result_linked_sample :
    findExecutionId
      (fun text => if text = sampleResultText then some (sampleResult.toJson fun _ => "") else none)
      (Passing.content.response (fun _ => sampleResultText) (sampleResult.toJson fun _ => "")) =
      some "a" := by
  refine (tool_result_linked _ _ _ .content sampleResult (if_pos rfl) (if_neg ?_)).1 rfl (.inr ?_)
  · decide +kernel
  · decide +kernel

/-- A command that posts the id of another execution. -/
def samplePost : DisplayedExecution :=
  { sampleExecution "a" with
    command := .argv "curl" ["-d", r#"{"execution_id":"b"}"#]
    commandDisplay := r#"curl -d '{"execution_id":"b"}'"# }

/-- What `serde_json` makes of the texts in `sampleExecution` and `samplePost`. -/
def sampleParse (text : String) : Option Json :=
  if text = r#"{"execution_id":"b"}"# then some (.object [("execution_id", .string "b")])
  else none

/-- From the result of `loom_get` the hook finds nothing, or another execution. -/
theorem get_result_unlinked :
    findExecutionId sampleParse
        (Passing.structured.response (fun _ => "") (ToolResult.toJson (fun _ => "")
          (.get (sampleExecution "a")))) = none ∧
      findExecutionId sampleParse
        (Passing.structured.response (fun _ => "") (ToolResult.toJson (fun _ => "")
          (.get samplePost))) = some "b" ∧
      samplePost.id = "a" := by
  refine ⟨?_, ?_, rfl⟩
  · decide +kernel
  · decide +kernel

end Loomterm
