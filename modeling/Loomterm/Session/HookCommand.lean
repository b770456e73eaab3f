import Loomterm.InitPlan
import Loomterm.Session.Hook
import Loomterm.Store.Commands

/-!
# The hook command

An agent runs `loom agent-event` at its hooks, with a JSON object on stdin. The command answers with
a refusal, gives up with a line in a log, or sends one event to the daemon. Under strict routing the
refusals keep the start of a native shell from ever being recorded.
-/

namespace Loomterm

open Json (field)

/-! ## Reading the input -/

/-- `str::eq_ignore_ascii_case`. -/
def eqIgnoreAsciiCase (left right : String) : Bool :=
  left.toList.map Char.toLower == right.toList.map Char.toLower

/-- `optional_string` (`src/agent.rs:107`) of a field. -/
def optionalString (name : String) (object : List (String × Json)) : Option String :=
  (field name object).bind Json.asStr

/-- `required_string` (`src/agent.rs:101`) of a field. -/
def requiredString (name : String) (object : List (String × Json)) : Except Error String :=
  match (optionalString name object).filter (· ≠ "") with
  | some text => .ok text
  | none => .error (.invalidRequest ("hook field " ++ name ++ " must be a string"))

/-- The refusal of a native shell. -/
def shellDenied : Json :=
  .object [("hookSpecificOutput", .object [
    ("hookEventName", .string "PreToolUse"),
    ("permissionDecision", .string "deny"),
    ("permissionDecisionReason", .string (
      "Native Bash is disabled for this Loomterm session. Retry the same operation with " ++
      "the Loomterm MCP loom_run tool. Use program and args for a simple argv command, or " ++
      "shell_command when shell syntax is required. Preserve the requested cwd and environment. " ++
      "Do not fall back to native Bash. If the command requires an interactive PTY, tell the " ++
      "user to relaunch with --allow-native-shell."))])]

/-- `strict_shell_routing_response` (`src/agent.rs:9`). -/
def strictShellRoutingResponse (input : Json) : Option Json := do
  let object ← input.asObject
  let event ← optionalString "hook_event_name" object
  let tool ← optionalString "tool_name" object
  if event ≠ "PreToolUse" || !eqIgnoreAsciiCase tool "bash" then none else some shellDenied

/-- `hook_cwd` (`src/agent.rs:34`). -/
def hookCwd (input : Json) : Option String := input.asObject.bind (optionalString "cwd")

/-- A session that is recorded for the provider around the directory. -/
def hookSession (provider cwd : String) (session : AgentSessionRow) : Bool :=
  session.state = .recording &&
    (eqIgnoreAsciiCase session.agentKind provider ||
      eqIgnoreAsciiCase session.agentKind "generic") &&
    (components cwd = components session.cwd || components session.cwd <+: components cwd)

/-- `select_active_session_id` (`src/agent.rs:38`). -/
def selectActiveSessionId (sessions : List AgentSessionRow) (provider cwd : String) :
    Option SessionId :=
  (sessions.find? (hookSession provider cwd)).map AgentSessionRow.id

/-- The event in `normalize_hook_event`, if it is one that is recorded. -/
def hookEvent (parse : String → Option Json) (object : List (String × Json)) (name : String) :
    Except Error (Option AgentEvent) := do
  if name = "UserPromptSubmit" then
    let prompt ← requiredString "prompt" object
    .ok (some (.promptSubmitted prompt))
  else if name = "PreToolUse" then
    let actionId ← requiredString "tool_use_id" object
    let toolName ← requiredString "tool_name" object
    .ok (some (.toolStarted actionId toolName))
  else if name = "PostToolUse" || name = "PostToolUseFailure" then
    let actionId ← requiredString "tool_use_id" object
    let toolName ← requiredString "tool_name" object
    .ok (some (.toolFinished actionId toolName (name = "PostToolUseFailure")
      ((field "tool_response" object).bind (findExecutionId parse))))
  else if name = "Stop" || name = "StopFailure" then
    .ok (some (.turnFinished (name = "StopFailure")
      (optionalString "last_assistant_message" object)))
  else .ok none

/-- `normalize_hook_event` (`src/agent.rs:57`). -/
def normalizeHookEvent (parse : String → Option Json) (provider : String) (sessionId : SessionId)
    (input : Json) : Except Error (Option AgentEventRequest) := do
  let some object := input.asObject
    | .error (.invalidRequest "hook input must be a JSON object")
  let providerSessionId ← requiredString "session_id" object
  let name ← requiredString "hook_event_name" object
  let some event ← hookEvent parse object name | .ok none
  let request : AgentEventRequest :=
    { sessionId, provider, providerSessionId, event
      providerTurnId := optionalString "turn_id" object }
  request.validate
  .ok (some request)

/-! ## The command -/

/-- What the command finds around it. -/
structure HookTools where
  parse : String → Option Json
  fromSlice : Bytes → Option Json
  /-- `LOOMTERM_SHELL_ROUTING` -/
  routing : Option String
  /-- `LOOMTERM_SESSION_ID` -/
  sessionId : Option String
  /-- Whether `AppPaths::discover` succeeds. -/
  discovered : Bool
  canonicalize : String → Option String

/-- How the command ends. -/
inductive HookEnd where
  | denied (response : Json)
  | logged (message : String)
  | sent (request : AgentEventRequest)

/-- The session that the command records for: that of its environment, or one of those that the
daemon lists. -/
def HookTools.session (tools : HookTools) (provider : String)
    (listed : Except Error (List AgentSessionRow)) (input : Json) : Except String SessionId :=
  match tools.sessionId.filter (· ≠ "") with
  | some id => .ok id
  | none =>
      match (hookCwd input).bind tools.canonicalize, listed with
      | none, _ => .error "hook input had no usable cwd"
      | some _, .error _ => .error "could not list active Loomterm sessions"
      | some cwd, .ok sessions =>
          match selectActiveSessionId sessions provider cwd with
          | some id => .ok id
          | none => .error "no matching active Loomterm session"

/-- `record_agent_hook_event` (`src/bin/loom.rs:536`); `stdin` is what can be read, and `listed`
what the daemon answers to `list_agent_sessions`. -/
def recordAgentHookEvent (tools : HookTools) (provider : AgentProviderArg)
    (listed : Except Error (List AgentSessionRow)) (stdin : Option Bytes) : HookEnd :=
  match stdin.filter (·.length ≤ maxHookInputBytes) with
  | none => .logged "hook input read failed or exceeded the size limit"
  | some bytes =>
  match tools.fromSlice bytes with
  | none => .logged "hook input was not valid JSON"
  | some input =>
  match (if tools.routing = some "strict" then strictShellRoutingResponse input else none) with
  | some response => .denied response
  | none =>
  if !tools.discovered then .logged "could not discover Loomterm paths" else
  match tools.session provider.asStr listed input with
  | .error message => .logged message
  | .ok sessionId =>
  match normalizeHookEvent tools.parse provider.asStr sessionId input with
  | .ok (some request) => .sent request
  | _ => .logged "hook event was unsupported or invalid"

/-! ## What is sent -/

/-- How a provider writes an event. -/
def AgentEvent.Written (parse : String → Option Json) (object : List (String × Json)) :
    AgentEvent → Prop
  | .promptSubmitted prompt =>
      optionalString "hook_event_name" object = some "UserPromptSubmit" ∧
        optionalString "prompt" object = some prompt
  | .toolStarted actionId toolName =>
      optionalString "hook_event_name" object = some "PreToolUse" ∧
        optionalString "tool_use_id" object = some actionId ∧
        optionalString "tool_name" object = some toolName
  | .toolFinished actionId toolName failed executionId =>
      optionalString "hook_event_name" object =
          some (if failed then "PostToolUseFailure" else "PostToolUse") ∧
        optionalString "tool_use_id" object = some actionId ∧
        optionalString "tool_name" object = some toolName ∧
        (field "tool_response" object).bind (findExecutionId parse) = executionId
  | .turnFinished failed message =>
      optionalString "hook_event_name" object = some (if failed then "StopFailure" else "Stop") ∧
        optionalString "last_assistant_message" object = message

/-- How a provider writes a request; other fields may be there. -/
structure AgentEventRequest.Written (parse : String → Option Json)
    (object : List (String × Json)) (request : AgentEventRequest) : Prop where
  session : optionalString "session_id" object = some request.providerSessionId
  turn : optionalString "turn_id" object = request.providerTurnId
  event : request.event.Written parse object

section

variable {parse : String → Option Json} {object : List (String × Json)} {name text : String}

@[simp] theorem requiredString_eq_ok :
    requiredString name object = .ok text ↔ optionalString name object = some text ∧ text ≠ "" := by
  unfold requiredString
  cases found : optionalString name object with
  | none => simp
  | some other =>
    by_cases empty : other = ""
    · subst empty
      simp only [Option.filter, ne_eq, not_true_eq_false, decide_false, Bool.false_eq_true,
        if_false, reduceCtorEq, Option.some.injEq, false_iff, not_and, not_not]
      exact Eq.symm
    · simp only [Option.filter, ne_eq, empty, not_false_eq_true, decide_true, if_true,
        Except.ok.injEq, Option.some.injEq]
      exact ⟨fun same => ⟨same, same ▸ empty⟩, fun same => same.1⟩

/-- A text field of a hook is there. -/
theorem bind_requiredString {α : Type} {next : String → Except Error α} {value : α} :
    (requiredString name object >>= next) = .ok value ↔
      ∃ text, optionalString name object = some text ∧ text ≠ "" ∧ next text = .ok value := by
  cases read : requiredString name object with
  | error e =>
    refine ⟨fun none => (by cases none), ?_⟩
    rintro ⟨text, there, full, -⟩
    rw [requiredString_eq_ok.mpr ⟨there, full⟩] at read
    cases read
  | ok text =>
    obtain ⟨there, full⟩ := requiredString_eq_ok.mp read
    refine ⟨fun rest => ⟨text, there, full, rest⟩, ?_⟩
    rintro ⟨text', there', -, rest⟩
    rw [there, Option.some.injEq] at there'
    exact there' ▸ rest

theorem isBlank_empty : isBlank "" = true := rfl

theorem ne_empty_of_filled (filled : isBlank text = false) : text ≠ "" := by
  rintro rfl
  rw [isBlank_empty] at filled
  cases filled

/-- The two texts of a tool are checked alike. -/
theorem filled_of_validate {actionId toolName : String}
    (valid : (AgentEvent.toolStarted actionId toolName).validate = .ok ()) :
    isBlank actionId = false ∧ isBlank toolName = false := by
  unfold AgentEvent.validate at valid
  cases action : isBlank actionId with
  | true => simp [action] at valid
  | false =>
    cases tool : isBlank toolName with
    | true => simp [action, tool] at valid
    | false => exact ⟨rfl, rfl⟩

theorem AgentEventRequest.fields_of_validate {request : AgentEventRequest}
    (valid : request.validate = .ok ()) :
    isBlank request.providerSessionId = false ∧ request.event.validate = .ok () := by
  unfold AgentEventRequest.validate at valid
  by_cases blank : isBlank request.sessionId || isBlank request.provider ||
      isBlank request.providerSessionId
  · rw [if_pos blank] at valid
    cases valid
  · rw [if_neg blank] at valid
    simp only [Bool.or_eq_true, not_or, Bool.not_eq_true] at blank
    refine ⟨blank.2, ?_⟩
    by_cases turn : request.providerTurnId.any isBlank
    · simp only [turn, if_true] at valid
      cases valid
    · simp only [turn] at valid
      exact valid

theorem AgentEvent.written_of_hookEvent {event : AgentEvent}
    (named : optionalString "hook_event_name" object = some name)
    (read : hookEvent parse object name = .ok (some event)) : event.Written parse object := by
  unfold hookEvent at read
  split at read
  · rename_i same
    obtain ⟨prompt, there, -, rest⟩ := bind_requiredString.mp read
    cases rest
    exact ⟨same ▸ named, there⟩
  · split at read
    · rename_i same
      obtain ⟨actionId, action, -, rest⟩ := bind_requiredString.mp read
      obtain ⟨toolName, tool, -, rest⟩ := bind_requiredString.mp rest
      cases rest
      exact ⟨same ▸ named, action, tool⟩
    · split at read
      · rename_i same
        obtain ⟨actionId, action, -, rest⟩ := bind_requiredString.mp read
        obtain ⟨toolName, tool, -, rest⟩ := bind_requiredString.mp rest
        cases rest
        refine ⟨?_, action, tool, rfl⟩
        rw [Bool.or_eq_true, decide_eq_true_eq, decide_eq_true_eq] at same
        rcases same with rfl | rfl
        · exact named
        · exact named
      · split at read
        · rename_i same
          cases read
          refine ⟨?_, rfl⟩
          rw [Bool.or_eq_true, decide_eq_true_eq, decide_eq_true_eq] at same
          rcases same with rfl | rfl
          · exact named
          · exact named
        · cases read

theorem AgentEvent.hookEvent_of_written {event : AgentEvent} (written : event.Written parse object)
    (valid : event.validate = .ok ()) :
    ∃ name, optionalString "hook_event_name" object = some name ∧ name ≠ "" ∧
      hookEvent parse object name = .ok (some event) := by
  cases event with
  | promptSubmitted prompt =>
    obtain ⟨named, there⟩ := written
    have full : prompt ≠ "" := by
      rintro rfl
      cases valid
    exact ⟨_, named, by decide, bind_requiredString.mpr ⟨prompt, there, full, rfl⟩⟩
  | toolStarted actionId toolName =>
    obtain ⟨named, action, tool⟩ := written
    obtain ⟨filledAction, filledTool⟩ := filled_of_validate valid
    refine ⟨_, named, by decide, bind_requiredString.mpr ⟨actionId, action,
      ne_empty_of_filled filledAction, bind_requiredString.mpr ⟨toolName, tool,
        ne_empty_of_filled filledTool, rfl⟩⟩⟩
  | toolFinished actionId toolName failed executionId =>
    obtain ⟨named, action, tool, rfl⟩ := written
    obtain ⟨filledAction, filledTool⟩ := filled_of_validate valid
    refine ⟨_, named, ?_, ?_⟩
    · cases failed <;> decide
    · cases failed
      · exact bind_requiredString.mpr ⟨actionId, action, ne_empty_of_filled filledAction,
          bind_requiredString.mpr ⟨toolName, tool, ne_empty_of_filled filledTool, rfl⟩⟩
      · exact bind_requiredString.mpr ⟨actionId, action, ne_empty_of_filled filledAction,
          bind_requiredString.mpr ⟨toolName, tool, ne_empty_of_filled filledTool, rfl⟩⟩
  | turnFinished failed message =>
    obtain ⟨named, rfl⟩ := written
    refine ⟨_, named, ?_, ?_⟩
    · cases failed <;> decide
    · cases failed <;> rfl

end

section

variable {parse : String → Option Json} {provider : String} {sessionId : SessionId} {input : Json}
  {request : AgentEventRequest}

/-- The events that are recorded are the valid ones, as the providers write them. -/
theorem normalizeHookEvent_eq_ok :
    normalizeHookEvent parse provider sessionId input = .ok (some request) ↔
      (∃ object, input = .object object ∧ request.Written parse object) ∧
        request.sessionId = sessionId ∧ request.provider = provider ∧
        request.validate = .ok () := by
  constructor
  · intro read
    unfold normalizeHookEvent at read
    cases input with
    | object object =>
      obtain ⟨providerSessionId, session, -, read⟩ := bind_requiredString.mp read
      obtain ⟨name, named, -, read⟩ := bind_requiredString.mp read
      cases found : hookEvent parse object name with
      | error e =>
        rw [found] at read
        cases read
      | ok event =>
        rw [found] at read
        cases event with
        | none => cases read
        | some event =>
          simp only [bind, Except.bind] at read
          split at read
          · cases read
          · rename_i valid
            cases read
            exact ⟨⟨object, rfl, session, rfl, AgentEvent.written_of_hookEvent named found⟩, rfl,
              rfl, valid⟩
    | _ => cases read
  · rintro ⟨⟨object, rfl, session, turn, event⟩, rfl, rfl, valid⟩
    have fields := AgentEventRequest.fields_of_validate valid
    obtain ⟨name, named, full, read⟩ := AgentEvent.hookEvent_of_written event fields.2
    unfold normalizeHookEvent
    refine bind_requiredString.mpr ⟨_, session, ne_empty_of_filled fields.1, ?_⟩
    refine bind_requiredString.mpr ⟨name, named, full, ?_⟩
    rw [read]
    simp only [turn, bind, Except.bind, valid]

/-- What is refused is the start of a native shell. -/
theorem strictShellRoutingResponse_eq_none {object : List (String × Json)} :
    strictShellRoutingResponse (.object object) = none ↔
      ¬ (optionalString "hook_event_name" object = some "PreToolUse" ∧
        ∃ tool, optionalString "tool_name" object = some tool ∧
          eqIgnoreAsciiCase tool "bash" = true) := by
  unfold strictShellRoutingResponse
  simp only [Json.asObject, bind, Option.bind_some]
  cases event : optionalString "hook_event_name" object with
  | none => simp
  | some name =>
    cases named : optionalString "tool_name" object with
    | none => simp
    | some tool =>
      simp only [Option.bind_some, Option.some.injEq, exists_eq_left']
      by_cases start : name = "PreToolUse"
      · simp [start]
      · simp [start]

end

section

variable {tools : HookTools} {provider : AgentProviderArg} {request : AgentEventRequest}
  {listed : Except Error (List AgentSessionRow)} {stdin : Option Bytes}

theorem normalizeHookEvent_session {parse : String → Option Json} {name : String}
    {sessionId : SessionId} {input : Json}
    (read : normalizeHookEvent parse name sessionId input = .ok (some request)) :
    sessionId = request.sessionId :=
  (normalizeHookEvent_eq_ok.mp read).2.1.symm

theorem recordAgentHookEvent_eq_sent :
    recordAgentHookEvent tools provider listed stdin = .sent request ↔
      ∃ bytes input, stdin = some bytes ∧ bytes.length ≤ maxHookInputBytes ∧
        tools.fromSlice bytes = some input ∧
        (tools.routing = some "strict" → strictShellRoutingResponse input = none) ∧
        tools.discovered = true ∧
        tools.session provider.asStr listed input = .ok request.sessionId ∧
        normalizeHookEvent tools.parse provider.asStr request.sessionId input =
          .ok (some request) := by
  unfold recordAgentHookEvent
  constructor
  · intro sent
    split at sent
    · cases sent
    · rename_i bytes given
      obtain ⟨there, small⟩ := Option.filter_eq_some_iff.mp given
      split at sent
      · cases sent
      · rename_i input decoded
        split at sent
        · cases sent
        · rename_i passed
          split at sent
          · cases sent
          · rename_i discovered
            split at sent
            · cases sent
            · rename_i sessionId chosen
              split at sent
              · rename_i read
                cases sent
                obtain rfl := normalizeHookEvent_session read
                refine ⟨bytes, input, there, of_decide_eq_true small, decoded, fun strict => ?_, ?_,
                  chosen, read⟩
                · rwa [if_pos strict] at passed
                · simpa using discovered
              · cases sent
  · rintro ⟨bytes, input, rfl, small, decoded, passed, discovered, chosen, read⟩
    have given : (some bytes).filter (fun bytes => decide (bytes.length ≤ maxHookInputBytes)) =
        some bytes := by simp [Option.filter, small]
    have routed : (if tools.routing = some "strict" then strictShellRoutingResponse input
        else none) = none := by
      by_cases strict : tools.routing = some "strict"
      · rw [if_pos strict, passed strict]
      · rw [if_neg strict]
    simp only [given, decoded, routed, discovered, chosen, read, Bool.not_true, Bool.false_eq_true,
      if_false]

end

/-- The session of a hook: that of its environment, or else the first of the listed ones that is
recorded for the provider around the directory of the hook. -/
def HookTools.Chooses (tools : HookTools) (provider : String)
    (listed : Except Error (List AgentSessionRow)) (object : List (String × Json))
    (id : SessionId) : Prop :=
  (tools.sessionId = some id ∧ id ≠ "") ∨
    ((∀ own, tools.sessionId = some own → own = "") ∧
      ∃ cwd path before session after, optionalString "cwd" object = some cwd ∧
        tools.canonicalize cwd = some path ∧ listed = .ok (before ++ session :: after) ∧
        session.id = id ∧ hookSession provider path session = true ∧
        ∀ other ∈ before, hookSession provider path other = false)

theorem HookTools.session_eq_ok {tools : HookTools} {provider : String}
    {listed : Except Error (List AgentSessionRow)} {object : List (String × Json)}
    {id : SessionId} : tools.session provider listed (.object object) = .ok id ↔
      tools.Chooses provider listed object id := by
  have cwd_ : hookCwd (.object object) = optionalString "cwd" object := rfl
  unfold HookTools.session HookTools.Chooses
  rw [cwd_]
  cases own : tools.sessionId.filter (· ≠ "") with
  | some own' =>
    obtain ⟨there, full⟩ := Option.filter_eq_some_iff.mp own
    simp only [ne_eq, decide_not, Bool.not_eq_true', decide_eq_false_iff_not] at full
    simp only [there, Except.ok.injEq, Option.some.injEq, forall_eq']
    constructor
    · rintro rfl
      exact .inl ⟨rfl, full⟩
    · rintro (⟨same, -⟩ | ⟨empty, -⟩)
      · exact same
      · exact absurd empty full
  | none =>
    have empty (own' : String) (there : tools.sessionId = some own') : own' = "" := by
      by_contra full
      rw [there] at own
      simp [Option.filter, full] at own
    cases directory : (optionalString "cwd" object).bind tools.canonicalize with
    | none =>
      refine ⟨fun none => (by cases none), ?_⟩
      rintro (⟨there, full⟩ | ⟨-, cwd, path, _, _, _, named, canonical, -⟩)
      · exact absurd (empty id there) full
      · rw [named, Option.bind_some, canonical] at directory
        cases directory
    | some path =>
      obtain ⟨cwd, named, canonical⟩ := Option.bind_eq_some_iff.mp directory
      have none_ : ¬ (tools.sessionId = some id ∧ id ≠ "") := fun own => own.2 (empty id own.1)
      cases listed with
      | error e =>
        refine ⟨fun none => (by cases none), ?_⟩
        rintro (own | ⟨-, _, _, _, _, _, -, -, listed, -⟩)
        · exact absurd own none_
        · cases listed
      | ok sessions =>
        simp only [selectActiveSessionId]
        constructor
        · intro chosen
          cases found : sessions.find? (hookSession provider path) with
          | none =>
            rw [found] at chosen
            cases chosen
          | some session =>
            rw [found] at chosen
            cases chosen
            obtain ⟨fits, before, after, rfl, others⟩ := List.find?_eq_some_iff_append.mp found
            refine .inr ⟨empty, cwd, path, before, session, after, named, canonical, rfl, rfl, fits,
              fun other member => ?_⟩
            simpa using others other member
        · rintro (own | ⟨-, cwd', path', before, session, after, named', canonical', listed, rfl,
            fits, others⟩)
          · exact absurd own none_
          · cases listed
            obtain rfl : cwd' = cwd := Option.some.inj (named'.symm.trans named)
            obtain rfl : path' = path := Option.some.inj (canonical'.symm.trans canonical)
            have found : (before ++ session :: after).find? (hookSession provider path') =
                some session := by
              refine List.find?_eq_some_iff_append.mpr ⟨fits, before, after, rfl, ?_⟩
              exact fun other member => by simp [others other member]
            rw [found]
            rfl

/-- The command sends exactly the valid events that providers write, for the session that it
belongs to, unless it refuses a shell or cannot go on. -/
theorem hook_command_sends (tools : HookTools) (provider : AgentProviderArg)
    (listed : Except Error (List AgentSessionRow)) (stdin : Option Bytes)
    (request : AgentEventRequest) :
    recordAgentHookEvent tools provider listed stdin = .sent request ↔
      ∃ bytes object, stdin = some bytes ∧ bytes.length ≤ maxHookInputBytes ∧
        tools.fromSlice bytes = some (.object object) ∧ tools.discovered = true ∧
        ¬ (tools.routing = some "strict" ∧
          optionalString "hook_event_name" object = some "PreToolUse" ∧
          ∃ tool, optionalString "tool_name" object = some tool ∧
            eqIgnoreAsciiCase tool "bash" = true) ∧
        tools.Chooses provider.asStr listed object request.sessionId ∧
        request.provider = provider.asStr ∧ request.Written tools.parse object ∧
        request.validate = .ok () := by
  rw [recordAgentHookEvent_eq_sent]
  constructor
  · rintro ⟨bytes, input, given, small, decoded, passed, discovered, chosen, read⟩
    obtain ⟨⟨object, rfl, written⟩, -, own, valid⟩ := normalizeHookEvent_eq_ok.mp read
    exact ⟨bytes, object, given, small, decoded, discovered,
      fun shell => strictShellRoutingResponse_eq_none.mp (passed shell.1) shell.2,
      HookTools.session_eq_ok.mp chosen, own, written, valid⟩
  · rintro ⟨bytes, object, given, small, decoded, discovered, passed, chosen, own, written, valid⟩
    refine ⟨bytes, .object object, given, small, decoded, fun strict => ?_, discovered,
      HookTools.session_eq_ok.mpr chosen,
      normalizeHookEvent_eq_ok.mpr ⟨⟨object, rfl, written⟩, rfl, own, valid⟩⟩
    exact strictShellRoutingResponse_eq_none.mpr fun shell => passed ⟨strict, shell⟩

/-! ## Strict routing -/

/-- An action that is not a native shell at work. -/
def AgentActionRow.Allowed (action : AgentActionRow) : Prop :=
  action.state = .running → eqIgnoreAsciiCase action.toolName "bash" = false

/-- No native shell is at work. -/
def NoShell (actions : Table AgentActionRow.id) : Prop := ∀ action ∈ actions.rows, action.Allowed

namespace Database

/-- `NoShell` of the actions that a database stores. -/
abbrev ShellFree (db : Database) : Prop := NoShell db.agentActions

/-- What statements that do not write actions keep. -/
theorem ShellFree.writes : ExecutionWrites ShellFree where
  event event := by
    refine Sql.Keeps.frame agentActions fun s a s' ran => ?_
    split at ran
    · cases ran
    · split at ran <;> cases ran
      rfl
  update keeps same := by
    refine Sql.Keeps.frame agentActions fun s a s' ran => ?_
    cases ran
    rfl
  delete p := by
    refine Sql.Keeps.statement fun s a s' kept ran => ?_
    cases ran
    intro action member
    -- an action loses its link to an execution that is gone
    have keeps : ∀ row : AgentActionRow,
        ({ row with executionId := none } : AgentActionRow).id = row.id := fun _ => rfl
    obtain ⟨old, present, rfl⟩ := (Table.mem_update keeps).mp member
    have allowed := kept old present
    split <;> exact allowed

theorem ShellFree.workspaceWrites : WorkspaceWrites ShellFree where
  active active id := by
    refine Sql.Keeps.frame agentActions fun s a s' ran => ?_
    cases ran
    rfl
  insert workspace := by
    refine Sql.Keeps.frame agentActions fun s a s' ran => ?_
    split at ran
    · cases ran
    · split at ran
      · cases ran
      · split at ran <;> cases ran
        rfl

theorem createExecution_shellFree (now : Int) (id : ExecutionId) (request : ExecutionRequest)
    (cwd : String) : Sql.Keeps StorageFault ShellFree (createExecution now id request cwd) :=
  createExecution_apart agentActions (fun _ _ => rfl) now id request cwd

theorem createAgentSession_shellFree (now : Int) (request : AgentSessionRequest)
    (cwd : Except Error String) :
    Sql.Keeps StorageFault ShellFree (createAgentSession now request cwd) := by
  unfold createAgentSession
  cases request.validate with
  | error e => exact Sql.Keeps.fail
  | ok _ =>
    refine Sql.Keeps.bind Sql.Keeps.select fun workspace => ?_
    cases cwd with
    | error e => exact Sql.Keeps.fail
    | ok cwd =>
      refine Sql.Keeps.ite Sql.Keeps.fail ?_
      refine Sql.Keeps.bind (Sql.Keeps.frame agentActions fun s a s' ran => ?_) fun _ =>
        Sql.Keeps.select
      split at ran
      · cases ran
      · split at ran <;> cases ran
        rfl

theorem updateTurns_shellFree {p : AgentTurnRow → Bool} {set : AgentTurnRow → AgentTurnRow}
    (keeps : ∀ row, (set row).id = row.id) :
    Sql.Keeps StorageFault ShellFree (updateTurns p set keeps) :=
  updateTurns_apart agentActions (fun _ _ => rfl) keeps

theorem finishAgentSession_shellFree (now : Int) (id : SessionId) (ending : AgentSessionFinish) :
    Sql.Keeps StorageFault ShellFree (finishAgentSession now id ending) := by
  refine Sql.Keeps.ite Sql.Keeps.fail (Sql.Keeps.ite Sql.Keeps.fail ?_)
  refine Sql.Keeps.bind Sql.Keeps.select fun current => Sql.Keeps.ite Sql.Keeps.pure ?_
  refine Sql.Keeps.bind (Sql.Keeps.frame agentActions fun s a s' ran => ?_) fun _ => ?_
  · cases ran
    rfl
  · exact Sql.Keeps.bind (updateTurns_shellFree (by intros; rfl)) fun _ => Sql.Keeps.select

theorem deleteAgentSession_shellFree (id : SessionId) :
    Sql.Keeps StorageFault ShellFree (deleteAgentSession id) := by
  intro db kept
  refine (post_deleteAgentSession_rows db id).mono fun r db' removed => ?_
  cases r with
  | ok _ =>
    intro action member
    rw [removed.2.actions] at member
    exact kept action (List.mem_filter.mp member).1
  | error e => exact removed ▸ kept

theorem insertAgentTurn_shellFree (id : String) (request : AgentEventRequest) (prompt : String)
    (createdAtMs : Int) :
    Sql.Keeps StorageFault ShellFree (insertAgentTurn id request prompt createdAtMs) :=
  insertAgentTurn_apart agentActions (fun _ _ => rfl) id request prompt createdAtMs

theorem findOrCreateAgentTurn_shellFree (id : String) (request : AgentEventRequest)
    (createdAtMs : Int) :
    Sql.Keeps StorageFault ShellFree (findOrCreateAgentTurn id request createdAtMs) :=
  findOrCreateAgentTurn_apart agentActions (fun _ _ => rfl) id request createdAtMs

/-- An action may be written where it and what it makes of another one are allowed. -/
theorem upsertAction_shellFree {action : AgentActionRow} {set : AgentActionRow → AgentActionRow}
    (keeps : ∀ row, (set row).id = row.id) (fresh : action.Allowed)
    (changed : ∀ row, (set row).Allowed) :
    Sql.Keeps StorageFault ShellFree (upsertAction action set keeps) := by
  refine Sql.Keeps.statement fun s a s' kept ran => ?_
  split at ran
  · cases ran
  · split at ran
    · cases ran
    · rename_i joined
      dsimp only at ran
      split at ran
      · cases ran
        intro row member
        obtain ⟨old, present, rfl⟩ := (Table.mem_update keeps).mp member
        split
        · exact changed old
        · exact kept old present
      · cases ran
        intro row member
        rw [(Table.insert?_eq_some.mp joined).2, List.mem_append, List.mem_singleton] at member
        cases member with
        | inl old => exact kept row old
        | inr new => exact new ▸ fresh

/-- The start of a native shell is the one event that is not allowed. -/
theorem recordAgentEvent_shellFree (now : Int) (turnId actionRowId : String)
    {request : AgentEventRequest}
    (allowed : ∀ actionId toolName, request.event = .toolStarted actionId toolName →
      eqIgnoreAsciiCase toolName "bash" = false) :
    Sql.Keeps StorageFault ShellFree (recordAgentEvent now turnId actionRowId request) := by
  unfold recordAgentEvent
  cases request.validate with
  | error e => exact Sql.Keeps.fail
  | ok _ =>
    refine Sql.Keeps.bind Sql.Keeps.select fun session => Sql.Keeps.ite Sql.Keeps.fail ?_
    cases event : request.event with
    | promptSubmitted prompt =>
      refine Sql.Keeps.bind (updateTurns_shellFree (by intros; rfl)) fun _ => ?_
      refine Sql.Keeps.bind (findProviderTurn_keeps _) fun existing => ?_
      cases existing with
      | some turn =>
        exact Sql.Keeps.bind (updateTurns_shellFree (by intros; rfl)) fun _ => Sql.Keeps.select
      | none => exact insertAgentTurn_shellFree _ _ _ _
    | toolStarted actionId toolName =>
      have other := allowed actionId toolName event
      refine Sql.Keeps.bind (findOrCreateAgentTurn_shellFree _ _ _) fun turn => ?_
      refine Sql.Keeps.bind (upsertAction_shellFree (by intros; rfl) ?_ ?_) fun _ => Sql.Keeps.pure
      · exact fun _ => other
      · exact fun _ _ => other
    | toolFinished actionId toolName failed executionId =>
      refine Sql.Keeps.bind (findOrCreateAgentTurn_shellFree _ _ _) fun turn => ?_
      refine Sql.Keeps.bind ?_ fun known => Sql.Keeps.bind
        (upsertAction_shellFree (by intros; rfl) ?_ ?_) fun _ => Sql.Keeps.pure
      · cases executionId with
        | none => exact Sql.Keeps.pure
        | some id =>
          exact Sql.Keeps.bind (Sql.Keeps.attempt Sql.Keeps.select) fun found => Sql.Keeps.pure
      · intro running
        cases failed <;> cases running
      · intro row running
        cases failed <;> cases running
    | turnFinished failed lastAssistantMessage =>
      refine Sql.Keeps.bind (findOrCreateAgentTurn_shellFree _ _ _) fun turn => ?_
      exact Sql.Keeps.bind (updateTurns_shellFree (by intros; rfl)) fun _ => Sql.Keeps.select

/-- The commands other than agent events start no action. -/
theorem program_shellFree {command : StoreCommand}
    (other : ∀ now turnId actionRowId request,
      command ≠ .recordAgentEvent now turnId actionRowId request) :
    Sql.Keeps StorageFault ShellFree command.program := by
  have writes := ShellFree.writes
  cases command with
  | recordAgentEvent => exact absurd rfl (other _ _ _ _)
  | addWorkspace =>
    exact Sql.Keeps.bind (ShellFree.workspaceWrites.addWorkspace_keeps _ _ _ _)
      fun _ => Sql.Keeps.pure
  | removeWorkspace => exact ShellFree.workspaceWrites.removeWorkspace_keeps _
  | createExecution =>
    exact Sql.Keeps.bind (createExecution_shellFree _ _ _ _) fun _ => Sql.Keeps.pure
  | markRunning => exact Sql.Keeps.bind (writes.markRunning_keeps _ _ _ _) fun _ => Sql.Keeps.pure
  | appendCaptureBatch =>
    exact Sql.Keeps.bind (writes.appendCaptureBatch_keeps _) fun _ => Sql.Keeps.pure
  | finish => exact Sql.Keeps.bind (writes.finish_keeps _ _ _ _) fun _ => Sql.Keeps.pure
  | createAgentSession =>
    exact Sql.Keeps.bind (createAgentSession_shellFree _ _ _) fun _ => Sql.Keeps.pure
  | finishAgentSession =>
    exact Sql.Keeps.bind (finishAgentSession_shellFree _ _ _) fun _ => Sql.Keeps.pure
  | deleteAgentSession => exact deleteAgentSession_shellFree _
  | reconcileIncomplete =>
    refine Sql.Keeps.bind (Sql.Keeps.bind Sql.Keeps.select fun ids => ?_) fun _ => Sql.Keeps.pure
    exact Sql.Keeps.bind (writes.finishEach_keeps _ _ _ _) fun _ => Sql.Keeps.pure
  | cancelQueued =>
    refine Sql.Keeps.bind (Sql.Keeps.bind Sql.Keeps.select fun ids => ?_) fun _ => Sql.Keeps.pure
    exact writes.finishEach_keeps _ _ _ _
  | prune => exact Sql.Keeps.bind (writes.prune_keeps _ _ _ _) fun _ => Sql.Keeps.pure

end Database

/-- The agent events of a step come from hooks under strict routing. -/
def StrictlyRouted (_ : Database) (step : StoreCommand × List (Option String)) : Prop :=
  ∀ now turnId actionRowId request,
    step.1 = .recordAgentEvent now turnId actionRowId request →
      ∃ tools provider listed stdin, tools.routing = some "strict" ∧
        recordAgentHookEvent tools provider listed stdin = .sent request

theorem recordAgentHookEvent_allowed {tools : HookTools} {provider : AgentProviderArg}
    {listed : Except Error (List AgentSessionRow)} {stdin : Option Bytes}
    {request : AgentEventRequest} (strict : tools.routing = some "strict")
    (sent : recordAgentHookEvent tools provider listed stdin = .sent request)
    {actionId toolName : String} (event : request.event = .toolStarted actionId toolName) :
    eqIgnoreAsciiCase toolName "bash" = false := by
  obtain ⟨_, _, -, -, -, passed, -, -, read⟩ := recordAgentHookEvent_eq_sent.mp sent
  obtain ⟨⟨object, rfl, written⟩, -⟩ := normalizeHookEvent_eq_ok.mp read
  have started := written.event
  rw [event] at started
  have other := strictShellRoutingResponse_eq_none.mp (passed strict)
  by_contra shell
  rw [Bool.not_eq_false] at shell
  exact other ⟨started.1, toolName, started.2.2, shell⟩

/-- Under strict routing no native shell is ever stored as running, whatever else happens to the
database and whichever statements fail. -/
theorem strict_hooks_deny_shells {db : Database}
    (reached : storeActor.ReachableVia StrictlyRouted db) {action : AgentActionRow}
    (stored : action ∈ db.agentActions.rows) (running : action.state = .running) :
    eqIgnoreAsciiCase action.toolName "bash" = false := by
  have free : db.ShellFree := by
    refine reached.invariant Database.ShellFree ?_ ?_
    · intro first new
      have empty : first = newDatabase := new
      subst empty
      intro action none
      cases none
    · rintro before ⟨command, faults⟩ after _ kept routed enabled
      have keeps : Sql.Keeps Database.StorageFault Database.ShellFree command.program := by
        by_cases agent : ∃ now turnId actionRowId request,
            command = .recordAgentEvent now turnId actionRowId request
        · obtain ⟨now, turnId, actionRowId, request, rfl⟩ := agent
          obtain ⟨tools, provider, listed, stdin, strict, sent⟩ := routed _ _ _ _ rfl
          exact Sql.Keeps.bind (Database.recordAgentEvent_shellFree now turnId actionRowId
            fun _ _ event => recordAgentHookEvent_allowed strict sent event) fun _ => Sql.Keeps.pure
        · exact Database.program_shellFree fun now turnId actionRowId request same =>
            agent ⟨now, turnId, actionRowId, request, same⟩
      have done := Database.run_of_post (keeps before kept) faults
      rwa [Option.some.inj enabled] at done
  exact free action stored running

/-! ## A run under strict routing -/

def sampleHookInput : Json :=
  .object [("hook_event_name", .string "PreToolUse"), ("session_id", .string "p"),
    ("tool_name", .string "Edit"), ("tool_use_id", .string "1")]

def sampleHookBytes : Bytes := Utf8.bytes (sampleHookInput.render fun _ => "")

/-- The one input is read; none of its fields holds JSON as text. -/
def sampleHookTools : HookTools where
  parse _ := none
  fromSlice bytes := if bytes = sampleHookBytes then some sampleHookInput else none
  routing := some "strict"
  sessionId := some "s"
  discovered := true
  canonicalize path := some path

def sampleHookRequest : AgentEventRequest where
  sessionId := "s"
  provider := "codex"
  providerSessionId := "p"
  providerTurnId := none
  event := .toolStarted "1" "Edit"

theorem sampleHookTools_sent :
    recordAgentHookEvent sampleHookTools .codex (.ok []) (some sampleHookBytes) =
      .sent sampleHookRequest := by
  have decoded : sampleHookTools.fromSlice sampleHookBytes = some sampleHookInput := by
    show (if sampleHookBytes = sampleHookBytes then some sampleHookInput else none) = _
    exact if_pos rfl
  refine recordAgentHookEvent_eq_sent.mpr ⟨sampleHookBytes, sampleHookInput, rfl, by decide +kernel,
    decoded, fun _ => by decide +kernel, rfl, rfl, ?_⟩
  exact normalizeHookEvent_eq_ok.mpr
    ⟨⟨_, rfl, rfl, rfl, rfl, rfl, rfl⟩, rfl, rfl, by decide +kernel⟩

def sampleHookCommands : List (StoreCommand × List (Option String)) :=
  [(.addWorkspace 1 "w" "demo" (.ok ("/demo", true)), []),
   (.createAgentSession 2
      { id := "s", workspaceId := "w", agentKind := "codex", name := none,
        command := .argv "codex" [], cwd := "/demo", recorderPid := 7, initialCols := 80,
        initialRows := 24, castPath := "/state/sessions/s/recording.cast",
        htmlPath := "/state/sessions/s/replay.html" } (.ok "/demo"), []),
   (.recordAgentEvent 3 "t" "x" sampleHookRequest, [])]

theorem sampleHookCommands_routed (db : Database) (step : StoreCommand × List (Option String))
    (member : step ∈ sampleHookCommands) : StrictlyRouted db step := by
  intro now turnId actionRowId request same
  simp only [sampleHookCommands, List.mem_cons, List.not_mem_nil, or_false] at member
  rcases member with rfl | rfl | rfl
  · cases same
  · cases same
  · cases same
    exact ⟨sampleHookTools, .codex, .ok [], some sampleHookBytes, rfl, sampleHookTools_sent⟩

theorem strict_hooks_deny_shells_sample :
    ∃ db, storeActor.ReachableVia StrictlyRouted db ∧ ∃ action ∈ db.agentActions.rows,
      action.state = .running ∧ eqIgnoreAsciiCase action.toolName "bash" = false := by
  have ran : (storeActor.run newDatabase sampleHookCommands).map (fun db =>
      db.agentActions.rows.map fun action => action.state) = some [.running] := by decide +kernel
  obtain ⟨db, replay, seen⟩ := Option.map_eq_some_iff.mp ran
  obtain ⟨action, stored, running⟩ : ∃ action ∈ db.agentActions.rows, action.state = .running :=
    List.mem_map.mp (seen ▸ List.mem_singleton_self _)
  have reached : storeActor.ReachableVia StrictlyRouted db :=
    (System.ReachableVia.start rfl).run (System.run_runVia_of_forall replay
      fun step member before => sampleHookCommands_routed before step member)
  exact ⟨db, reached, action, stored, running, strict_hooks_deny_shells reached stored running⟩

end Loomterm
