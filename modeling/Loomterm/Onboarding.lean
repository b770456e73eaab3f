import Loomterm.Misc.JsonEdit
import Loomterm.Misc.Render
import Loomterm.Model
import Mathlib.Data.List.Infix

/-!
# Hook configuration

`plan_hooks` of `src/onboarding.rs` merges the Loomterm hook of a provider into its configuration.
A first loop looks at the handlers of each managed event; unless each event has the wanted
handler and nothing else of Loomterm, a second loop takes the Loomterm handlers out and puts the
wanted one behind the groups that are left.
-/

namespace Loomterm

/-- `ConfigAction` (`src/onboarding.rs:18`). -/
inductive ConfigAction where
  | create
  | replace
  | unchanged
  | skip
  deriving DecidableEq, Repr

/-- `ConfigPlan` (`src/onboarding.rs:27`). -/
structure ConfigPlan where
  path : String
  action : ConfigAction
  content : Option String
  deriving DecidableEq, Repr

/-- `collision` (`src/onboarding.rs:448`). -/
def collision (path : String) : Error :=
  .config (path ++ " already contains a different Loomterm configuration; " ++
    "use --force to replace only Loomterm-managed entries")

/-! ## The handler -/

/-- `shell_quote` (`src/onboarding.rs:307`). -/
def shellQuote (value : String) : String :=
  "'" ++ .ofList (value.toList.flatMap fun c => if c = '\x27' then "'\\''".toList else [c]) ++ "'"

/-- `hook_handler` (`src/onboarding.rs:228`); `env` reads a variable. -/
def hookHandler (command provider : String) (env : String → Option String) : Json :=
  let environment :=
    ["LOOMTERM_CONFIG", "LOOMTERM_STATE_DIR", "LOOMTERM_RUNTIME_DIR"].filterMap fun key =>
      (env key).map fun value => (key, value)
  let event := ["agent-event", "--provider", provider]
  if provider = "claude" then
    if environment.isEmpty then
      .object [("args", Json.strings event), ("command", .string command),
        ("timeout", .number 5), ("type", .string "command")]
    else
      let args := environment.map (fun (key, value) => key ++ "=" ++ value) ++ [command] ++ event
      .object [("args", Json.strings args), ("command", .string "/usr/bin/env"),
        ("timeout", .number 5), ("type", .string "command")]
  else
    let environment :=
      " ".intercalate (environment.map fun (key, value) => key ++ "=" ++ shellQuote value)
    let environment := if environment.isEmpty then "" else environment ++ " "
    .object [
      ("command", .string (environment ++ shellQuote command ++ " agent-event --provider " ++
        provider)),
      ("timeout", .number 5), ("type", .string "command")]

/-- `is_loomterm_hook` (`src/onboarding.rs:281`); three arguments in a row are a window. -/
def isLoomtermHook (provider : String) (handler : Json) : Bool :=
  let suffix := "agent-event --provider " ++ provider
  ((handler.get "command").bind Json.asStr).any (fun command =>
      suffix.toList <:+: command.toList) ||
    ((handler.get "args").bind Json.asArray).any fun args =>
      [.string "agent-event", .string "--provider", .string provider] <:+: args

/-! ## The plan -/

/-- The events whose hooks are managed. -/
def hookEvents (provider : String) : List String :=
  if provider = "claude" then
    ["UserPromptSubmit", "PreToolUse", "PostToolUse", "PostToolUseFailure", "Stop", "StopFailure"]
  else ["UserPromptSubmit", "PreToolUse", "PostToolUse", "Stop"]

/-- The handlers of a group. -/
def groupHandlers (group : Json) : Option (List Json) := (group.get "hooks").bind Json.asArray

/-- The groups of an event, where `hooks` are the fields of the hooks object. -/
def eventGroups (event : String) (hooks : List (String × Json)) : List Json :=
  ((Json.field event hooks).bind Json.asArray).getD []

/-- The handlers of Loomterm in some groups. -/
def loomtermHandlers (provider : String) (groups : List Json) : List Json :=
  (groups.flatMap fun group => (groupHandlers group).getD []).filter (isLoomtermHook provider)

/-- What the first loop knows of the events so far. -/
structure HookSurvey where
  hooks : List (String × Json)
  exactEvents : Nat := 0
  stale : Bool := false

/-- One event in the first loop of `plan_hooks`. -/
def surveyEvent (path provider : String) (desired : Json) (survey : HookSurvey) (event : String) :
    Except Error HookSurvey := do
  let hooks ←
    match Json.field event survey.hooks with
    | none => .ok (Json.putField event (.array []) survey.hooks)
    | some (.array _) => .ok survey.hooks
    | some _ => .error (.config (path ++ ": hooks." ++ event ++ " must be a JSON array"))
  let found := loomtermHandlers provider (eventGroups event hooks)
  .ok { hooks
        exactEvents := survey.exactEvents + (if desired ∈ found then 1 else 0)
        stale := survey.stale || found.any (· ≠ desired) }

/-- A group without the handlers of Loomterm. -/
def withoutLoomterm (provider : String) (group : Json) : Json :=
  match groupHandlers group with
  | some handlers => group.put "hooks" (.array (handlers.filter (!isLoomtermHook provider ·)))
  | none => group

/-- The groups of an event behind the second loop of `plan_hooks`. -/
def mergeGroups (provider : String) (desired : Json) (groups : List Json) : List Json :=
  ((groups.map (withoutLoomterm provider)).filter fun group =>
      (groupHandlers group).all (!·.isEmpty)) ++
    [.object [("hooks", .array [desired])]]

/-- One event in the second loop; the first loop left an array there. -/
def mergeEvent (provider : String) (desired : Json) (hooks : List (String × Json))
    (event : String) : List (String × Json) :=
  Json.putField event (.array (mergeGroups provider desired (eventGroups event hooks))) hooks

/-- The document of a text, or an empty one. -/
def readDocument (read : String → Except String Json) (path : String) :
    Option String → Except Error Json
  | some source => (read source).mapError fun error => .config (path ++ ": " ++ error)
  | none => .ok (.object [])

/-- `plan_hooks` (`src/onboarding.rs:131`); `read` and `print` are the parser and the printer of
`serde_json`, and `source` is the text of the file. -/
def planHooks (read : String → Except String Json) (print : Json → String) (path : String)
    (source : Except Error (Option String)) (command provider : String)
    (env : String → Option String) (force : Bool) : Except Error ConfigPlan := do
  let root ← readDocument read path (← source)
  let some fields := root.asObject
    | .error (.config (path ++ ": root must be a JSON object"))
  let some hooks := ((Json.field "hooks" fields).getD (.object [])).asObject
    | .error (.config (path ++ ": hooks must be a JSON object"))
  let events := hookEvents provider
  let desired := hookHandler command provider env
  let survey ← events.foldlM (surveyEvent path provider desired) { hooks }
  if survey.stale && !force then .error (collision path)
  else if !survey.stale && survey.exactEvents = events.length then
    .ok ⟨path, .unchanged, none⟩
  else
    let hooks := events.foldl (mergeEvent provider desired) survey.hooks
    let root := Json.object (Json.putField "hooks" (.object hooks) fields)
    .ok ⟨path, if survey.stale then .replace else .create, some (print root ++ "\n")⟩

/-! ## The handler is recognised -/

theorem isLoomtermHook_of_command {provider command : String} {handler : Json}
    (found : handler.get "command" = some (.string command))
    (inside : ("agent-event --provider " ++ provider).toList <:+: command.toList) :
    isLoomtermHook provider handler = true := by
  unfold isLoomtermHook
  rw [found, Bool.or_eq_true]
  exact .inl (decide_eq_true inside)

theorem isLoomtermHook_of_args {provider : String} {args : List String} {handler : Json}
    (found : handler.get "args" = some (Json.strings args))
    (inside : ["agent-event", "--provider", provider] <:+: args) :
    isLoomtermHook provider handler = true := by
  unfold isLoomtermHook
  rw [found, Bool.or_eq_true]
  exact .inr (decide_eq_true (inside.map Json.string))

/-- The wanted handler is one of Loomterm. -/
theorem isLoomtermHook_hookHandler (command provider : String) (env : String → Option String) :
    isLoomtermHook provider (hookHandler command provider env) = true := by
  unfold hookHandler
  generalize (["LOOMTERM_CONFIG", "LOOMTERM_STATE_DIR", "LOOMTERM_RUNTIME_DIR"].filterMap
    fun key => (env key).map fun value => (key, value)) = environment
  have behind : ∀ front : String, ("agent-event --provider " ++ provider).toList <:+:
      (front ++ " agent-event --provider " ++ provider).toList := by
    intro front
    have split : front ++ " agent-event --provider " ++ provider =
        front ++ " " ++ ("agent-event --provider " ++ provider) := by
      have blank : " agent-event --provider " = " " ++ "agent-event --provider " := rfl
      rw [blank]
      simp only [String.append_assoc]
    refine ⟨(front ++ " ").toList, [], ?_⟩
    rw [split, List.append_nil, ← String.toList_append]
  dsimp only
  split_ifs with claude none
  · exact isLoomtermHook_of_args rfl (List.infix_refl _)
  · exact isLoomtermHook_of_args rfl (List.suffix_append _ _).isInfix
  · exact isLoomtermHook_of_command rfl (behind _)
  · exact isLoomtermHook_of_command rfl (behind _)

/-- Nothing in it is rounded. -/
theorem mapFloats_hookHandler (command provider : String) (env : String → Option String)
    (round : UInt64 → UInt64) :
    (hookHandler command provider env).mapFloats round = hookHandler command provider env := by
  have texts : ∀ values : List String,
      (Json.strings values).mapFloats round = Json.strings values := by
    intro values
    rw [Json.strings, Json.mapFloats_array, List.map_map]
    exact congrArg Json.array (List.map_congr_left fun value _ => Json.mapFloats_string round value)
  unfold hookHandler
  dsimp only
  split_ifs <;> simp [Json.mapFloatsFields, texts]

/-! ## One event -/

section

variable {path provider : String} {desired : Json}

theorem groupHandlers_withoutLoomterm (group : Json) :
    groupHandlers (withoutLoomterm provider group) =
      (groupHandlers group).map (List.filter (!isLoomtermHook provider ·)) := by
  unfold withoutLoomterm
  cases found : groupHandlers group with
  | none => exact found
  | some handlers =>
    obtain ⟨value, there, -⟩ := Option.bind_eq_some_iff.mp found
    show ((group.put "hooks" _).get "hooks").bind Json.asArray = _
    rw [Json.get_put_self there]
    rfl

/-- A group keeps its other handlers in order, and its other entries; a group without an array of
handlers stays as it is. -/
structure GroupKept (provider : String) (group kept : Json) : Prop where
  handlers : groupHandlers kept =
    (groupHandlers group).map (List.filter (!isLoomtermHook provider ·))
  entries : ∀ key ≠ "hooks", kept.get key = group.get key
  whole : groupHandlers group = none → kept = group

theorem groupKept_withoutLoomterm (group : Json) :
    GroupKept provider group (withoutLoomterm provider group) where
  handlers := groupHandlers_withoutLoomterm group
  entries key other := by
    unfold withoutLoomterm
    cases groupHandlers group with
    | none => rfl
    | some handlers => exact Json.get_put_other other group _
  whole none := by
    unfold withoutLoomterm
    rw [none]

/-- A group with a handler of somebody else, or without an array of handlers. -/
def holdsOthers (provider : String) (group : Json) : Bool :=
  (groupHandlers group).all fun handlers => handlers.any (!isLoomtermHook provider ·)

variable (provider desired) in
/-- What the second loop leaves of the groups of an event. -/
theorem mergeGroups_kept (groups : List Json) :
    ∃ kept, mergeGroups provider desired groups =
        kept ++ [.object [("hooks", .array [desired])]] ∧
      List.Forall₂ (GroupKept provider) (groups.filter (holdsOthers provider)) kept := by
  refine ⟨_, rfl, ?_⟩
  induction groups with
  | nil => exact .nil
  | cons group rest ih =>
    have same : (groupHandlers (withoutLoomterm provider group)).all (!·.isEmpty) =
        holdsOthers provider group := by
      rw [groupHandlers_withoutLoomterm, holdsOthers]
      cases groupHandlers group with
      | none => rfl
      | some handlers =>
        rw [Bool.eq_iff_iff]
        simp
    rw [List.map_cons, List.filter_cons, List.filter_cons, same]
    cases holdsOthers provider group with
    | false => exact ih
    | true => exact .cons (groupKept_withoutLoomterm group) ih

theorem loomtermHandlers_append (left right : List Json) :
    loomtermHandlers provider (left ++ right) =
      loomtermHandlers provider left ++ loomtermHandlers provider right := by
  rw [loomtermHandlers, List.flatMap_append, List.filter_append]
  rfl

theorem loomtermHandlers_cons (group : Json) (rest : List Json) :
    loomtermHandlers provider (group :: rest) =
      ((groupHandlers group).getD []).filter (isLoomtermHook provider) ++
        loomtermHandlers provider rest := by
  rw [loomtermHandlers, List.flatMap_cons, List.filter_append]
  rfl

theorem loomtermHandlers_kept {before kept : List Json}
    (others : List.Forall₂ (GroupKept provider) before kept) :
    loomtermHandlers provider kept = [] := by
  induction others with
  | nil => rfl
  | @cons group _ _ _ first rest ih =>
    rw [loomtermHandlers_cons, ih, first.handlers, List.append_nil]
    cases groupHandlers group with
    | none => rfl
    | some handlers => simp [List.filter_filter]

/-- Behind the second loop, the wanted handler is the only one of Loomterm. -/
theorem loomtermHandlers_mergeGroups (recognised : isLoomtermHook provider desired = true)
    (groups : List Json) :
    loomtermHandlers provider (mergeGroups provider desired groups) = [desired] := by
  obtain ⟨kept, merged, others⟩ := mergeGroups_kept provider desired groups
  rw [merged, loomtermHandlers_append, loomtermHandlers_kept others, List.nil_append,
    loomtermHandlers_cons]
  have handlers : groupHandlers (.object [("hooks", .array [desired])]) = some [desired] := rfl
  rw [handlers, Option.getD_some, List.filter_singleton, recognised]
  rfl

end

/-! ## All events -/

section

variable {path provider : String} {desired : Json}

/-- What the first loop does for one event that it gets past. -/
theorem surveyEvent_ok {survey next : HookSurvey} {event : String}
    (passed : surveyEvent path provider desired survey event = .ok next) :
    next.exactEvents = survey.exactEvents +
        (if desired ∈ loomtermHandlers provider (eventGroups event survey.hooks) then 1 else 0) ∧
      next.stale = (survey.stale ||
        (loomtermHandlers provider (eventGroups event survey.hooks)).any (· ≠ desired)) ∧
      (∀ other, eventGroups other next.hooks = eventGroups other survey.hooks) ∧
      ∀ other ≠ event, Json.field other next.hooks = Json.field other survey.hooks := by
  unfold surveyEvent at passed
  cases found : Json.field event survey.hooks with
  | none =>
    rw [found] at passed
    obtain rfl := Except.ok.inj passed
    have others := fun other (different : other ≠ event) =>
      Json.field_putField_other different (.array []) survey.hooks
    have groups : ∀ other, eventGroups other (Json.putField event (.array []) survey.hooks) =
        eventGroups other survey.hooks := by
      intro other
      unfold eventGroups
      by_cases same : other = event
      · subst same
        rw [Json.field_putField_self, found]
        rfl
      · rw [others other same]
    refine ⟨?_, ?_, groups, others⟩
    · show _ + (if desired ∈ loomtermHandlers provider (eventGroups event _) then 1 else 0) = _
      rw [groups]
    · show (_ || (loomtermHandlers provider (eventGroups event _)).any _) = _
      rw [groups]
  | some value =>
    rw [found] at passed
    cases value with
    | array groups =>
      obtain rfl := Except.ok.inj passed
      exact ⟨rfl, rfl, fun _ => rfl, fun _ _ => rfl⟩
    | _ => cases passed

/-- The handlers of Loomterm that one event has. -/
def managedHandlers (provider event : String) (hooks : List (String × Json)) : List Json :=
  loomtermHandlers provider (eventGroups event hooks)

/-- The first loop counts the events with the wanted handler, and looks for other handlers of
Loomterm. -/
theorem survey_ok {events : List String} {survey last : HookSurvey}
    (passed : events.foldlM (surveyEvent path provider desired) survey = .ok last) :
    last.exactEvents = survey.exactEvents +
        events.countP (fun event => desired ∈ managedHandlers provider event survey.hooks) ∧
      last.stale = (survey.stale || events.any fun event =>
        (managedHandlers provider event survey.hooks).any (· ≠ desired)) ∧
      (∀ other, eventGroups other last.hooks = eventGroups other survey.hooks) ∧
      ∀ other ∉ events, Json.field other last.hooks = Json.field other survey.hooks := by
  induction events generalizing survey with
  | nil =>
    obtain rfl := Except.ok.inj passed
    simp
  | cons event rest ih =>
    rw [List.foldlM_cons] at passed
    cases first : surveyEvent path provider desired survey event with
    | error e =>
      rw [first] at passed
      cases passed
    | ok next =>
      rw [first] at passed
      obtain ⟨exactFirst, staleFirst, groupsFirst, othersFirst⟩ := surveyEvent_ok first
      obtain ⟨exactRest, staleRest, groupsRest, othersRest⟩ := ih passed
      have same : ∀ other, managedHandlers provider other next.hooks =
          managedHandlers provider other survey.hooks :=
        fun other => congrArg (loomtermHandlers provider) (groupsFirst other)
      simp only [same] at exactRest staleRest
      refine ⟨?_, ?_, fun other => (groupsRest other).trans (groupsFirst other), ?_⟩
      · rw [exactRest, exactFirst, List.countP_cons]
        unfold managedHandlers
        by_cases present : desired ∈ loomtermHandlers provider (eventGroups event survey.hooks)
        · rw [if_pos present, if_pos (decide_eq_true present)]
          omega
        · rw [if_neg present, if_neg (by simpa using present)]
          omega
      · rw [staleRest, staleFirst, List.any_cons, Bool.or_assoc]
        rfl
      · intro other absent
        rw [othersRest other (List.not_mem_of_not_mem_cons absent),
          othersFirst other (List.ne_of_not_mem_cons absent)]

variable (path provider desired) in
/-- The first loop gets past the events that have an array of groups. -/
theorem survey_passes {events : List String} (survey : HookSurvey)
    (arrays : ∀ event ∈ events, ∃ groups, Json.field event survey.hooks = some (.array groups)) :
    ∃ last, events.foldlM (surveyEvent path provider desired) survey = .ok last := by
  induction events generalizing survey with
  | nil => exact ⟨survey, rfl⟩
  | cons event rest ih =>
    obtain ⟨groups, found⟩ := arrays event List.mem_cons_self
    have first : ∃ next, surveyEvent path provider desired survey event = .ok next ∧
        next.hooks = survey.hooks := by
      unfold surveyEvent
      rw [found]
      exact ⟨_, rfl, rfl⟩
    obtain ⟨next, passed, same⟩ := first
    rw [List.foldlM_cons, passed]
    refine ih next fun other member => ?_
    rw [same]
    exact arrays other (List.mem_cons_of_mem _ member)

variable (provider desired) in
/-- The second loop merges the groups of each of its events, and leaves the other entries. -/
theorem merge_events {events : List String} (nodup : events.Nodup)
    (hooks : List (String × Json)) :
    (∀ event ∈ events, Json.field event (events.foldl (mergeEvent provider desired) hooks) =
        some (.array (mergeGroups provider desired (eventGroups event hooks)))) ∧
      ∀ other ∉ events, Json.field other (events.foldl (mergeEvent provider desired) hooks) =
        Json.field other hooks := by
  induction events generalizing hooks with
  | nil => exact ⟨by simp, fun _ _ => rfl⟩
  | cons event rest ih =>
    obtain ⟨fresh, distinct⟩ := List.nodup_cons.mp nodup
    obtain ⟨merged, others⟩ := ih distinct (mergeEvent provider desired hooks event)
    have elsewhere := fun other (different : other ≠ event) =>
      Json.field_putField_other different
        (.array (mergeGroups provider desired (eventGroups event hooks))) hooks
    rw [List.foldl_cons]
    constructor
    · intro other member
      obtain rfl | later := List.mem_cons.mp member
      · rw [others _ fresh]
        exact Json.field_putField_self _ _ hooks
      · have different : other ≠ event := fun same => fresh (same ▸ later)
        have same : eventGroups other (mergeEvent provider desired hooks event) =
            eventGroups other hooks := by
          unfold eventGroups
          exact congrArg (fun entry => (entry.bind Json.asArray).getD [])
            (elsewhere other different)
        rw [merged other later, same]
    · intro other absent
      rw [others other (List.not_mem_of_not_mem_cons absent)]
      exact elsewhere other (List.ne_of_not_mem_cons absent)

end

/-! ## Rounded documents -/

section

variable (round : UInt64 → UInt64) {provider : String}

/-- A handler is recognised by its texts. -/
theorem isLoomtermHook_mapFloats (handler : Json) :
    isLoomtermHook provider (handler.mapFloats round) = isLoomtermHook provider handler := by
  have command : ((handler.mapFloats round).get "command").bind Json.asStr =
      (handler.get "command").bind Json.asStr := by
    rw [Json.get_mapFloats, Option.bind_map]
    exact Option.bind_congr fun value _ => Json.asStr_mapFloats round value
  have args : ((handler.mapFloats round).get "args").bind Json.asArray =
      ((handler.get "args").bind Json.asArray).map (List.map (Json.mapFloats round)) := by
    rw [Json.get_mapFloats, Option.bind_map, Option.map_bind]
    exact Option.bind_congr fun value _ => Json.asArray_mapFloats round value
  unfold isLoomtermHook
  rw [command, args]
  cases (handler.get "args").bind Json.asArray with
  | none => rfl
  | some values =>
    have window := Json.strings_infix_mapFloats round ["agent-event", "--provider", provider] values
    simp only [List.map_cons, List.map_nil] at window
    simp only [Option.map_some, Option.any_some, window]

theorem groupHandlers_mapFloats (group : Json) :
    groupHandlers (group.mapFloats round) =
      (groupHandlers group).map (List.map (Json.mapFloats round)) := by
  unfold groupHandlers
  rw [Json.get_mapFloats, Option.bind_map, Option.map_bind]
  exact Option.bind_congr fun value _ => Json.asArray_mapFloats round value

theorem eventGroups_mapFloats (event : String) (hooks : List (String × Json)) :
    eventGroups event (Json.mapFloatsFields round hooks) =
      (eventGroups event hooks).map (Json.mapFloats round) := by
  unfold eventGroups
  rw [Json.field_mapFloatsFields]
  cases Json.field event hooks with
  | none => rfl
  | some value =>
    rw [Option.map_some, Option.bind_some, Json.asArray_mapFloats, Option.bind_some]
    cases value.asArray <;> rfl

theorem loomtermHandlers_mapFloats (groups : List Json) :
    loomtermHandlers provider (groups.map (Json.mapFloats round)) =
      (loomtermHandlers provider groups).map (Json.mapFloats round) := by
  induction groups with
  | nil => rfl
  | cons group rest ih =>
    have recognised : isLoomtermHook provider ∘ Json.mapFloats round = isLoomtermHook provider :=
      funext fun handler => isLoomtermHook_mapFloats round handler
    rw [List.map_cons, loomtermHandlers_cons, loomtermHandlers_cons, ih, List.map_append,
      groupHandlers_mapFloats]
    cases groupHandlers group with
    | none => rfl
    | some handlers =>
      rw [Option.map_some, Option.getD_some, Option.getD_some, List.filter_map, recognised]

end

/-! ## Documents -/

/-- The groups of an event in a document. -/
def documentGroups (event : String) (document : Json) : List Json :=
  (((document.get "hooks").bind (Json.get event)).bind Json.asArray).getD []

theorem hookEvents_nodup (provider : String) : (hookEvents provider).Nodup := by
  unfold hookEvents
  split_ifs
  · decide
  · decide

/-- What is kept of a document, and what is new in the merged one. -/
structure HooksMerged (provider : String) (desired root document : Json) : Prop where
  managed : ∀ event ∈ hookEvents provider,
    loomtermHandlers provider (documentGroups event document) = [desired]
  groups : ∀ event ∈ hookEvents provider, ∃ kept,
    documentGroups event document = kept ++ [.object [("hooks", .array [desired])]] ∧
      List.Forall₂ (GroupKept provider)
        ((documentGroups event root).filter (holdsOthers provider)) kept
  events : ∀ event ∉ hookEvents provider,
    (document.get "hooks").bind (Json.get event) = (root.get "hooks").bind (Json.get event)
  entries : ∀ key ≠ "hooks", document.get key = root.get key

section

variable {read : String → Except String Json} {print : Json → String} {path : String}
  {source : Except Error (Option String)} {command provider : String}
  {env : String → Option String} {force : Bool}

/-- The document that the second loop leaves. -/
def mergedDocument (provider : String) (desired : Json) (fields hooks : List (String × Json)) :
    Json :=
  .object (Json.putField "hooks"
    (.object ((hookEvents provider).foldl (mergeEvent provider desired) hooks)) fields)

theorem documentGroups_object {fields hooks : List (String × Json)} (event : String)
    (found : (Json.field "hooks" fields).getD (.object []) = .object hooks) :
    documentGroups event (.object fields) = eventGroups event hooks := by
  show (((Json.field "hooks" fields).bind (Json.get event)).bind Json.asArray).getD [] = _
  cases present : Json.field "hooks" fields with
  | none =>
    rw [present] at found
    obtain rfl := Json.object.inj found
    rfl
  | some value =>
    rw [present, Option.getD_some] at found
    subst found
    rfl

theorem hooksMerged_mergedDocument {desired : Json}
    (recognised : isLoomtermHook provider desired = true) {fields hooks : List (String × Json)}
    (found : (Json.field "hooks" fields).getD (.object []) = .object hooks)
    {survey : HookSurvey}
    (passed : (hookEvents provider).foldlM (surveyEvent path provider desired) { hooks } =
      .ok survey) :
    HooksMerged provider desired (.object fields)
      (mergedDocument provider desired fields survey.hooks) := by
  obtain ⟨-, -, groups, others⟩ := survey_ok passed
  obtain ⟨merged, elsewhere⟩ := merge_events provider desired (hookEvents_nodup provider)
    survey.hooks
  have entry : ∀ event, ((mergedDocument provider desired fields survey.hooks).get "hooks").bind
      (Json.get event) = Json.field event
        ((hookEvents provider).foldl (mergeEvent provider desired) survey.hooks) := by
    intro event
    show (Json.field "hooks" (Json.putField "hooks" _ fields)).bind (Json.get event) = _
    rw [Json.field_putField_self]
    rfl
  have managed : ∀ event ∈ hookEvents provider,
      documentGroups event (mergedDocument provider desired fields survey.hooks) =
        mergeGroups provider desired (documentGroups event (.object fields)) := by
    intro event member
    rw [documentGroups, entry, merged event member, groups, documentGroups_object event found]
    rfl
  refine ⟨?_, ?_, ?_, ?_⟩
  · intro event member
    rw [managed event member]
    exact loomtermHandlers_mergeGroups recognised _
  · intro event member
    rw [managed event member]
    exact mergeGroups_kept provider desired _
  · intro event absent
    rw [entry, elsewhere event absent, others event absent]
    show _ = (Json.field "hooks" fields).bind (Json.get event)
    cases present : Json.field "hooks" fields with
    | none =>
      rw [present] at found
      obtain rfl := Json.object.inj found
      rfl
    | some value =>
      rw [present, Option.getD_some] at found
      subst found
      rfl
  · intro key other
    exact Json.field_putField_other other _ fields

/-- A plan comes from a document that both loops went through; without force, no handler of
Loomterm in it was another one. -/
theorem planHooks_ok {plan : ConfigPlan}
    (planned : planHooks read print path source command provider env force = .ok plan) :
    ∃ text fields hooks survey, source = .ok text ∧
      readDocument read path text = .ok (.object fields) ∧
      (Json.field "hooks" fields).getD (.object []) = .object hooks ∧
      (hookEvents provider).foldlM (surveyEvent path provider (hookHandler command provider env))
        { hooks } = .ok survey ∧
      (survey.stale = true → force = true) ∧
      ∀ content, plan.content = some content →
        content = print (mergedDocument provider (hookHandler command provider env) fields
          survey.hooks) ++ "\n" := by
  unfold planHooks at planned
  cases source with
  | error e => cases planned
  | ok text =>
    cases document : readDocument read path text with
    | error e =>
      simp only [document, bind, Except.bind] at planned
      cases planned
    | ok root =>
      simp only [document, bind, Except.bind] at planned
      cases root with
      | object fields =>
        simp only [Json.asObject] at planned
        cases entry : (Json.field "hooks" fields).getD (.object []) with
        | object hooks =>
          simp only [entry] at planned
          cases passed : (hookEvents provider).foldlM (surveyEvent path provider
              (hookHandler command provider env)) { hooks } with
          | error e =>
            simp only [passed] at planned
            cases planned
          | ok survey =>
            simp only [passed] at planned
            refine ⟨text, fields, hooks, survey, rfl, document, entry, passed, ?_⟩
            split at planned
            · cases planned
            · rename_i allowed
              refine ⟨by simpa using allowed, fun content written => ?_⟩
              split at planned
              · obtain rfl := Except.ok.inj planned
                cases written
              · obtain rfl := Except.ok.inj planned
                exact (Option.some.inj written).symm
        | _ =>
          simp only [entry] at planned
          cases planned
      | _ => cases planned

/-- A document whose managed events have the wanted handler, and no other of Loomterm, is left
alone. -/
theorem planHooks_settled {text : Option String} {fields hooks : List (String × Json)}
    (document : readDocument read path text = .ok (.object fields))
    (entry : Json.field "hooks" fields = some (.object hooks))
    (settled : ∀ event ∈ hookEvents provider,
      (∃ groups, Json.field event hooks = some (.array groups)) ∧
        managedHandlers provider event hooks = [hookHandler command provider env]) :
    planHooks read print path (.ok text) command provider env force =
      .ok ⟨path, .unchanged, none⟩ := by
  obtain ⟨survey, passed⟩ := survey_passes path provider (hookHandler command provider env)
    { hooks } fun event member => (settled event member).1
  obtain ⟨counted, looked, -, -⟩ := survey_ok passed
  have exactEvents : survey.exactEvents = (hookEvents provider).length := by
    rw [counted, Nat.zero_add, List.countP_eq_length]
    intro event member
    rw [(settled event member).2]
    simp
  have stale : survey.stale = false := by
    rw [looked, Bool.false_or, List.any_eq_false]
    intro event member
    rw [(settled event member).2]
    simp
  unfold planHooks
  simp only [document, bind, Except.bind, Json.asObject, entry, Option.getD_some, passed, stale,
    exactEvents]
  rfl

/-- The content of a plan, read back, is settled. -/
theorem planHooks_again {plan : ConfigPlan} {content : String} {again : Bool}
    (planned : planHooks read print path source command provider env force = .ok plan)
    (written : plan.content = some content)
    (readsBack : ∀ document, content = print document ++ "\n" →
      ∃ round, read content = .ok (document.mapFloats round)) :
    planHooks read print path (.ok (some content)) command provider env again =
      .ok ⟨path, .unchanged, none⟩ := by
  obtain ⟨text, fields, hooks, survey, -, -, -, -, -, printed⟩ := planHooks_ok planned
  obtain ⟨round, back⟩ := readsBack _ (printed content written)
  obtain ⟨merged, -⟩ := merge_events provider (hookHandler command provider env)
    (hookEvents_nodup provider) survey.hooks
  generalize last : (hookEvents provider).foldl
    (mergeEvent provider (hookHandler command provider env)) survey.hooks = fixed at merged
  rw [mergedDocument, last, Json.mapFloats_object] at back
  have document : readDocument read path (some content) = .ok (.object
      (Json.mapFloatsFields round (Json.putField "hooks" (.object fixed) fields))) := by
    rw [readDocument, back]
    rfl
  have entry : Json.field "hooks" (Json.mapFloatsFields round
      (Json.putField "hooks" (.object fixed) fields)) =
        some (.object (Json.mapFloatsFields round fixed)) := by
    rw [Json.field_mapFloatsFields, Json.field_putField_self, Option.map_some,
      Json.mapFloats_object]
  refine planHooks_settled document entry fun event member => ⟨?_, ?_⟩
  · rw [Json.field_mapFloatsFields, merged event member, Option.map_some, Json.mapFloats_array]
    exact ⟨_, rfl⟩
  · have groups : eventGroups event fixed = mergeGroups provider
        (hookHandler command provider env) (eventGroups event survey.hooks) := by
      rw [eventGroups, merged event member]
      rfl
    rw [managedHandlers, eventGroups_mapFloats, loomtermHandlers_mapFloats, groups,
      loomtermHandlers_mergeGroups (isLoomtermHook_hookHandler command provider env),
      List.map_singleton, mapFloats_hookHandler]

/-- A document with another handler of Loomterm is rejected without force. -/
theorem planHooks_stale {text : Option String} {root : Json}
    (document : readDocument read path text = .ok root) {event : String} {handler : Json}
    (managed : event ∈ hookEvents provider)
    (there : handler ∈ loomtermHandlers provider (documentGroups event root))
    (other : handler ≠ hookHandler command provider env) :
    ∃ e, planHooks read print path (.ok text) command provider env false = .error e := by
  cases planned : planHooks read print path (.ok text) command provider env false with
  | error e => exact ⟨e, rfl⟩
  | ok plan =>
    obtain ⟨same, fields, hooks, survey, source, found, entry, passed, allowed, -⟩ :=
      planHooks_ok planned
    obtain rfl := Except.ok.inj source
    obtain rfl := Except.ok.inj (document.symm.trans found)
    rw [documentGroups_object event entry] at there
    have looked := (survey_ok passed).2.1
    have stale : survey.stale = true := by
      rw [looked, Bool.false_or, List.any_eq_true]
      refine ⟨event, managed, List.any_eq_true.mpr ⟨handler, there, ?_⟩⟩
      exact decide_eq_true other
    cases allowed stale

/-- A plan with content merges the hook of the provider into the document: in each managed event
the wanted handler is the only one of Loomterm, all other handlers stay in their groups and in
order, and whatever else is in the document stays. Planning again over the content leaves it
alone. Without force, a document with another handler of Loomterm is rejected. -/
theorem hooks_merge (read : String → Except String Json) (print : Json → String)
    (path command provider : String) (env : String → Option String) :
    (∀ source force plan content,
      planHooks read print path source command provider env force = .ok plan →
      plan.content = some content →
      (∀ document, content = print document ++ "\n" →
        ∃ round, read content = .ok (document.mapFloats round)) →
      planHooks read print path (.ok (some content)) command provider env false =
          .ok ⟨path, .unchanged, none⟩ ∧
        ∃ text root document, source = .ok text ∧ readDocument read path text = .ok root ∧
          content = print document ++ "\n" ∧
          HooksMerged provider (hookHandler command provider env) root document) ∧
      ∀ text root, readDocument read path text = .ok root →
        (∃ event ∈ hookEvents provider,
          ∃ handler ∈ loomtermHandlers provider (documentGroups event root),
            handler ≠ hookHandler command provider env) →
        ∃ e, planHooks read print path (.ok text) command provider env false = .error e := by
  constructor
  · intro source force plan content planned written readsBack
    refine ⟨planHooks_again planned written readsBack, ?_⟩
    obtain ⟨text, fields, hooks, survey, given, document, entry, passed, -, printed⟩ :=
      planHooks_ok planned
    exact ⟨text, _, _, given, document, printed content written,
      hooksMerged_mergedDocument (isLoomtermHook_hookHandler command provider env) entry passed⟩
  · rintro text root document ⟨event, managed, handler, there, other⟩
    exact planHooks_stale document managed there other

end

/-! ## A merged configuration -/

/-- An old hook of Loomterm beside a hook of somebody else, and on its own. -/
def sampleConfig : Json :=
  let other := Json.object [("command", .string "lint"), ("timeout", .float 0x400C000000000000)]
  let old := Json.object [("command", .string "'/old/loom' agent-event --provider codex")]
  .object [
    ("hooks", .object [
      ("Other", .array [old]),
      ("Stop", .array [
        .object [("hooks", .array [other, old]), ("matcher", .string "*")],
        .object [("hooks", .array [old])],
        .string "note"])]),
    ("model", .string "gpt")]

/-- The configuration with the new hook in its place. -/
def sampleMerged : Json :=
  let other := Json.object [("command", .string "lint"), ("timeout", .float 0x400C000000000000)]
  let old := Json.object [("command", .string "'/old/loom' agent-event --provider codex")]
  let new := Json.array [.object [
    ("hooks", .array [hookHandler "/bin/loom" "codex" fun _ => none])]]
  .object [
    ("hooks", .object [
      ("Other", .array [old]),
      ("PostToolUse", new),
      ("PreToolUse", new),
      ("Stop", .array [
        .object [("hooks", .array [other]), ("matcher", .string "*")],
        .string "note",
        .object [("hooks", .array [hookHandler "/bin/loom" "codex" fun _ => none])]]),
      ("UserPromptSubmit", new)]),
    ("model", .string "gpt")]

mutual

/-- The text over several lines, two blanks for each level. -/
def prettyAt (indent : Nat) : Json → String
  | .array (value :: rest) =>
      "[" ++ ",".intercalate (prettyValues (indent + 2) (value :: rest)) ++
        "\n" ++ .ofList (List.replicate indent ' ') ++ "]"
  | .object (field :: rest) =>
      r"{" ++ ",".intercalate (prettyFields (indent + 2) (field :: rest)) ++
        "\n" ++ .ofList (List.replicate indent ' ') ++ r"}"
  | other => other.render fun _ => "3.5"

def prettyValues (indent : Nat) : List Json → List String
  | [] => []
  | value :: rest =>
      ("\n" ++ .ofList (List.replicate indent ' ') ++ prettyAt indent value) ::
        prettyValues indent rest

def prettyFields (indent : Nat) : List (String × Json) → List String
  | [] => []
  | (key, value) :: rest =>
      ("\n" ++ .ofList (List.replicate indent ' ') ++ Json.quoted key ++ ": " ++
        prettyAt indent value) :: prettyFields indent rest

end

def printConfig (document : Json) : String :=
  if document = sampleMerged then prettyAt 0 document else ""

def readConfig (text : String) : Except String Json :=
  if text = printConfig sampleMerged ++ "\n" then .ok sampleMerged
  else if text = prettyAt 0 sampleConfig then .ok sampleConfig
  else .error "expected value at line 1 column 1"

theorem prettyAt_object (indent : Nat) (field : String × Json) (rest : List (String × Json)) :
    ∃ inner, prettyAt indent (.object (field :: rest)) = r"{" ++ (inner ++ r"}") := by
  refine ⟨",".intercalate (prettyFields (indent + 2) (field :: rest)) ++
    ("\n" ++ .ofList (List.replicate indent ' ')), ?_⟩
  rw [prettyAt]
  simp only [String.append_assoc]

theorem printConfig_merged : printConfig sampleMerged = prettyAt 0 sampleMerged := if_pos rfl

theorem readConfig_merged :
    readConfig (printConfig sampleMerged ++ "\n") = .ok sampleMerged := if_pos rfl

/-- The two texts end in different characters. -/
theorem readConfig_sampleConfig : readConfig (prettyAt 0 sampleConfig) = .ok sampleConfig := by
  obtain ⟨merged, printed⟩ : ∃ inner, prettyAt 0 sampleMerged = _ := prettyAt_object 0 _ _
  obtain ⟨config, pretty⟩ : ∃ inner, prettyAt 0 sampleConfig = _ := prettyAt_object 0 _ _
  have different : prettyAt 0 sampleConfig ≠ printConfig sampleMerged ++ "\n" := by
    intro same
    rw [printConfig_merged, printed, pretty] at same
    have last := congrArg (fun text => text.toList.reverse.head?) same
    simp at last
  exact (if_neg different).trans (if_pos rfl)

theorem printConfig_merged_ne : printConfig sampleMerged ++ "\n" ≠ "" ++ "\n" := by
  obtain ⟨merged, printed⟩ : ∃ inner, prettyAt 0 sampleMerged = _ := prettyAt_object 0 _ _
  intro same
  rw [printConfig_merged, printed] at same
  have first := congrArg (fun text => text.toList.head?) same
  simp at first

theorem planHooks_sampleConfig {read : String → Except String Json} {text : String}
    (found : read text = .ok sampleConfig) (print : Json → String) :
    planHooks read print "hooks.json" (.ok (some text)) "/bin/loom" "codex" (fun _ => none) true =
      .ok ⟨"hooks.json", .replace, some (print sampleMerged ++ "\n")⟩ := by
  unfold planHooks readDocument
  simp only [found, bind, Except.bind]
  rfl

theorem hooks_merge_sample :
    planHooks readConfig printConfig "hooks.json" (.ok (some (printConfig sampleMerged ++ "\n")))
        "/bin/loom" "codex" (fun _ => none) false = .ok ⟨"hooks.json", .unchanged, none⟩ ∧
      ∃ e, planHooks readConfig printConfig "hooks.json" (.ok (some (prettyAt 0 sampleConfig)))
        "/bin/loom" "codex" (fun _ => none) false = .error e := by
  have merge := hooks_merge readConfig printConfig "hooks.json" "/bin/loom" "codex" fun _ => none
  have planned := planHooks_sampleConfig readConfig_sampleConfig printConfig
  have readsBack : ∀ document, printConfig sampleMerged ++ "\n" = printConfig document ++ "\n" →
      ∃ round, readConfig (printConfig sampleMerged ++ "\n") =
        .ok (document.mapFloats round) := by
    intro document same
    by_cases merged : document = sampleMerged
    · subst merged
      exact ⟨id, readConfig_merged.trans (by decide +kernel)⟩
    · rw [show printConfig document = "" from if_neg merged] at same
      exact absurd same printConfig_merged_ne
  constructor
  · exact (merge.1 _ true _ _ planned rfl readsBack).1
  · refine merge.2 _ sampleConfig ?_ ⟨"Stop", by decide, .object
      [("command", .string "'/old/loom' agent-event --provider codex")], ?_, ?_⟩
    · rw [readDocument, readConfig_sampleConfig]
      rfl
    · decide +kernel
    · decide +kernel

end Loomterm
