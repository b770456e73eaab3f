import Loomterm.Daemon.Responses
import Loomterm.Misc.Shell
import Loomterm.Misc.Utf8Scan
import Loomterm.Onboarding
import Mathlib.Data.Bool.AllAny

/-!
# Commands as texts

Two texts that are made of words: the command of a hook, which the agent hands to a shell, and
the display of a command, which is shown to a user and to the next agent of a handoff.
-/

namespace Loomterm

/-! ## The display of a command -/

/-- The characters that `shell_escape_for_display` leaves bare. -/
def isBareForDisplay (c : Char) : Bool := c.isAlphanum || "-._/:=@+".toList.contains c

/-- What a shell reads of a value that was escaped for display. -/
def displayedWord (value : String) : Option Shell.Word :=
  if value.toList.all isBareForDisplay then
    if value.toList = [] then none else some (value.toList.map fun c => (c, .bare))
  else some (value.toList.map fun c => (c, .literal))

/-- None of the characters that mean something to a shell is left bare. -/
theorem bare_calm {c : Char} (bare : isBareForDisplay c = true) :
    Shell.isPlain c = true ∧ Shell.Word.isActive (c, .bare) = false := by
  have special : ∀ d ∈ [' ', '\t', '\n', '|', '&', ';', '<', '>', '(', ')', '\x27', '"', '\\', '#',
      '$', '\x60', '~', '*', '?', '['], isBareForDisplay d = false :=
    List.all_iff_forall_prop.mp (by decide)
  have other : ∀ d ∈ [' ', '\t', '\n', '|', '&', ';', '<', '>', '(', ')', '\x27', '"', '\\', '#',
      '$', '\x60', '~', '*', '?', '['], c ≠ d := by
    rintro d member rfl
    rw [special c member] at bare
    cases bare
  simp only [List.forall_mem_cons, List.not_mem_nil, false_implies, implies_true,
    and_true] at other
  simp [Shell.isPlain, Shell.isBlank, Shell.isOperator, Shell.Word.isActive, other]

theorem toNat_eq_quote (c : Char) : c.toNat = 39 ↔ c = '\x27' :=
  ⟨fun same => Char.toNat_inj.mp same, fun same => by rw [same]; rfl⟩

theorem shellEscapeForDisplay_renders (value : String) :
    Shell.Renders (shellEscapeForDisplay value).toList (displayedWord value) := by
  unfold shellEscapeForDisplay displayedWord
  change Shell.Renders (if value.toList.all isBareForDisplay then _ else _ : String).toList _
  by_cases bare : value.toList.all isBareForDisplay = true
  · rw [if_pos bare, if_pos bare]
    apply Shell.renders_plain
    intro c member
    exact (bare_calm (List.all_eq_true.mp bare c member)).1
  · rw [if_neg bare, if_neg bare]
    have quoted : ("'" ++ String.ofList (value.toList.flatMap fun c =>
        if c.toNat = 39 then "'\\''".toList else [c]) ++ "'").toList = Shell.quoted value.toList := by
      simp [Shell.quoted, toNat_eq_quote]
    rw [quoted]
    exact Shell.renders_quoted _

theorem displayedWord_calm (value : String) :
    ∀ word ∈ displayedWord value, word.any Shell.Word.isActive = false := by
  intro word read
  unfold displayedWord at read
  split at read
  · rename_i bare
    split at read
    · cases read
    · cases read
      rw [List.any_map, List.any_eq_false]
      intro c member
      have calm := (bare_calm (List.all_eq_true.mp bare c member)).2
      simpa using calm
  · cases read
    exact Shell.any_isActive_literal _

/-- A value that was escaped for display is read as it was, unless it is empty: then it is
not read at all. -/
theorem displayedWord_text (value : String) :
    (displayedWord value).map Shell.Word.text = if value = "" then none else some value := by
  unfold displayedWord
  by_cases empty : value = ""
  · subst empty
    rfl
  · have chars : value.toList ≠ [] := by simpa using empty
    rw [if_neg empty, if_neg chars]
    split
    · rw [Option.map_some, Shell.text_bare, String.ofList_toList]
    · rw [Option.map_some, Shell.text_literal, String.ofList_toList]

/-- A shell reads the words of a displayed command that are not empty. -/
theorem words_display (program : String) (args : List String) :
    Shell.words (CommandSpec.argv program args).display =
      some ((program :: args).filter (· ≠ "")) := by
  have each : ∀ item ∈ (program :: args).map fun value =>
      (shellEscapeForDisplay value, displayedWord value),
      Shell.Renders item.1.toList item.2 := by
    intro item member
    obtain ⟨value, _, rfl⟩ := List.mem_map.mp member
    exact shellEscapeForDisplay_renders value
  have calm : ∀ item ∈ (program :: args).map fun value =>
      (shellEscapeForDisplay value, displayedWord value),
      ∀ word ∈ item.2, word.any Shell.Word.isActive = false := by
    intro item member
    obtain ⟨value, _, rfl⟩ := List.mem_map.mp member
    exact displayedWord_calm value
  have read := Shell.wordsOf_intercalate each calm
  rw [List.map_map, List.filterMap_map] at read
  show (Shell.wordsOf (" ".intercalate _)).map _ = _
  rw [show (program :: args).map shellEscapeForDisplay =
    (program :: args).map (Prod.fst ∘ fun value =>
      (shellEscapeForDisplay value, displayedWord value)) from rfl, read, Option.map_some,
    List.map_filterMap]
  congr 1
  rw [← List.filterMap_eq_filter]
  apply List.filterMap_congr
  intro value _
  show (displayedWord value).map Shell.Word.text = _
  rw [displayedWord_text]
  by_cases empty : value = "" <;> simp [Option.guard, empty]

/-- The display of a command is taken apart into its program and its arguments if and only if
none of them is empty. -/
theorem display_words_iff (program : String) (args : List String) :
    Shell.words (CommandSpec.argv program args).display = some (program :: args) ↔
      ∀ word ∈ program :: args, word ≠ "" := by
  rw [words_display, Option.some.injEq, List.filter_eq_self]
  constructor
  · intro kept word member
    exact of_decide_eq_true (kept word member)
  · intro nonempty word member
    exact decide_eq_true (nonempty word member)

/-- An empty argument is shown as nothing. -/
theorem display_loses_argument :
    (CommandSpec.argv "printf" [""]).display = "printf " ∧
      Shell.words (CommandSpec.argv "printf" [""]).display ≠ some ["printf", ""] := by
  decide

/-! ## The command of a hook -/

/-- The variables of Loomterm that are set, in the order of `hook_handler`. -/
def setVariables (env : String → Option Bytes) : List (String × Bytes) :=
  ["LOOMTERM_CONFIG", "LOOMTERM_STATE_DIR", "LOOMTERM_RUNTIME_DIR"].filterMap fun key =>
    (env key).map fun value => (key, value)

/-- The command of the hook for Codex, where paths and values are what the system has: bytes,
which `hook_handler` turns into texts with `to_string_lossy`. -/
def codexCommand (command : Bytes) (env : String → Option Bytes) : Option String :=
  ((hookHandler (Utf8.fromUtf8Lossy command) "codex" fun key =>
    (env key).map Utf8.fromUtf8Lossy).get "command").bind Json.asStr

/-- What a shell reads of an assignment in a hook. -/
def assignmentWord (setting : String × String) : Shell.Word :=
  (setting.1.toList.map fun c => (c, .bare)) ++
    ('=', .bare) :: setting.2.toList.map fun c => (c, .literal)

def assignmentItem (setting : String × String) : String × Option Shell.Word :=
  (setting.1 ++ "=" ++ shellQuote setting.2, some (assignmentWord setting))

theorem shellQuote_toList (value : String) : (shellQuote value).toList =
    Shell.quoted value.toList := by
  simp [shellQuote, Shell.quoted]

theorem assignmentItem_renders {name : String} (plain : ∀ c ∈ name.toList, Shell.isPlain c = true)
    (value : String) :
    Shell.Renders (assignmentItem (name, value)).1.toList (assignmentItem (name, value)).2 := by
  have all : ∀ c ∈ name.toList ++ ['='], Shell.isPlain c = true := by
    intro c member
    rcases List.mem_append.mp member with own | sign
    · exact plain c own
    · rw [List.mem_singleton.mp sign]
      decide
  have read := Shell.renders_plain_quoted all value.toList
  have texts : (assignmentItem (name, value)).1.toList =
      (name.toList ++ ['=']) ++ Shell.quoted value.toList := by
    simp [assignmentItem, shellQuote_toList]
  rw [texts]
  simpa [assignmentItem, assignmentWord] using read

theorem shellQuote_renders (value : String) :
    Shell.Renders (shellQuote value).toList (some (value.toList.map fun c => (c, .literal))) := by
  rw [shellQuote_toList]
  exact Shell.renders_quoted _

/-- The text of a hook command, word by word. -/
theorem hookText_eq (settings : List (String × String)) (command provider : String) :
    (if (" ".intercalate (settings.map fun (key, value) =>
          key ++ "=" ++ shellQuote value)).isEmpty then ""
      else " ".intercalate (settings.map fun (key, value) => key ++ "=" ++ shellQuote value) ++
        " ") ++ shellQuote command ++ " agent-event --provider " ++ provider =
      " ".intercalate ((settings.map fun (key, value) => key ++ "=" ++ shellQuote value) ++
        [shellQuote command, "agent-event", "--provider", provider]) := by
  have last : " ".intercalate [shellQuote command, "agent-event", "--provider", provider] =
      shellQuote command ++ " agent-event --provider " ++ provider := by
    simp only [String.intercalate_cons_cons, String.intercalate_singleton, String.append_assoc]
    rfl
  cases settings with
  | nil => simp [last]
  | cons first rest =>
    rw [String.intercalate_append_of_ne_nil (by simp) (by simp), last,
      if_neg (by simp)]
    simp only [String.append_assoc]

/-- A word that stands bare. -/
def plainWord (text : String) : Shell.Word := text.toList.map fun c => (c, .bare)

def plainItem (text : String) : String × Option Shell.Word := (text, some (plainWord text))

theorem plainItem_renders {text : String} (some : text.toList ≠ [])
    (plain : ∀ c ∈ text.toList, Shell.isPlain c = true) :
    Shell.Renders (plainItem text).1.toList (plainItem text).2 := by
  have read := Shell.renders_plain plain
  rw [if_neg some] at read
  exact read

/-- The names of variables that a shell takes as such, and that need no quotes. -/
structure IsVariable (name : String) : Prop where
  named : Shell.Word.isName (name.toList.map fun c => (c, .bare)) = true
  plain : ∀ c ∈ name.toList, Shell.isPlain c = true
  calm : ∀ c ∈ name.toList, Shell.Word.isActive (c, .bare) = false
  noSign : '=' ∉ name.toList

theorem IsVariable.of_all {name : String}
    (named : Shell.Word.isName (name.toList.map fun c => (c, .bare)) = true)
    (plain : name.toList.all Shell.isPlain = true)
    (calm : (name.toList.all fun c => !Shell.Word.isActive (c, .bare)) = true)
    (noSign : '=' ∉ name.toList) : IsVariable name where
  named := named
  plain := List.all_eq_true.mp plain
  calm c member := Bool.not_eq_true' .. ▸ List.all_eq_true.mp calm c member
  noSign := noSign

theorem isVariable_loomterm : ∀ name ∈
    ["LOOMTERM_CONFIG", "LOOMTERM_STATE_DIR", "LOOMTERM_RUNTIME_DIR"], IsVariable name := by
  intro name member
  simp only [List.mem_cons, List.not_mem_nil, or_false] at member
  rcases member with rfl | rfl | rfl
  all_goals exact .of_all (by decide) (by decide) (by decide) (by decide)

theorem assignmentWord_assigns {setting : String × String} (name : IsVariable setting.1) :
    (assignmentWord setting).assignment? = some setting := by
  unfold assignmentWord
  rw [Shell.assignment?_of_isName name.named name.noSign, Shell.text_literal,
    String.ofList_toList, String.ofList_toList]

/-- The command of a hook is the one command of its words, whatever the values are. -/
theorem simpleCommand_hookText {settings : List (String × String)}
    (names : ∀ setting ∈ settings, IsVariable setting.1) (command : String) :
    Shell.simpleCommand (" ".intercalate ((settings.map fun (key, value) =>
        key ++ "=" ++ shellQuote value) ++
        [shellQuote command, "agent-event", "--provider", "codex"])) =
      some { assignments := settings
             words := [command, "agent-event", "--provider", "codex"] } := by
  let items : List (String × Option Shell.Word) := settings.map assignmentItem ++
    [(shellQuote command, some (command.toList.map fun c => (c, .literal))),
      plainItem "agent-event", plainItem "--provider", plainItem "codex"]
  have each : ∀ item ∈ items, Shell.Renders item.1.toList item.2 := by
    intro item member
    rcases List.mem_append.mp member with assigned | word
    · obtain ⟨setting, listed, rfl⟩ := List.mem_map.mp assigned
      exact assignmentItem_renders (names setting listed).plain setting.2
    · simp only [List.mem_cons, List.not_mem_nil, or_false] at word
      rcases word with rfl | rfl | rfl | rfl
      · exact shellQuote_renders command
      · exact plainItem_renders (by decide) (List.all_eq_true.mp (by decide))
      · exact plainItem_renders (by decide) (List.all_eq_true.mp (by decide))
      · exact plainItem_renders (by decide) (List.all_eq_true.mp (by decide))
  have calm : ∀ item ∈ items, ∀ word ∈ item.2, word.any Shell.Word.isActive = false := by
    intro item member
    rcases List.mem_append.mp member with assigned | word
    · obtain ⟨setting, listed, rfl⟩ := List.mem_map.mp assigned
      have name := (names setting listed).calm
      intro word read
      cases read
      simp only [assignmentWord, List.any_append, List.any_cons, Shell.any_isActive_literal,
        Bool.or_false, Bool.or_eq_false_iff]
      refine ⟨?_, by decide⟩
      rw [List.any_map, List.any_eq_false]
      intro c listed
      simp [name c listed]
    · simp only [List.mem_cons, List.not_mem_nil, or_false] at word
      rcases word with rfl | rfl | rfl | rfl
      · intro word read
        cases read
        exact Shell.any_isActive_literal _
      · decide
      · decide
      · decide
  have texts : items.map Prod.fst = (settings.map fun (key, value) =>
      key ++ "=" ++ shellQuote value) ++
        [shellQuote command, "agent-event", "--provider", "codex"] := by
    rw [List.map_append, List.map_map]
    rfl
  have found : items.filterMap Prod.snd = settings.map assignmentWord ++
      [command.toList.map fun c => (c, .literal), plainWord "agent-event", plainWord "--provider",
        plainWord "codex"] := by
    rw [List.filterMap_append, List.filterMap_map]
    congr 1
    exact congrFun (List.filterMap_eq_map (f := assignmentWord)) settings
  have read := Shell.wordsOf_intercalate each calm
  rw [texts, found] at read
  have assigns : ∀ word ∈ settings.map assignmentWord, word.assignment?.isSome = true := by
    intro word member
    obtain ⟨setting, listed, rfl⟩ := List.mem_map.mp member
    rw [assignmentWord_assigns (names setting listed)]
    rfl
  have stops : Shell.Word.assignment? (command.toList.map fun c => (c, .literal)) = none :=
    Shell.assignment?_literal _
  rw [Shell.simpleCommand, read, Option.map_some, List.takeWhile_append_of_pos assigns,
    List.dropWhile_append_of_pos assigns, List.takeWhile_cons_of_neg (by simp [stops]),
    List.dropWhile_cons_of_neg (by simp [stops]), List.append_nil, List.filterMap_map]
  congr 2
  · calc
      settings.filterMap (Shell.Word.assignment? ∘ assignmentWord) = settings.filterMap some :=
        List.filterMap_congr fun setting listed => assignmentWord_assigns (names setting listed)
      _ = settings := List.filterMap_some
  · simp only [List.map_cons, List.map_nil, Shell.text_literal, plainWord, Shell.text_bare,
      String.ofList_toList]

/-- The hook sets the variables to their values and runs the command with the arguments of
the event, byte by byte, and nothing else. -/
def RunsExactly (command : Bytes) (env : String → Option Bytes) : Prop :=
  ∃ text parsed, codexCommand command env = some text ∧
    Shell.simpleCommand text = some parsed ∧
    parsed.assignments.map (fun (key, value) => (key, Utf8.bytes value)) = setVariables env ∧
    parsed.words.map Utf8.bytes =
      command :: ["agent-event", "--provider", "codex"].map Utf8.bytes

theorem bytes_fromUtf8Lossy_iff {data : Bytes} :
    Utf8.bytes (Utf8.fromUtf8Lossy data) = data ↔ Utf8.IsText data := by
  constructor
  · intro same
    exact ⟨_, same.symm⟩
  · rintro ⟨text, rfl⟩
    rw [Utf8.fromUtf8Lossy_bytes]

/-- The texts that the variables are set to. -/
def variableTexts (env : String → Option Bytes) : List (String × String) :=
  (setVariables env).map fun (key, value) => (key, Utf8.fromUtf8Lossy value)

theorem codexCommand_eq (command : Bytes) (env : String → Option Bytes) :
    codexCommand command env = some (" ".intercalate
      (((variableTexts env).map fun (key, value) => key ++ "=" ++ shellQuote value) ++
        [shellQuote (Utf8.fromUtf8Lossy command), "agent-event", "--provider", "codex"])) := by
  rw [← hookText_eq]
  have same : variableTexts env =
      ["LOOMTERM_CONFIG", "LOOMTERM_STATE_DIR", "LOOMTERM_RUNTIME_DIR"].filterMap fun key =>
        ((env key).map Utf8.fromUtf8Lossy).map fun value => (key, value) := by
    rw [variableTexts, setVariables, List.map_filterMap]
    apply List.filterMap_congr
    intro key _
    cases env key <;> rfl
  rw [same]
  rfl

theorem variableTexts_names (env : String → Option Bytes) :
    ∀ setting ∈ variableTexts env, IsVariable setting.1 := by
  intro setting member
  obtain ⟨entry, listed, rfl⟩ := List.mem_map.mp member
  obtain ⟨key, known, set⟩ := List.mem_filterMap.mp listed
  obtain ⟨value, _, rfl⟩ := Option.map_eq_some_iff.mp set
  exact isVariable_loomterm key known

theorem simpleCommand_codexCommand (command : Bytes) (env : String → Option Bytes) :
    ∃ text, codexCommand command env = some text ∧ Shell.simpleCommand text =
      some { assignments := variableTexts env
             words := [Utf8.fromUtf8Lossy command, "agent-event", "--provider", "codex"] } :=
  ⟨_, codexCommand_eq command env,
    simpleCommand_hookText (variableTexts_names env) (Utf8.fromUtf8Lossy command)⟩

theorem variableTexts_bytes (env : String → Option Bytes) :
    (variableTexts env).map (fun (key, value) => (key, Utf8.bytes value)) = setVariables env ↔
      ∀ setting ∈ setVariables env, Utf8.IsText setting.2 := by
  rw [variableTexts, List.map_map]
  constructor
  · intro same setting member
    have own := List.map_inj_left.mp (same.trans (List.map_id _).symm) setting member
    exact bytes_fromUtf8Lossy_iff.mp (congrArg Prod.snd own)
  · intro texts
    refine (List.map_congr_left fun setting member => ?_).trans (List.map_id _)
    exact Prod.ext rfl (bytes_fromUtf8Lossy_iff.mpr (texts setting member))

theorem runsExactly_iff (command : Bytes) (env : String → Option Bytes) :
    RunsExactly command env ↔
      Utf8.IsText command ∧ ∀ setting ∈ setVariables env, Utf8.IsText setting.2 := by
  obtain ⟨text, made, parsed⟩ := simpleCommand_codexCommand command env
  constructor
  · rintro ⟨other, found, same, read, assigned, words⟩
    rw [made, Option.some.injEq] at same
    rw [← same, parsed, Option.some.injEq] at read
    subst read
    exact ⟨bytes_fromUtf8Lossy_iff.mp (List.cons.inj words).1,
      (variableTexts_bytes env).mp assigned⟩
  · rintro ⟨path, texts⟩
    refine ⟨text, _, made, parsed, (variableTexts_bytes env).mpr texts, ?_⟩
    rw [List.map_cons, bytes_fromUtf8Lossy_iff.mpr path]

/-- Whatever the path and the values are, a shell takes the command of the hook apart into
the assignments of the variables that are set and the words of the event; these are the
paths and values byte by byte if and only if all of them are texts. -/
theorem codex_hook_words (command : Bytes) (env : String → Option Bytes) :
    (∃ text, codexCommand command env = some text ∧ Shell.simpleCommand text =
      some { assignments := variableTexts env
             words := [Utf8.fromUtf8Lossy command, "agent-event", "--provider", "codex"] }) ∧
    (RunsExactly command env ↔
      Utf8.IsText command ∧ ∀ setting ∈ setVariables env, Utf8.IsText setting.2) :=
  ⟨simpleCommand_codexCommand command env, runsExactly_iff command env⟩

/-- A path that is not a text is replaced by one that is. -/
theorem codex_hook_other_path :
    ¬ RunsExactly [0x2F, 0xFF, 0x2F, 0x6C, 0x6F, 0x6F, 0x6D] (fun _ => none) := by
  intro runs
  have text := ((runsExactly_iff _ _).mp runs).1
  revert text
  decide

end Loomterm
