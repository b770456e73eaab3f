import Loomterm.Session.Stream

/-!
# Redaction

The redaction of an export in `src/session.rs`: `redact_json` replaces the patterns one
after the other in every text of a value, `redact_output_stream` replaces the longest pattern
at each place of the terminal output. What follows compares the two on one text.
-/

namespace Loomterm

/-! ## What is replaced -/

/-- The marker of a redaction literal. -/
def redacted : List Char := "[REDACTED]".toList

/-- The replacements of `sanitize_cast` and `redact_detail` (`src/session.rs:569`, `:657`):
the home directory first, then the literals. -/
def replacements (home : Option String) (redactions : List String) : List (Rule Char) :=
  ((home.filter (· ≠ "")).map fun home => ⟨home.toList, ['~']⟩).toList ++
    (redactions.filter (· ≠ "")).map fun value => ⟨value.toList, redacted⟩

/-! ## Values -/

/-- `str::replace`; an empty pattern stands between any two characters. -/
def strReplace (text : List Char) (rule : Rule Char) : List Char :=
  if rule.pattern = [] then rule.marker ++ text.flatMap fun c => c :: rule.marker
  else rule.replace text

/-- The replacements in one text, one after the other. -/
def redactText (replacements : List (Rule Char)) (text : String) : String :=
  String.ofList (replacements.foldl strReplace text.toList)

/-- `redact_json` (`src/session.rs:677`). -/
def redactJson (replacements : List (Rule Char)) (value : Json) : Json :=
  value.mapStrings (redactText replacements)

/-! ## One text -/

theorem pattern_of_replacements {home : Option String} {redactions : List String}
    {rule : Rule Char} (member : rule ∈ replacements home redactions) : rule.pattern ≠ [] := by
  simp only [replacements, List.mem_append, Option.mem_toList, Option.map_eq_some_iff,
    Option.filter_eq_some_iff, List.mem_map, List.mem_filter, decide_eq_true_eq] at member
  obtain ⟨value, ⟨-, some⟩, rfl⟩ | ⟨value, ⟨-, some⟩, rfl⟩ := member
  · simpa using some
  · simpa using some

/-- `redact_json` applies one rule after the other. -/
theorem redactText_eq {replacements : List (Rule Char)}
    (some : ∀ rule ∈ replacements, rule.pattern ≠ []) (text : String) :
    redactText replacements text =
      String.ofList (Rule.replaceEach replacements text.toList) := by
  have same : ∀ characters, replacements.foldl strReplace characters =
      Rule.replaceEach replacements characters := by
    induction replacements with
    | nil => exact fun _ => rfl
    | cons rule rules ih =>
      intro characters
      have first : strReplace characters rule = rule.replace characters :=
        if_neg (some rule (by simp))
      have others := ih (fun other member => some other (by simp [member]))
      rw [List.foldl_cons, first, others]
      rfl
  rw [redactText, same]

/-! ## What redaction leaves -/

/-- A text with a character in it that begins a marker. -/
def Marked (text : List Char) : Prop := '~' ∈ text ∨ '[' ∈ text

instance (text : List Char) : Decidable (Marked text) := inferInstanceAs (Decidable (_ ∨ _))

theorem marked_of_infix {part text : List Char} (inside : part <:+: text)
    (marked : Marked part) : Marked text :=
  marked.imp (fun wave => inside.subset wave) (fun bracket => inside.subset bracket)

theorem marker_of_replacements {home : Option String} {redactions : List String}
    {rule : Rule Char} (member : rule ∈ replacements home redactions) : Marked rule.marker := by
  simp only [replacements, List.mem_append, Option.mem_toList, Option.map_eq_some_iff,
    List.mem_map] at member
  have wave : Marked ['~'] := by decide
  have bracket : Marked redacted := Or.inr (by decide)
  obtain ⟨value, -, rfl⟩ | ⟨value, -, rfl⟩ := member
  · exact wave
  · exact bracket

/-- A rule with a marker marks the text it changes. -/
theorem marked_replace {rule : Rule Char} {text : List Char} (some : rule.pattern ≠ [])
    (marks : Marked rule.marker) (present : rule.pattern <:+: text) :
    Marked (rule.replace text) :=
  marked_of_infix (Rule.marker_of_present some present) marks

section

variable {rules : List (Rule Char)} (some : ∀ rule ∈ rules, rule.pattern ≠ [])
  (marks : ∀ rule ∈ rules, Marked rule.marker)

include some marks in
theorem marked_replaceEach {text : List Char} (marked : Marked text) :
    Marked (Rule.replaceEach rules text) := by
  induction rules generalizing text with
  | nil => exact marked
  | cons rule rules ih =>
    have first : Marked (rule.replace text) := by
      by_cases present : rule.pattern <:+: text
      · exact marked_replace (some rule (by simp)) (marks rule (by simp)) present
      · rwa [Rule.replace_absent present]
    exact ih (fun other member => some other (by simp [member]))
      (fun other member => marks other (by simp [member])) first

include some marks in
/-- Either no pattern stands in the text, which stays, or the result has a marker in it. -/
theorem replaceEach_cases (text : List Char) :
    (∀ rule ∈ rules, ¬ rule.pattern <:+: text) ∧ Rule.replaceEach rules text = text ∨
      (∃ rule ∈ rules, rule.pattern <:+: text) ∧ Marked (Rule.replaceEach rules text) := by
  induction rules with
  | nil => exact Or.inl ⟨by simp, rfl⟩
  | cons rule rules ih =>
    have someRest : ∀ other ∈ rules, other.pattern ≠ [] :=
      fun other member => some other (by simp [member])
    have marksRest : ∀ other ∈ rules, Marked other.marker :=
      fun other member => marks other (by simp [member])
    by_cases present : rule.pattern <:+: text
    · have first := marked_replace (some rule (by simp)) (marks rule (by simp)) present
      exact Or.inr ⟨⟨rule, by simp, present⟩, marked_replaceEach someRest marksRest first⟩
    · have same : Rule.replaceEach (rule :: rules) text = Rule.replaceEach rules text := by
        rw [Rule.replaceEach, List.foldl_cons, Rule.replace_absent present]
        rfl
      rw [same]
      obtain ⟨absent, kept⟩ | ⟨⟨other, member, inside⟩, marked⟩ := ih someRest marksRest
      · exact Or.inl ⟨by simpa using ⟨present, absent⟩, kept⟩
      · exact Or.inr ⟨⟨other, by simp [member], inside⟩, marked⟩

end

/-- A text without the beginning of a marker is left alone exactly if no pattern stands in
it. -/
theorem redactText_eq_self_iff {home : Option String} {redactions : List String}
    {text : String} (plain : ¬ Marked text.toList) :
    redactText (replacements home redactions) text = text ↔
      ∀ rule ∈ replacements home redactions, ¬ rule.pattern <:+: text.toList := by
  have some : ∀ rule ∈ replacements home redactions, rule.pattern ≠ [] :=
    fun rule member => pattern_of_replacements member
  rw [redactText_eq some]
  obtain ⟨absent, kept⟩ | ⟨⟨rule, member, inside⟩, marked⟩ :=
    replaceEach_cases some (fun rule member => marker_of_replacements member) text.toList
  · simpa [kept] using absent
  · constructor
    · intro same
      rw [← String.toList_inj, String.toList_ofList] at same
      exact absurd (same ▸ marked) plain
    · exact fun absent => absurd inside (absent rule member)

/-- A text that redaction changes has a marker in it afterwards. -/
theorem redactText_marks (home : Option String) (redactions : List String) (text : String) :
    redactText (replacements home redactions) text = text ∨
      Marked (redactText (replacements home redactions) text).toList := by
  have some : ∀ rule ∈ replacements home redactions, rule.pattern ≠ [] :=
    fun rule member => pattern_of_replacements member
  rw [redactText_eq some, String.toList_ofList]
  obtain ⟨-, kept⟩ | ⟨-, marked⟩ :=
    replaceEach_cases some (fun rule member => marker_of_replacements member) text.toList
  · exact Or.inl (by rw [kept, String.ofList_toList])
  · exact Or.inr marked

/-! ## One text in both redactors -/

/-- The replacements do not meet in the text: when the turn of a pattern comes in
`redact_json`, it stands nowhere but where `redact_output_stream` takes it. -/
def Separate (home : Option String) (redactions : List String) (text : String) : Prop :=
  Rule.Unmixed (Rule.segments (replacements home redactions) text.toList) []
    (replacements home redactions)

instance (home : Option String) (redactions : List String) (text : String) :
    Decidable (Separate home redactions text) :=
  Rule.decidableUnmixed _ _ _

/-- The text with the patterns at its leftmost longest occurrences replaced as a whole. -/
def ReplacedWhole (replacements : List (Rule Char)) (text result : List Char) : Prop :=
  ∃ pieces, text = Rule.shown [] pieces ∧ result = Rule.shown replacements pieces ∧
    ∀ before piece after, pieces = before ++ piece :: after →
      Rule.longest replacements (Rule.shown [] (piece :: after)) = piece.rule?

theorem replacedWhole_replaceLongest (replacements : List (Rule Char)) (text : List Char) :
    ReplacedWhole replacements text (Rule.replaceLongest replacements text) := by
  refine ⟨Rule.segments replacements text, ?_, rfl, ?_⟩
  · exact (Rule.shown_nil_segments replacements text).symm
  · intro before piece after split
    exact Rule.longest_of_segments split

/-- The order of the literals plays no role for the longest patterns. -/
theorem replaceLongest_replacements_perm (home : Option String) {redactions other : List String}
    (perm : other.Perm redactions) (text : List Char) :
    Rule.replaceLongest (replacements home other) text =
      Rule.replaceLongest (replacements home redactions) text := by
  have literals := (perm.filter (· ≠ "")).map fun value => (⟨value.toList, redacted⟩ : Rule Char)
  refine Rule.replaceLongest_perm _ text ?_ literals
  intro rule member second among
  simp only [List.mem_map] at member among
  obtain ⟨value, -, rfl⟩ := member
  obtain ⟨value, -, rfl⟩ := among
  rfl

/-- Both redactors give one text, in every order of the literals, and replace what stands
in it as a whole. -/
theorem redactors_agree (home : Option String) (redactions : List String) (text : String)
    (time : Json) (separate : Separate home redactions text) :
    ∃ result : String,
      redactJson (replacements home redactions) (.string text) = .string result ∧
      redactOutputStream (replacements home redactions)
          [.array [time, .string "o", .string text]] =
        [.array [time, .string "o", .string result]] ∧
      (∀ other : List String, other.Perm redactions →
        redactOutputStream (replacements home other)
            [.array [time, .string "o", .string text]] =
          [.array [time, .string "o", .string result]] ∧
        (Separate home other text →
          redactJson (replacements home other) (.string text) = .string result)) ∧
      ReplacedWhole (replacements home redactions) text.toList result.toList := by
  have each : ∀ other : List String, Separate home other text →
      redactJson (replacements home other) (.string text) =
        .string (String.ofList (Rule.replaceLongest (replacements home other) text.toList)) := by
    intro other apart
    have some : ∀ rule ∈ replacements home other, rule.pattern ≠ [] :=
      fun rule member => pattern_of_replacements member
    simp only [redactJson, Json.mapStrings_string, redactText_eq some, Rule.replaceEach_eq some apart]
  refine ⟨_, each redactions separate, redactOutputStream_single _ time text, ?_, ?_⟩
  · intro other perm
    rw [← replaceLongest_replacements_perm home perm]
    exact ⟨redactOutputStream_single _ time text, each other⟩
  · rw [String.toList_ofList]
    exact replacedWhole_replaceLongest _ _

theorem redactors_agree_sample : ∃ result : String,
    redactJson (replacements (some "/home/u") ["token", "/srv/key"])
        (.string "cd /home/u/x; cat /srv/key") = .string result ∧
      redactOutputStream (replacements (some "/home/u") ["token", "/srv/key"])
          [.array [.number 0, .string "o", .string "cd /home/u/x; cat /srv/key"]] =
        [.array [.number 0, .string "o", .string result]] ∧
      ReplacedWhole (replacements (some "/home/u") ["token", "/srv/key"])
        "cd /home/u/x; cat /srv/key".toList result.toList := by
  have separate : Separate (some "/home/u") ["token", "/srv/key"]
      "cd /home/u/x; cat /srv/key" := by
    decide +kernel
  obtain ⟨result, json, stream, -, whole⟩ := redactors_agree _ _ _ (.number 0) separate
  exact ⟨result, json, stream, whole⟩

/-- A literal in the home directory loses its beginning to the home directory, and the rest
of it stays in the text; of two literals that begin alike the one that comes first wins. -/
theorem redactors_disagree :
    (¬ ∃ result : String,
      redactJson (replacements (some "/home/u") ["/home/u/secret"])
          (.string "/home/u/secret") = .string result ∧
        redactOutputStream (replacements (some "/home/u") ["/home/u/secret"])
            [.array [.number 0, .string "o", .string "/home/u/secret"]] =
          [.array [.number 0, .string "o", .string result]]) ∧
      redactJson (replacements (some "/home/u") ["/home/u/secret"])
          (.string "/home/u/secret") = .string "~/secret" ∧
      redactJson (replacements none ["tok", "token"]) (.string "token") ≠
        redactJson (replacements none ["token", "tok"]) (.string "token") := by
  have text : redactText (replacements (some "/home/u") ["/home/u/secret"]) "/home/u/secret" =
      "~/secret" := by
    decide +kernel
  have stream : Rule.replaceLongest (replacements (some "/home/u") ["/home/u/secret"])
      "/home/u/secret".toList = "[REDACTED]".toList := by
    decide +kernel
  have order : redactText (replacements none ["tok", "token"]) "token" ≠
      redactText (replacements none ["token", "tok"]) "token" := by
    decide +kernel
  refine ⟨?_, ?_, ?_⟩
  · rintro ⟨result, json, event⟩
    simp only [redactJson, Json.mapStrings, text, Json.string.injEq] at json
    rw [redactOutputStream_single, stream, ← json] at event
    simp at event
  · simp only [redactJson, Json.mapStrings, text]
  · simpa [redactJson, Json.mapStrings] using order

end Loomterm
