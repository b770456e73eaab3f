import Loomterm.Session.Stream
import Loomterm.Misc.Slice

/-!
# The terminal output of a recording, by its bytes

`redact_output_stream` of `src/session.rs` with the code's positions, which count bytes:
every slice of the stream may fail. `redactOutputStreamBytes_eq` says that none does and
that the events are those of `redactOutputStream`.
-/

namespace Loomterm

/-- `max_by_key(|(pattern, _)| pattern.len())`, one more entry. -/
def betterBytes (best : Option (Rule Char)) (rule : Rule Char) : Option (Rule Char) :=
  match best with
  | some other =>
      if byteLength other.pattern ≤ byteLength rule.pattern then some rule else best
  | none => some rule

/-- The pattern that is replaced at the front of `rest`. -/
def longestBytes (replacements : List (Rule Char)) (rest : List Char) : Option (Rule Char) :=
  (replacements.filter fun rule => rule.pattern ≠ [] ∧ rule.pattern <+: rest).foldl
    betterBytes none

/-- `while position < stream.len()`; every round moves on by at least one byte. -/
def matchesBytes (replacements : List (Rule Char)) (stream : List Char) :
    (rounds position : Nat) → Option (List Occurrence)
  | 0, position => if position < byteLength stream then none else some []
  | rounds + 1, position =>
      if position < byteLength stream then do
        let rest ← dropBytes position stream
        match longestBytes replacements rest with
        | some rule =>
            let stop := position + byteLength rule.pattern
            let found ← matchesBytes replacements stream rounds stop
            some (⟨position, stop, rule.marker⟩ :: found)
        | none =>
            matchesBytes replacements stream rounds
              (position + (rest.head?.map Char.utf8Size).getD 1)
      else some []

/-- One occurrence in the text of the event at `start..stop`. -/
def redactOccurrenceBytes (stream : List Char) (start stop : Nat) (state : List Char × Nat)
    (found : Occurrence) : Option (List Char × Nat) :=
  let (redacted, cursor) := state
  if found.stop ≤ start ∨ stop ≤ found.start then some state
  else do
    let redacted ←
      if start ≤ found.start then do
        let redacted ←
          if cursor < found.start then (sliceBytes stream cursor found.start).map (redacted ++ ·)
          else some redacted
        some (redacted ++ found.replacement)
      else some redacted
    some (redacted, max cursor found.stop)

/-- The new text of the event at `start..stop`. -/
def redactRangeBytes (stream : List Char) (occurrences : List Occurrence) (start stop : Nat) :
    Option (List Char) := do
  let (redacted, cursor) ←
    occurrences.foldlM (redactOccurrenceBytes stream start stop) ([], start)
  if cursor < stop then (sliceBytes stream cursor stop).map (redacted ++ ·) else some redacted

/-- The events' texts as one stream, and for each event its index and its bytes there. -/
def outputStreamBytes (values : List Json) : List Char × List (Nat × Nat × Nat) :=
  values.zipIdx.foldl
    (fun (stream, ranges) (value, index) =>
      match outputText value with
      | some data =>
          (stream ++ data,
            ranges ++ [(index, byteLength stream, byteLength (stream ++ data))])
      | none => (stream, ranges)) ([], [])

/-- `redact_output_stream` (`src/session.rs:596`); `none` where it would panic. -/
def redactOutputStreamBytes (replacements : List (Rule Char)) (values : List Json) :
    Option (List Json) :=
  let (stream, ranges) := outputStreamBytes values
  if stream.isEmpty || replacements.isEmpty then some values
  else do
    let occurrences ← matchesBytes replacements stream (byteLength stream) 0
    ranges.foldlM
      (fun values (index, start, stop) => do
        let text ← redactRangeBytes stream occurrences start stop
        some (values.modify index (setOutput text))) values

/-! ## The scan -/

/-- The choice by bytes is the choice by characters: all candidates begin the same text. -/
theorem foldl_betterBytes {rest : List Char} (rules : List (Rule Char))
    (here : ∀ rule ∈ rules, rule.pattern <+: rest) {best : Option (Rule Char)}
    (also : ∀ rule, best = some rule → rule.pattern <+: rest) :
    rules.foldl betterBytes best = rules.foldl Rule.better best := by
  induction rules generalizing best with
  | nil => rfl
  | cons rule rules ih =>
    have first := here rule List.mem_cons_self
    have step : betterBytes best rule = Rule.better best rule := by
      cases best with
      | none => rfl
      | some other => simp only [betterBytes, Rule.better, byteLength_le_iff (also other rfl) first]
    rw [List.foldl_cons, List.foldl_cons, step]
    apply ih fun other member => here other (List.mem_cons_of_mem _ member)
    intro other chosen
    cases best with
    | none =>
      obtain rfl : rule = other := by simpa [Rule.better] using chosen
      exact first
    | some old =>
      simp only [Rule.better] at chosen
      split at chosen
      · obtain rfl : rule = other := by simpa using chosen
        exact first
      · exact also other chosen

theorem longestBytes_eq (replacements : List (Rule Char)) (rest : List Char) :
    longestBytes replacements rest = Rule.longest replacements rest := by
  apply foldl_betterBytes
  · intro rule member
    have candidate := (List.mem_filter.mp member).2
    simp only [decide_eq_true_eq] at candidate
    exact candidate.2
  · rintro rule ⟨⟩

/-- The occurrence with its places in bytes. -/
def Occurrence.inBytes (stream : List Char) (found : Occurrence) : Occurrence :=
  ⟨offset stream found.start, offset stream found.stop, found.replacement⟩

/-- The scan finds the same occurrences; behind `front` it stands at a boundary. -/
theorem matchesBytes_eq (replacements : List (Rule Char)) (stream : List Char)
    (rest : List Char) {front : List Char} {rounds : Nat} (whole : stream = front ++ rest)
    (enough : rest.length ≤ rounds) :
    matchesBytes replacements stream rounds (byteLength front) =
      some ((occurrences front.length (Rule.segments replacements rest)).map
        (Occurrence.inBytes stream)) := by
  induction rest using Rule.segments_induction replacements generalizing front rounds with
  | nil =>
    have done : ¬ byteLength front < byteLength stream := by simp [whole]
    cases rounds <;> simp [matchesBytes, done, Rule.segments, Rule.segmentsFrom, occurrences]
  | gap c rest none ih =>
    obtain ⟨rounds, rfl⟩ : ∃ n, rounds = n + 1 := ⟨rounds - 1, by simp at enough; omega⟩
    have more : byteLength front < byteLength stream := by
      have positive := c.utf8Size_pos
      simp only [whole, byteLength_append, byteLength_cons]
      omega
    have here : dropBytes (byteLength front) stream = some (c :: rest) := by
      rw [whole, dropBytes_append]
    have next : byteLength front + c.utf8Size = byteLength (front ++ [c]) := by simp
    have later := @ih (front ++ [c]) rounds (by simp [whole]) (by simpa using enough)
    rw [List.length_append, List.length_singleton] at later
    rw [matchesBytes, if_pos more, here, Option.bind_eq_bind, Option.bind_some,
      longestBytes_eq, none]
    simp only [List.head?_cons, Option.map_some, Option.getD_some, next, later]
    rw [Rule.segments_gap none, occurrences]
  | hit rule rest found ih =>
    obtain ⟨-, nonempty, -, -⟩ := Rule.longest_eq_some found
    have long := List.length_pos_iff.mpr nonempty
    have wide := byteLength_pos nonempty
    obtain ⟨rounds, rfl⟩ : ∃ n, rounds = n + 1 := ⟨rounds - 1, by simp at enough; omega⟩
    have more : byteLength front < byteLength stream := by
      simp only [whole, byteLength_append]
      omega
    have here : dropBytes (byteLength front) stream = some (rule.pattern ++ rest) := by
      rw [whole, dropBytes_append]
    have next : byteLength front + byteLength rule.pattern = byteLength (front ++ rule.pattern) :=
      (byteLength_append front rule.pattern).symm
    have later := @ih (front ++ rule.pattern) rounds (by simp [whole])
      (by simp only [List.length_append] at enough; omega)
    rw [List.length_append] at later
    have first : offset stream front.length = byteLength front := by rw [whole, offset_append]
    have last : offset stream (front.length + rule.pattern.length) =
        byteLength (front ++ rule.pattern) := by
      rw [whole, ← List.length_append, ← List.append_assoc, offset_append]
    rw [matchesBytes, if_pos more, here, Option.bind_eq_bind, Option.bind_some,
      longestBytes_eq, found]
    simp only [next, later, Option.bind_eq_bind, Option.bind_some]
    rw [Rule.segments_hit found, occurrences, List.map_cons, Occurrence.inBytes, first, last]

/-! ## One event -/

/-- An occurrence inside the stream, with its cursor. -/
theorem redactOccurrenceBytes_eq {stream : List Char} {start stop cursor : Nat}
    {found : Occurrence} (out : List Char) (order : found.start ≤ found.stop)
    (inside : found.stop ≤ stream.length) (begun : start ≤ stop) (ended : stop ≤ stream.length)
    (within : cursor ≤ stream.length) :
    redactOccurrenceBytes stream (offset stream start) (offset stream stop)
        (out, offset stream cursor) (found.inBytes stream) =
      some ((redactOccurrence stream start stop (out, cursor) found).1,
        offset stream (redactOccurrence stream start stop (out, cursor) found).2) ∧
    (redactOccurrence stream start stop (out, cursor) found).2 ≤ stream.length := by
  have before := @offset_le_iff stream found.stop start inside (by omega)
  have behind := @offset_le_iff stream stop found.start ended (by omega)
  have first := @offset_le_iff stream start found.start (by omega) (by omega)
  have copied := @offset_lt_iff stream cursor found.start within (by omega)
  have passed := @offset_max stream cursor found.stop within inside
  simp only [redactOccurrenceBytes, Occurrence.inBytes, redactOccurrence, before, behind, first,
    copied, passed]
  by_cases apart : found.stop ≤ start ∨ stop ≤ found.start
  · simp only [if_pos apart]
    exact ⟨trivial, within⟩
  · simp only [if_neg apart]
    refine ⟨?_, by omega⟩
    by_cases own : start ≤ found.start
    · by_cases gap : cursor < found.start
      · have sliced := @sliceBytes_offset stream cursor found.start (by omega)
        simp [if_pos own, if_pos gap, sliced, slice]
      · simp [if_pos own, if_neg gap]
    · simp [if_neg own]

theorem redactOccurrencesBytes_eq {stream : List Char} {start stop cursor : Nat}
    (out : List Char) (found : List Occurrence)
    (inside : ∀ one ∈ found, one.start ≤ one.stop ∧ one.stop ≤ stream.length)
    (begun : start ≤ stop) (ended : stop ≤ stream.length) (within : cursor ≤ stream.length) :
    (found.map (Occurrence.inBytes stream)).foldlM
        (redactOccurrenceBytes stream (offset stream start) (offset stream stop))
        (out, offset stream cursor) =
      some ((found.foldl (redactOccurrence stream start stop) (out, cursor)).1,
        offset stream (found.foldl (redactOccurrence stream start stop) (out, cursor)).2) ∧
    (found.foldl (redactOccurrence stream start stop) (out, cursor)).2 ≤ stream.length := by
  induction found generalizing out cursor with
  | nil => exact ⟨rfl, within⟩
  | cons one found ih =>
    obtain ⟨order, last⟩ := inside one List.mem_cons_self
    obtain ⟨step, bound⟩ := redactOccurrenceBytes_eq out order last begun ended within
    rw [List.map_cons, List.foldlM_cons, step, List.foldl_cons]
    exact ih _ (fun other member => inside other (List.mem_cons_of_mem _ member)) bound

/-- The new text of an event, no slice of which fails. -/
theorem redactRangeBytes_eq {stream : List Char} {start stop : Nat} (found : List Occurrence)
    (inside : ∀ one ∈ found, one.start ≤ one.stop ∧ one.stop ≤ stream.length)
    (begun : start ≤ stop) (ended : stop ≤ stream.length) :
    redactRangeBytes stream (found.map (Occurrence.inBytes stream)) (offset stream start)
        (offset stream stop) =
      some (redactRange stream found start stop) := by
  obtain ⟨all, bound⟩ := redactOccurrencesBytes_eq [] found inside begun ended
    (Nat.le_trans begun ended)
  have more := @offset_lt_iff stream _ stop bound ended
  rw [redactRangeBytes, all]
  simp only [Option.bind_eq_bind, Option.bind_some, more, redactRange]
  split
  · next less =>
    rw [sliceBytes_offset (Nat.le_of_lt less), Option.map_some, slice]
  · rfl

/-! ## All events -/

/-- The occurrences lie within the text they are found in. -/
theorem occurrences_inside {pieces : List (Rule.Segment Char)} {position : Nat} {one : Occurrence}
    (member : one ∈ occurrences position pieces) :
    one.start ≤ one.stop ∧ one.stop ≤ position + (Rule.shown [] pieces).length := by
  induction pieces generalizing position with
  | nil => simp [occurrences] at member
  | cons piece rest ih =>
    cases piece with
    | gap c =>
      have later := ih member
      simp only [Rule.shown_cons, Rule.Segment.shown, List.length_append, List.length_singleton]
      omega
    | hit rule =>
      have width : Rule.Segment.shown [] (.hit rule) = rule.pattern := by simp [Rule.Segment.shown]
      rw [Rule.shown_cons, width, List.length_append]
      obtain rfl | behind := List.mem_cons.mp member
      · exact ⟨Nat.le_add_right _ _, by simp only; omega⟩
      · have later := ih behind
        omega

/-- An event with its place in bytes. -/
def rangeInBytes (stream : List Char) (range : Nat × Nat × Nat) : Nat × Nat × Nat :=
  (range.1, offset stream range.2.1, offset stream range.2.2)

theorem outputStreamBytes_from (values : List Json) (index : Nat) (front : List Char)
    (ranges : List (Nat × Nat × Nat)) :
    (values.zipIdx index).foldl
        (fun (stream, ranges) (value, index) =>
          match outputText value with
          | some data =>
              (stream ++ data,
                ranges ++ [(index, byteLength stream, byteLength (stream ++ data))])
          | none => (stream, ranges)) (front, ranges) =
      (front ++ outputs values, ranges ++
        (rangesFrom index front.length values).map (rangeInBytes (front ++ outputs values))) := by
  induction values generalizing index front ranges with
  | nil => simp [rangesFrom]
  | cons value rest ih =>
    rw [List.zipIdx_cons, List.foldl_cons]
    cases output : outputText value with
    | none => simp only [output, ih, outputs_none output, rangesFrom]
    | some data =>
      have begun : offset (front ++ (data ++ outputs rest)) front.length = byteLength front :=
        offset_append front _
      have ended : offset (front ++ (data ++ outputs rest)) (front.length + data.length) =
          byteLength (front ++ data) := by
        rw [← List.length_append, ← List.append_assoc, offset_append]
      simp only [output, ih, outputs_some output, rangesFrom, List.length_append,
        List.append_assoc, List.map_cons, List.cons_append, List.nil_append, rangeInBytes, begun,
        ended]

theorem outputStreamBytes_eq (values : List Json) :
    outputStreamBytes values =
      (outputs values, (rangesFrom 0 0 values).map (rangeInBytes (outputs values))) := by
  have all := outputStreamBytes_from values 0 [] []
  simpa [outputStreamBytes] using all

theorem modify_rangesBytes {stream : List Char} {found : List Occurrence}
    (inside : ∀ one ∈ found, one.start ≤ one.stop ∧ one.stop ≤ stream.length)
    (ranges : List (Nat × Nat × Nat))
    (within : ∀ range ∈ ranges, range.2.1 ≤ range.2.2 ∧ range.2.2 ≤ stream.length)
    (values : List Json) :
    (ranges.map (rangeInBytes stream)).foldlM
        (fun values (index, start, stop) => do
          let text ← redactRangeBytes stream (found.map (Occurrence.inBytes stream)) start stop
          some (values.modify index (setOutput text))) values =
      some (ranges.foldl
        (fun values (index, start, stop) =>
          values.modify index (setOutput (redactRange stream found start stop))) values) := by
  induction ranges generalizing values with
  | nil => rfl
  | cons range ranges ih =>
    obtain ⟨begun, ended⟩ := within range List.mem_cons_self
    have text := redactRangeBytes_eq found inside begun ended
    rw [List.map_cons, List.foldlM_cons, List.foldl_cons]
    simp only [rangeInBytes, text, Option.bind_eq_bind, Option.bind_some]
    exact ih (fun other member => within other (List.mem_cons_of_mem _ member)) _

/-- No slice falls off a character boundary, and the events are as if counted by
characters. -/
theorem redactOutputStreamBytes_eq (replacements : List (Rule Char)) (values : List Json) :
    redactOutputStreamBytes replacements values =
      some (redactOutputStream replacements values) := by
  have whole : outputs values = [] ++ outputs values := rfl
  have found := matchesBytes_eq replacements (outputs values) (outputs values) whole
    (length_le_byteLength _)
  rw [byteLength_nil, List.length_nil, ← matchesFrom_eq] at found
  have inside : ∀ one ∈ matchesFrom replacements 0 0 (outputs values),
      one.start ≤ one.stop ∧ one.stop ≤ (outputs values).length := by
    intro one member
    rw [matchesFrom_eq] at member
    simpa [Rule.shown_nil_segments] using occurrences_inside member
  have within : ∀ range ∈ rangesFrom 0 0 values,
      range.2.1 ≤ range.2.2 ∧ range.2.2 ≤ (outputs values).length := by
    intro range member
    simpa using rangesFrom_inside member
  simp only [redactOutputStreamBytes, redactOutputStream, outputStreamBytes_eq, outputStream_eq,
    found, Option.bind_eq_bind, Option.bind_some]
  split
  · rfl
  · exact modify_rangesBytes inside _ within values

/-! ## The redaction of the terminal output -/

/-- The events show, whatever the cuts between them, the text in which all patterns are
replaced at once; nothing else changes, no slice fails, and where no replacement text is
empty, no pattern foreign to the replacement texts is left. -/
theorem redactOutputStream_global (replacements : List (Rule Char)) (values : List Json) :
    ∃ result, redactOutputStreamBytes replacements values = some result ∧
      outputs result = Rule.replaceLongest replacements (outputs values) ∧
      List.Forall₂ Reworded values result ∧
      ((∀ rule ∈ replacements, rule.marker ≠ []) →
        ∀ rule ∈ replacements, rule.pattern ≠ [] →
          (∀ other ∈ replacements, ∀ c ∈ rule.pattern, c ∉ other.marker) →
          ¬ rule.pattern <:+: outputs result) := by
  have shown := outputs_redactOutputStream replacements values
  refine ⟨redactOutputStream replacements values, redactOutputStreamBytes_eq replacements values,
    shown, reworded_redactOutputStream replacements values, ?_⟩
  intro marked rule member nonempty foreign
  rw [shown]
  exact Rule.absent_of_foreign marked member nonempty foreign (outputs values)

/-- A pattern that two events share. -/
theorem redactOutputStream_global_sample :
    ∃ result, outputs result = Rule.replaceLongest [⟨['a', 'b'], ['x']⟩]
        (outputs [.array [.null, .string "o", .string "ca"],
          .array [.null, .string "o", .string "bc"]]) ∧
      ¬ ['a', 'b'] <:+: outputs result := by
  obtain ⟨result, -, shown, -, clear⟩ := redactOutputStream_global [⟨['a', 'b'], ['x']⟩]
    [.array [.null, .string "o", .string "ca"], .array [.null, .string "o", .string "bc"]]
  exact ⟨result, shown, clear (by simp) ⟨['a', 'b'], ['x']⟩ (by simp) (by simp) (by simp)⟩

/-- An empty replacement text joins what stood apart. -/
theorem redactOutputStream_joins :
    ∃ replacements values result rule,
      redactOutputStreamBytes replacements values = some result ∧ rule ∈ replacements ∧
      rule.pattern ≠ [] ∧
      (∀ other ∈ replacements, ∀ c ∈ rule.pattern, c ∉ other.marker) ∧
      rule.pattern <:+: outputs result := by
  refine ⟨[⟨['b'], []⟩, ⟨['a', 'c'], ['x']⟩],
    [.array [.null, .string "o", .string "abc"]],
    [.array [.null, .string "o", .string "ac"]], ⟨['a', 'c'], ['x']⟩, ?_, ?_, ?_, ?_, ?_⟩
  · rfl
  · simp
  · simp
  · simp
  · decide

end Loomterm
