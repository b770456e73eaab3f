import Loomterm.Misc.Json
import Loomterm.Misc.Replace
import Mathlib.Data.List.Forall2

/-!
# The terminal output of a recording

`redact_output_stream` of `src/session.rs` joins the terminal output of all events into one
stream, finds the longest pattern at each place, and cuts the result back into the texts of
the events.

Positions count characters; the code counts the bytes of the same characters, and it
looks for patterns at character boundaries only. Of two patterns that stand at one place
the one of more characters is the one of more bytes.
-/

namespace Loomterm

/-- The text of an output event. -/
def outputText (value : Json) : Option (List Char) := do
  let event ← value.asArray
  if event[1]?.bind Json.asStr = some "o" then
    let data ← event[2]?.bind Json.asStr
    some data.toList
  else none

/-- The events' texts as one stream, and for each event its index and its place there. -/
def outputStream (values : List Json) : List Char × List (Nat × Nat × Nat) :=
  values.zipIdx.foldl
    (fun (stream, ranges) (value, index) =>
      match outputText value with
      | some data =>
          (stream ++ data, ranges ++ [(index, stream.length, stream.length + data.length)])
      | none => (stream, ranges)) ([], [])

/-- An occurrence of a pattern in the stream. -/
structure Occurrence where
  start : Nat
  stop : Nat
  replacement : List Char

/-- The scan of the stream from `position`, behind the next `skip` characters. -/
def matchesFrom (replacements : List (Rule Char)) :
    (skip position : Nat) → List Char → List Occurrence
  | _, _, [] => []
  | skip + 1, position, _ :: rest => matchesFrom replacements skip (position + 1) rest
  | 0, position, c :: rest =>
      match Rule.longest replacements (c :: rest) with
      | some rule =>
          ⟨position, position + rule.pattern.length, rule.marker⟩ ::
            matchesFrom replacements (rule.pattern.length - 1) (position + 1) rest
      | none => matchesFrom replacements 0 (position + 1) rest

/-- `stream[start..stop]`. -/
def slice (stream : List Char) (start stop : Nat) : List Char :=
  (stream.drop start).take (stop - start)

/-- One occurrence in the text of the event at `start..stop`. -/
def redactOccurrence (stream : List Char) (start stop : Nat) (state : List Char × Nat)
    (found : Occurrence) : List Char × Nat :=
  let (redacted, cursor) := state
  if found.stop ≤ start ∨ stop ≤ found.start then state
  else
    let redacted :=
      if start ≤ found.start then
        (if cursor < found.start then redacted ++ slice stream cursor found.start
          else redacted) ++ found.replacement
      else redacted
    (redacted, max cursor found.stop)

/-- The new text of the event at `start..stop`. -/
def redactRange (stream : List Char) (occurrences : List Occurrence) (start stop : Nat) :
    List Char :=
  let (redacted, cursor) :=
    occurrences.foldl (redactOccurrence stream start stop) ([], start)
  if cursor < stop then redacted ++ slice stream cursor stop else redacted

/-- `event[2] = Value::String(text)`. -/
def setOutput (text : List Char) : Json → Json
  | .array event => .array (event.set 2 (.string (String.ofList text)))
  | other => other

/-- `redact_output_stream` (`src/session.rs:596`). -/
def redactOutputStream (replacements : List (Rule Char)) (values : List Json) : List Json :=
  let (stream, ranges) := outputStream values
  if stream.isEmpty || replacements.isEmpty then values
  else
    let occurrences := matchesFrom replacements 0 0 stream
    ranges.foldl
      (fun values (index, start, stop) =>
        values.modify index (setOutput (redactRange stream occurrences start stop))) values

/-! ## The occurrences -/

/-- The occurrences of the pieces of a text that begins at `position`. -/
def occurrences (position : Nat) : List (Rule.Segment Char) → List Occurrence
  | [] => []
  | .gap _ :: rest => occurrences (position + 1) rest
  | .hit rule :: rest =>
      ⟨position, position + rule.pattern.length, rule.marker⟩ ::
        occurrences (position + rule.pattern.length) rest

/-- The scan steps over the characters of an occurrence. -/
theorem matchesFrom_skip (replacements : List (Rule Char)) (front rest : List Char)
    (position : Nat) :
    matchesFrom replacements front.length position (front ++ rest) =
      matchesFrom replacements 0 (position + front.length) rest := by
  induction front generalizing position with
  | nil => rfl
  | cons c front ih =>
    have step := ih (position + 1)
    simpa [matchesFrom, Nat.add_assoc, Nat.add_comm 1] using step

/-- The scan finds the leftmost longest occurrences. -/
theorem matchesFrom_eq (replacements : List (Rule Char)) (position : Nat) (text : List Char) :
    matchesFrom replacements 0 position text =
      occurrences position (Rule.segments replacements text) := by
  induction text using Rule.segments_induction replacements generalizing position with
  | nil => rfl
  | gap c rest none ih =>
    rw [Rule.segments_gap none, occurrences, ← ih]
    simp [matchesFrom, none]
  | hit rule rest found ih =>
    obtain ⟨-, some, -, -⟩ := Rule.longest_eq_some found
    obtain ⟨c, tail, whole⟩ := List.exists_cons_of_ne_nil some
    rw [Rule.segments_hit found, occurrences, ← ih]
    rw [whole, List.cons_append] at found
    have skipped := matchesFrom_skip replacements tail rest (position + 1)
    have behind : position + 1 + tail.length = position + rule.pattern.length := by
      simp [whole]
      omega
    rw [behind] at skipped
    have long : rule.pattern.length - 1 = tail.length := by simp [whole]
    calc matchesFrom replacements 0 position (rule.pattern ++ rest)
        = matchesFrom replacements 0 position (c :: (tail ++ rest)) := by rw [whole]; rfl
      _ = ⟨position, position + rule.pattern.length, rule.marker⟩ ::
            matchesFrom replacements (rule.pattern.length - 1) (position + 1)
              (tail ++ rest) := by
          rw [matchesFrom, found]
      _ = _ := by rw [long, skipped]

/-! ## The text of one event -/

theorem slice_eq_nil {stream : List Char} {start stop : Nat} (empty : stop ≤ start) :
    slice stream start stop = [] := by
  rw [slice, Nat.sub_eq_zero_of_le empty, List.take_zero]

/-- A slice up to a character inside the stream, and that character. -/
theorem slice_snoc {front rest : List Char} {c : Char} {start : Nat}
    (before : start ≤ front.length) :
    slice (front ++ c :: rest) start (front.length + 1) =
      slice (front ++ c :: rest) start front.length ++ [c] := by
  have within : front.length + 1 - start = front.length - start + 1 := by omega
  simp only [slice, List.drop_append_of_le_length before]
  rw [within, List.take_append, List.take_append]
  simp

/-- What the pieces that begin between `start` and `stop` show; the first piece begins at
`position`. -/
def shownBetween (replacements : List (Rule Char)) (start stop : Nat) :
    Nat → List (Rule.Segment Char) → List Char
  | _, [] => []
  | position, piece :: rest =>
      (if start ≤ position ∧ position < stop then piece.shown replacements else []) ++
        shownBetween replacements start stop (position + (piece.shown []).length) rest

/-- The end of `redactRange`. -/
def finishRange (stream : List Char) (stop : Nat) (state : List Char × Nat) : List Char :=
  if state.2 < stop then state.1 ++ slice stream state.2 stop else state.1

theorem finishRange_eq (stream : List Char) (stop : Nat) (out : List Char) (cursor : Nat) :
    finishRange stream stop (out, cursor) = out ++ slice stream cursor stop := by
  unfold finishRange
  by_cases more : cursor < stop
  · rw [if_pos more]
  · rw [if_neg more, slice_eq_nil (by omega), List.append_nil]

/-- An occurrence, by where it lies: apart from the event it changes nothing, begun before
the event it moves the cursor, and begun in the event it is replaced. -/
theorem redactOccurrence_eq {stream out marker : List Char} {start stop cursor first last : Nat} :
    redactOccurrence stream start stop (out, cursor) ⟨first, last, marker⟩ =
      if last ≤ start ∨ stop ≤ first then (out, cursor)
      else if start ≤ first then (out ++ slice stream cursor first ++ marker, max cursor last)
      else (out, max cursor last) := by
  unfold redactOccurrence
  have copied := finishRange_eq stream first out cursor
  simp only [finishRange] at copied
  simp only [copied]
  split
  · rfl
  · split <;> rfl

/-- A character that stays, seen from the event at `start..stop`. -/
theorem slice_gap {stream front rest : List Char} {c : Char} {start stop cursor : Nat}
    (whole : stream = front ++ c :: rest) (begun : start ≤ cursor)
    (behind : cursor ≤ max start front.length) :
    slice stream cursor (min (front.length + 1) stop) =
      slice stream cursor (min front.length stop) ++
        (if start ≤ front.length ∧ front.length < stop then [c] else []) := by
  by_cases later : stop ≤ front.length
  · have outside : ¬ (start ≤ front.length ∧ front.length < stop) := by omega
    rw [if_neg outside, Nat.min_eq_right (by omega), Nat.min_eq_right later, List.append_nil]
  · rw [Nat.min_eq_left (by omega), Nat.min_eq_left (by omega)]
    by_cases before : start ≤ front.length
    · have inside : start ≤ front.length ∧ front.length < stop := by omega
      rw [if_pos inside, whole, slice_snoc (by omega)]
    · have outside : ¬ (start ≤ front.length ∧ front.length < stop) := by omega
      rw [if_neg outside, slice_eq_nil (by omega), slice_eq_nil (by omega), List.append_nil]

/-- The occurrences of the pieces behind `front`: the pieces that begin in the event are
shown, once the text up to them is copied. -/
theorem redactOccurrences_between {replacements : List (Rule Char)} {stream : List Char}
    {start stop : Nat} (pieces : List (Rule.Segment Char)) {front : List Char}
    (out : List Char) {cursor : Nat}
    (known : ∀ rule, .hit rule ∈ pieces → rule ∈ replacements ∧ rule.pattern ≠ [])
    (whole : stream = front ++ Rule.shown [] pieces) (inside : stop ≤ stream.length)
    (begun : start ≤ cursor) (behind : cursor ≤ max start front.length) :
    finishRange stream stop
        ((occurrences front.length pieces).foldl (redactOccurrence stream start stop)
          (out, cursor)) =
      out ++ slice stream cursor (min front.length stop) ++
        shownBetween replacements start stop front.length pieces := by
  induction pieces generalizing front out cursor with
  | nil =>
    have all : stream = front := by simpa [Rule.shown] using whole
    have last : min front.length stop = stop := by rw [← all]; omega
    simp [occurrences, shownBetween, finishRange_eq, last]
  | cons piece rest ih =>
    have later : ∀ rule, .hit rule ∈ rest → rule ∈ replacements ∧ rule.pattern ≠ [] :=
      fun rule member => known rule (List.mem_cons_of_mem _ member)
    cases piece with
    | gap c =>
      have next : stream = (front ++ [c]) ++ Rule.shown [] rest := by
        simpa [Rule.Segment.shown] using whole
      have long : (front ++ [c]).length = front.length + 1 := by simp
      have step := @ih (front ++ [c]) out cursor later next begun (by omega)
      rw [long, slice_gap (by simpa using next) begun behind] at step
      simpa [occurrences, shownBetween, Rule.Segment.shown] using step
    | hit rule =>
      obtain ⟨member, some⟩ := known rule (by simp)
      have positive : 0 < rule.pattern.length := List.length_pos_iff.mpr some
      have next : stream = (front ++ rule.pattern) ++ Rule.shown [] rest := by
        simpa [Rule.Segment.shown] using whole
      have long : (front ++ rule.pattern).length = front.length + rule.pattern.length := by simp
      have marked : Rule.Segment.shown replacements (.hit rule) = rule.marker := if_pos member
      have width : (Rule.Segment.shown [] (.hit rule)).length = rule.pattern.length := by
        simp [Rule.Segment.shown]
      have step := fun out cursor begun behind =>
        @ih (front ++ rule.pattern) out cursor later next begun behind
      rw [long] at step
      rw [occurrences, List.foldl_cons, redactOccurrence_eq, shownBetween, marked, width]
      by_cases apart : front.length + rule.pattern.length ≤ start ∨ stop ≤ front.length
      · -- The event's own text before and behind the occurrence is the same.
        have outside : ¬ (start ≤ front.length ∧ front.length < stop) := by omega
        have same : slice stream cursor (min (front.length + rule.pattern.length) stop) =
            slice stream cursor (min front.length stop) := by
          obtain before | beyond := apart
          · rw [slice_eq_nil (by omega), slice_eq_nil (by omega)]
          · rw [Nat.min_eq_right (by omega), Nat.min_eq_right beyond]
        rw [if_pos apart, if_neg outside, step out cursor begun (by omega), same, List.nil_append]
      · rw [if_neg apart]
        by_cases within : start ≤ front.length
        · have inner : start ≤ front.length ∧ front.length < stop := by omega
          have nothing : slice stream (front.length + rule.pattern.length)
              (min (front.length + rule.pattern.length) stop) = [] := slice_eq_nil (by omega)
          rw [if_pos within, if_pos inner, Nat.max_eq_right (by omega),
            step _ (front.length + rule.pattern.length) (by omega) (by omega), nothing,
            Nat.min_eq_left (by omega)]
          simp
        · have outer : ¬ (start ≤ front.length ∧ front.length < stop) := by omega
          rw [if_neg within, if_neg outer, Nat.max_eq_right (by omega),
            step _ (front.length + rule.pattern.length) (by omega) (by omega),
            slice_eq_nil (by omega), slice_eq_nil (by omega)]
          simp

/-! ## The event's share of the pieces -/

/-- The text of an event is what the pieces that begin in it show. -/
theorem redactRange_between (replacements : List (Rule Char)) {stream : List Char}
    {start stop : Nat} (inside : stop ≤ stream.length) :
    redactRange stream (matchesFrom replacements 0 0 stream) start stop =
      shownBetween replacements start stop 0 (Rule.segments replacements stream) := by
  have whole : stream = [] ++ Rule.shown [] (Rule.segments replacements stream) := by
    rw [List.nil_append, Rule.shown_nil_segments]
  have all := redactOccurrences_between (Rule.segments replacements stream) []
    (fun _ => Rule.rule_mem_of_hit) whole inside (Nat.le_refl start) (by simp)
  have before : slice stream start (min 0 stop) = [] := slice_eq_nil (by omega)
  simp only [List.length_nil, before, List.append_nil, List.nil_append] at all
  rw [matchesFrom_eq, ← all]
  rfl

/-- Behind its end an event shows nothing. -/
theorem shownBetween_beyond (replacements : List (Rule Char)) (start : Nat) {stop position : Nat}
    (pieces : List (Rule.Segment Char)) (behind : stop ≤ position) :
    shownBetween replacements start stop position pieces = [] := by
  induction pieces generalizing position with
  | nil => rfl
  | cons piece rest ih =>
    have outside : ¬ (start ≤ position ∧ position < stop) := by omega
    rw [shownBetween, if_neg outside, List.nil_append]
    exact ih (by omega)

/-- An event without text shows nothing. -/
theorem shownBetween_none (replacements : List (Rule Char)) {start stop position : Nat}
    (pieces : List (Rule.Segment Char)) (empty : stop ≤ start) :
    shownBetween replacements start stop position pieces = [] := by
  induction pieces generalizing position with
  | nil => rfl
  | cons piece rest ih =>
    have outside : ¬ (start ≤ position ∧ position < stop) := by omega
    rw [shownBetween, if_neg outside, List.nil_append, ih]

/-- Where an event begins plays no role for the pieces behind its begin. -/
theorem shownBetween_start (replacements : List (Rule Char)) {first second stop position : Nat}
    (pieces : List (Rule.Segment Char)) (begun : first ≤ position) (too : second ≤ position) :
    shownBetween replacements first stop position pieces =
      shownBetween replacements second stop position pieces := by
  induction pieces generalizing position with
  | nil => rfl
  | cons piece rest ih =>
    have later := @ih (position + (piece.shown []).length) (by omega) (by omega)
    simp only [shownBetween, begun, too, true_and, later]

/-- Two events one after the other show what one event in their place shows. -/
theorem shownBetween_append (replacements : List (Rule Char)) {start middle stop position : Nat}
    (pieces : List (Rule.Segment Char)) (first : start ≤ middle) (second : middle ≤ stop) :
    shownBetween replacements start middle position pieces ++
        shownBetween replacements middle stop position pieces =
      shownBetween replacements start stop position pieces := by
  induction pieces generalizing position with
  | nil => rfl
  | cons piece rest ih =>
    by_cases before : position < middle
    · have none : ¬ (middle ≤ position ∧ position < stop) := by omega
      have same : (start ≤ position ∧ position < stop) ↔
          (start ≤ position ∧ position < middle) := by omega
      have later := @ih (position + (piece.shown []).length)
      simp only [shownBetween, if_neg none, same, List.nil_append, List.append_assoc, later]
    · rw [shownBetween_beyond replacements start _ (by omega), List.nil_append]
      exact shownBetween_start replacements _ (by omega) (by omega)

/-- An event that holds the whole text shows every piece. -/
theorem shownBetween_all (replacements : List (Rule Char)) {stop position : Nat}
    (pieces : List (Rule.Segment Char))
    (known : ∀ rule, .hit rule ∈ pieces → rule.pattern ≠ [])
    (whole : stop = position + (Rule.shown [] pieces).length) :
    shownBetween replacements 0 stop position pieces = Rule.shown replacements pieces := by
  induction pieces generalizing position with
  | nil => rfl
  | cons piece rest ih =>
    have some : 0 < (piece.shown []).length := by
      cases piece with
      | gap c => simp [Rule.Segment.shown]
      | hit rule =>
        have pattern := known rule (by simp)
        simpa [Rule.Segment.shown] using List.length_pos_iff.mpr pattern
    simp only [Rule.shown_cons, List.length_append] at whole
    have inside : 0 ≤ position ∧ position < stop := by omega
    have later := @ih (position + (piece.shown []).length)
      (fun rule member => known rule (List.mem_cons_of_mem _ member)) (by omega)
    rw [shownBetween, if_pos inside, later, Rule.shown_cons]

/-- What the events between them show, from the first character on. -/
theorem shownBetween_text (replacements : List (Rule Char)) (text : List Char) :
    shownBetween replacements 0 text.length 0 (Rule.segments replacements text) =
      Rule.replaceLongest replacements text := by
  apply shownBetween_all
  · exact fun rule member => (Rule.rule_mem_of_hit member).2
  · rw [Rule.shown_nil_segments, Nat.zero_add]

/-- An event that holds the whole text. -/
theorem redactRange_eq (replacements : List (Rule Char)) (text : List Char) :
    redactRange text (matchesFrom replacements 0 0 text) 0 text.length =
      Rule.replaceLongest replacements text := by
  rw [redactRange_between replacements (Nat.le_refl _), shownBetween_text]

/-! ## The list of events -/

/-- The texts of the output events, one after the other. -/
def outputs (values : List Json) : List Char := (values.filterMap outputText).flatten

/-- The events at their places; the first has the index `index` and begins at `position`. -/
def rangesFrom : (index position : Nat) → List Json → List (Nat × Nat × Nat)
  | _, _, [] => []
  | index, position, value :: rest =>
      match outputText value with
      | some data =>
          (index, position, position + data.length) ::
            rangesFrom (index + 1) (position + data.length) rest
      | none => rangesFrom (index + 1) position rest

/-- The events, each with the text that `text` gives for its place. -/
def rewriteFrom (text : Nat → Nat → List Char) : Nat → List Json → List Json
  | _, [] => []
  | position, value :: rest =>
      match outputText value with
      | some data =>
          setOutput (text position (position + data.length)) value ::
            rewriteFrom text (position + data.length) rest
      | none => value :: rewriteFrom text position rest

@[simp] theorem outputs_nil : outputs [] = [] := rfl

theorem outputs_some {value : Json} {data : List Char} (output : outputText value = some data)
    (rest : List Json) : outputs (value :: rest) = data ++ outputs rest := by
  simp [outputs, output]

theorem outputs_none {value : Json} (other : outputText value = none) (rest : List Json) :
    outputs (value :: rest) = outputs rest := by
  simp [outputs, other]

theorem outputStream_from (values : List Json) (index : Nat) (stream : List Char)
    (ranges : List (Nat × Nat × Nat)) :
    (values.zipIdx index).foldl
        (fun (stream, ranges) (value, index) =>
          match outputText value with
          | some data =>
              (stream ++ data, ranges ++ [(index, stream.length, stream.length + data.length)])
          | none => (stream, ranges)) (stream, ranges) =
      (stream ++ outputs values, ranges ++ rangesFrom index stream.length values) := by
  induction values generalizing index stream ranges with
  | nil => simp [rangesFrom]
  | cons value rest ih =>
    rw [List.zipIdx_cons, List.foldl_cons]
    cases output : outputText value with
    | none => simp [output, ih, outputs_none output, rangesFrom]
    | some data => simp [output, ih, outputs_some output, rangesFrom]

theorem outputStream_eq (values : List Json) :
    outputStream values = (outputs values, rangesFrom 0 0 values) := by
  have all := outputStream_from values 0 [] []
  simpa [outputStream] using all

/-- Every event lies within the stream. -/
theorem rangesFrom_inside {values : List Json} {index position : Nat} {range : Nat × Nat × Nat}
    (member : range ∈ rangesFrom index position values) :
    range.2.1 ≤ range.2.2 ∧ range.2.2 ≤ position + (outputs values).length := by
  induction values generalizing index position with
  | nil => simp [rangesFrom] at member
  | cons value rest ih =>
    cases output : outputText value with
    | none =>
      rw [rangesFrom, output] at member
      rw [outputs_none output]
      exact ih member
    | some data =>
      rw [rangesFrom, output] at member
      rw [outputs_some output, List.length_append]
      obtain rfl | later := List.mem_cons.mp member
      · simp
      · have bound := ih later
        omega

/-- Setting the texts by index rewrites the events in order. -/
theorem modify_ranges (text : Nat → Nat → List Char) (values before : List Json)
    (position : Nat) :
    (rangesFrom before.length position values).foldl
        (fun values (index, start, stop) => values.modify index (setOutput (text start stop)))
        (before ++ values) =
      before ++ rewriteFrom text position values := by
  induction values generalizing before position with
  | nil => rfl
  | cons value rest ih =>
    cases output : outputText value with
    | none =>
      have later := ih (before ++ [value]) position
      simp only [List.length_append, List.length_singleton, List.append_assoc,
        List.singleton_append] at later
      simp only [rangesFrom, rewriteFrom, output, later]
    | some data =>
      have later := ih (before ++ [setOutput (text position (position + data.length)) value])
        (position + data.length)
      simp only [List.length_append, List.length_singleton, List.append_assoc,
        List.singleton_append] at later
      have set : (before ++ value :: rest).modify before.length
          (setOutput (text position (position + data.length))) =
          before ++ setOutput (text position (position + data.length)) value :: rest := by
        rw [List.modify_eq_set_getElem?]
        simp
      simp only [rangesFrom, rewriteFrom, output, List.foldl_cons, set, later]

/-- `redact_output_stream` gives each event its share of the pieces. -/
theorem redactOutputStream_eq (replacements : List (Rule Char)) (values : List Json) :
    redactOutputStream replacements values = values ∧
        Rule.replaceLongest replacements (outputs values) = outputs values ∨
      redactOutputStream replacements values =
        rewriteFrom (redactRange (outputs values)
          (matchesFrom replacements 0 0 (outputs values))) 0 values := by
  unfold redactOutputStream
  rw [outputStream_eq]
  by_cases idle : ((outputs values).isEmpty || replacements.isEmpty) = true
  · left
    obtain empty | empty : outputs values = [] ∨ replacements = [] := by simpa using idle
    · exact ⟨if_pos idle, by rw [empty]; rfl⟩
    · refine ⟨if_pos idle, ?_⟩
      rw [empty]
      exact Rule.shown_nil_segments [] (outputs values)
  · right
    simp only [if_neg idle]
    exact modify_ranges _ values [] 0

/-! ## The result -/

theorem outputText_cases {value : Json} {data : List Char}
    (output : outputText value = some data) :
    ∃ event text, value = .array event ∧ event[1]?.bind Json.asStr = some "o" ∧
      event[2]? = some (.string text) ∧ text.toList = data := by
  cases value with
  | array event =>
    simp only [outputText, Json.asArray, Option.bind_eq_bind, Option.bind_some] at output
    split at output
    · next kind =>
      cases entry : event[2]? with
      | none => simp [entry] at output
      | some json =>
        cases json with
        | string text =>
          exact ⟨event, text, rfl, kind, entry, by simpa [entry, Json.asStr] using output⟩
        | _ => simp [entry, Json.asStr] at output
    · simp at output
  | _ => simp [outputText, Json.asArray] at output

/-- An event is an output event with the text it is given. -/
theorem outputText_setOutput {value : Json} {data : List Char} (text : List Char)
    (output : outputText value = some data) :
    outputText (setOutput text value) = some text := by
  obtain ⟨event, old, rfl, kind, entry, -⟩ := outputText_cases output
  have present : 2 < event.length := (List.getElem?_eq_some_iff.mp entry).1
  simp [setOutput, outputText, Json.asArray, Json.asStr, kind, present]

theorem setOutput_self {value : Json} {data : List Char} (output : outputText value = some data) :
    setOutput data value = value := by
  obtain ⟨event, old, rfl, -, entry, rfl⟩ := outputText_cases output
  obtain ⟨present, found⟩ := List.getElem?_eq_some_iff.mp entry
  have same : event.set 2 (.string old) = event := by rw [← found, List.set_getElem_self]
  simp [setOutput, same]

/-- Only the text of an output event may differ. -/
def Reworded (value result : Json) : Prop :=
  match outputText value with
  | some _ => ∃ text, result = setOutput text value
  | none => result = value

theorem reworded_refl (value : Json) : Reworded value value := by
  unfold Reworded
  split
  · next data output => exact ⟨data, (setOutput_self output).symm⟩
  · rfl

theorem reworded_rewriteFrom (text : Nat → Nat → List Char) (values : List Json)
    (position : Nat) : List.Forall₂ Reworded values (rewriteFrom text position values) := by
  induction values generalizing position with
  | nil => exact .nil
  | cons value rest ih =>
    cases output : outputText value with
    | none =>
      have same : Reworded value value := reworded_refl value
      simpa only [rewriteFrom, output] using List.Forall₂.cons same (ih position)
    | some data =>
      have set : Reworded value (setOutput (text position (position + data.length)) value) := by
        rw [Reworded, output]
        exact ⟨_, rfl⟩
      simpa only [rewriteFrom, output] using List.Forall₂.cons set (ih (position + data.length))

/-- The events' shares, one after the other. -/
theorem outputs_rewriteFrom {replacements : List (Rule Char)} {text : Nat → Nat → List Char}
    {pieces : List (Rule.Segment Char)} {total : Nat}
    (share : ∀ start stop, stop ≤ total →
      text start stop = shownBetween replacements start stop 0 pieces)
    (values : List Json) (position : Nat) (inside : position + (outputs values).length ≤ total) :
    outputs (rewriteFrom text position values) =
      shownBetween replacements position (position + (outputs values).length) 0 pieces := by
  induction values generalizing position with
  | nil =>
    exact (shownBetween_none replacements pieces (Nat.le_refl position)).symm
  | cons value rest ih =>
    cases output : outputText value with
    | none =>
      rw [outputs_none output] at inside ⊢
      simpa only [rewriteFrom, output, outputs_none output] using ih position inside
    | some data =>
      rw [outputs_some output, List.length_append] at inside ⊢
      have later := ih (position + data.length) (by omega)
      have set := outputText_setOutput (text position (position + data.length)) output
      have here := share position (position + data.length) (by omega)
      simp only [rewriteFrom, output, outputs_some set, later]
      rw [here, shownBetween_append replacements pieces (by omega) (by omega), Nat.add_assoc]

/-- The texts of the events join to the text in which all patterns are replaced at once. -/
theorem outputs_redactOutputStream (replacements : List (Rule Char)) (values : List Json) :
    outputs (redactOutputStream replacements values) =
      Rule.replaceLongest replacements (outputs values) := by
  obtain ⟨same, idle⟩ | rewritten := redactOutputStream_eq replacements values
  · rw [same, idle]
  · have share := fun start stop => @redactRange_between replacements (outputs values) start stop
    rw [rewritten, outputs_rewriteFrom share values 0 (by omega), Nat.zero_add,
      shownBetween_text]

/-- Nothing but the texts of the events changes. -/
theorem reworded_redactOutputStream (replacements : List (Rule Char)) (values : List Json) :
    List.Forall₂ Reworded values (redactOutputStream replacements values) := by
  obtain ⟨same, -⟩ | rewritten := redactOutputStream_eq replacements values
  · rw [same]
    exact List.forall₂_same.mpr fun value _ => reworded_refl value
  · rw [rewritten]
    exact reworded_rewriteFrom _ values 0

/-- `redact_output_stream` of one event. -/
theorem redactOutputStream_single (replacements : List (Rule Char)) (time : Json)
    (text : String) :
    redactOutputStream replacements [.array [time, .string "o", .string text]] =
      [.array [time, .string "o",
        .string (String.ofList (Rule.replaceLongest replacements text.toList))]] := by
  have read : outputStream [.array [time, .string "o", .string text]] =
      (text.toList, [(0, 0, text.toList.length)]) := by
    simp [outputStream, outputText, Json.asArray, Json.asStr]
  by_cases idle : (text.toList.isEmpty || replacements.isEmpty) = true
  · have same : Rule.replaceLongest replacements text.toList = text.toList := by
      obtain empty | empty : text.toList = [] ∨ replacements = [] := by simpa using idle
      · rw [empty]
        rfl
      · rw [empty]
        exact Rule.shown_nil_segments [] text.toList
    simp only [redactOutputStream, read, idle, if_true, same, String.ofList_toList]
  · simp only [redactOutputStream, read, idle, List.foldl_cons, List.foldl_nil,
      redactRange_eq]
    rfl

end Loomterm
