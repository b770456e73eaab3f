import Loomterm.Misc.Utf8Scan

/-!
# Recording the terminal

`capture_output` of `src/session.rs` reads what the terminal produces, and `Utf8Decoder`
cuts it into texts. A read may end within a character; the decoder keeps its bytes until
the next one.
-/

namespace Loomterm

/-! ## The decoder -/

/-- The loop of `Utf8Decoder::push`: the texts and what stays pending. Every round but the
last takes at least one byte. -/
def decodePending : (rounds : Nat) → (pending : List UInt8) → List String × List UInt8
  | 0, pending => ([], pending)
  | rounds + 1, pending =>
      match Utf8.strFromUtf8 pending with
      | .ok text => (if text.isEmpty then [] else [text], [])
      | .error error =>
          let output :=
            if 0 < error.validUpTo then [Utf8.fromUtf8Lossy (pending.take error.validUpTo)]
            else []
          let pending := pending.drop error.validUpTo
          match error.errorLen with
          | some length =>
              let (texts, pending) := decodePending rounds (pending.drop length)
              (output ++ "\uFFFD" :: texts, pending)
          | none => (output, pending)

/-- `Utf8Decoder::push` (`src/session.rs:488`). -/
def Utf8Decoder.push (pending bytes : List UInt8) : List String × List UInt8 :=
  decodePending ((pending ++ bytes).length + 1) (pending ++ bytes)

/-- `Utf8Decoder::finish`. -/
def Utf8Decoder.finish (pending : List UInt8) : Option String :=
  if pending = [] then none else some (Utf8.fromUtf8Lossy pending)

/-! ## The capture -/

/-- What `capture_output` has done so far: the bytes it passed on, the texts of the `"o"`
events, and its counters. -/
structure Capture where
  stdout : List UInt8
  output : List String
  pending : List UInt8
  captured : Nat
  truncated : Bool
  deriving Repr

def Capture.start : Capture := ⟨[], [], [], 0, false⟩

/-- One round of `capture_output`, with what was read. -/
def Capture.read (limit : Nat) (capture : Capture) (buffer : List UInt8) : Capture :=
  let remaining := limit - capture.captured
  let recordCount := min remaining buffer.length
  let (texts, pending) :=
    if 0 < recordCount then Utf8Decoder.push capture.pending (buffer.take recordCount)
    else ([], capture.pending)
  { stdout := capture.stdout ++ buffer
    output := capture.output ++ texts
    pending
    captured := capture.captured + recordCount
    truncated := capture.truncated || recordCount < buffer.length }

/-- The loop of `capture_output`; a read of nothing is the end. -/
def Capture.readAll (limit : Nat) (capture : Capture) : List (List UInt8) → Capture
  | [] => capture
  | buffer :: rest =>
      if buffer = [] then capture else (capture.read limit buffer).readAll limit rest

/-- `capture_output` (`src/session.rs:392`). -/
def Recorder.captureOutput (limit : Nat) (reads : List (List UInt8)) : Capture :=
  let capture := Capture.start.readAll limit reads
  match Utf8Decoder.finish capture.pending with
  | some text => { capture with output := capture.output ++ [text], pending := [] }
  | none => capture

/-! ## What the decoder keeps -/

/-- The bytes that may stay pending: a sequence that only ends too early. -/
def Unfinished (pending : List UInt8) : Prop :=
  Utf8.Stuck pending ∧ Utf8.errorLen pending = none

theorem Unfinished.short {pending : List UInt8} (kept : Unfinished pending) :
    pending.length ≤ 3 := by
  obtain ⟨stuck, early⟩ := kept
  cases pending with
  | nil => simp
  | cons first rest =>
    have broken : (Utf8.sequence first rest).2 = false := stuck
    obtain ⟨-, bound, -⟩ := Utf8.sequence_broken (Prod.ext rfl broken)
    simp only [Utf8.errorLen] at early
    split at early
    · next lead =>
      have width : (Utf8.sequence first rest).1 = rest.length + 1 := by
        simpa using (Bool.and_eq_true_iff.mp lead).2
      rw [List.length_cons, ← width]
      exact bound
    · cases early

/-- Wrong bytes at the front of what is left. -/
theorem lossy_of_errorLen {tail : List UInt8} {length : Nat} (stuck : Utf8.Stuck tail)
    (wrong : Utf8.errorLen tail = some length) (more : List UInt8) :
    0 < length ∧ length ≤ tail.length ∧
      Utf8.fromUtf8Lossy (tail ++ more) =
        "\uFFFD" ++ Utf8.fromUtf8Lossy (tail.drop length ++ more) := by
  cases tail with
  | nil => cases wrong
  | cons first rest =>
    have broken : Utf8.sequence first rest = ((Utf8.sequence first rest).1, false) :=
      Prod.ext rfl stuck
    obtain ⟨positive, -, inside⟩ := Utf8.sequence_broken broken
    simp only [Utf8.errorLen] at wrong
    split at wrong
    · cases wrong
    · next decided =>
      obtain rfl : (Utf8.sequence first rest).1 = length := by simpa using wrong
      refine ⟨positive, inside, Utf8.fromUtf8Lossy_broken broken ?_ more⟩
      simp only [Bool.and_eq_true, beq_iff_eq, not_and] at decided
      by_cases lead : Utf8.isLead first = true
      · have other := decided lead
        left
        omega
      · exact .inr lead

/-- The texts of a round and what stays pending are as good as what was there. -/
theorem decodePending_lossy {rounds : Nat} {pending : List UInt8}
    (enough : pending.length < rounds) :
    Unfinished (decodePending rounds pending).2 ∧
      ∀ more, String.join (decodePending rounds pending).1 ++
          Utf8.fromUtf8Lossy ((decodePending rounds pending).2 ++ more) =
        Utf8.fromUtf8Lossy (pending ++ more) := by
  induction rounds generalizing pending with
  | zero => omega
  | succ rounds ih =>
    obtain ⟨text, tail, split, stuck, lossy, outcome⟩ := Utf8.strFromUtf8_split pending
    by_cases whole : tail = []
    · rw [if_pos whole] at outcome
      have shown : String.join (if text.isEmpty then [] else [text]) = text := by
        by_cases empty : text.isEmpty = true
        · rw [if_pos empty, String.isEmpty_iff.mp empty]
          rfl
        · rw [if_neg empty]
          simp
      rw [decodePending, outcome]
      refine ⟨⟨trivial, rfl⟩, fun more => ?_⟩
      rw [lossy, whole]
      simp only [shown]
    · rw [if_neg whole] at outcome
      have valid : pending.take (Utf8.bytes text).length = Utf8.bytes text := by
        rw [split, List.take_left]
      have left : pending.drop (Utf8.bytes text).length = tail := by rw [split, List.drop_left]
      have shown : String.join (if 0 < (Utf8.bytes text).length then
          [Utf8.fromUtf8Lossy (Utf8.bytes text)] else []) = text := by
        by_cases some : 0 < (Utf8.bytes text).length
        · simp [if_pos some, Utf8.fromUtf8Lossy_bytes]
        · have empty : Utf8.bytes text = Utf8.bytes "" :=
            List.eq_nil_of_length_eq_zero (by omega)
          rw [if_neg some, Utf8.bytes_injective empty]
          rfl
      rw [decodePending, outcome]
      simp only [valid, left]
      cases wrong : Utf8.errorLen tail with
      | none =>
        refine ⟨⟨stuck, wrong⟩, fun more => ?_⟩
        rw [lossy]
        simp only [shown]
      | some length =>
        obtain ⟨positive, inside, -⟩ := lossy_of_errorLen stuck wrong []
        have fewer : (tail.drop length).length < rounds := by
          have whole := congrArg List.length split
          rw [List.length_append] at whole
          rw [List.length_drop]
          omega
        obtain ⟨kept, later⟩ := ih fewer
        refine ⟨kept, fun more => ?_⟩
        obtain ⟨-, -, replaced⟩ := lossy_of_errorLen stuck wrong more
        simp only [String.join_append, String.join_cons, shown, String.append_assoc, later]
        rw [lossy, replaced]

/-- A push settles what the bytes decide and keeps an unfinished sequence. -/
theorem Utf8Decoder.push_lossy (pending bytes : List UInt8) :
    Unfinished (push pending bytes).2 ∧
      ∀ more, String.join (push pending bytes).1 ++
          Utf8.fromUtf8Lossy ((push pending bytes).2 ++ more) =
        Utf8.fromUtf8Lossy (pending ++ bytes ++ more) :=
  decodePending_lossy (Nat.lt_succ_self _)

/-! ## What the capture has written -/

/-- The capture after the terminal has produced `data`: with what is pending, the texts are
those of its first `limit` bytes, whatever follows. -/
structure Capture.Recorded (limit : Nat) (data : List UInt8) (capture : Capture) : Prop where
  stdout : capture.stdout = data
  captured : capture.captured = min limit data.length
  truncated : capture.truncated = true ↔ limit < data.length
  unfinished : Unfinished capture.pending
  text : ∀ more, String.join capture.output ++ Utf8.fromUtf8Lossy (capture.pending ++ more) =
    Utf8.fromUtf8Lossy (data.take limit ++ more)

theorem Capture.recorded_start (limit : Nat) : Capture.start.Recorded limit [] where
  stdout := rfl
  captured := by simp [Capture.start]
  truncated := by simp [Capture.start]
  unfinished := ⟨trivial, rfl⟩
  text := by simp [Capture.start]

/-- One more read. -/
theorem Capture.Recorded.read {limit : Nat} {data : List UInt8} {capture : Capture}
    (recorded : capture.Recorded limit data) (buffer : List UInt8) :
    (capture.read limit buffer).Recorded limit (data ++ buffer) := by
  have used := recorded.captured
  have cut : (data ++ buffer).take limit =
      data.take limit ++ buffer.take (min (limit - capture.captured) buffer.length) := by
    have same : limit - capture.captured = limit - data.length := by omega
    rw [List.take_append, same, ← List.take_eq_take_min]
  have counted : capture.captured + min (limit - capture.captured) buffer.length =
      min limit (data ++ buffer).length := by
    rw [List.length_append]
    omega
  have full : (capture.truncated ||
      decide (min (limit - capture.captured) buffer.length < buffer.length)) = true ↔
      limit < (data ++ buffer).length := by
    rw [Bool.or_eq_true, recorded.truncated, decide_eq_true_eq, List.length_append]
    omega
  have passed : capture.stdout ++ buffer = data ++ buffer := by rw [recorded.stdout]
  by_cases more : 0 < min (limit - capture.captured) buffer.length
  · obtain ⟨kept, settled⟩ := Utf8Decoder.push_lossy capture.pending
      (buffer.take (min (limit - capture.captured) buffer.length))
    refine ⟨passed, counted, full, ?_, ?_⟩
    · simpa only [Capture.read, if_pos more] using kept
    · intro later
      simp only [Capture.read, if_pos more, String.join_append, String.append_assoc, settled]
      rw [List.append_assoc, recorded.text, cut, List.append_assoc]
  · have nothing : buffer.take (min (limit - capture.captured) buffer.length) = [] := by
      rw [Nat.eq_zero_of_not_pos more, List.take_zero]
    refine ⟨passed, counted, full, ?_, ?_⟩
    · simpa only [Capture.read, if_neg more] using recorded.unfinished
    · intro later
      simp only [Capture.read, if_neg more, List.append_nil, recorded.text, cut, nothing]

/-- The bytes of the reads before the end. -/
def produced (reads : List (List UInt8)) : List UInt8 :=
  (reads.takeWhile (· ≠ [])).flatten

/-- Any number of reads. -/
theorem Capture.Recorded.readAll {limit : Nat} {data : List UInt8} {capture : Capture}
    (recorded : capture.Recorded limit data) (reads : List (List UInt8)) :
    (capture.readAll limit reads).Recorded limit (data ++ produced reads) := by
  induction reads generalizing data capture with
  | nil => simpa [produced, Capture.readAll] using recorded
  | cons buffer rest ih =>
    by_cases ended : buffer = []
    · simpa [produced, Capture.readAll, ended] using recorded
    · have later := ih (recorded.read buffer)
      rw [Capture.readAll, if_neg ended]
      simpa [produced, ended, List.append_assoc] using later

/-- The texts of a recording are the lossy text of the bytes within the limit, however the
terminal's bytes were cut into reads; between reads no more than three bytes are pending. -/
theorem Recorder.captureOutput_text (limit : Nat) (reads : List (List UInt8)) :
    String.join (Recorder.captureOutput limit reads).output =
        Utf8.fromUtf8Lossy ((produced reads).take limit) ∧
      (Recorder.captureOutput limit reads).captured = min limit (produced reads).length ∧
      ((Recorder.captureOutput limit reads).truncated = true ↔ limit < (produced reads).length) ∧
      (Recorder.captureOutput limit reads).stdout = produced reads ∧
      ∀ k, (Capture.start.readAll limit (reads.take k)).pending.length ≤ 3 := by
  have recorded := (Capture.recorded_start limit).readAll reads
  rw [List.nil_append] at recorded
  have text := recorded.text []
  have between : ∀ k, (Capture.start.readAll limit (reads.take k)).pending.length ≤ 3 :=
    fun k => ((Capture.recorded_start limit).readAll (reads.take k)).unfinished.short
  unfold Recorder.captureOutput Utf8Decoder.finish
  by_cases empty : (Capture.start.readAll limit reads).pending = []
  · simp only [empty, List.append_nil, Utf8.fromUtf8Lossy_nil, String.append_empty] at text
    simp only [if_pos empty]
    exact ⟨text, recorded.captured, recorded.truncated, recorded.stdout, between⟩
  · rw [List.append_nil, List.append_nil] at text
    simp only [if_neg empty, String.join_append, String.join_cons, String.join_nil,
      String.append_empty]
    exact ⟨text, recorded.captured, recorded.truncated, recorded.stdout, between⟩

example : (Recorder.captureOutput 4 [[0xED, 0x95], [0x9C, 0x61, 0x62]]).output = ["한a"] := by
  decide +kernel

end Loomterm
