import Loomterm.Misc.Lines
import Loomterm.Misc.Nesting
import Loomterm.Session.Redaction
import Loomterm.Store.SessionLifecycle

/-!
# Recordings that were cut short

The recorder of `src/session.rs` writes a recording line by line, the text of an event and the
newline behind it in several writes. When it is killed, the file may end anywhere behind the
header. `cast_output_bytes` of `src/daemon.rs` counts the output in such a file when the session
is reconciled, and `sanitize_cast` reads it for an export; what follows says what the two make
of the end of the file.
-/

namespace Loomterm

/-! ## What is written -/

/-- The header of a recording. -/
structure CastHeader where
  cols : Nat
  rows : Nat
  term : String
  timestamp : Nat
  command : String

/-- The first line that `CastWriter::new` writes (`src/session.rs:439`). -/
def CastHeader.json (header : CastHeader) : Json :=
  .object [
    ("command", .string header.command),
    ("term", .object [("cols", .natural header.cols), ("rows", .natural header.rows),
      ("type", .string header.term)]),
    ("timestamp", .natural header.timestamp),
    ("title", .string "Loomterm agent session"),
    ("version", .number 3)]

/-- An event with the interval since the one before it. -/
structure CastEvent where
  interval : UInt64
  code : String
  data : String

/-- What `CastWriter::event` writes (`src/session.rs:463`). -/
def CastEvent.json (event : CastEvent) : Json :=
  .array [.float event.interval, .string event.code, .string event.data]

/-- The output in an event, in bytes. -/
def CastEvent.outputBytes (event : CastEvent) : Nat :=
  if event.code = "o" then event.data.utf8ByteSize else 0

/-- The output in the events, in bytes. -/
def outputBytes (events : List CastEvent) : Nat := (events.map CastEvent.outputBytes).sum

section

variable (float : UInt64 → String)

/-- The line of a value. -/
def castLine (value : Json) : List UInt8 := Utf8.bytes (value.render float ++ "\n")

def castEvents (events : List CastEvent) : List UInt8 :=
  (events.map fun event => castLine float event.json).flatten

/-- The file, if the recorder is killed when it has written `cut` bytes behind the header. -/
def killedCast (header : CastHeader) (events : List CastEvent) (cut : Nat) : List UInt8 :=
  castLine float header.json ++ (castEvents float events).take cut

/-- The events whose texts are whole in the first `cut` bytes. -/
def completeEvents : Nat → List CastEvent → List CastEvent
  | _, [] => []
  | cut, event :: rest =>
      if event.json.size float ≤ cut then
        event :: completeEvents (cut - (event.json.size float + 1)) rest
      else []

/-- The cut lies inside the text of an event. -/
def Torn (cut : Nat) (events : List CastEvent) : Prop :=
  ∃ before event after, events = before ++ event :: after ∧
    (castEvents float before).length < cut ∧
    cut < (castEvents float before).length + event.json.size float

end

/-! ## What is read -/

section

variable (parse : String → Option Json)

/-- One line in the loop of `cast_output_bytes`. -/
def countOutput (total : Nat) (line : Option String) : Option Nat := do
  let value ← parse (← line)
  let event ← value.asArray
  if event[1]?.bind Json.asStr = some "o" then
    let bytes := (event[2]?.bind Json.asStr).elim 0 String.utf8ByteSize
    some (min (total + bytes) (2 ^ 64 - 1))
  else some total

/-- `cast_output_bytes` (`src/daemon.rs:538`). -/
def castOutputBytes (file : Option (List UInt8)) : Option Nat := do
  ((lines (← file)).drop 1).foldlM (countOutput parse) 0

/-- `sanitize_cast` (`src/session.rs:568`). -/
def sanitizeCast (float : UInt64 → String) (home : Option String) (redactions : List String)
    (file : Option (List UInt8)) : Option String := do
  let values ← (lines (← file)).mapM fun line => line.bind parse
  let values := redactOutputStream (replacements home redactions) values
  some (.join (values.map fun value =>
    (redactJson (replacements home redactions) value).render float ++ "\n"))

/-- What a session is finished with whose recorder is gone. -/
def interruption (cast : String → Option (List UInt8)) (session : AgentSessionRow) :
    AgentSessionFinish where
  state := .interrupted
  outcome := .interrupted "session recorder exited before finalization"
  capturedBytes := (castOutputBytes parse (cast session.castPath)).getD session.capturedBytes
  outputTruncated := session.outputTruncated

namespace Database

/-- `Database::active_agent_sessions` (`src/store.rs:1406`). -/
def activeAgentSessions : Store (List AgentSessionRow) :=
  Sql.select fun db =>
    .ok ((db.agentSessions.rows.filter fun row => row.state = .recording).mergeSort
      fun left right => left.createdAtMs ≤ right.createdAtMs)

end Database

/-- The loop of `reconcile_agent_sessions`; `claim` says whether the lock of a session could be
taken, which it cannot where the path of the recording has no parent. -/
def reconcileEach (cast : String → Option (List UInt8))
    (claim : AgentSessionRow → Except Error Bool) (now : SessionId → Int) (interrupted : Nat) :
    List AgentSessionRow → Store Nat
  | [] => pure interrupted
  | session :: rest =>
      match claim session with
      | .error e => Sql.fail e
      | .ok false => reconcileEach cast claim now interrupted rest
      | .ok true => do
          let _ ← Database.finishAgentSession (now session.id) session.id
            (interruption parse cast session)
          reconcileEach cast claim now (interrupted + 1) rest

/-- `reconcile_agent_sessions` (`src/daemon.rs:509`). -/
def reconcileAgentSessions (cast : String → Option (List UInt8))
    (claim : AgentSessionRow → Except Error Bool) (now : SessionId → Int) : Store Nat := do
  let sessions ← Database.activeAgentSessions
  reconcileEach parse cast claim now 0 sessions

end

/-! ## Reconciling -/

theorem interruption_capturedBytes (parse : String → Option Json)
    (cast : String → Option (List UInt8)) (session : AgentSessionRow) :
    (interruption parse cast session).capturedBytes =
      (castOutputBytes parse (cast session.castPath)).getD session.capturedBytes := rfl

theorem AgentSessionRow.ended_capturedBytes (now : Int) (finish : AgentSessionFinish)
    (row : AgentSessionRow) :
    (row.ended now finish).capturedBytes = (Database.toI64 finish.capturedBytes).toNat := by
  rw [AgentSessionRow.ended]

namespace Database

variable {parse : String → Option Json} {cast : String → Option (List UInt8)}
  {claim : AgentSessionRow → Except Error Bool} {now : SessionId → Int}

theorem closed_find? (db : Database) (now : Int) (id other : SessionId)
    (finish : AgentSessionFinish) :
    (db.closed now id finish).agentSessions.find? other =
      (db.agentSessions.find? other).map fun row =>
        if row.id = id then row.ended now finish else row := by
  show (db.ended now id finish).agentSessions.find? other = _
  rw [ended, Table.find?_update]
  simp only [decide_eq_true_eq]

/-- Finishing a session that is recording, where it works, finishes it. -/
theorem finishAgentSession_recording (db : Database) (at_ : Int) {id : SessionId}
    (finish : AgentSessionFinish) {row : AgentSessionRow}
    (found : db.agentSessions.find? id = some row) (recording : row.state = .recording) :
    Sql.Post StorageFault (finishAgentSession at_ id finish) db fun r db' =>
      ∀ ended, r = .ok ended → db' = db.closed at_ id finish := by
  refine (finishAgentSession_spec db at_ id finish).mono fun r db' done => ?_
  rintro ended rfl
  obtain ⟨same | ⟨-, -, same⟩, there, terminal⟩ := done
  · rw [same, found, Option.some.injEq] at there
    rw [← there, recording] at terminal
    exact absurd terminal (by decide)
  · exact same

/-- The loop finishes the sessions whose locks it could take, and leaves the others. -/
theorem reconcileEach_spec (db : Database) (interrupted : Nat) {sessions : List AgentSessionRow}
    (nodup : (sessions.map (·.id)).Nodup)
    (active : ∀ session ∈ sessions, db.agentSessions.find? session.id = some session ∧
      session.state = .recording) :
    Sql.Post StorageFault (reconcileEach parse cast claim now interrupted sessions) db
      fun r db' => ∀ n, r = .ok n →
        (∀ session ∈ sessions, claim session = .ok true →
          db'.agentSessions.find? session.id =
            some (session.ended (now session.id) (interruption parse cast session))) ∧
        ∀ id ∉ sessions.map (·.id), db'.agentSessions.find? id = db.agentSessions.find? id := by
  induction sessions generalizing db interrupted with
  | nil => exact Sql.post_pure fun n _ => ⟨by simp, fun _ _ => rfl⟩
  | cons session rest ih =>
    obtain ⟨fresh, distinct⟩ := List.nodup_cons.mp nodup
    obtain ⟨found, recording⟩ := active session List.mem_cons_self
    have later : ∀ other ∈ rest, db.agentSessions.find? other.id = some other ∧
        other.state = .recording :=
      fun other member => active other (List.mem_cons_of_mem _ member)
    unfold reconcileEach
    cases claimed : claim session with
    | error e => exact Sql.post_fail fun n failed => by cases failed
    | ok taken =>
      cases taken with
      | false =>
        refine (ih db interrupted distinct later).mono fun r db' done n ended => ?_
        obtain ⟨finished, others⟩ := done n ended
        refine ⟨fun other member taken => ?_, fun id absent => ?_⟩
        · obtain rfl | behind := List.mem_cons.mp member
          · rw [claimed] at taken
            cases taken
          · exact finished other behind taken
        · exact others id fun member => absent (List.mem_cons_of_mem _ member)
      | true =>
        have first := finishAgentSession_recording db (now session.id)
          (interruption parse cast session) found recording
        refine Sql.post_bind (first.mono fun r db' done => ?_)
        cases r with
        | error e => exact fun n failed => by cases failed
        | ok ended =>
          obtain rfl := done ended rfl
          have apart : ∀ other ∈ rest, other.id ≠ session.id := by
            intro other member same
            exact fresh (List.mem_map.mpr ⟨other, member, same⟩)
          refine (ih _ (interrupted + 1) distinct ?_).mono fun r db' done n ended => ?_
          · intro other member
            rw [closed_find?, (later other member).1, Option.map_some, if_neg (apart other member)]
            exact ⟨rfl, (later other member).2⟩
          · obtain ⟨finished, others⟩ := done n ended
            refine ⟨fun other member taken => ?_, fun id absent => ?_⟩
            · obtain rfl | behind := List.mem_cons.mp member
              · rw [others _ fresh, closed_find?, found, Option.map_some, if_pos rfl]
              · exact finished other behind taken
            · rw [others id fun member => absent (List.mem_cons_of_mem _ member), closed_find?]
              cases there : db.agentSessions.find? id with
              | none => rfl
              | some row =>
                have key := Table.find?_key there
                have different : row.id ≠ session.id :=
                  fun same => absent (key ▸ same ▸ List.mem_cons_self)
                rw [Option.map_some, if_neg different]

variable (parse cast claim now) in
theorem reconcileAgentSessions_spec (db : Database) :
    Sql.Post StorageFault (reconcileAgentSessions parse cast claim now) db fun r db' =>
      ∀ n, r = .ok n → ∀ session, db.agentSessions.find? session.id = some session →
        session.state = .recording → claim session = .ok true →
        db'.agentSessions.find? session.id =
          some (session.ended (now session.id) (interruption parse cast session)) := by
  unfold reconcileAgentSessions
  refine Sql.post_bind (Sql.post_select (fun e _ n failed => by cases failed) ?_)
  generalize sorted : (db.agentSessions.rows.filter fun row => row.state = .recording).mergeSort
    (fun left right => left.createdAtMs ≤ right.createdAtMs) = sessions
  have perm : sessions.Perm (db.agentSessions.rows.filter fun row => row.state = .recording) :=
    sorted ▸ List.mergeSort_perm _ _
  have member : ∀ session, session ∈ sessions ↔
      db.agentSessions.find? session.id = some session ∧ session.state = .recording := by
    intro session
    rw [perm.mem_iff, List.mem_filter, Table.mem_rows_iff, decide_eq_true_eq]
  have nodup : (sessions.map (·.id)).Nodup :=
    ((perm.map _).nodup_iff).mpr (db.agentSessions.nodup.sublist (List.filter_sublist.map _))
  refine (reconcileEach_spec db 0 nodup fun session there => (member session).mp there).mono
    fun r db' done n ended session found recording claimed => ?_
  exact (done n ended).1 session ((member session).mpr ⟨found, recording⟩) claimed

end Database

/-! ## Where the file ends -/

section

variable {float : UInt64 → String}

theorem length_bytes (text : String) : (Utf8.bytes text).length = text.utf8ByteSize := rfl

variable (float) in
theorem length_castLine (value : Json) : (castLine float value).length = value.size float + 1 := by
  rw [castLine, length_bytes, String.utf8ByteSize_append]
  rfl

theorem size_event_pos (event : CastEvent) : 0 < event.json.size float := by
  rw [CastEvent.json, Json.size_array, Json.listSize_of_ne_nil (by simp)]
  omega

theorem castEvents_cons (event : CastEvent) (rest : List CastEvent) :
    castEvents float (event :: rest) = castLine float event.json ++ castEvents float rest := rfl

@[simp] theorem completeEvents_zero (events : List CastEvent) :
    completeEvents float 0 events = [] := by
  cases events with
  | nil => rfl
  | cons event rest => exact if_neg (Nat.not_le.mpr (size_event_pos event))

theorem not_torn_nil (cut : Nat) : ¬ Torn float cut [] := by
  rintro ⟨before, event, after, split, -⟩
  simp at split

/-- The cut is inside the text of the first event, or inside that of one behind its line. -/
theorem torn_cons {cut : Nat} {event : CastEvent} {rest : List CastEvent} :
    Torn float cut (event :: rest) ↔ (0 < cut ∧ cut < event.json.size float) ∨
      Torn float (cut - (event.json.size float + 1)) rest := by
  constructor
  · rintro ⟨before, torn, after, split, above, below⟩
    cases before with
    | nil =>
      obtain ⟨rfl, rfl⟩ := List.cons.inj split
      left
      simpa [castEvents] using And.intro above below
    | cons first before =>
      obtain ⟨rfl, rfl⟩ := List.cons.inj split
      rw [castEvents_cons, List.length_append, length_castLine] at above below
      exact .inr ⟨before, torn, after, rfl, by omega, by omega⟩
  · rintro (inside | ⟨before, torn, after, rfl, above, below⟩)
    · exact ⟨[], event, rest, rfl, by simpa [castEvents] using inside.1,
        by simpa [castEvents] using inside.2⟩
    · refine ⟨event :: before, torn, after, rfl, ?_, ?_⟩
      · rw [castEvents_cons, List.length_append, length_castLine]
        omega
      · rw [castEvents_cons, List.length_append, length_castLine]
        omega

instance decidableTorn : (cut : Nat) → (events : List CastEvent) → Decidable (Torn float cut events)
  | cut, [] => .isFalse (not_torn_nil cut)
  | cut, event :: rest =>
      have := decidableTorn (cut - (event.json.size float + 1)) rest
      decidable_of_iff _ torn_cons.symm

/-- Bytes at the beginning of a text that are a text themselves. -/
theorem toList_of_start {front text : String} (start : Utf8.bytes front <+: Utf8.bytes text) :
    front.toList <+: text.toList := by
  obtain ⟨rest, split⟩ := start
  obtain ⟨tail, rfl⟩ : Utf8.IsText rest :=
    Utf8.IsText.rest ⟨front, rfl⟩ ⟨text, split⟩
  rw [← Utf8.bytes_append] at split
  rw [← Utf8.bytes_injective split, String.toList_append]
  exact List.prefix_append _ _

/-- The text of an event that is cut short: no text at all, or one that is not balanced. -/
theorem cut_event (plain : Json.PlainFloats float) (event : CastEvent) {cut : Nat} (above : 0 < cut)
    (below : cut < event.json.size float) :
    ∃ last, lines ((Utf8.bytes (event.json.render float)).take cut) = [last] ∧
      ∀ text, last = some text → ¬ Balanced text := by
  have unbroken := (Json.unbroken_render plain event.json).1
  have whole : 10 ∉ (Utf8.bytes (event.json.render float)).take cut :=
    fun found => unbroken (newline_mem_bytes.mp (List.mem_of_mem_take found))
  have size : ((Utf8.bytes (event.json.render float)).take cut).length = cut := by
    rw [List.length_take, length_bytes]
    exact min_eq_left below.le
  have some : (Utf8.bytes (event.json.render float)).take cut ≠ [] := by
    intro empty
    rw [empty] at size
    exact absurd size above.ne
  refine ⟨_, lines_last some whole, fun text decoded => ?_⟩
  have taken := Utf8.fromUtf8_eq_some.mp decoded
  rw [taken, length_bytes] at size
  have start : text.toList <+: (event.json.render float).toList :=
    toList_of_start (taken ▸ List.take_prefix _ _)
  refine Json.not_balanced_of_start plain start ?_ ?_
  · rintro rfl
    exact absurd size above.ne
  · rintro rfl
    exact absurd size below.ne'

/-- The lines of the file up to the cut: those of the events that are whole, and behind them,
if the cut is inside the text of an event, one that is no text of a value. -/
theorem lines_cut (plain : Json.PlainFloats float) (events : List CastEvent) (cut : Nat) :
    let whole := (completeEvents float cut events).map fun event => some (event.json.render float)
    ¬ Torn float cut events ∧ lines ((castEvents float events).take cut) = whole ∨
      Torn float cut events ∧ ∃ last,
        lines ((castEvents float events).take cut) = whole ++ [last] ∧
          ∀ text, last = some text → ¬ Balanced text := by
  induction events generalizing cut with
  | nil => exact .inl ⟨not_torn_nil cut, by simp [castEvents, completeEvents, lines, readLines]⟩
  | cons event rest ih =>
    have unbroken := Json.unbroken_render plain event.json
    have size := length_castLine float event.json
    by_cases behind : event.json.size float + 1 ≤ cut
    · have taken : (castEvents float (event :: rest)).take cut = castLine float event.json ++
          (castEvents float rest).take (cut - (event.json.size float + 1)) := by
        rw [castEvents_cons, List.take_append, size, List.take_of_length_le (by omega)]
      have first : lines ((castEvents float (event :: rest)).take cut) =
          some (event.json.render float) ::
            lines ((castEvents float rest).take (cut - (event.json.size float + 1))) := by
        rw [taken]
        exact lines_line _ unbroken.1 unbroken.2
      have complete : completeEvents float cut (event :: rest) =
          event :: completeEvents float (cut - (event.json.size float + 1)) rest :=
        if_pos (by omega)
      have same : Torn float cut (event :: rest) ↔
          Torn float (cut - (event.json.size float + 1)) rest := by
        rw [torn_cons]
        exact or_iff_right fun inside => by omega
      rw [first, complete, same]
      obtain ⟨whole, found⟩ | ⟨torn, last, found, short⟩ :=
        ih (cut - (event.json.size float + 1))
      · exact .inl ⟨whole, by rw [found, List.map_cons]⟩
      · exact .inr ⟨torn, last, by rw [found, List.map_cons, List.cons_append], short⟩
    · have none : cut - (event.json.size float + 1) = 0 := by omega
      have behindNone : ¬ Torn float (cut - (event.json.size float + 1)) rest := by
        rw [none]
        rintro ⟨_, _, _, _, above, _⟩
        omega
      have taken : (castEvents float (event :: rest)).take cut =
          (Utf8.bytes (event.json.render float)).take cut := by
        rw [castEvents_cons, List.take_append_of_le_length (by omega), castLine,
          Utf8.bytes_append, List.take_append_of_le_length]
        rw [length_bytes]
        exact Nat.le_of_lt_succ (Nat.not_le.mp behind)
      rw [taken, torn_cons, or_iff_left behindNone]
      by_cases full : event.json.size float ≤ cut
      · have complete : completeEvents float cut (event :: rest) = [event] := by
          rw [completeEvents, if_pos full, none, completeEvents_zero]
        have text : (Utf8.bytes (event.json.render float)).take cut =
            Utf8.bytes (event.json.render float) := by
          apply List.take_of_length_le
          rw [length_bytes]
          exact full
        have some : Utf8.bytes (event.json.render float) ≠ [] := by
          rw [← List.length_pos_iff, length_bytes]
          exact size_event_pos event
        have last := lines_last some fun found => unbroken.1 (newline_mem_bytes.mp found)
        left
        refine ⟨fun inside => by omega, ?_⟩
        rw [complete, text, last, Utf8.fromUtf8_bytes, List.map_singleton]
      · have complete : completeEvents float cut (event :: rest) = [] := if_neg full
        rw [complete, List.map_nil]
        by_cases above : 0 < cut
        · obtain ⟨last, found, short⟩ := cut_event plain event above (Nat.not_le.mp full)
          exact .inr ⟨⟨above, Nat.not_le.mp full⟩, last, found, short⟩
        · obtain rfl : cut = 0 := by omega
          exact .inl ⟨fun inside => above inside.1, rfl⟩

/-! ## Reading what is left -/

/-- What is relied on of `serde_json` for a recording: a float is written without brackets and
quotes, what is read as a value has its brackets and strings closed, and what was written is
read back, but for the last digits of an interval. -/
structure ReadsCast (float : UInt64 → String) (parse : String → Option Json)
    (header : CastHeader) (events : List CastEvent) : Prop where
  floats : Json.PlainFloats float
  balanced : ∀ text value, parse text = some value → Balanced text
  header : ∃ value, parse (header.json.render float) = some value
  events : ∀ event ∈ events, ∃ interval, parse (event.json.render float) =
    some (.array [interval, .string event.code, .string event.data])

variable {parse : String → Option Json} {header : CastHeader} {events : List CastEvent}

theorem mem_completeEvents {cut : Nat} {event : CastEvent}
    (member : event ∈ completeEvents float cut events) : event ∈ events := by
  induction events generalizing cut with
  | nil => exact member
  | cons first rest ih =>
    unfold completeEvents at member
    split at member
    · obtain rfl | later := List.mem_cons.mp member
      · exact List.mem_cons_self
      · exact List.mem_cons_of_mem _ (ih later)
    · cases member

theorem lines_killedCast (reads : ReadsCast float parse header events) (cut : Nat) :
    lines (killedCast float header events cut) =
      some (header.json.render float) :: lines ((castEvents float events).take cut) := by
  have unbroken := Json.unbroken_render reads.floats header.json
  exact lines_line _ unbroken.1 unbroken.2

theorem countOutput_event {event : CastEvent} {interval : Json}
    (read : parse (event.json.render float) =
      some (.array [interval, .string event.code, .string event.data])) {total : Nat}
    (fits : total ≤ 2 ^ 64 - 1) :
    countOutput parse total (some (event.json.render float)) =
      some (min (total + event.outputBytes) (2 ^ 64 - 1)) := by
  unfold countOutput CastEvent.outputBytes
  simp only [Option.bind_eq_bind, Option.bind_some, read, Json.asArray, List.getElem?_cons_succ,
    List.getElem?_cons_zero, Json.asStr, Option.some.injEq, Option.elim_some]
  split
  · rfl
  · rw [Nat.add_zero, min_eq_left fits]

/-- The count stops at the largest number, as the additions do. -/
theorem foldlM_countOutput {whole : List CastEvent}
    (read : ∀ event ∈ whole, ∃ interval, parse (event.json.render float) =
      some (.array [interval, .string event.code, .string event.data])) {total : Nat}
    (fits : total ≤ 2 ^ 64 - 1) :
    (whole.map fun event => some (event.json.render float)).foldlM (countOutput parse) total =
      some (min (total + outputBytes whole) (2 ^ 64 - 1)) := by
  induction whole generalizing total with
  | nil => simpa [outputBytes] using fits
  | cons event rest ih =>
    obtain ⟨interval, first⟩ := read event List.mem_cons_self
    have later := ih (fun other member => read other (List.mem_cons_of_mem _ member))
      (min_le_right (total + event.outputBytes) (2 ^ 64 - 1))
    rw [List.map_cons, List.foldlM_cons, countOutput_event first fits]
    refine later.trans (congrArg some ?_)
    unfold outputBytes
    rw [List.map_cons, List.sum_cons]
    omega

/-- A line that is no text of a value is not read. -/
theorem unread_of_not_balanced (balanced : ∀ text value, parse text = some value → Balanced text)
    {last : Option String} (short : ∀ text, last = some text → ¬ Balanced text) :
    last.bind parse = none := by
  cases last with
  | none => rfl
  | some text =>
    cases read : parse text with
    | none => exact read
    | some value => exact absurd (balanced text value read) (short text rfl)

theorem castOutputBytes_killedCast (reads : ReadsCast float parse header events) (cut : Nat) :
    castOutputBytes parse (some (killedCast float header events cut)) =
      if Torn float cut events then none
      else some (min (outputBytes (completeEvents float cut events)) (2 ^ 64 - 1)) := by
  have read : ∀ event ∈ completeEvents float cut events, ∃ interval,
      parse (event.json.render float) =
        some (.array [interval, .string event.code, .string event.data]) :=
    fun event member => reads.events event (mem_completeEvents member)
  have counted := foldlM_countOutput read (Nat.zero_le _)
  rw [Nat.zero_add] at counted
  unfold castOutputBytes
  simp only [Option.bind_eq_bind, Option.bind_some]
  rw [lines_killedCast reads, List.drop_succ_cons, List.drop_zero]
  obtain ⟨whole, found⟩ | ⟨torn, last, found, short⟩ := lines_cut reads.floats events cut
  · rw [if_neg whole, found, counted]
  · have unread := unread_of_not_balanced reads.balanced short
    have stops : ∀ total, countOutput parse total last = none := by
      intro total
      unfold countOutput
      cases last with
      | none => rfl
      | some text =>
        rw [Option.bind_some] at unread
        simp only [Option.bind_eq_bind, Option.bind_some, unread, Option.bind_none]
    rw [if_pos torn, found, List.foldlM_append, counted]
    show List.foldlM (countOutput parse) _ [last] = none
    rw [List.foldlM_cons, stops]
    rfl

/-- A list of lines is read if each of them is. -/
theorem isSome_mapM {α β : Type} (f : α → Option β) (list : List α) :
    (list.mapM f).isSome = true ↔ ∀ a ∈ list, (f a).isSome = true := by
  induction list with
  | nil => simp
  | cons a rest ih =>
    rw [List.mapM_cons, List.forall_mem_cons, ← ih]
    cases f a with
    | none => simp
    | some b => cases rest.mapM f <;> simp

/-- A recording can be exported if each of its lines is read. -/
theorem isSome_sanitizeCast (home : Option String) (redactions : List String)
    (file : List UInt8) :
    (sanitizeCast parse float home redactions (some file)).isSome = true ↔
      ∀ line ∈ lines file, (line.bind parse).isSome = true := by
  rw [← isSome_mapM]
  unfold sanitizeCast
  simp only [Option.bind_eq_bind, Option.bind_some]
  cases (lines file).mapM fun line => line.bind parse with
  | none => simp
  | some values => simp

theorem isSome_sanitizeCast_killedCast (reads : ReadsCast float parse header events) (cut : Nat)
    (home : Option String) (redactions : List String) :
    (sanitizeCast parse float home redactions
      (some (killedCast float header events cut))).isSome = true ↔ ¬ Torn float cut events := by
  obtain ⟨value, first⟩ := reads.header
  rw [isSome_sanitizeCast, lines_killedCast reads, List.forall_mem_cons, Option.bind_some, first]
  have complete : ∀ line ∈ (completeEvents float cut events).map
      (fun event => some (event.json.render float)), (line.bind parse).isSome = true := by
    intro line member
    obtain ⟨event, inside, rfl⟩ := List.mem_map.mp member
    obtain ⟨interval, read⟩ := reads.events event (mem_completeEvents inside)
    rw [Option.bind_some, read]
    rfl
  obtain ⟨whole, found⟩ | ⟨torn, last, found, short⟩ := lines_cut reads.floats events cut
  · rw [found]
    exact iff_of_true ⟨rfl, complete⟩ whole
  · rw [found]
    refine iff_of_false (fun all => ?_) (not_not_intro torn)
    have read := all.2 last (List.mem_append_right _ (List.mem_singleton_self last))
    rw [unread_of_not_balanced reads.balanced short] at read
    cases read

/-- A count below `2 ^ 64` is recorded exactly if it is below `2 ^ 63`. -/
theorem toI64_toNat_eq_iff (count : Nat) :
    (Database.toI64 count).toNat = count ↔ count < 2 ^ 63 := by
  constructor
  · intro same
    have range := Database.toI64_isI64 count
    unfold Database.IsI64 at range
    omega
  · intro fits
    rw [Database.toI64_of_isI64 ⟨by omega, by omega⟩, Int.toNat_natCast]

/-- The output of a recording that was cut short is counted and recorded, and the recording can
be exported, exactly if the cut is not inside the text of an event; a count from `2 ^ 63` on is
not recorded. -/
theorem killed_recording_readable_iff (reads : ReadsCast float parse header events) (cut : Nat)
    (home : Option String) (redactions : List String) {db : Database}
    {faults : List (Option String)} {cast : String → Option (List UInt8)}
    {claim : AgentSessionRow → Except Error Bool} {now : SessionId → Int}
    {session : AgentSessionRow} {n : Nat}
    (found : db.agentSessions.find? session.id = some session)
    (recording : session.state = .recording)
    (file : cast session.castPath = some (killedCast float header events cut))
    (claimed : claim session = .ok true)
    (reconciled : (Store.run (reconcileAgentSessions parse cast claim now) faults db).1 = .ok n) :
    let count := outputBytes (completeEvents float cut events)
    (castOutputBytes parse (cast session.castPath) = some count ∧
      (∃ row, (Store.run (reconcileAgentSessions parse cast claim now) faults
          db).2.agentSessions.find? session.id = some row ∧ row.capturedBytes = count) ∧
      (sanitizeCast parse float home redactions (cast session.castPath)).isSome = true) ↔
    ¬ Torn float cut events ∧ count < 2 ^ 63 := by
  intro count
  have after := Database.run_of_post
    (Database.reconcileAgentSessions_spec parse cast claim now db) faults n reconciled session
    found recording claimed
  have recorded : ∀ bytes, castOutputBytes parse (some (killedCast float header events cut)) =
      some bytes →
        (session.ended (now session.id) (interruption parse cast session)).capturedBytes =
          (Database.toI64 bytes).toNat := by
    intro bytes counted
    rw [AgentSessionRow.ended_capturedBytes, interruption_capturedBytes, file, counted,
      Option.getD_some]
  rw [file, isSome_sanitizeCast_killedCast reads, after]
  constructor
  · rintro ⟨counted, ⟨row, same, kept⟩, whole⟩
    refine ⟨whole, (toI64_toNat_eq_iff count).mp ?_⟩
    rw [← recorded count counted, Option.some.inj same]
    exact kept
  · rintro ⟨whole, fits⟩
    have counted : castOutputBytes parse (some (killedCast float header events cut)) =
        some count := by
      rw [castOutputBytes_killedCast reads, if_neg whole]
      exact congrArg some (min_eq_left (by omega))
    refine ⟨counted, ⟨_, rfl, ?_⟩, whole⟩
    rw [recorded count counted]
    exact (toI64_toNat_eq_iff count).mpr fits

end

/-! ## A recording of three events -/

def sampleHeader : CastHeader := ⟨80, 24, "xterm", 1, "claude"⟩

def sampleCast : List CastEvent :=
  [⟨0, "o", "hé"⟩, ⟨0, "r", "90x24"⟩, ⟨0, "o", r#"{"a"# ++ "\n"⟩]

def sampleFloat (_ : UInt64) : String := "0.25"

/-- The texts of the recording, and what they are read as. -/
def sampleTexts : Table (Json.render sampleFloat) :=
  ⟨sampleHeader.json :: sampleCast.map CastEvent.json, by decide +kernel⟩

def recordingSession : AgentSessionRow where
  id := "s"
  workspaceId := "w"
  state := .recording
  agentKind := "claude"
  name := none
  command := .argv "claude" []
  cwd := "/demo"
  createdAtMs := 0
  recorderPid := 7
  initialCols := 80
  initialRows := 24
  castPath := "/s/cast"
  htmlPath := "/s/html"

/-- A database in which that recording goes on. -/
def recordingDatabase : Database :=
  { newDatabase with agentSessions := ⟨[recordingSession], by decide⟩ }

/-- It is the only session that is recording. -/
theorem reconciled_recordingDatabase (parse : String → Option Json)
    (cast : String → Option (List UInt8)) :
    (Store.run (reconcileAgentSessions parse cast (fun _ => .ok true) fun _ => 9) []
      recordingDatabase).1 = .ok 1 := by
  have active : (recordingDatabase.agentSessions.rows.filter fun row =>
      row.state = .recording).mergeSort (fun left right => left.createdAtMs ≤ right.createdAtMs) =
        [recordingSession] := List.mergeSort_singleton _
  unfold reconcileAgentSessions Database.activeAgentSessions
  simp only [Store.run, bind, Sql.andThen, Sql.select, Sql.statement, List.map_nil, active]
  rfl

theorem reconciled_uncounted {parse : String → Option Json}
    {cast : String → Option (List UInt8)}
    (uncounted : castOutputBytes parse (cast "/s/cast") = none) :
    ((Store.run (reconcileAgentSessions parse cast (fun _ => .ok true) fun _ => 9) []
      recordingDatabase).2.agentSessions.find? "s").map (·.capturedBytes) = some 0 := by
  have ended := Database.run_of_post (Database.reconcileAgentSessions_spec parse cast
    (fun _ => .ok true) (fun _ => 9) recordingDatabase) [] 1
    (reconciled_recordingDatabase parse cast) recordingSession rfl rfl rfl
  rw [show (Store.run _ [] recordingDatabase).2.agentSessions.find? "s" = _ from ended,
    Option.map_some, AgentSessionRow.ended_capturedBytes, interruption_capturedBytes,
    show castOutputBytes parse (cast recordingSession.castPath) = none from uncounted]
  exact congrArg some ((toI64_toNat_eq_iff 0).mpr (by decide))

theorem readsCast_sample : ReadsCast sampleFloat sampleTexts.find? sampleHeader sampleCast := by
  have floats : Json.PlainFloats sampleFloat := by
    have all : ∀ c ∈ "0.25".toList, Plain c := List.all_iff_forall_prop.mp (by decide)
    exact fun _ => all
  have read : ∀ value ∈ sampleTexts.rows,
      sampleTexts.find? (value.render sampleFloat) = some value :=
    fun value member => Table.mem_rows_iff.mp member
  refine ⟨floats, fun text value found => ?_, ⟨_, read _ List.mem_cons_self⟩, ?_⟩
  · rw [← Table.find?_key found]
    exact (Json.nested_render floats value).closed 0
  · intro event member
    exact ⟨_, read _ (List.mem_cons_of_mem _ (List.mem_map_of_mem member))⟩

/-- Killed behind the text of the second event, before its newline. -/
theorem killed_recording_readable_iff_sample :
    let cast := fun path => if path = "/s/cast" then
      some (killedCast sampleFloat sampleHeader sampleCast 35) else none
    let reconciled := Store.run (reconcileAgentSessions sampleTexts.find? cast (fun _ => .ok true)
      fun _ => 9) [] recordingDatabase
    castOutputBytes sampleTexts.find? (cast "/s/cast") = some 3 ∧
      (∃ row, reconciled.2.agentSessions.find? "s" = some row ∧ row.capturedBytes = 3) ∧
      (sanitizeCast sampleTexts.find? sampleFloat (some "/home/u") ["token"]
        (cast "/s/cast")).isSome = true := by
  intro cast reconciled
  have count : outputBytes (completeEvents sampleFloat 35 sampleCast) = 3 := by decide +kernel
  have whole : ¬ Torn sampleFloat 35 sampleCast := by decide +kernel
  have found : recordingDatabase.agentSessions.find? recordingSession.id = some recordingSession :=
    rfl
  have finished : reconciled.1 = .ok 1 := reconciled_recordingDatabase _ _
  have read := (killed_recording_readable_iff readsCast_sample 35 (some "/home/u") ["token"] found
    rfl rfl rfl finished).mpr ⟨whole, by rw [count]; decide⟩
  rw [count] at read
  exact read

/-- Killed inside the text of the last event: nothing is counted, although two events are whole,
and nothing can be exported. -/
theorem killed_recording_unreadable :
    let cast := fun path => if path = "/s/cast" then
      some (killedCast sampleFloat sampleHeader sampleCast 40) else none
    let reconciled := Store.run (reconcileAgentSessions sampleTexts.find? cast (fun _ => .ok true)
      fun _ => 9) [] recordingDatabase
    outputBytes (completeEvents sampleFloat 40 sampleCast) = 3 ∧
      castOutputBytes sampleTexts.find? (cast "/s/cast") = none ∧
      (reconciled.2.agentSessions.find? "s").map (·.capturedBytes) = some 0 ∧
      sanitizeCast sampleTexts.find? sampleFloat (some "/home/u") ["token"] (cast "/s/cast") =
        none := by
  intro cast reconciled
  have torn : Torn sampleFloat 40 sampleCast := by decide +kernel
  have uncounted : castOutputBytes sampleTexts.find? (cast "/s/cast") = none :=
    (castOutputBytes_killedCast readsCast_sample 40).trans (if_pos torn)
  refine ⟨by decide +kernel, uncounted, reconciled_uncounted uncounted, ?_⟩
  rw [← Option.not_isSome_iff_eq_none]
  exact fun exported =>
    (isSome_sanitizeCast_killedCast readsCast_sample 40 (some "/home/u") ["token"]).mp exported torn

end Loomterm
