import Loomterm.Misc.Atomic

/-!
# Migrations

Programs that may be stopped at any of their statements and are begun again, and the statements
that define a schema, as far as a database file shows them. A chain of transactions can be begun
again if what each of them leaves is where the program goes on from.
-/

namespace Loomterm

/-! ## Programs that are begun again -/

namespace Sql

universe u
variable {σ ε : Type*} {α β : Type u}

/-- A program that ends well despite what might have failed ends so when nothing fails. -/
def Steady (p : Sql σ ε α) : Prop :=
  ∀ s faults a, (p s faults).result = .ok a → p s [] = ⟨.ok a, (p s faults).state, []⟩

theorem steady_pure (a : α) : Steady (pure a : Sql σ ε α) := by
  intro s faults a' ended
  cases ended
  rfl

theorem steady_statement (body : σ → Except ε (α × σ)) : Steady (statement body) := by
  intro s faults a ended
  rcases statement_cases body (s := s) faults with ⟨e, rest, _, failed⟩ | ⟨_, goes⟩
  · rw [failed] at ended
    cases ended
  · rw [goes] at ended ⊢
    unfold statement
    cases ran : body s with
    | ok answer =>
      rw [ran] at ended
      cases ended
      rfl
    | error e =>
      rw [ran] at ended
      cases ended

theorem Steady.andThen {p : Sql σ ε α} {k : α → Sql σ ε β} (first : Steady p)
    (rest : ∀ a, Steady (k a)) : Steady (andThen p k) := by
  intro s faults b ended
  unfold Sql.andThen at ended ⊢
  rcases ran : p s faults with ⟨result, s', left⟩
  rw [ran] at ended
  cases result with
  | error e => cases ended
  | ok a =>
    have begun := first s faults a (by rw [ran])
    rw [begun, ran]
    exact rest a s' left b ended

theorem Steady.bind {p : Sql σ ε α} {k : α → Sql σ ε β} (first : Steady p)
    (rest : ∀ a, Steady (k a)) : Steady (p >>= k) :=
  first.andThen rest

theorem Steady.transaction {p : Sql σ ε α} (body : Steady p) : Steady (transaction p) := by
  have inner : Steady (Sql.andThen checkpoint fun _ => Sql.andThen p fun a =>
      Sql.andThen checkpoint fun _ => (ret a : Sql σ ε α)) :=
    (steady_statement _).andThen fun _ =>
      body.andThen fun a => (steady_statement _).andThen fun _ => steady_pure a
  intro s faults a ended
  have whole := inner s faults a
  unfold Sql.transaction at ended ⊢
  rcases ran : (Sql.andThen checkpoint fun _ => Sql.andThen p fun a =>
    Sql.andThen checkpoint fun _ => (ret a : Sql σ ε α)) s faults with ⟨result, s', left⟩
  rw [ran] at ended whole
  cases result with
  | error e => cases ended
  | ok b =>
    cases ended
    rw [whole rfl]

theorem bind_of_ok {p : Sql σ ε α} {k : α → Sql σ ε β} {s s' : σ} {a : α}
    (ran : p s [] = ⟨.ok a, s', []⟩) : (p >>= k) s [] = k a s' [] := by
  show Sql.andThen p k s [] = k a s' []
  unfold Sql.andThen
  rw [ran]

/-- Wherever `q` stops, `p` ends as `q` would have. -/
def Resumes (p q : Sql σ ε α) (s : σ) : Prop :=
  ∀ faults, p (q s faults).state [] = q s []

variable {p : Sql σ ε α} {s : σ}

theorem resumes_pure {a : α} (same : p s [] = (pure a : Sql σ ε α) s []) :
    Resumes p (pure a) s :=
  fun _ => same

theorem resumes_fail {e : ε} (same : p s [] = (fail e : Sql σ ε α) s []) :
    Resumes p (fail e) s :=
  fun _ => same

/-- A transaction that goes well leaves what its statements leave. -/
theorem body_of_transaction {t : Sql σ ε β} (steady : Steady t) {b : β} {s' : σ} {left : Faults ε}
    (ran : transaction t s [] = ⟨.ok b, s', left⟩) : t s [] = ⟨.ok b, s', []⟩ := by
  have settled := steady s []
  unfold Sql.transaction Sql.andThen checkpoint statement at ran
  simp only [List.tail_nil] at ran
  rcases inside : t s [] with ⟨result, s₁, left'⟩
  rw [inside] at ran settled
  cases result with
  | error e => cases ran
  | ok a =>
    rw [settled a rfl]
    obtain rfl : left' = [] := congrArg Outcome.faults (settled a rfl)
    cases ran
    rfl

theorem Resumes.transaction {t : Sql σ ε β} {q : β → Sql σ ε α}
    (same : p s [] = (transaction t >>= q) s []) (steady : Steady t)
    (next : ∀ b s', t s [] = ⟨.ok b, s', []⟩ → Resumes p (q b) s') :
    Resumes p (transaction t >>= q) s := by
  intro faults
  have traceless : ∀ e, (Sql.transaction t s faults).result = .error e →
      (Sql.transaction t s faults).state = s :=
    (leavesNoTrace_transaction : LeavesNoTrace (fun _ => True) _ s) faults fun _ _ => trivial
  have settled := steady.transaction s faults
  show p (Sql.andThen (Sql.transaction t) q s faults).state [] =
    Sql.andThen (Sql.transaction t) q s []
  rcases ran : Sql.transaction t s faults with ⟨result, s', left⟩
  rw [ran] at traceless settled
  cases result with
  | error e =>
    have stopped : (Sql.andThen (Sql.transaction t) q s faults).state = s := by
      unfold Sql.andThen
      rw [ran]
      exact traceless e rfl
    rw [stopped]
    exact same
  | ok b =>
    have quiet := settled b rfl
    have goes : Sql.andThen (Sql.transaction t) q s faults = q b s' left := by
      unfold Sql.andThen
      rw [ran]
    have ends : Sql.andThen (Sql.transaction t) q s [] = q b s' [] := bind_of_ok quiet
    rw [goes, ends]
    exact next b s' (body_of_transaction steady quiet) left

theorem Resumes.select {body : σ → Except ε β} {q : β → Sql σ ε α}
    (same : p s [] = (select body >>= q) s [])
    (next : ∀ b, body s = .ok b → p s [] = q b s [] → Resumes p (q b) s) :
    Resumes p (select body >>= q) s := by
  have quiet (b : β) (found : body s = .ok b) :
      Sql.andThen (Sql.select body) q s [] = q b s [] := by
    unfold Sql.andThen Sql.select Sql.statement
    simp [Except.map, found]
  have begun : p s [] = Sql.andThen (Sql.select body) q s [] := same
  intro faults
  show p (Sql.andThen (Sql.select body) q s faults).state [] = Sql.andThen (Sql.select body) q s []
  rw [← begun]
  rcases statement_cases (fun s => (body s).map (·, s)) (s := s) faults with
    ⟨e, rest, _, failed⟩ | ⟨_, goes⟩
  · have stopped : (Sql.andThen (Sql.select body) q s faults).state = s := by
      unfold Sql.andThen Sql.select
      rw [failed]
    rw [stopped]
  · cases found : body s with
    | error e =>
      have stopped : (Sql.andThen (Sql.select body) q s faults).state = s := by
        unfold Sql.andThen Sql.select
        rw [goes, found]
        rfl
      rw [stopped]
    | ok b =>
      have more : Sql.andThen (Sql.select body) q s faults = q b s faults.tail := by
        unfold Sql.andThen Sql.select
        rw [goes, found]
        rfl
      have goes_on := begun.trans (quiet b found)
      rw [more, goes_on]
      exact next b found goes_on faults.tail

end Sql

/-! ## Schemas -/

namespace Ddl

/-- What a cell holds. -/
inductive Value where
  | null
  | integer (value : Int)
  | text (value : String)
  | blob (value : List UInt8)
  deriving DecidableEq

/-- `REFERENCES`. -/
structure Reference where
  table : String
  column : String
  onDelete : Option String := none
  deriving DecidableEq

structure Column where
  name : String
  type : String
  notNull : Bool := false
  primaryKey : Bool := false
  unique : Bool := false
  default : Value := .null
  references : Option Reference := none
  deriving DecidableEq

/-- A constraint on several columns. -/
inductive Constraint where
  | primaryKey (columns : List String)
  | unique (columns : List String)
  deriving DecidableEq

structure Table where
  columns : List Column
  constraints : List Constraint := []
  rows : List (List Value) := []
  deriving DecidableEq

/-- An index: its columns, and which of them go downwards. -/
structure Index where
  table : String
  columns : List (String × Bool)
  unique : Bool := false
  condition : Option String := none
  deriving DecidableEq

/-- A database file: `PRAGMA user_version`, its tables and its indexes. -/
structure File where
  version : Int := 0
  tables : List (String × Table) := []
  indexes : List (String × Index) := []
  deriving DecidableEq

def Table.addColumn (table : Table) (column : Column) : Table :=
  { table with
    columns := table.columns ++ [column]
    rows := table.rows.map (· ++ [column.default]) }

/-- The cell of a row in a column. -/
def Table.cell (table : Table) (column : String) (row : List Value) : Option Value :=
  (((table.columns.map Column.name).zip row).find? fun entry => entry.1 = column).map Prod.snd

namespace File

def table (file : File) (name : String) : Option Table :=
  (file.tables.find? fun entry => entry.1 = name).map Prod.snd

/-- Whether a table or an index has the name. -/
def named (file : File) (name : String) : Bool :=
  (file.tables.any fun entry => entry.1 = name) || file.indexes.any fun entry => entry.1 = name

/-- Everything but the rows. -/
def schema (file : File) : List (String × List Column × List Constraint) × List (String × Index) :=
  (file.tables.map fun entry => (entry.1, entry.2.columns, entry.2.constraints), file.indexes)

end File

inductive Statement where
  | createTable (name : String) (columns : List Column) (constraints : List Constraint)
  | createIndex (name : String) (index : Index)
  | addColumn (table : String) (column : Column)
  | userVersion (version : Int)

/-- What a statement makes of the file, or what it is refused for. -/
def Statement.run (file : File) : Statement → Except String File
  | .createTable name columns constraints =>
      if file.named name then .error ("table " ++ name ++ " already exists")
      else .ok { file with tables := file.tables ++ [(name, { columns, constraints })] }
  | .createIndex name index =>
      if file.named name then .error ("index " ++ name ++ " already exists")
      else
        match file.table index.table with
        | none => .error ("no such table: main." ++ index.table)
        | some table =>
            if index.columns.all fun key => (table.columns.map Column.name).contains key.1 then
              .ok { file with indexes := file.indexes ++ [(name, index)] }
            else .error ("no such column in " ++ index.table)
  | .addColumn name column =>
      match file.table name with
      | none => .error ("no such table: " ++ name)
      | some table =>
          if (table.columns.map Column.name).contains column.name then
            .error ("duplicate column name: " ++ column.name)
          else if column.primaryKey then .error "Cannot add a PRIMARY KEY column"
          else if column.unique then .error "Cannot add a UNIQUE column"
          else if column.references.isSome ∧ column.default ≠ .null then
            .error "Cannot add a REFERENCES column with non-NULL default value"
          else if column.notNull ∧ column.default = .null then
            .error "Cannot add a NOT NULL column with default value NULL"
          else .ok { file with
            tables := file.tables.map fun entry =>
              if entry.1 = name then (name, entry.2.addColumn column) else entry }
  | .userVersion version => .ok { file with version }

/-- A statement in a program; an error of the database is one by its message. -/
def exec {ε : Type} (error : String → ε) (statement : Statement) : Sql File ε Unit :=
  Sql.statement fun file => ((statement.run file).map fun file' => ((), file')).mapError error

/-- Statements that are executed one after the other. -/
def execAll {ε : Type} (error : String → ε) : List Statement → Sql File ε Unit
  | [] => pure ()
  | statement :: rest => exec error statement >>= fun _ => execAll error rest

theorem steady_execAll {ε : Type} (error : String → ε) (statements : List Statement) :
    Sql.Steady (execAll error statements) := by
  induction statements with
  | nil => exact Sql.steady_pure ()
  | cons statement rest ih => exact (Sql.steady_statement _).bind fun _ => ih

/-- Statements that end with setting the version leave it so. -/
theorem version_execAll {ε : Type} (error : String → ε) {statements : List Statement}
    {version : Int} {file file' : File}
    (ran : execAll error (statements ++ [.userVersion version]) file [] = ⟨.ok (), file', []⟩) :
    file'.version = version := by
  induction statements generalizing file with
  | nil =>
    cases ran
    rfl
  | cons statement rest ih =>
    change Sql.andThen (exec error statement) (fun _ => execAll error _) file [] = _ at ran
    unfold Sql.andThen exec Sql.statement at ran
    cases applied : statement.run file with
    | error message =>
      simp only [applied, Except.map, Except.mapError] at ran
      cases ran
    | ok next =>
      simp only [applied, Except.map, Except.mapError] at ran
      exact ih ran

end Ddl

end Loomterm
