import Mathlib.Algebra.Order.Ring.Int
import Mathlib.Tactic.Common

/-!
# Words of the POSIX shell

How a shell takes a text apart: into words, whose characters keep how they were quoted, and
operators; and what it then runs, where nothing in the words is to be expanded. Between two
words of a text stands a blank, so a text that is rendered word by word is taken apart word by
word.
-/

namespace Loomterm.Shell

/-- How a character of a word is quoted: not at all, in double quotes, or such that it can only
stand for itself. -/
inductive Quoting where
  | bare
  | double
  | literal
  deriving DecidableEq, Repr

/-- A word before its quotes are removed. -/
abbrev Word := List (Char × Quoting)

/-- What a text is taken apart into; an operator of several characters is taken as several. -/
inductive Token where
  | word (word : Word)
  | operator (c : Char)
  deriving DecidableEq, Repr

/-- What the characters read so far make of the next one. -/
inductive Mode where
  | out
  | single
  | double
  | escaped
  | doubleEscaped
  | comment
  deriving DecidableEq, Repr

def isBlank (c : Char) : Bool := c = ' ' || c = '\t'

/-- The characters that end a word without being blank. -/
def isOperator (c : Char) : Bool := ['\n', '|', '&', ';', '<', '>', '(', ')'].contains c

/-- Characters that a backslash keeps from having a meaning between double quotes. -/
def isDoubleSpecial (c : Char) : Bool := ['$', '\x60', '"', '\\'].contains c

/-- The token of the word being read. -/
def flush (current : Option Word) : List Token := (current.map Token.word).toList

/-- Adds characters to the word being read. -/
def push (current : Option Word) (word : Word) : Option Word := some (current.getD [] ++ word)

/-- Takes a text apart; `current` is the word being read. A quotation that is not closed is
an error. -/
def scan : Mode → Option Word → List Char → Option (List Token)
  | .out, current, [] => some (flush current)
  | .comment, _, [] => some []
  | _, _, [] => none
  | .out, current, c :: rest =>
      if isBlank c then (scan .out none rest).map (flush current ++ ·)
      else if isOperator c then (scan .out none rest).map (flush current ++ .operator c :: ·)
      else if c = '\x27' then scan .single (push current []) rest
      else if c = '"' then scan .double (push current []) rest
      else if c = '\\' then scan .escaped current rest
      else if c = '#' ∧ current = none then scan .comment none rest
      else scan .out (push current [(c, .bare)]) rest
  | .single, current, c :: rest =>
      if c = '\x27' then scan .out current rest
      else scan .single (push current [(c, .literal)]) rest
  | .double, current, c :: rest =>
      if c = '"' then scan .out current rest
      else if c = '\\' then scan .doubleEscaped current rest
      else scan .double (push current [(c, .double)]) rest
  -- an escaped newline joins two lines
  | .escaped, current, c :: rest =>
      if c = '\n' then scan .out current rest
      else scan .out (push current [(c, .literal)]) rest
  | .doubleEscaped, current, c :: rest =>
      if c = '\n' then scan .double current rest
      else if isDoubleSpecial c then scan .double (push current [(c, .literal)]) rest
      else scan .double (push current [('\\', .literal), (c, .double)]) rest
  | .comment, current, c :: rest =>
      if c = '\n' then (scan .out none rest).map (.operator c :: ·)
      else scan .comment current rest

/-! ## What is run -/

namespace Word

/-- The word without its quotes. -/
def text (word : Word) : String := .ofList (word.map Prod.fst)

/-- Whether a character may begin an expansion: of a parameter, a command or arithmetic, of a
home directory or of a pattern. -/
def isActive : Char × Quoting → Bool
  | (c, .bare) => ['$', '\x60', '~', '*', '?', '['].contains c
  | (c, .double) => ['$', '\x60'].contains c
  | (_, .literal) => false

/-- A name of the shell, which has to stand bare before the sign of an assignment. -/
def isName : Word → Bool
  | [] => false
  | (c, quoting) :: rest =>
      (quoting = .bare && (c.isAlpha || c = '_')) &&
        rest.all fun (c, quoting) => quoting = .bare && (c.isAlphanum || c = '_')

/-- The name and the value that a word assigns. -/
def assignment? (word : Word) : Option (String × String) :=
  let name := word.takeWhile (·.1 ≠ '=')
  match word.dropWhile (·.1 ≠ '=') with
  | (_, .bare) :: value => if isName name then some (text name, text value) else none
  | _ => none

end Word

/-- The words of a text that has no operator and nothing to be expanded. -/
def wordsOf (input : String) : Option (List Word) := do
  let tokens ← scan .out none input.toList
  tokens.mapM fun
    | .word word => if word.any Word.isActive then none else some word
    | .operator _ => none

/-- The words of a text, without their quotes. -/
def words (input : String) : Option (List String) := (wordsOf input).map (·.map Word.text)

/-- A command with the variables that are set for it. -/
structure SimpleCommand where
  assignments : List (String × String)
  words : List String
  deriving DecidableEq, Repr

/-- The one command that a text consists of. The assignments are the words before the first
that is none. -/
def simpleCommand (input : String) : Option SimpleCommand :=
  (wordsOf input).map fun words =>
    { assignments := (words.takeWhile fun word => word.assignment?.isSome).filterMap
        Word.assignment?
      words := (words.dropWhile fun word => word.assignment?.isSome).map Word.text }

/-! ## Rendering word by word -/

/-- A text that is read as a word, or as nothing, whatever follows. -/
def Renders (rendered : List Char) (word : Option Word) : Prop :=
  ∀ rest, scan .out none (rendered ++ rest) = scan .out word rest

/-- Words that are rendered with blanks between them are read one by one. -/
theorem scan_intercalate {items : List (List Char × Option Word)}
    (each : ∀ item ∈ items, Renders item.1 item.2) :
    scan .out none ([' '].intercalate (items.map Prod.fst)) =
      some ((items.filterMap Prod.snd).map Token.word) := by
  induction items with
  | nil => rfl
  | cons item items ih =>
    have first := each item List.mem_cons_self
    have later := ih fun other member => each other (List.mem_cons_of_mem item member)
    obtain ⟨rendered, word⟩ := item
    simp only at first
    have own : (([word].filterMap id).map Token.word) = flush word := by
      cases word <;> rfl
    cases items with
    | nil =>
      have read := first []
      rw [List.append_nil] at read
      simp only [List.map_cons, List.map_nil, List.intercalate_singleton, read]
      rw [scan, ← own]
      cases word <;> rfl
    | cons next items =>
      rw [List.map_cons, List.map_cons, List.intercalate_cons_cons, List.append_assoc, first]
      rw [List.map_cons] at later
      rw [List.singleton_append, scan, if_pos (by decide), later]
      cases word <;> rfl

/-- The characters that mean nothing to the tokenizer when they stand bare. -/
def isPlain (c : Char) : Bool :=
  !isBlank c && !isOperator c && !(['\x27', '"', '\\', '#'].contains c)

/-- A plain character is added to the word as it is. -/
theorem scan_cons_plain {c : Char} (plain : isPlain c = true) (current : Option Word)
    (rest : List Char) :
    scan .out current (c :: rest) = scan .out (push current [(c, .bare)]) rest := by
  simp only [isPlain, Bool.and_eq_true, Bool.not_eq_true', List.contains_eq_mem,
    List.mem_cons, List.not_mem_nil, or_false, decide_eq_false_iff_not, not_or] at plain
  obtain ⟨⟨blank, operator⟩, single, double, backslash, hash⟩ := plain
  rw [scan, if_neg (by simp [blank]), if_neg (by simp [operator]), if_neg single, if_neg double,
    if_neg backslash, if_neg (by simp [hash])]

@[simp] theorem push_some (word added : Word) : push (some word) added = some (word ++ added) := rfl

@[simp] theorem push_push (current : Option Word) (first second : Word) :
    push (push current first) second = push current (first ++ second) := by
  simp [push]

theorem scan_plain {chars : List Char} (plain : ∀ c ∈ chars, isPlain c = true) (word : Word)
    (rest : List Char) :
    scan .out (some word) (chars ++ rest) =
      scan .out (some (word ++ chars.map fun c => (c, .bare))) rest := by
  induction chars generalizing word with
  | nil => rw [List.map_nil, List.append_nil, List.nil_append]
  | cons c chars ih =>
    rw [List.cons_append, scan_cons_plain (plain c List.mem_cons_self), push_some,
      ih fun other member => plain other (List.mem_cons_of_mem c member)]
    simp

/-- A plain text is read as the word of its characters, or as nothing if it has none. -/
theorem renders_plain {chars : List Char} (plain : ∀ c ∈ chars, isPlain c = true) :
    Renders chars (if chars = [] then none else some (chars.map fun c => (c, .bare))) := by
  intro rest
  cases chars with
  | nil => rfl
  | cons c chars =>
    rw [if_neg (List.cons_ne_nil _ _), List.cons_append,
      scan_cons_plain (plain c List.mem_cons_self), push,
      scan_plain fun other member => plain other (List.mem_cons_of_mem c member)]
    rfl

/-- Characters in single quotes. A quote is put between two quotations, behind a backslash. -/
def quoted (chars : List Char) : List Char :=
  '\x27' :: (chars.flatMap fun c => if c = '\x27' then "'\\''".toList else [c]) ++ ['\x27']

/-- Inside a quotation each character stands for itself, up to the end of the quotation. -/
theorem scan_single (current : Option Word) (chars rest : List Char) :
    scan .single (push current [])
        ((chars.flatMap fun c => if c = '\x27' then "'\\''".toList else [c]) ++ '\x27' :: rest) =
      scan .out (push current (chars.map fun c => (c, .literal))) rest := by
  suffices go : ∀ word : Word, scan .single (some word)
      ((chars.flatMap fun c => if c = '\x27' then "'\\''".toList else [c]) ++ '\x27' :: rest) =
        scan .out (some (word ++ chars.map fun c => (c, .literal))) rest by
    have read := go (current.getD [])
    rwa [push, List.append_nil]
  induction chars with
  | nil =>
    intro word
    rw [List.flatMap_nil, List.nil_append, scan, if_pos rfl, List.map_nil, List.append_nil]
  | cons c chars ih =>
    intro word
    rw [List.flatMap_cons, List.append_assoc]
    by_cases quote : c = '\x27'
    · subst quote
      rw [if_pos rfl]
      -- the quotation ends, the quote is escaped, and the quotation begins again
      show scan .single (some word) ('\x27' :: '\\' :: '\x27' :: '\x27' :: _) = _
      rw [scan, if_pos rfl, scan, if_neg (by decide), if_neg (by decide), if_neg (by decide),
        if_neg (by decide), if_pos rfl, scan, if_neg (by decide), scan, if_neg (by decide),
        if_neg (by decide), if_pos rfl, push_some, push_some, List.append_nil]
      exact (ih _).trans (by simp)
    · rw [if_neg quote, List.singleton_append, scan, if_neg quote, push_some, ih]
      simp

theorem scan_quoted (current : Option Word) (chars rest : List Char) :
    scan .out current (quoted chars ++ rest) =
      scan .out (push current (chars.map fun c => (c, .literal))) rest := by
  rw [quoted, List.append_assoc, List.cons_append, scan, if_neg (by decide), if_neg (by decide),
    if_pos rfl, List.singleton_append]
  exact scan_single current chars rest

/-- A quoted text is a word, even if it is empty. -/
theorem renders_quoted (chars : List Char) :
    Renders (quoted chars) (some (chars.map fun c => (c, .literal))) :=
  fun rest => scan_quoted none chars rest

/-- Plain characters and then a quotation are one word. -/
theorem renders_plain_quoted {chars : List Char} (plain : ∀ c ∈ chars, isPlain c = true)
    (value : List Char) :
    Renders (chars ++ quoted value)
      (some ((chars.map fun c => (c, .bare)) ++ value.map fun c => (c, .literal))) := by
  intro rest
  rw [List.append_assoc, renders_plain plain, scan_quoted]
  congr 1
  cases chars <;> rfl

/-! ## Words without a meaning of their own -/

@[simp] theorem text_bare (chars : List Char) :
    Word.text (chars.map fun c => (c, .bare)) = .ofList chars := by
  rw [Word.text, List.map_map]
  congr 1
  exact List.map_id chars

@[simp] theorem text_literal (chars : List Char) :
    Word.text (chars.map fun c => (c, .literal)) = .ofList chars := by
  rw [Word.text, List.map_map]
  congr 1
  exact List.map_id chars

@[simp] theorem any_isActive_literal (chars : List Char) :
    (chars.map fun c => (c, Quoting.literal)).any Word.isActive = false := by
  simp [List.any_map, Word.isActive]

/-- A name, a bare sign and a value are an assignment. -/
theorem assignment?_of_isName {name : List Char}
    (named : Word.isName (name.map fun c => (c, .bare)) = true) (plain : '=' ∉ name)
    (value : Word) :
    Word.assignment? ((name.map fun c => (c, .bare)) ++ ('=', .bare) :: value) =
      some (.ofList name, Word.text value) := by
  have before : ∀ entry ∈ name.map fun c => (c, Quoting.bare), decide (entry.1 ≠ '=') = true := by
    intro entry member
    obtain ⟨c, listed, rfl⟩ := List.mem_map.mp member
    rw [decide_eq_true_eq]
    rintro rfl
    exact plain listed
  simp only [Word.assignment?, List.takeWhile_append_of_pos before,
    List.dropWhile_append_of_pos before, List.dropWhile_cons, List.takeWhile_cons]
  simp [named]

/-- What is quoted as a whole assigns nothing. -/
theorem assignment?_literal (chars : List Char) :
    Word.assignment? (chars.map fun c => (c, .literal)) = none := by
  unfold Word.assignment?
  simp only
  split
  · rename_i c value rest
    have member : (c, Quoting.bare) ∈ chars.map fun c => (c, Quoting.literal) := by
      apply (List.dropWhile_suffix _).subset
      rw [rest]
      exact List.mem_cons_self
    obtain ⟨_, _, same⟩ := List.mem_map.mp member
    cases same
  · rfl

/-- The words of a text that is rendered word by word. -/
theorem wordsOf_intercalate {items : List (String × Option Word)}
    (each : ∀ item ∈ items, Renders item.1.toList item.2)
    (calm : ∀ item ∈ items, ∀ word ∈ item.2, word.any Word.isActive = false) :
    wordsOf (" ".intercalate (items.map Prod.fst)) = some (items.filterMap Prod.snd) := by
  have rendered : ∀ item ∈ items.map fun item => (item.1.toList, item.2),
      Renders item.1 item.2 := by
    intro item member
    obtain ⟨source, listed, rfl⟩ := List.mem_map.mp member
    exact each source listed
  have read := scan_intercalate rendered
  have texts : (" ".intercalate (items.map Prod.fst)).toList =
      [' '].intercalate ((items.map fun item => (item.1.toList, item.2)).map Prod.fst) := by
    rw [String.toList_intercalate, List.map_map, List.map_map]
    rfl
  rw [wordsOf, texts, read, List.filterMap_map]
  have quiet : ∀ word ∈ items.filterMap Prod.snd, word.any Word.isActive = false := by
    intro word member
    obtain ⟨item, listed, same⟩ := List.mem_filterMap.mp member
    exact calm item listed word same
  show ((items.filterMap Prod.snd).map Token.word).mapM _ = _
  generalize items.filterMap Prod.snd = found at quiet
  induction found with
  | nil => rfl
  | cons word found ih =>
    have rest := ih fun other member => quiet other (List.mem_cons_of_mem word member)
    have own := quiet word List.mem_cons_self
    simp only [List.map_cons, List.mapM_cons, own, Bool.false_eq_true, if_false, rest]
    rfl

example : simpleCommand "A='b c' d 'e'\\''f' \"g h\" # i" =
    some { assignments := [("A", "b c")], words := ["d", "e'f", "g h"] } := by decide

end Loomterm.Shell
