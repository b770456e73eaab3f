import Loomterm.Misc.Render
import Mathlib.Data.Bool.AllAny

/-!
# Brackets and quotes

A reader of a JSON text counts the brackets that are open, and knows whether it is in a
string. The text of a value leaves it where it was; before the end of the text of an array
there is always a bracket open, so that such a text cut short is no text of a value.
-/

namespace Loomterm

/-- Inside how many brackets a reader is: between strings, in one, or behind a backslash. -/
inductive Nesting where
  | text (depth : Nat)
  | string (depth : Nat)
  | escape (depth : Nat)
  deriving DecidableEq, Repr

namespace Nesting

def depth : Nesting → Nat
  | .text depth | .string depth | .escape depth => depth

def step : Nesting → Char → Nesting
  | .text depth, c =>
      if c = '"' then .string depth
      else if c ∈ ['[', '{'] then .text (depth + 1)
      else if c ∈ [']', '}'] then .text (depth - 1)
      else .text depth
  | .string depth, c =>
      if c = '"' then .text depth
      else if c = '\\' then .escape depth
      else .string depth
  | .escape depth, _ => .string depth

/-- The reader is never in fewer than `least` brackets. -/
def Above (least : Nat) : Nesting → List Char → Prop
  | here, [] => least ≤ here.depth
  | here, c :: rest => least ≤ here.depth ∧ Above least (here.step c) rest

theorem above_append {least : Nat} {here : Nesting} {left right : List Char} :
    Above least here (left ++ right) ↔
      Above least here left ∧ Above least (left.foldl step here) right := by
  induction left generalizing here with
  | nil =>
    constructor
    · intro above
      refine ⟨?_, above⟩
      cases right with
      | nil => exact above
      | cons c rest => exact above.1
    · exact And.right
  | cons c rest ih =>
    rw [List.cons_append, Above, Above, ih, List.foldl_cons, and_assoc]

theorem Above.depth_le {least : Nat} {here : Nesting} {chars front : List Char}
    (above : Above least here chars) (start : front <+: chars) :
    least ≤ (front.foldl step here).depth := by
  obtain ⟨rest, rfl⟩ := start
  have behind := (above_append.mp above).2
  cases rest with
  | nil => exact behind
  | cons c rest => exact behind.1

end Nesting

open Nesting (step Above above_append)

/-- At the end of the text no bracket and no string is open. -/
def Balanced (text : String) : Prop := text.toList.foldl step (.text 0) = .text 0

instance (text : String) : Decidable (Balanced text) := inferInstanceAs (Decidable (_ = _))

/-- Characters without control characters that leave the brackets and strings as they are. -/
structure Nested (chars : List Char) : Prop where
  printed : ∀ c ∈ chars, 32 ≤ c.toNat
  closed : ∀ depth, chars.foldl step (.text depth) = .text depth
  above : ∀ depth, Above depth (.text depth) chars

namespace Nested

theorem nil : Nested [] where
  printed := by simp
  closed _ := rfl
  above _ := le_rfl

theorem append {left right : List Char} (first : Nested left) (second : Nested right) :
    Nested (left ++ right) where
  printed c member := (List.mem_append.mp member).elim (first.printed c) (second.printed c)
  closed depth := by rw [List.foldl_append, first.closed, second.closed]
  above depth := by
    refine above_append.mpr ⟨first.above depth, ?_⟩
    rw [first.closed]
    exact second.above depth

end Nested

/-- A character that means nothing between strings. -/
def Plain (c : Char) : Prop := 32 ≤ c.toNat ∧ c ∉ ['"', '[', '{', ']', '}']

instance (c : Char) : Decidable (Plain c) := inferInstanceAs (Decidable (_ ∧ _))

theorem step_plain {c : Char} (plain : Plain c) (depth : Nat) :
    step (.text depth) c = .text depth := by
  have other := plain.2
  simp only [List.mem_cons, List.not_mem_nil, or_false, not_or] at other
  obtain ⟨quote, bracket, brace, close, shut⟩ := other
  simp [step, quote, bracket, brace, close, shut]

theorem nested_plain {chars : List Char} (plain : ∀ c ∈ chars, Plain c) : Nested chars := by
  induction chars with
  | nil => exact .nil
  | cons c rest ih =>
    have first := plain c List.mem_cons_self
    have one : Nested [c] :=
      { printed := by simpa using first.1
        closed := step_plain first
        above := fun depth => ⟨le_rfl, (congrArg Nesting.depth (step_plain first depth)).ge⟩ }
    exact one.append (ih fun other member => plain other (List.mem_cons_of_mem _ member))

theorem nested_literal {chars : List Char} (plain : (chars.all fun c => Plain c) = true) :
    Nested chars :=
  nested_plain (List.all_iff_forall_prop.mp plain)

/-! ## Brackets -/

theorem step_opening {c : Char} (opens : c ∈ ['[', '{']) (depth : Nat) :
    step (.text depth) c = .text (depth + 1) := by
  simp only [List.mem_cons, List.not_mem_nil, or_false] at opens
  obtain rfl | rfl := opens
  · rfl
  · rfl

theorem step_closing {c : Char} (closes : c ∈ [']', '}']) (depth : Nat) :
    step (.text (depth + 1)) c = .text depth := by
  simp only [List.mem_cons, List.not_mem_nil, or_false] at closes
  obtain rfl | rfl := closes
  · rfl
  · rfl

theorem Nesting.Above.mono {least less : Nat} {here : Nesting} {chars : List Char}
    (above : Above least here chars) (le : less ≤ least) : Above less here chars := by
  induction chars generalizing here with
  | nil => exact le_trans le above
  | cons c rest ih => exact ⟨le_trans le above.1, ih above.2⟩

theorem printed_bracket {c : Char} (bracket : c ∈ ['[', '{', ']', '}']) : 32 ≤ c.toNat := by
  have all : ∀ c ∈ ['[', '{', ']', '}'], 32 ≤ c.toNat :=
    List.all_iff_forall_prop.mp (by decide)
  exact all c bracket

section

variable {chars : List Char} {opening closing : Char} (nested : Nested chars)
  (opens : opening ∈ ['[', '{']) (closes : closing ∈ [']', '}'])

include nested opens closes in
theorem Nested.bracket : Nested (opening :: chars ++ [closing]) where
  printed c member := by
    simp only [List.cons_append, List.mem_cons, List.mem_append, List.not_mem_nil, or_false]
      at member opens closes
    obtain rfl | inside | rfl := member
    · exact printed_bracket (by simp only [List.mem_cons]; tauto)
    · exact nested.printed c inside
    · exact printed_bracket (by simp only [List.mem_cons]; tauto)
  closed depth := by
    rw [List.cons_append, List.foldl_cons, step_opening opens, List.foldl_append, nested.closed]
    exact step_closing closes depth
  above depth := by
    refine ⟨le_rfl, ?_⟩
    rw [step_opening opens]
    refine above_append.mpr ⟨(nested.above (depth + 1)).mono (Nat.le_succ depth), ?_⟩
    rw [nested.closed]
    exact ⟨Nat.le_succ depth, (congrArg Nesting.depth (step_closing closes depth)).ge⟩

include nested opens in
/-- Cut short behind its first bracket, a text has a bracket open. -/
theorem Nested.open_of_start {front : List Char} (start : front <+: opening :: chars ++ [closing])
    (some : front ≠ []) (short : front ≠ opening :: chars ++ [closing]) :
    front.foldl step (.text 0) ≠ .text 0 := by
  cases front with
  | nil => exact absurd rfl some
  | cons c rest =>
    rw [List.cons_append, List.cons_prefix_cons] at start
    obtain ⟨rfl, inner⟩ := start
    rw [List.prefix_concat_iff] at inner
    obtain rfl | inside := inner
    · exact absurd rfl short
    · have deep := (nested.above 1).depth_le inside
      intro shut
      rw [List.foldl_cons, step_opening opens] at shut
      rw [shut] at deep
      exact absurd deep (by decide)

end

/-! ## Strings -/

namespace Json

/-- Characters that are read inside a string, and leave the reader there. -/
structure Quoted (chars : List Char) : Prop where
  printed : ∀ c ∈ chars, 32 ≤ c.toNat
  closed : ∀ depth, chars.foldl step (.string depth) = .string depth
  above : ∀ depth, Above depth (.string depth) chars

theorem Quoted.append {left right : List Char} (first : Quoted left) (second : Quoted right) :
    Quoted (left ++ right) where
  printed c member := (List.mem_append.mp member).elim (first.printed c) (second.printed c)
  closed depth := by rw [List.foldl_append, first.closed, second.closed]
  above depth := by
    refine above_append.mpr ⟨first.above depth, ?_⟩
    rw [first.closed]
    exact second.above depth

theorem quoted_char {c : Char} (printed : 32 ≤ c.toNat) (quote : c ≠ '"') (back : c ≠ '\\') :
    Quoted [c] where
  printed := by simpa using printed
  closed depth := by simp [step, quote, back]
  above depth := by simp [Above, step, quote, back, Nesting.depth]

/-- A backslash and a character behind it. -/
theorem quoted_pair {c : Char} (printed : 32 ≤ c.toNat) : Quoted ['\\', c] where
  printed := by simpa using printed
  closed depth := rfl
  above depth := ⟨le_rfl, le_rfl, le_rfl⟩

theorem quoted_escape (c : Char) : Quoted (escape c).toList := by
  unfold escape
  split
  case h_8 =>
    rename_i backspace tab newline feed ret quote back
    split
    · rename_i small
      have digits : ∀ n < 32, Quoted [Nat.digitChar (n / 16)] ∧ Quoted [Nat.digitChar (n % 16)] := by
        have all : ∀ n < 16, 32 ≤ (Nat.digitChar n).toNat ∧ Nat.digitChar n ≠ '"' ∧
            Nat.digitChar n ≠ '\\' := by decide
        intro n bound
        have high := all (n / 16) (by omega)
        have low := all (n % 16) (by omega)
        exact ⟨quoted_char high.1 high.2.1 high.2.2, quoted_char low.1 low.2.1 low.2.2⟩
      have zero : Quoted ['0'] := quoted_char (by decide) (by decide) (by decide)
      have front : Quoted "\\u00".toList :=
        (quoted_pair (by decide)).append (zero.append zero)
      simpa using (front.append (digits _ small).1).append (digits _ small).2
    · rename_i large
      rw [String.toList_singleton]
      refine quoted_char (Nat.not_lt.mp large) ?_ ?_
      · intro same
        exact quote (congrArg Char.toNat same)
      · intro same
        exact back (congrArg Char.toNat same)
  all_goals exact quoted_pair (by decide)

theorem nested_quoted (text : String) : Nested (quoted text).toList := by
  have inner : Quoted (escapeAll text.toList).toList := by
    unfold escapeAll
    induction text.toList with
    | nil => exact ⟨List.forall_mem_nil _, fun _ => rfl, fun _ => le_rfl⟩
    | cons c rest ih =>
      rw [List.map_cons, String.join_cons, String.toList_append]
      exact (quoted_escape c).append ih
  have whole : (quoted text).toList = '"' :: ((escapeAll text.toList).toList ++ ['"']) := by
    simp [quoted]
  rw [whole]
  refine ⟨?_, fun depth => ?_, fun depth => ⟨le_rfl, above_append.mpr ⟨inner.above depth, ?_⟩⟩⟩
  · intro c member
    simp only [List.mem_cons, List.mem_append, List.not_mem_nil, or_false] at member
    obtain rfl | inside | rfl := member
    · decide
    · exact inner.printed c inside
    · decide
  · rw [List.foldl_cons, List.foldl_append]
    show ['"'].foldl step ((escapeAll text.toList).toList.foldl step (.string depth)) = _
    rw [inner.closed]
    rfl
  · show Above depth ((escapeAll text.toList).toList.foldl step (.string depth)) ['"']
    rw [inner.closed]
    exact ⟨le_rfl, le_rfl⟩

/-! ## Values -/

theorem plain_of_isDigit {c : Char} (digit : c.isDigit = true) : Plain c := by
  constructor
  · simp only [Char.isDigit, Bool.and_eq_true, decide_eq_true_eq] at digit
    have low : 48 ≤ c.toNat := digit.1
    omega
  · intro member
    simp only [List.mem_cons, List.not_mem_nil, or_false] at member
    obtain rfl | rfl | rfl | rfl | rfl := member
    all_goals exact absurd digit (by decide)

theorem nested_number (value : Int) : Nested (toString value).toList := by
  have natural : ∀ n : Nat, Nested n.repr.toList := by
    intro n
    refine nested_plain fun c member => ?_
    rw [Nat.toList_repr] at member
    exact plain_of_isDigit (Nat.isDigit_of_mem_toDigits (by decide) (by decide) member)
  cases value with
  | ofNat n => exact natural n
  | negSucc n =>
    have minus : Nested "-".toList := nested_literal (by decide)
    have whole : (toString (Int.negSucc n)).toList = "-".toList ++ (n + 1).repr.toList := by
      rw [← String.toList_append]
      rfl
    rw [whole]
    exact minus.append (natural (n + 1))

theorem nested_intercalate {texts : List String} (nested : ∀ text ∈ texts, Nested text.toList) :
    Nested (",".intercalate texts).toList := by
  induction texts with
  | nil => exact .nil
  | cons text rest ih =>
    have first := nested text List.mem_cons_self
    by_cases last : rest = []
    · simpa [last] using first
    · have others := ih fun other member => nested other (List.mem_cons_of_mem _ member)
      have comma : Nested ",".toList := nested_literal (by decide)
      rw [String.intercalate_cons_of_ne_nil last, String.toList_append, String.toList_append]
      exact (first.append comma).append others

/-- The text of a float is made of digits and the like. -/
def PlainFloats (float : UInt64 → String) : Prop := ∀ bits, ∀ c ∈ (float bits).toList, Plain c

section

variable {float : UInt64 → String}

mutual

/-- The text of a value has its brackets and strings closed, and no line breaks. -/
theorem nested_render (plain : PlainFloats float) : ∀ value : Json, Nested (render float value).toList
  | .null => show Nested "null".toList from nested_literal (by decide)
  | .bool true => show Nested "true".toList from nested_literal (by decide)
  | .bool false => show Nested "false".toList from nested_literal (by decide)
  | .number value => nested_number value
  | .float bits => nested_plain (plain bits)
  | .string text => nested_quoted text
  | .array values => by
      have inner := nested_intercalate (nested_renderValues plain values)
      have whole : (render float (.array values)).toList =
          '[' :: (",".intercalate (renderValues float values)).toList ++ [']'] := by
        simp [render]
      rw [whole]
      exact inner.bracket (by decide) (by decide)
  | .object fields => by
      have inner := nested_intercalate (nested_renderFields plain fields)
      have whole : (render float (.object fields)).toList =
          '{' :: (",".intercalate (renderFields float fields)).toList ++ ['}'] := by
        simp [render]
      rw [whole]
      exact inner.bracket (by decide) (by decide)

theorem nested_renderValues (plain : PlainFloats float) : ∀ values : List Json,
    ∀ text ∈ renderValues float values, Nested text.toList
  | [] => by simp [renderValues]
  | value :: rest => by
      intro text member
      obtain rfl | later := List.mem_cons.mp member
      · exact nested_render plain value
      · exact nested_renderValues plain rest text later

theorem nested_renderFields (plain : PlainFloats float) : ∀ fields : List (String × Json),
    ∀ text ∈ renderFields float fields, Nested text.toList
  | [] => by simp [renderFields]
  | (key, value) :: rest => by
      intro text member
      obtain rfl | later := List.mem_cons.mp member
      · have colon : Nested ":".toList := nested_literal (by decide)
        rw [String.toList_append, String.toList_append]
        exact ((nested_quoted key).append colon).append (nested_render plain value)
      · exact nested_renderFields plain rest text later

end

/-- The text of an array that is cut short is no text of a value. -/
theorem not_balanced_of_start (plain : PlainFloats float) {values : List Json} {front : String}
    (start : front.toList <+: (render float (.array values)).toList) (some : front ≠ "")
    (short : front ≠ render float (.array values)) : ¬ Balanced front := by
  have inner := nested_intercalate (nested_renderValues plain values)
  have whole : (render float (.array values)).toList =
      '[' :: (",".intercalate (renderValues float values)).toList ++ [']'] := by
    simp [render]
  rw [← String.toList_inj.ne] at short
  rw [whole] at start short
  refine inner.open_of_start (by decide) start ?_ short
  rwa [← String.toList_inj.ne] at some

/-- The text of a value is one line. -/
theorem unbroken_render (plain : PlainFloats float) (value : Json) :
    '\n' ∉ (render float value).toList ∧ '\r' ∉ (render float value).toList := by
  have printed := (nested_render plain value).printed
  constructor
  · intro member
    exact absurd (printed _ member) (by decide)
  · intro member
    exact absurd (printed _ member) (by decide)

end

end Json

end Loomterm
