import Mathlib.Algebra.Order.Ring.Int
import Mathlib.Data.List.Basic
import Mathlib.Tactic.Common

/-!
# Replacing patterns in a text

Two ways to replace the patterns of several rules in a text. `replace` replaces the
occurrences of one pattern, left to right; `replaceEach` does this for one rule after the
other, each in the text that the rules before it left. `segments` looks at the text once
and takes, at every place, the longest pattern that stands there.

`replaceEach_eq` says when both come to the same: each pattern, when its turn comes, stands
only where `segments` takes it.
-/

namespace Loomterm

/-- A pattern and what stands in its place. -/
structure Rule (α : Type*) where
  pattern : List α
  marker : List α
  deriving DecidableEq, Repr

namespace Rule

variable {α : Type*} [DecidableEq α]

/-! ## One pattern -/

/-- Replaces the pattern behind the next `skip` items, which belong to an occurrence. -/
def replaceFrom (rule : Rule α) : Nat → List α → List α
  | _, [] => []
  | skip + 1, _ :: rest => replaceFrom rule skip rest
  | 0, a :: rest =>
      if rule.pattern <+: a :: rest then
        rule.marker ++ replaceFrom rule (rule.pattern.length - 1) rest
      else a :: replaceFrom rule 0 rest

/-- Replaces every occurrence of a pattern that is not empty, left to right. -/
def replace (rule : Rule α) (text : List α) : List α := rule.replaceFrom 0 text

theorem replaceFrom_eq (rule : Rule α) (skip : Nat) (text : List α) :
    rule.replaceFrom skip text = rule.replace (text.drop skip) := by
  induction text generalizing skip with
  | nil => cases skip <;> simp [replaceFrom, replace]
  | cons a rest ih =>
    cases skip with
    | zero => rfl
    | succ skip => simpa [replaceFrom] using ih skip

/-- An occurrence at the front is replaced. -/
theorem replace_front {rule : Rule α} (some : rule.pattern ≠ []) (rest : List α) :
    rule.replace (rule.pattern ++ rest) = rule.marker ++ rule.replace rest := by
  obtain ⟨a, tail, whole⟩ := List.exists_cons_of_ne_nil some
  have front : rule.pattern <+: a :: (tail ++ rest) := ⟨rest, by rw [whole]; rfl⟩
  calc rule.replace (rule.pattern ++ rest) = rule.replaceFrom 0 (a :: (tail ++ rest)) := by
        rw [whole]
        rfl
    _ = rule.marker ++ rule.replaceFrom (rule.pattern.length - 1) (tail ++ rest) := by
        rw [replaceFrom, if_pos front]
    _ = rule.marker ++ rule.replace rest := by
        rw [replaceFrom_eq, whole]
        simp

/-- Items at which no occurrence starts stay. -/
theorem replace_append {rule : Rule α} {front rest : List α}
    (clear : ∀ k < front.length, ¬ rule.pattern <+: (front ++ rest).drop k) :
    rule.replace (front ++ rest) = front ++ rule.replace rest := by
  induction front with
  | nil => rfl
  | cons a front ih =>
    have none : ¬ rule.pattern <+: a :: (front ++ rest) := clear 0 (by simp)
    have later : rule.replace (front ++ rest) = front ++ rule.replace rest := by
      refine ih fun k bound => ?_
      have shifted := clear (k + 1) (by simpa using bound)
      simpa using shifted
    calc rule.replace (a :: front ++ rest) = a :: rule.replace (front ++ rest) := if_neg none
      _ = a :: front ++ rule.replace rest := by rw [later, List.cons_append]

/-- Where the pattern stands nowhere, the text stays. -/
theorem replace_absent {rule : Rule α} {text : List α} (absent : ¬ rule.pattern <:+: text) :
    rule.replace text = text := by
  induction text with
  | nil => rfl
  | cons a rest ih =>
    have front : ¬ rule.pattern <+: a :: rest := fun front => absent front.isInfix
    have later : ¬ rule.pattern <:+: rest := fun later =>
      absent (later.trans (List.suffix_cons a rest).isInfix)
    calc rule.replace (a :: rest) = a :: rule.replace rest := if_neg front
      _ = a :: rest := by rw [ih later]

/-- Where the pattern stands, its marker stands afterwards. -/
theorem marker_of_present {rule : Rule α} {text : List α} (some : rule.pattern ≠ [])
    (present : rule.pattern <:+: text) : rule.marker <:+: rule.replace text := by
  induction text with
  | nil => exact absurd (List.infix_nil.mp present) some
  | cons a rest ih =>
    by_cases front : rule.pattern <+: a :: rest
    · obtain ⟨behind, whole⟩ := front
      rw [← whole, replace_front some]
      exact (List.prefix_append _ _).isInfix
    · have later : rule.pattern <:+: rest :=
        (List.infix_cons_iff.mp present).resolve_left front
      have kept : rule.replace (a :: rest) = a :: rule.replace rest := if_neg front
      rw [kept]
      exact (ih later).trans (List.suffix_cons a _).isInfix

/-- One rule after the other, each in the text that the ones before it left. -/
def replaceEach (rules : List (Rule α)) (text : List α) : List α :=
  rules.foldl (fun text rule => rule.replace text) text

/-! ## All patterns at once -/

/-- The choice of the longest pattern, one more rule: of two that are equally long the
later one. -/
def better (best : Option (Rule α)) (rule : Rule α) : Option (Rule α) :=
  match best with
  | some other => if other.pattern.length ≤ rule.pattern.length then some rule else best
  | none => some rule

/-- The longest pattern that stands at the front of the text. -/
def longest (rules : List (Rule α)) (text : List α) : Option (Rule α) :=
  (rules.filter fun rule => rule.pattern ≠ [] ∧ rule.pattern <+: text).foldl better none

/-- A piece of a text: an item that stays, or an occurrence that a rule replaces. -/
inductive Segment (α : Type*) where
  | gap (a : α)
  | hit (rule : Rule α)
  deriving DecidableEq, Repr

/-- Looks for patterns behind the next `skip` items, which belong to an occurrence. -/
def segmentsFrom (rules : List (Rule α)) : Nat → List α → List (Segment α)
  | _, [] => []
  | skip + 1, _ :: rest => segmentsFrom rules skip rest
  | 0, a :: rest =>
      match longest rules (a :: rest) with
      | some rule => .hit rule :: segmentsFrom rules (rule.pattern.length - 1) rest
      | none => .gap a :: segmentsFrom rules 0 rest

/-- The leftmost longest occurrences in the text, and the items between them. -/
def segments (rules : List (Rule α)) (text : List α) : List (Segment α) :=
  segmentsFrom rules 0 text

/-- The text of a piece once the rules in `done` have been applied. -/
def Segment.shown (done : List (Rule α)) : Segment α → List α
  | .gap a => [a]
  | .hit rule => if rule ∈ done then rule.marker else rule.pattern

/-- The text once the rules in `done` have been applied to their occurrences. -/
def shown (done : List (Rule α)) (pieces : List (Segment α)) : List α :=
  pieces.flatMap (Segment.shown done)

/-- Replaces the leftmost longest occurrences of all patterns. -/
def replaceLongest (rules : List (Rule α)) (text : List α) : List α :=
  shown rules (segments rules text)

@[simp] theorem shown_cons (done : List (Rule α)) (piece : Segment α)
    (rest : List (Segment α)) :
    shown done (piece :: rest) = piece.shown done ++ shown done rest := rfl

/-- What the choice keeps of the rules it has seen. -/
def Best (seen : List (Rule α)) : Option (Rule α) → Prop
  | none => seen = []
  | some rule => rule ∈ seen ∧ ∀ other ∈ seen, other.pattern.length ≤ rule.pattern.length

omit [DecidableEq α] in
theorem better_best {seen : List (Rule α)} {best : Option (Rule α)} (rule : Rule α)
    (kept : Best seen best) : Best (seen ++ [rule]) (better best rule) := by
  cases best with
  | none =>
    have empty : seen = [] := kept
    simp [better, Best, empty]
  | some other =>
    obtain ⟨member, longer⟩ := kept
    by_cases order : other.pattern.length ≤ rule.pattern.length
    · have bound : ∀ third ∈ seen, third.pattern.length ≤ rule.pattern.length :=
        fun third inside => Nat.le_trans (longer third inside) order
      simp only [better, if_pos order, Best, List.mem_append, List.mem_singleton]
      refine ⟨by simp, ?_⟩
      rintro third (inside | rfl)
      · exact bound third inside
      · exact Nat.le_refl _
    · have shorter : rule.pattern.length ≤ other.pattern.length := by omega
      simp only [better, if_neg order, Best, List.mem_append, List.mem_singleton]
      refine ⟨Or.inl member, ?_⟩
      rintro third (inside | rfl)
      · exact longer third inside
      · exact shorter

omit [DecidableEq α] in
theorem foldl_better_best (rules : List (Rule α)) {seen : List (Rule α)}
    {best : Option (Rule α)} (kept : Best seen best) :
    Best (seen ++ rules) (rules.foldl better best) := by
  induction rules generalizing seen best with
  | nil => simpa using kept
  | cons rule rules ih => simpa using ih (better_best rule kept)

theorem longest_best (rules : List (Rule α)) (text : List α) :
    Best (rules.filter fun rule => rule.pattern ≠ [] ∧ rule.pattern <+: text)
      (longest rules text) := by
  have start : Best ([] : List (Rule α)) none := rfl
  exact foldl_better_best _ start

theorem longest_eq_some {rules : List (Rule α)} {text : List α} {rule : Rule α}
    (found : longest rules text = some rule) :
    rule ∈ rules ∧ rule.pattern ≠ [] ∧ rule.pattern <+: text ∧
      ∀ other ∈ rules, other.pattern <+: text → other.pattern.length ≤ rule.pattern.length := by
  have best := longest_best rules text
  rw [found] at best
  obtain ⟨member, most⟩ := best
  simp only [List.mem_filter, decide_eq_true_eq] at member most
  obtain ⟨inside, some, here⟩ := member
  refine ⟨inside, some, here, fun other among stands => ?_⟩
  by_cases empty : other.pattern = []
  · simp [empty]
  · exact most other ⟨among, empty, stands⟩

theorem longest_eq_none {rules : List (Rule α)} {text : List α}
    (nothing : longest rules text = none) :
    ∀ rule ∈ rules, rule.pattern ≠ [] → ¬ rule.pattern <+: text := by
  have best := longest_best rules text
  rw [nothing] at best
  have empty := List.filter_eq_nil_iff.mp best
  intro rule member some stands
  exact empty rule member (by simpa using ⟨some, stands⟩)

omit [DecidableEq α] in
/-- Which of the two a choice looks at first plays no role, where equally long patterns
belong to one rule. -/
theorem better_comm {first second : Rule α} (best : Option (Rule α))
    (same : first.pattern.length = second.pattern.length → first = second) :
    better (better best first) second = better (better best second) first := by
  have split : first.pattern.length = second.pattern.length ∧ first = second ∨
      first.pattern.length < second.pattern.length ∨
      second.pattern.length < first.pattern.length := by
    rcases Nat.lt_trichotomy first.pattern.length second.pattern.length with less | equal | more
    · exact .inr (.inl less)
    · exact .inl ⟨equal, same equal⟩
    · exact .inr (.inr more)
  obtain ⟨-, rfl⟩ | order := split
  · rfl
  · cases best with
    | none => grind [better]
    | some other => grind [better]

/-- The order of the rules after `front` plays no role when they share their marker. -/
theorem longest_perm (front : List (Rule α)) {rules rules' : List (Rule α)} (text : List α)
    (marked : ∀ rule ∈ rules, ∀ other ∈ rules, rule.marker = other.marker)
    (perm : rules.Perm rules') :
    longest (front ++ rules) text = longest (front ++ rules') text := by
  simp only [longest, List.filter_append, List.foldl_append]
  apply (perm.filter _).foldl_eq'
  intro first here second there best
  simp only [List.mem_filter, decide_eq_true_eq] at here there
  refine better_comm best fun long => ?_
  have equal : first.pattern = second.pattern :=
    (List.prefix_of_prefix_length_le here.2.2 there.2.2 (by omega)).eq_of_length long
  cases first
  cases second
  simpa using ⟨equal, marked _ here.1 _ there.1⟩

theorem segmentsFrom_eq (rules : List (Rule α)) (skip : Nat) (text : List α) :
    segmentsFrom rules skip text = segments rules (text.drop skip) := by
  induction text generalizing skip with
  | nil => cases skip <;> simp [segmentsFrom, segments]
  | cons a rest ih =>
    cases skip with
    | zero => rfl
    | succ skip => simpa [segmentsFrom] using ih skip

theorem segments_gap {rules : List (Rule α)} {a : α} {rest : List α}
    (none : longest rules (a :: rest) = none) :
    segments rules (a :: rest) = .gap a :: segments rules rest := by
  simp [segments, segmentsFrom, none]

theorem segments_hit {rules : List (Rule α)} {rule : Rule α} {rest : List α}
    (found : longest rules (rule.pattern ++ rest) = some rule) :
    segments rules (rule.pattern ++ rest) = .hit rule :: segments rules rest := by
  obtain ⟨-, some, -, -⟩ := longest_eq_some found
  obtain ⟨a, tail, whole⟩ := List.exists_cons_of_ne_nil some
  rw [whole, List.cons_append] at found
  have behind : (tail ++ rest).drop (rule.pattern.length - 1) = rest := by simp [whole]
  calc segments rules (rule.pattern ++ rest)
      = segmentsFrom rules 0 (a :: (tail ++ rest)) := by rw [whole]; rfl
    _ = .hit rule :: segmentsFrom rules (rule.pattern.length - 1) (tail ++ rest) := by
        rw [segmentsFrom, found]
    _ = .hit rule :: segments rules rest := by rw [segmentsFrom_eq, behind]

/-- The pieces depend on the rules only through the longest pattern at each place. -/
theorem segments_congr {rules rules' : List (Rule α)}
    (same : ∀ text, longest rules text = longest rules' text) (text : List α) :
    segments rules text = segments rules' text := by
  have from_any : ∀ skip, segmentsFrom rules skip text = segmentsFrom rules' skip text := by
    induction text with
    | nil => intro skip; cases skip <;> rfl
    | cons a rest ih =>
      intro skip
      cases skip with
      | zero => simp only [segmentsFrom, same, ih]
      | succ skip => exact ih skip
  exact from_any 0

/-- The rule of a piece. -/
def Segment.rule? : Segment α → Option (Rule α)
  | .gap _ => none
  | .hit rule => some rule

/-- The pieces of a text one after the other: each is what stands at its place. -/
theorem segments_induction (rules : List (Rule α)) {motive : List α → Prop}
    (nil : motive [])
    (gap : ∀ a rest, longest rules (a :: rest) = none → motive rest → motive (a :: rest))
    (hit : ∀ rule rest, longest rules (rule.pattern ++ rest) = some rule → motive rest →
      motive (rule.pattern ++ rest))
    (text : List α) : motive text := by
  induction long : text.length using Nat.strongRecOn generalizing text with
  | ind length ih =>
    cases text with
    | nil => exact nil
    | cons a rest =>
      cases found : longest rules (a :: rest) with
      | none => exact gap a rest found (ih rest.length (by simp at long; omega) rest rfl)
      | some rule =>
        obtain ⟨-, some, ⟨behind, whole⟩, -⟩ := longest_eq_some found
        have positive : 0 < rule.pattern.length := List.length_pos_iff.mpr some
        have shorter : behind.length < length := by
          have sum := congrArg List.length whole
          simp at sum long
          omega
        rw [← whole] at found ⊢
        exact hit rule behind found (ih _ shorter behind rfl)

/-- The text is made of its pieces. -/
theorem shown_nil_segments (rules : List (Rule α)) (text : List α) :
    shown [] (segments rules text) = text := by
  induction text using segments_induction rules with
  | nil => rfl
  | gap a rest none ih => rw [segments_gap none, shown_cons, ih]; rfl
  | hit rule rest found ih => rw [segments_hit found, shown_cons, ih]; simp [Segment.shown]

/-- Where a piece begins, its rule is the longest one that stands there. -/
theorem longest_of_segments {rules : List (Rule α)} {text : List α}
    {before after : List (Segment α)} {piece : Segment α}
    (split : segments rules text = before ++ piece :: after) :
    longest rules (shown [] (piece :: after)) = piece.rule? := by
  induction text using segments_induction rules generalizing before with
  | nil => simp [segments, segmentsFrom] at split
  | gap a rest none ih =>
    rw [segments_gap none] at split
    cases before with
    | nil =>
      obtain ⟨rfl, rfl⟩ := List.cons.inj split
      rw [shown_cons, shown_nil_segments]
      exact none
    | cons first before => exact ih (List.cons.inj split).2
  | hit rule rest found ih =>
    rw [segments_hit found] at split
    cases before with
    | nil =>
      obtain ⟨rfl, rfl⟩ := List.cons.inj split
      rw [shown_cons, shown_nil_segments]
      simpa [Segment.shown, Segment.rule?] using found
    | cons first before => exact ih (List.cons.inj split).2

/-- Only rules of the list replace something. -/
theorem rule_mem_of_hit {rules : List (Rule α)} {text : List α} {rule : Rule α}
    (member : .hit rule ∈ segments rules text) : rule ∈ rules ∧ rule.pattern ≠ [] := by
  obtain ⟨before, after, split⟩ := List.append_of_mem member
  have found := longest_eq_some (longest_of_segments split)
  exact ⟨found.1, found.2.1⟩

/-! ## What is left of a pattern -/

omit [DecidableEq α] in
/-- A text without an item of the pattern in front of another text. -/
theorem infix_of_foreign {pattern front rest : List α} (some : pattern ≠ [])
    (foreign : ∀ a ∈ pattern, a ∉ front) (present : pattern <:+: front ++ rest) :
    pattern <:+: rest := by
  induction front with
  | nil => exact present
  | cons a front ih =>
    have fewer : ∀ b ∈ pattern, b ∉ front :=
      fun b inside later => foreign b inside (List.mem_cons_of_mem _ later)
    obtain here | later := List.infix_cons_iff.mp present
    · obtain ⟨b, tail, rfl⟩ := List.exists_cons_of_ne_nil some
      obtain ⟨rfl, -⟩ := List.cons_prefix_cons.mp here
      exact absurd List.mem_cons_self (foreign b List.mem_cons_self)
    · exact ih fewer later

/-- A pattern foreign to the markers that stands in front afterwards stood there before. -/
theorem prefix_of_replaced {rules : List (Rule α)} {pattern text : List α}
    (marked : ∀ rule ∈ rules, rule.marker ≠ [])
    (foreign : ∀ rule ∈ rules, ∀ a ∈ pattern, a ∉ rule.marker)
    (present : pattern <+: replaceLongest rules text) : pattern <+: text := by
  unfold replaceLongest at present
  induction text using segments_induction rules generalizing pattern with
  | nil => simpa [segments, segmentsFrom, shown] using present
  | gap a rest none ih =>
    rw [segments_gap none, shown_cons] at present
    cases pattern with
    | nil => exact List.nil_prefix
    | cons b tail =>
      obtain ⟨rfl, behind⟩ := List.cons_prefix_cons.mp present
      have later := ih (fun rule member c inside =>
        foreign rule member c (List.mem_cons_of_mem _ inside)) behind
      exact List.cons_prefix_cons.mpr ⟨rfl, later⟩
  | hit rule rest found ih =>
    obtain ⟨member, -, -, -⟩ := longest_eq_some found
    have replaced : Segment.shown rules (.hit rule) = rule.marker := if_pos member
    rw [segments_hit found, shown_cons, replaced] at present
    cases pattern with
    | nil => exact List.nil_prefix
    | cons b tail =>
      obtain ⟨c, marker, whole⟩ := List.exists_cons_of_ne_nil (marked rule member)
      rw [whole] at present
      obtain ⟨rfl, -⟩ := List.cons_prefix_cons.mp present
      have own : b ∈ rule.marker := by simp [whole]
      exact absurd own (foreign rule member b List.mem_cons_self)

/-- Where no marker is empty, a pattern foreign to the markers stands nowhere afterwards. -/
theorem absent_of_foreign {rules : List (Rule α)} {rule : Rule α}
    (marked : ∀ rule ∈ rules, rule.marker ≠ []) (member : rule ∈ rules)
    (some : rule.pattern ≠ [])
    (foreign : ∀ other ∈ rules, ∀ a ∈ rule.pattern, a ∉ other.marker) (text : List α) :
    ¬ rule.pattern <:+: replaceLongest rules text := by
  intro present
  induction text using segments_induction rules with
  | nil => exact some (by simpa [replaceLongest, segments, segmentsFrom, shown] using present)
  | gap a rest none ih =>
    have step : replaceLongest rules (a :: rest) = a :: replaceLongest rules rest := by
      rw [replaceLongest, segments_gap none]
      rfl
    rw [step] at present
    obtain here | later := List.infix_cons_iff.mp present
    · rw [← step] at here
      exact longest_eq_none none rule member some (prefix_of_replaced marked foreign here)
    · exact ih later
  | hit other rest found ih =>
    obtain ⟨inside, -, -, -⟩ := longest_eq_some found
    have replaced : Segment.shown rules (.hit other) = other.marker := if_pos inside
    rw [replaceLongest, segments_hit found, shown_cons, replaced] at present
    exact ih (infix_of_foreign some (foreign other inside) present)

/-! ## One rule after the other against all at once -/

/-- In the text in which the rules of `done` stand replaced, the rule's pattern begins
nowhere but at the pieces that are the rule's own. -/
def ClearOf (rule : Rule α) (done : List (Rule α)) : List (Segment α) → Prop
  | [] => True
  | piece :: rest =>
      (rule ∉ done ∧ piece = .hit rule ∨
        ∀ k < (piece.shown done).length,
          ¬ rule.pattern <+: (piece.shown done ++ shown done rest).drop k) ∧
      ClearOf rule done rest

/-- Each rule, when its turn comes, begins nowhere but at its own pieces; a rule that puts
its pattern in its pattern's place may stand anywhere. -/
def Unmixed (pieces : List (Segment α)) : List (Rule α) → List (Rule α) → Prop
  | _, [] => True
  | done, rule :: rules =>
      (rule.marker = rule.pattern ∨ ClearOf rule done pieces) ∧
        Unmixed pieces (done ++ [rule]) rules

instance decidableClearOf (rule : Rule α) (done : List (Rule α)) :
    (pieces : List (Segment α)) → Decidable (ClearOf rule done pieces)
  | [] => .isTrue trivial
  | _ :: rest =>
      have := decidableClearOf rule done rest
      inferInstanceAs (Decidable (_ ∧ _))

instance decidableUnmixed (pieces : List (Segment α)) :
    (done rules : List (Rule α)) → Decidable (Unmixed pieces done rules)
  | _, [] => .isTrue trivial
  | done, rule :: rules =>
      have := decidableUnmixed pieces (done ++ [rule]) rules
      inferInstanceAs (Decidable (_ ∧ _))

/-- A piece in which the rule's pattern does not begin is not one of its own. -/
theorem shown_apart {rule : Rule α} {done : List (Rule α)} {piece : Segment α}
    {rest : List α} (some : rule.pattern ≠ [])
    (apart : ∀ k < (piece.shown done).length,
      ¬ rule.pattern <+: (piece.shown done ++ rest).drop k) :
    piece.shown (done ++ [rule]) = piece.shown done := by
  cases piece with
  | gap a => rfl
  | hit other =>
    by_cases old : other ∈ done
    · simp [Segment.shown, old]
    · have foreign : other ≠ rule := by
        rintro rfl
        have positive : 0 < other.pattern.length := List.length_pos_iff.mpr some
        have none := apart 0 (by simpa [Segment.shown, old] using positive)
        simp [Segment.shown, old] at none
      simp [Segment.shown, old, foreign]

/-- A rule whose turn comes replaces its own pieces, and nothing else. -/
theorem replace_shown {rule : Rule α} {done : List (Rule α)} {pieces : List (Segment α)}
    (some : rule.pattern ≠ []) (clear : ClearOf rule done pieces) :
    rule.replace (shown done pieces) = shown (done ++ [rule]) pieces := by
  induction pieces with
  | nil => rfl
  | cons piece rest ih =>
    obtain ⟨here, later⟩ := clear
    have behind := ih later
    obtain ⟨fresh, rfl⟩ | apart := here
    · have before : Segment.shown done (.hit rule) = rule.pattern := if_neg fresh
      have after : Segment.shown (done ++ [rule]) (.hit rule) = rule.marker := if_pos (by simp)
      rw [shown_cons, shown_cons, before, after, replace_front some, behind]
    · rw [shown_cons, shown_cons, shown_apart some apart, replace_append apart, behind]

/-- A rule that puts its pattern in its pattern's place changes no text. -/
theorem replace_self {rule : Rule α} (self : rule.marker = rule.pattern)
    (some : rule.pattern ≠ []) (text : List α) : rule.replace text = text := by
  induction long : text.length using Nat.strongRecOn generalizing text with
  | ind length ih =>
    cases text with
    | nil => rfl
    | cons a rest =>
      by_cases front : rule.pattern <+: a :: rest
      · obtain ⟨behind, whole⟩ := front
        have positive : 0 < rule.pattern.length := List.length_pos_iff.mpr some
        have shorter : behind.length < length := by
          have sum := congrArg List.length whole
          simp at sum long
          omega
        rw [← whole, replace_front some, self, ih _ shorter behind rfl]
      · have later := ih rest.length (by simp at long; omega) rest rfl
        calc rule.replace (a :: rest) = a :: rule.replace rest := if_neg front
          _ = a :: rest := by rw [later]

theorem shown_self {rule : Rule α} (self : rule.marker = rule.pattern)
    (done : List (Rule α)) (pieces : List (Segment α)) :
    shown (done ++ [rule]) pieces = shown done pieces := by
  have same : ∀ piece, Segment.shown (done ++ [rule]) piece = Segment.shown done piece := by
    intro piece
    cases piece with
    | gap a => rfl
    | hit other =>
      by_cases own : other = rule
      · simp [Segment.shown, own, self]
      · simp [Segment.shown, own]
  exact congrArg (List.flatMap · pieces) (funext same)

theorem replaceEach_shown {rules done : List (Rule α)} {pieces : List (Segment α)}
    (some : ∀ rule ∈ rules, rule.pattern ≠ []) (unmixed : Unmixed pieces done rules) :
    replaceEach rules (shown done pieces) = shown (done ++ rules) pieces := by
  induction rules generalizing done with
  | nil => simp [replaceEach]
  | cons rule rules ih =>
    obtain ⟨clear, later⟩ := unmixed
    have nonempty : rule.pattern ≠ [] := some rule (by simp)
    have first : rule.replace (shown done pieces) = shown (done ++ [rule]) pieces := by
      obtain self | clear := clear
      · rw [replace_self self nonempty, shown_self self]
      · exact replace_shown nonempty clear
    have others := ih (fun other member => some other (by simp [member])) later
    calc replaceEach (rule :: rules) (shown done pieces)
        = replaceEach rules (rule.replace (shown done pieces)) := rfl
      _ = shown (done ++ [rule] ++ rules) pieces := by rw [first, others]
      _ = shown (done ++ rule :: rules) pieces := by simp

/-- Where no rule meets anything but its own pieces, the rules may be applied one after the
other. -/
theorem replaceEach_eq {rules : List (Rule α)} {text : List α}
    (some : ∀ rule ∈ rules, rule.pattern ≠ [])
    (unmixed : Unmixed (segments rules text) [] rules) :
    replaceEach rules text = replaceLongest rules text := by
  have together := replaceEach_shown some unmixed
  rwa [shown_nil_segments] at together

/-- Replacing all patterns at once does not depend on the order of the rules after
`front` that share their marker. -/
theorem replaceLongest_perm (front : List (Rule α)) {rules rules' : List (Rule α)}
    (text : List α) (marked : ∀ rule ∈ rules, ∀ other ∈ rules, rule.marker = other.marker)
    (perm : rules.Perm rules') :
    replaceLongest (front ++ rules) text = replaceLongest (front ++ rules') text := by
  have pieces : segments (front ++ rules) text = segments (front ++ rules') text :=
    segments_congr (fun text => longest_perm front text marked perm) text
  have members : ∀ piece, Segment.shown (front ++ rules) piece =
      Segment.shown (front ++ rules') piece := by
    intro piece
    cases piece with
    | gap a => rfl
    | hit rule => simp [Segment.shown, perm.mem_iff]
  rw [replaceLongest, replaceLongest, pieces, shown, shown]
  exact congrArg (List.flatMap · _) (funext members)

end Rule

end Loomterm
