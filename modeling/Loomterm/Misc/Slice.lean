import Mathlib.Algebra.Order.Ring.Int
import Mathlib.Tactic.Common

/-!
# Texts by their bytes

A text as a list of characters, addressed by the bytes of its encoding as `str` is. A slice
is `none` where the code would panic: beyond the text, backwards, or off a character
boundary.
-/

namespace Loomterm

/-- `str::len`. -/
def byteLength (text : List Char) : Nat := (text.map Char.utf8Size).sum

/-- `text[n..]`. -/
def dropBytes : Nat → List Char → Option (List Char)
  | 0, text => some text
  | _ + 1, [] => none
  | n + 1, c :: rest => if c.utf8Size ≤ n + 1 then dropBytes (n + 1 - c.utf8Size) rest else none

/-- `text[..n]`. -/
def takeBytes : Nat → List Char → Option (List Char)
  | 0, _ => some []
  | _ + 1, [] => none
  | n + 1, c :: rest =>
      if c.utf8Size ≤ n + 1 then (takeBytes (n + 1 - c.utf8Size) rest).map (c :: ·) else none

/-- `text[start..stop]`. -/
def sliceBytes (text : List Char) (start stop : Nat) : Option (List Char) :=
  if start ≤ stop then (dropBytes start text).bind (takeBytes (stop - start)) else none

example : sliceBytes ['é', 'a'] 2 3 = some ['a'] ∧ sliceBytes ['é', 'a'] 1 3 = none := by decide

@[simp] theorem byteLength_nil : byteLength [] = 0 := rfl

@[simp] theorem byteLength_cons (c : Char) (text : List Char) :
    byteLength (c :: text) = c.utf8Size + byteLength text := by
  simp [byteLength]

@[simp] theorem byteLength_append (front rest : List Char) :
    byteLength (front ++ rest) = byteLength front + byteLength rest := by
  simp [byteLength]

theorem byteLength_pos {text : List Char} (some : text ≠ []) : 0 < byteLength text := by
  obtain ⟨c, rest, rfl⟩ := List.exists_cons_of_ne_nil some
  have positive := c.utf8Size_pos
  rw [byteLength_cons]
  omega

/-- A character takes at least one byte. -/
theorem length_le_byteLength (text : List Char) : text.length ≤ byteLength text := by
  induction text with
  | nil => simp
  | cons c rest ih =>
    have positive := c.utf8Size_pos
    rw [byteLength_cons, List.length_cons]
    omega

/-- One character in front: the size of a character is never zero. -/
theorem utf8Size_succ (c : Char) (n : Nat) : ∃ m, c.utf8Size + n = m + 1 := by
  have positive := c.utf8Size_pos
  exact ⟨c.utf8Size + n - 1, by omega⟩

/-- Behind whole characters lies a boundary. -/
theorem dropBytes_append (front rest : List Char) :
    dropBytes (byteLength front) (front ++ rest) = some rest := by
  induction front with
  | nil => simp [dropBytes]
  | cons c front ih =>
    obtain ⟨m, size⟩ := utf8Size_succ c (byteLength front)
    have fits : c.utf8Size ≤ m + 1 := by omega
    have left : m + 1 - c.utf8Size = byteLength front := by omega
    rw [byteLength_cons, size, List.cons_append, dropBytes, if_pos fits, left, ih]

theorem takeBytes_append (front rest : List Char) :
    takeBytes (byteLength front) (front ++ rest) = some front := by
  induction front with
  | nil => simp [takeBytes]
  | cons c front ih =>
    obtain ⟨m, size⟩ := utf8Size_succ c (byteLength front)
    have fits : c.utf8Size ≤ m + 1 := by omega
    have left : m + 1 - c.utf8Size = byteLength front := by omega
    rw [byteLength_cons, size, List.cons_append, takeBytes, if_pos fits, left, ih, Option.map_some]

theorem sliceBytes_append (front middle rest : List Char) :
    sliceBytes (front ++ middle ++ rest) (byteLength front) (byteLength (front ++ middle)) =
      some middle := by
  have order : byteLength front ≤ byteLength (front ++ middle) := by simp
  have width : byteLength (front ++ middle) - byteLength front = byteLength middle := by simp
  rw [sliceBytes, if_pos order, List.append_assoc, dropBytes_append, Option.bind_some, width,
    takeBytes_append]

/-! ## Characters and bytes -/

/-- The byte at which the character at `index` begins. -/
def offset (text : List Char) (index : Nat) : Nat := byteLength (text.take index)

@[simp] theorem offset_zero (text : List Char) : offset text 0 = 0 := rfl

/-- The byte behind a part of the text. -/
theorem offset_append (front rest : List Char) :
    offset (front ++ rest) front.length = byteLength front := by
  rw [offset, List.take_left]

theorem offset_lt {text : List Char} {first second : Nat} (order : first < second)
    (inside : second ≤ text.length) : offset text first < offset text second := by
  have split : text.take second = text.take first ++ (text.drop first).take (second - first) := by
    rw [← List.take_add, Nat.add_sub_cancel' (by omega)]
  have some : (text.drop first).take (second - first) ≠ [] := by
    apply List.ne_nil_of_length_pos
    rw [List.length_take, List.length_drop]
    omega
  have positive := byteLength_pos some
  rw [offset, offset, split, byteLength_append]
  omega

/-- Bytes are ordered as the characters that begin there. -/
theorem offset_le_iff {text : List Char} {first second : Nat} (begun : first ≤ text.length)
    (inside : second ≤ text.length) :
    offset text first ≤ offset text second ↔ first ≤ second := by
  constructor
  · intro order
    by_contra more
    have less := offset_lt (Nat.lt_of_not_le more) begun
    omega
  · intro order
    obtain less | equal := Nat.lt_or_eq_of_le order
    · exact Nat.le_of_lt (offset_lt less inside)
    · rw [equal]

theorem offset_lt_iff {text : List Char} {first second : Nat} (begun : first ≤ text.length)
    (inside : second ≤ text.length) :
    offset text first < offset text second ↔ first < second := by
  rw [← Nat.not_le, offset_le_iff inside begun, Nat.not_le]

theorem offset_max {text : List Char} {first second : Nat} (begun : first ≤ text.length)
    (inside : second ≤ text.length) :
    max (offset text first) (offset text second) = offset text (max first second) := by
  obtain less | more := Nat.le_total first second
  · rw [Nat.max_eq_right less, Nat.max_eq_right ((offset_le_iff begun inside).mpr less)]
  · rw [Nat.max_eq_left more, Nat.max_eq_left ((offset_le_iff inside begun).mpr more)]

/-- A slice between two characters. -/
theorem sliceBytes_offset {text : List Char} {start stop : Nat} (order : start ≤ stop) :
    sliceBytes text (offset text start) (offset text stop) =
      some ((text.drop start).take (stop - start)) := by
  have split : text.take stop = text.take start ++ (text.drop start).take (stop - start) := by
    rw [← List.take_add, Nat.add_sub_cancel' order]
  have whole : text =
      text.take start ++ (text.drop start).take (stop - start) ++ text.drop stop := by
    rw [← split, List.take_append_drop]
  have sliced := sliceBytes_append (text.take start) ((text.drop start).take (stop - start))
    (text.drop stop)
  rwa [← whole, ← split] at sliced

/-- Of two beginnings of one text the one of more characters is the one of more bytes. -/
theorem byteLength_le_iff {first second text : List Char} (here : first <+: text)
    (there : second <+: text) : byteLength first ≤ byteLength second ↔
      first.length ≤ second.length := by
  have begun := offset_append first (text.drop first.length)
  have ended := offset_append second (text.drop second.length)
  rw [List.prefix_iff_eq_append.mp here] at begun
  rw [List.prefix_iff_eq_append.mp there] at ended
  rw [← begun, ← ended]
  exact offset_le_iff here.length_le there.length_le

end Loomterm
