import Loomterm.Misc.Utf8Scan

/-!
# The lines of a file

The lines that a buffered reader takes from a file. What stands behind the last newline is a
line of its own, if there is anything.
-/

namespace Loomterm

open Utf8

/-- The data up to and with each newline, and then the rest. -/
def readLines : List UInt8 → List (List UInt8)
  | [] => []
  | byte :: rest =>
      if byte = 10 then [byte] :: readLines rest
      else
        match readLines rest with
        | [] => [[byte]]
        | line :: lines => (byte :: line) :: lines

/-- A line without its end. -/
def chomp (line : List Char) : List Char :=
  if line.getLast? = some '\n' then
    if line.dropLast.getLast? = some '\r' then line.dropLast.dropLast else line.dropLast
  else line

/-- `BufRead::lines`; a line that is not UTF-8 is an error. -/
def lines (data : List UInt8) : List (Option String) :=
  (readLines data).map fun line => (fromUtf8 line).map fun text => .ofList (chomp text.toList)

/-! ## The bytes of a newline -/

/-- Only a newline has the byte of a newline in it. -/
theorem eq_newline_of_mem {c : Char} (found : 10 ∈ String.utf8EncodeChar c) : c = '\n' := by
  have one : c.val.toNat = 10 := by
    have valid := c.valid
    rw [UInt32.isValidChar, Nat.isValidChar] at valid
    simp only [String.utf8EncodeChar] at found
    generalize c.val.toNat = v at valid found
    split_ifs at found
    all_goals
      simp only [List.mem_cons, List.not_mem_nil, or_false, ← UInt8.toNat_inj, UInt8.toNat_ofNat',
        UInt8.toNat_ofNat] at found
      omega
  exact Char.ext (UInt32.toNat_inj.mp one)

theorem newline_mem_bytes {text : String} : 10 ∈ bytes text ↔ '\n' ∈ text.toList := by
  have encoded := bytes_ofList text.toList
  rw [String.ofList_toList] at encoded
  rw [encoded, List.mem_flatMap]
  constructor
  · rintro ⟨c, member, found⟩
    rw [← eq_newline_of_mem found]
    exact member
  · intro member
    exact ⟨'\n', member, by decide⟩

/-! ## Where lines end -/

theorem readLines_line {line : List UInt8} (rest : List UInt8) (whole : 10 ∉ line) :
    readLines (line ++ 10 :: rest) = (line ++ [10]) :: readLines rest := by
  induction line with
  | nil => rfl
  | cons byte line ih =>
    have other : byte ≠ 10 := (List.ne_of_not_mem_cons whole).symm
    have next := ih (List.not_mem_of_not_mem_cons whole)
    rw [List.cons_append, readLines, if_neg other, next]
    rfl

theorem readLines_last {line : List UInt8} (some : line ≠ []) (whole : 10 ∉ line) :
    readLines line = [line] := by
  induction line with
  | nil => exact absurd rfl some
  | cons byte line ih =>
    have other : byte ≠ 10 := (List.ne_of_not_mem_cons whole).symm
    rw [readLines, if_neg other]
    by_cases last : line = []
    · subst last
      rfl
    · rw [ih last (List.not_mem_of_not_mem_cons whole)]

theorem chomp_newline {line : List Char} (plain : '\r' ∉ line) : chomp (line ++ ['\n']) = line := by
  have inside : line.getLast? ≠ some '\r' := fun last => plain (List.mem_of_getLast? last)
  simp [chomp, inside]

theorem chomp_plain {line : List Char} (plain : '\n' ∉ line) : chomp line = line :=
  if_neg fun last => plain (List.mem_of_getLast? last)

/-- A text without line breaks, and a newline behind it, are one line. -/
theorem lines_line {text : String} (rest : List UInt8) (whole : '\n' ∉ text.toList)
    (plain : '\r' ∉ text.toList) :
    lines (bytes (text ++ "\n") ++ rest) = some text :: lines rest := by
  have newline : bytes "\n" = [10] := by decide
  have front : 10 ∉ bytes text := fun found => whole (newline_mem_bytes.mp found)
  have decoded : fromUtf8 (bytes text ++ [10]) = some (text ++ "\n") := by
    rw [← newline, ← bytes_append]
    exact fromUtf8_bytes _
  have joined : bytes (text ++ "\n") ++ rest = bytes text ++ 10 :: rest := by
    rw [bytes_append, newline, List.append_assoc, List.singleton_append]
  unfold lines
  rw [joined, readLines_line rest front, List.map_cons, decoded, Option.map_some,
    String.toList_append]
  have ended : "\n".toList = ['\n'] := rfl
  rw [ended, chomp_newline plain, String.ofList_toList]

/-- What stands behind the last newline. -/
theorem lines_last {data : List UInt8} (some : data ≠ []) (whole : 10 ∉ data) :
    lines data = [fromUtf8 data] := by
  unfold lines
  rw [readLines_last some whole, List.map_singleton]
  cases decoded : fromUtf8 data with
  | none => rfl
  | some text =>
    rw [fromUtf8_eq_some.mp decoded, newline_mem_bytes] at whole
    rw [Option.map_some, chomp_plain whole, String.ofList_toList]

end Loomterm
