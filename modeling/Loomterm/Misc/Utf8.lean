import Mathlib.Algebra.Order.Ring.Int
import Mathlib.Tactic.Common

/-!
# UTF-8 texts in pieces

Strict and lossy decoding of byte lists. Of a text that is cut into pieces, every piece
decodes on its own exactly when every cut lies between two characters.
-/

namespace Loomterm

namespace Utf8

/-- The bytes of a string. -/
def bytes (text : String) : List UInt8 := text.toByteArray.data.toList

/-- `String::from_utf8`. -/
def fromUtf8 (data : List UInt8) : Option String := String.fromUTF8? data.toByteArray

/-- Whether `data` is the encoding of a string. -/
def IsText (data : List UInt8) : Prop := ∃ text, data = bytes text

theorem toByteArray_bytes (text : String) : (bytes text).toByteArray = text.toByteArray := by
  apply ByteArray.ext
  apply Array.toList_inj.mp
  exact List.toList_data_toByteArray

theorem bytes_injective {s t : String} (same : bytes s = bytes t) : s = t := by
  rw [← String.toByteArray_inj, ← toByteArray_bytes, ← toByteArray_bytes, same]

@[simp] theorem bytes_append (s t : String) : bytes (s ++ t) = bytes s ++ bytes t := by
  simp [bytes, String.toByteArray_append]

@[simp] theorem bytes_empty : bytes "" = [] := rfl

theorem fromUtf8_eq_some {data : List UInt8} {text : String} :
    fromUtf8 data = some text ↔ data = bytes text := by
  unfold fromUtf8 String.fromUTF8?
  constructor
  · intro decoded
    split at decoded
    · rw [← Option.some.inj decoded]
      exact List.toList_data_toByteArray.symm
    · cases decoded
  · intro encoded
    subst encoded
    have valid : (bytes text).toByteArray.IsValidUTF8 := toByteArray_bytes text ▸ text.isValidUTF8
    rw [dif_pos valid]
    congr 1
    exact String.toByteArray_inj.mp (toByteArray_bytes text)

theorem fromUtf8_bytes (text : String) : fromUtf8 (bytes text) = some text :=
  fromUtf8_eq_some.mpr rfl

theorem isText_iff {data : List UInt8} : IsText data ↔ (fromUtf8 data).isSome = true := by
  rw [Option.isSome_iff_exists]
  exact exists_congr fun _ => fromUtf8_eq_some.symm

instance (data : List UInt8) : Decidable (IsText data) := decidable_of_iff _ isText_iff.symm

theorem IsText.append {first second : List UInt8} (left : IsText first) (right : IsText second) :
    IsText (first ++ second) := by
  obtain ⟨s, rfl⟩ := left
  obtain ⟨t, rfl⟩ := right
  exact ⟨s ++ t, (bytes_append s t).symm⟩

theorem IsText.flatten {pieces : List (List UInt8)} (texts : ∀ piece ∈ pieces, IsText piece) :
    IsText pieces.flatten := by
  induction pieces with
  | nil => exact ⟨"", rfl⟩
  | cons piece rest ih =>
    have first := texts piece List.mem_cons_self
    rw [List.flatten_cons]
    exact first.append (ih fun other member => texts other (List.mem_cons_of_mem _ member))

/-- What follows a text within a text is a text. -/
theorem IsText.rest {first second : List UInt8} (left : IsText first)
    (whole : IsText (first ++ second)) : IsText second := by
  obtain ⟨s, rfl⟩ := left
  obtain ⟨t, split⟩ := whole
  have arrays : s.toByteArray ++ second.toByteArray = t.toByteArray := by
    rw [← toByteArray_bytes s, ← toByteArray_bytes t, ← split, List.toByteArray_append]
  have start : s.toList <+: t.toList := by
    apply List.isPrefix_of_utf8Encode_append_eq_utf8Encode second.toByteArray
    rw [String.utf8Encode_toList, String.utf8Encode_toList]
    exact arrays
  obtain ⟨tail, joined⟩ := start
  refine ⟨String.ofList tail, ?_⟩
  have whole : s ++ String.ofList tail = t := by
    rw [← String.toList_inj]
    simpa using joined
  rw [← whole, bytes_append] at split
  exact List.append_cancel_left split

/-- The cuts of a text lie between characters if and only if its pieces are texts. -/
theorem isText_pieces_iff {pieces : List (List UInt8)} :
    (∀ k, IsText (pieces.take k).flatten) ↔ ∀ piece ∈ pieces, IsText piece := by
  constructor
  · intro cuts piece member
    obtain ⟨k, inside, found⟩ := List.getElem_of_mem member
    have next := cuts (k + 1)
    rw [List.take_succ_eq_append_getElem inside, List.flatten_append, List.flatten_singleton,
      found] at next
    exact (cuts k).rest next
  · intro texts k
    exact .flatten fun piece member => texts piece (List.mem_of_mem_take member)

/-! ## Lossy decoding -/

def isContinuation (byte : UInt8) : Bool := 0x80 ≤ byte && byte ≤ 0xBF

/-- Whether `second` may follow the first byte of a sequence of three or four. -/
def mayFollow (first second : UInt8) : Bool :=
  if first = 0xE0 then 0xA0 ≤ second && second ≤ 0xBF
  else if first = 0xED then 0x80 ≤ second && second ≤ 0x9F
  else if first = 0xF0 then 0x90 ≤ second && second ≤ 0xBF
  else if first = 0xF4 then 0x80 ≤ second && second ≤ 0x8F
  else isContinuation second

/-- How many bytes the first character of `data` takes, or the longest start of one, and
whether it is complete. A byte that is missing counts as `0`. -/
def sequence (first : UInt8) (rest : List UInt8) : Nat × Bool :=
  let second := rest.getD 0 0
  let third := rest.getD 1 0
  let fourth := rest.getD 2 0
  if first < 0x80 then (1, true)
  else if 0xC2 ≤ first && first ≤ 0xDF then
    if isContinuation second then (2, true) else (1, false)
  else if 0xE0 ≤ first && first ≤ 0xEF then
    if !mayFollow first second then (1, false)
    else if isContinuation third then (3, true) else (2, false)
  else if 0xF0 ≤ first && first ≤ 0xF4 then
    if !mayFollow first second then (1, false)
    else if !isContinuation third then (2, false)
    else if isContinuation fourth then (4, true) else (3, false)
  else (1, false)

/-- The loop of the lossy decoder; every round takes at least one byte. -/
def lossyChunks : Nat → List UInt8 → String
  | 0, _ | _, [] => ""
  | fuel + 1, first :: rest =>
      let (length, whole) := sequence first rest
      let text := if whole then (fromUtf8 ((first :: rest).take length)).getD "\uFFFD"
        else "\uFFFD"
      text ++ lossyChunks fuel ((first :: rest).drop length)

/-- `String::from_utf8_lossy`: what does not decode becomes a replacement character. -/
def fromUtf8Lossy (data : List UInt8) : String := lossyChunks data.length data

example : fromUtf8Lossy [0x68, 0xFF, 0xE2, 0x82, 0xC3, 0xA9, 0xF0, 0x9F] =
    "h\uFFFD\uFFFDé\uFFFD" := by decide +kernel

/-! ## Joining -/

theorem bytes_foldl (first : String) (texts : List String) :
    bytes (texts.foldl (· ++ ·) first) = bytes first ++ (texts.map bytes).flatten := by
  induction texts generalizing first with
  | nil => simp
  | cons text rest ih => simp [ih]

/-- The text that texts join to is the one whose bytes they join to. -/
theorem join_eq_iff {texts : List String} {text : String} :
    String.join texts = text ↔ (texts.map bytes).flatten = bytes text := by
  have joined : bytes (String.join texts) = (texts.map bytes).flatten := by
    unfold String.join
    rw [bytes_foldl, bytes_empty, List.nil_append]
  rw [← joined]
  exact ⟨congrArg bytes, bytes_injective⟩

end Utf8

end Loomterm
