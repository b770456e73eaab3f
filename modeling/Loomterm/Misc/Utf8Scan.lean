import Loomterm.Misc.Utf8
import Mathlib.Data.List.GetD

/-!
# Where UTF-8 decoding stops

`str::from_utf8` with its error: how long the valid part is, and whether the bytes behind it
are wrong or only too few. `lossy_split` relates the two decoders: behind the valid part the
lossy one goes on with what is left.
-/

namespace Loomterm

namespace Utf8

/-! ## The bytes of a character -/

theorem isContinuation_iff {byte : UInt8} :
    isContinuation byte = true ↔ 128 ≤ byte.toNat ∧ byte.toNat ≤ 191 := by
  simp [isContinuation, UInt8.le_iff_toNat_le]

theorem mayFollow_iff {first second : UInt8} :
    mayFollow first second = true ↔
      128 ≤ second.toNat ∧ second.toNat ≤ 191 ∧ (first.toNat = 224 → 160 ≤ second.toNat) ∧
        (first.toNat = 237 → second.toNat ≤ 159) ∧ (first.toNat = 240 → 144 ≤ second.toNat) ∧
        (first.toNat = 244 → second.toNat ≤ 143) := by
  unfold mayFollow isContinuation
  simp only [← UInt8.toNat_inj, UInt8.le_iff_toNat_le, UInt8.reduceToNat]
  split_ifs <;> simp <;> omega

theorem bytes_ofList (text : List Char) :
    bytes (String.ofList text) = text.flatMap String.utf8EncodeChar := by
  have encoded : (String.ofList text).toByteArray = text.utf8Encode := rfl
  rw [bytes, encoded, List.utf8Encode]
  exact List.toList_data_toByteArray

theorem bytes_char (c : Char) : bytes (String.ofList [c]) = String.utf8EncodeChar c := by
  rw [bytes_ofList, List.flatMap_singleton]

theorem isText_char (c : Char) : IsText (String.utf8EncodeChar c) :=
  ⟨String.ofList [c], (bytes_char c).symm⟩

/-- The character of a number that is neither beyond the last character nor a surrogate. -/
theorem exists_char {v : Nat} (valid : v < 0xD800 ∨ 0xDFFF < v ∧ v < 0x110000) :
    ∃ c : Char, c.val.toNat = v := by
  have size : UInt32.size = 4294967296 := rfl
  have small : v < UInt32.size := by omega
  have scalar : (UInt32.ofNatLT v small).isValidChar := by
    simpa [UInt32.isValidChar, Nat.isValidChar] using valid
  exact ⟨⟨UInt32.ofNatLT v small, scalar⟩, by simp⟩

theorem isText_one {first : UInt8} (lead : first.toNat < 128) : IsText [first] := by
  obtain ⟨c, value⟩ := @exists_char first.toNat (by omega)
  have encoded : String.utf8EncodeChar c = [first] := by
    simp only [String.utf8EncodeChar, value]
    rw [if_pos (by omega)]
    simp
  rw [← encoded]
  exact isText_char c

theorem isText_two {first second : UInt8} (lead : 194 ≤ first.toNat ∧ first.toNat ≤ 223)
    (tail : isContinuation second = true) : IsText [first, second] := by
  rw [isContinuation_iff] at tail
  obtain ⟨c, value⟩ := @exists_char ((first.toNat - 192) * 64 + (second.toNat - 128)) (by omega)
  have encoded : String.utf8EncodeChar c = [first, second] := by
    simp only [String.utf8EncodeChar, value]
    rw [if_neg (by omega), if_pos (by omega)]
    simp only [List.cons.injEq, and_true, ← UInt8.toNat_inj, UInt8.toNat_ofNat']
    omega
  rw [← encoded]
  exact isText_char c

theorem isText_three {first second third : UInt8} (lead : 224 ≤ first.toNat ∧ first.toNat ≤ 239)
    (follow : mayFollow first second = true) (tail : isContinuation third = true) :
    IsText [first, second, third] := by
  rw [isContinuation_iff] at tail
  rw [mayFollow_iff] at follow
  obtain ⟨c, value⟩ := @exists_char ((first.toNat - 224) * 4096 + (second.toNat - 128) * 64 +
    (third.toNat - 128)) (by omega)
  have encoded : String.utf8EncodeChar c = [first, second, third] := by
    simp only [String.utf8EncodeChar, value]
    rw [if_neg (by omega), if_neg (by omega), if_pos (by omega)]
    simp only [List.cons.injEq, and_true, ← UInt8.toNat_inj, UInt8.toNat_ofNat']
    omega
  rw [← encoded]
  exact isText_char c

theorem isText_four {first second third fourth : UInt8}
    (lead : 240 ≤ first.toNat ∧ first.toNat ≤ 244) (follow : mayFollow first second = true)
    (tail : isContinuation third = true) (last : isContinuation fourth = true) :
    IsText [first, second, third, fourth] := by
  rw [isContinuation_iff] at tail last
  rw [mayFollow_iff] at follow
  obtain ⟨c, value⟩ := @exists_char ((first.toNat - 240) * 262144 + (second.toNat - 128) * 4096 +
    (third.toNat - 128) * 64 + (fourth.toNat - 128)) (by omega)
  have encoded : String.utf8EncodeChar c = [first, second, third, fourth] := by
    simp only [String.utf8EncodeChar, value]
    rw [if_neg (by omega), if_neg (by omega), if_neg (by omega)]
    simp only [List.cons.injEq, and_true, ← UInt8.toNat_inj, UInt8.toNat_ofNat']
    omega
  rw [← encoded]
  exact isText_char c

/-! ## One sequence -/

/-- Whether a sequence of several bytes may begin so. -/
def isLead (first : UInt8) : Bool := 0xC2 ≤ first && first ≤ 0xF4

theorem isLead_iff {first : UInt8} :
    isLead first = true ↔ 194 ≤ first.toNat ∧ first.toNat ≤ 244 := by
  simp [isLead, UInt8.le_iff_toNat_le]

theorem sequence_one {first : UInt8} (rest : List UInt8) (lead : first.toNat < 128) :
    sequence first rest = (1, true) := by
  have ascii : first < 0x80 := UInt8.lt_iff_toNat_lt.mpr lead
  simp only [sequence, if_pos ascii]

theorem sequence_two {first : UInt8} (rest : List UInt8)
    (lead : 194 ≤ first.toNat ∧ first.toNat ≤ 223) :
    sequence first rest = if isContinuation (rest.getD 0 0) then (2, true) else (1, false) := by
  simp only [sequence, UInt8.le_iff_toNat_le, UInt8.lt_iff_toNat_lt, UInt8.reduceToNat,
    Bool.and_eq_true, decide_eq_true_eq]
  rw [if_neg (by omega), if_pos (by omega)]

theorem sequence_three {first : UInt8} (rest : List UInt8)
    (lead : 224 ≤ first.toNat ∧ first.toNat ≤ 239) :
    sequence first rest =
      if !mayFollow first (rest.getD 0 0) then (1, false)
      else if isContinuation (rest.getD 1 0) then (3, true) else (2, false) := by
  simp only [sequence, UInt8.le_iff_toNat_le, UInt8.lt_iff_toNat_lt, UInt8.reduceToNat,
    Bool.and_eq_true, decide_eq_true_eq]
  rw [if_neg (by omega), if_neg (by omega), if_pos (by omega)]

theorem sequence_four {first : UInt8} (rest : List UInt8)
    (lead : 240 ≤ first.toNat ∧ first.toNat ≤ 244) :
    sequence first rest =
      if !mayFollow first (rest.getD 0 0) then (1, false)
      else if !isContinuation (rest.getD 1 0) then (2, false)
      else if isContinuation (rest.getD 2 0) then (4, true) else (3, false) := by
  simp only [sequence, UInt8.le_iff_toNat_le, UInt8.lt_iff_toNat_lt, UInt8.reduceToNat,
    Bool.and_eq_true, decide_eq_true_eq]
  rw [if_neg (by omega), if_neg (by omega), if_neg (by omega), if_pos (by omega)]

theorem sequence_wrong {first : UInt8} (rest : List UInt8)
    (lead : 128 ≤ first.toNat ∧ ¬ isLead first = true) : sequence first rest = (1, false) := by
  rw [isLead_iff] at lead
  simp only [sequence, UInt8.le_iff_toNat_le, UInt8.lt_iff_toNat_lt, UInt8.reduceToNat,
    Bool.and_eq_true, decide_eq_true_eq]
  rw [if_neg (by omega), if_neg (by omega), if_neg (by omega), if_neg (by omega)]

/-- The five kinds of first bytes. -/
theorem lead_cases (first : UInt8) :
    first.toNat < 128 ∨ (194 ≤ first.toNat ∧ first.toNat ≤ 223) ∨
      (224 ≤ first.toNat ∧ first.toNat ≤ 239) ∨ (240 ≤ first.toNat ∧ first.toNat ≤ 244) ∨
      128 ≤ first.toNat ∧ ¬ isLead first = true := by
  rw [isLead_iff]
  omega

theorem not_isContinuation_zero : isContinuation 0 = false := rfl

theorem not_mayFollow_zero (first : UInt8) : mayFollow first 0 = false := by
  by_contra follow
  have bound := mayFollow_iff.mp (Bool.not_eq_false _ ▸ follow)
  simp at bound

/-- A byte that follows is there. -/
theorem present_of_isContinuation {rest : List UInt8} {i : Nat}
    (tail : isContinuation (rest.getD i 0) = true) : i < rest.length := by
  by_contra beyond
  rw [List.getD_eq_default _ _ (by omega), not_isContinuation_zero] at tail
  cases tail

theorem present_of_mayFollow {first : UInt8} {rest : List UInt8} {i : Nat}
    (follow : mayFollow first (rest.getD i 0) = true) : i < rest.length := by
  by_contra beyond
  rw [List.getD_eq_default _ _ (by omega), not_mayFollow_zero] at follow
  cases follow

/-- A whole sequence is a text, and it is there. -/
theorem sequence_whole {first : UInt8} {rest : List UInt8} {n : Nat}
    (whole : sequence first rest = (n, true)) :
    1 ≤ n ∧ n ≤ rest.length + 1 ∧ IsText ((first :: rest).take n) := by
  obtain lead | lead | lead | lead | lead := lead_cases first
  · rw [sequence_one rest lead] at whole
    obtain rfl : 1 = n := congrArg Prod.fst whole
    exact ⟨by omega, by omega, isText_one lead⟩
  · rw [sequence_two rest lead] at whole
    split at whole
    · next tail =>
      obtain rfl : 2 = n := congrArg Prod.fst whole
      have present := present_of_isContinuation tail
      obtain ⟨second, behind, rfl⟩ := List.exists_cons_of_length_pos present
      exact ⟨by omega, by omega, isText_two lead tail⟩
    · cases whole
  · rw [sequence_three rest lead] at whole
    split at whole
    · cases whole
    · next follow =>
      split at whole
      · next tail =>
        obtain rfl : 3 = n := congrArg Prod.fst whole
        have present := present_of_isContinuation tail
        match rest with
        | second :: third :: behind =>
          exact ⟨by omega, by simp, isText_three lead (by simpa using follow) tail⟩
      · cases whole
  · rw [sequence_four rest lead] at whole
    split at whole
    · cases whole
    · next follow =>
      split at whole
      · cases whole
      · next tail =>
        split at whole
        · next last =>
          obtain rfl : 4 = n := congrArg Prod.fst whole
          have present := present_of_isContinuation last
          match rest with
          | second :: third :: fourth :: behind =>
            exact ⟨by omega, by simp, isText_four lead (by simpa using follow)
              (by simpa using tail) last⟩
        · cases whole
  · rw [sequence_wrong rest lead] at whole
    cases whole

/-- A sequence that is not whole is short, and it is there. -/
theorem sequence_broken {first : UInt8} {rest : List UInt8} {n : Nat}
    (broken : sequence first rest = (n, false)) : 1 ≤ n ∧ n ≤ 3 ∧ n ≤ rest.length + 1 := by
  obtain lead | lead | lead | lead | lead := lead_cases first
  · rw [sequence_one rest lead] at broken
    cases broken
  · rw [sequence_two rest lead] at broken
    grind
  · rw [sequence_three rest lead] at broken
    have present := @present_of_mayFollow first rest 0
    grind
  · rw [sequence_four rest lead] at broken
    have present := @present_of_mayFollow first rest 0
    have behind := @present_of_isContinuation rest 1
    grind
  · rw [sequence_wrong rest lead] at broken
    grind

theorem getD_append {rest : List UInt8} (more : List UInt8) {i : Nat} (inside : i < rest.length) :
    (rest ++ more).getD i 0 = rest.getD i 0 := by
  rw [List.getD_append _ _ _ _ inside]

/-- More bytes change nothing about a sequence that ends before them. -/
theorem sequence_append {first : UInt8} {rest : List UInt8} (more : List UInt8)
    (decided : (sequence first rest).2 = true ∨ (sequence first rest).1 ≤ rest.length ∨
      ¬ isLead first = true) :
    sequence first (rest ++ more) = sequence first rest := by
  obtain lead | lead | lead | lead | lead := lead_cases first
  · rw [sequence_one _ lead, sequence_one _ lead]
  · have multi : isLead first = true := isLead_iff.mpr (by omega)
    rw [sequence_two rest lead] at decided
    rw [sequence_two _ lead, sequence_two _ lead]
    have second := @getD_append rest more 0
    have there := @present_of_isContinuation rest 0
    grind
  · have multi : isLead first = true := isLead_iff.mpr (by omega)
    rw [sequence_three rest lead] at decided
    rw [sequence_three _ lead, sequence_three _ lead]
    have second := @getD_append rest more 0
    have third := @getD_append rest more 1
    have there := @present_of_mayFollow first rest 0
    have behind := @present_of_isContinuation rest 1
    grind
  · have multi : isLead first = true := isLead_iff.mpr (by omega)
    rw [sequence_four rest lead] at decided
    rw [sequence_four _ lead, sequence_four _ lead]
    have second := @getD_append rest more 0
    have third := @getD_append rest more 1
    have fourth := @getD_append rest more 2
    have there := @present_of_mayFollow first rest 0
    have behind := @present_of_isContinuation rest 1
    have last := @present_of_isContinuation rest 2
    grind
  · rw [sequence_wrong _ lead, sequence_wrong _ lead]

/-- A character is one whole sequence. -/
theorem sequence_char (c : Char) (rest : List UInt8) :
    ∃ first tail, String.utf8EncodeChar c = first :: tail ∧
      sequence first (tail ++ rest) = (tail.length + 1, true) := by
  have valid := c.valid
  rw [UInt32.isValidChar, Nat.isValidChar] at valid
  unfold String.utf8EncodeChar
  generalize c.val.toNat = v at valid
  by_cases one : v ≤ 127
  · refine ⟨_, _, if_pos one, ?_⟩
    rw [sequence_one _ (by simp; omega)]
    rfl
  by_cases two : v ≤ 2047
  · refine ⟨_, _, (if_neg one).trans (if_pos two), ?_⟩
    rw [sequence_two _ (by simp; omega), if_pos (isContinuation_iff.mpr (by simp; omega))]
    rfl
  by_cases three : v ≤ 65535
  · refine ⟨_, _, (if_neg one).trans ((if_neg two).trans (if_pos three)), ?_⟩
    have follow : mayFollow (UInt8.ofNat (v / 4096 % 16 + 224)) (UInt8.ofNat (v / 64 % 64 + 128))
        = true := mayFollow_iff.mpr (by simp; omega)
    rw [sequence_three _ (by simp; omega), if_neg (by simpa using follow),
      if_pos (isContinuation_iff.mpr (by simp; omega))]
    rfl
  · refine ⟨_, _, (if_neg one).trans ((if_neg two).trans (if_neg three)), ?_⟩
    have follow : mayFollow (UInt8.ofNat (v / 262144 % 8 + 240))
        (UInt8.ofNat (v / 4096 % 64 + 128)) = true := mayFollow_iff.mpr (by simp; omega)
    have tail : isContinuation (UInt8.ofNat (v / 64 % 64 + 128)) = true :=
      isContinuation_iff.mpr (by simp; omega)
    rw [sequence_four _ (by simp; omega), if_neg (by simpa using follow), if_neg (by simpa using tail),
      if_pos (isContinuation_iff.mpr (by simp; omega))]
    rfl

/-! ## The lossy decoder, one sequence at a time -/

theorem sequence_pos (first : UInt8) (rest : List UInt8) : 1 ≤ (sequence first rest).1 := by
  match found : sequence first rest with
  | (n, true) => exact (sequence_whole found).1
  | (n, false) => exact (sequence_broken found).1

/-- Rounds beyond the length of the data change nothing. -/
theorem lossyChunks_rounds {data : List UInt8} {fuel more : Nat} (enough : data.length ≤ fuel)
    (also : data.length ≤ more) : lossyChunks fuel data = lossyChunks more data := by
  induction fuel generalizing data more with
  | zero =>
    obtain rfl : data = [] := List.eq_nil_of_length_eq_zero (by omega)
    cases more <;> rfl
  | succ fuel ih =>
    cases data with
    | nil => cases more <;> rfl
    | cons first rest =>
      have positive := sequence_pos first rest
      obtain ⟨more, rfl⟩ : ∃ n, more = n + 1 := ⟨more - 1, by simp at also; omega⟩
      have shorter : ((first :: rest).drop (sequence first rest).1).length ≤ rest.length := by
        rw [List.length_drop, List.length_cons]
        omega
      rw [List.length_cons] at enough also
      have later := @ih ((first :: rest).drop (sequence first rest).1) more (by omega) (by omega)
      simp only [lossyChunks, later]

@[simp] theorem fromUtf8Lossy_nil : fromUtf8Lossy [] = "" := rfl

theorem fromUtf8Lossy_cons (first : UInt8) (rest : List UInt8) :
    fromUtf8Lossy (first :: rest) =
      (if (sequence first rest).2 = true then
        (fromUtf8 ((first :: rest).take (sequence first rest).1)).getD "\uFFFD"
      else "\uFFFD") ++ fromUtf8Lossy ((first :: rest).drop (sequence first rest).1) := by
  have positive := sequence_pos first rest
  have rounds := @lossyChunks_rounds ((first :: rest).drop (sequence first rest).1) rest.length
    ((first :: rest).drop (sequence first rest).1).length
    (by rw [List.length_drop, List.length_cons]; omega) (Nat.le_refl _)
  unfold fromUtf8Lossy
  rw [List.length_cons, lossyChunks, ← rounds]

/-- Behind a whole sequence the decoder goes on. -/
theorem fromUtf8Lossy_whole {first : UInt8} {rest : List UInt8} {n : Nat} {text : String}
    (whole : sequence first rest = (n, true)) (read : (first :: rest).take n = bytes text)
    (more : List UInt8) :
    fromUtf8Lossy (first :: rest ++ more) =
      text ++ fromUtf8Lossy ((first :: rest).drop n ++ more) := by
  have same : sequence first (rest ++ more) = (n, true) :=
    (sequence_append more (.inl (congrArg Prod.snd whole))).trans whole
  obtain ⟨-, inside, -⟩ := sequence_whole whole
  have front : (first :: (rest ++ more)).take n = bytes text := by
    rw [← read, ← List.cons_append, List.take_append_of_le_length inside]
  have behind : (first :: (rest ++ more)).drop n = (first :: rest).drop n ++ more := by
    rw [← List.cons_append, List.drop_append_of_le_length inside]
  rw [List.cons_append, fromUtf8Lossy_cons, same]
  simp only [if_true, front, behind, fromUtf8_bytes, Option.getD_some]

/-- Wrong bytes show as one replacement character. -/
theorem fromUtf8Lossy_broken {first : UInt8} {rest : List UInt8} {n : Nat}
    (broken : sequence first rest = (n, false))
    (decided : n ≤ rest.length ∨ ¬ isLead first = true) (more : List UInt8) :
    fromUtf8Lossy (first :: rest ++ more) =
      "\uFFFD" ++ fromUtf8Lossy ((first :: rest).drop n ++ more) := by
  have same : sequence first (rest ++ more) = (n, false) := by
    rw [sequence_append more (.inr (by rwa [broken])), broken]
  obtain ⟨-, -, inside⟩ := sequence_broken broken
  have behind : (first :: (rest ++ more)).drop n = (first :: rest).drop n ++ more := by
    rw [← List.cons_append, List.drop_append_of_le_length inside]
  rw [List.cons_append, fromUtf8Lossy_cons, same]
  simp only [behind, if_neg Bool.false_ne_true]

/-! ## Where decoding stops -/

/-- `str::Utf8Error`. -/
structure Utf8Error where
  validUpTo : Nat
  errorLen : Option Nat
  deriving DecidableEq, Repr

/-- What is wrong at the front of `data`; nothing more than that it ends, if `none`. -/
def errorLen : List UInt8 → Option Nat
  | [] => none
  | first :: rest =>
      let length := (sequence first rest).1
      if isLead first && length == rest.length + 1 then none else some length

/-- The scan of `str::from_utf8` from `offset` on; every round takes at least one byte. -/
def utf8ErrorFrom : (rounds offset : Nat) → List UInt8 → Utf8Error
  | 0, offset, data => ⟨offset, errorLen data⟩
  | _ + 1, offset, [] => ⟨offset, errorLen []⟩
  | rounds + 1, offset, first :: rest =>
      match sequence first rest with
      | (length, true) => utf8ErrorFrom rounds (offset + length) ((first :: rest).drop length)
      | (_, false) => ⟨offset, errorLen (first :: rest)⟩

/-- `str::from_utf8`. -/
def strFromUtf8 (data : List UInt8) : Except Utf8Error String :=
  match fromUtf8 data with
  | some text => .ok text
  | none => .error (utf8ErrorFrom data.length 0 data)

/-- Nothing at the front of `data` is a whole sequence. -/
def Stuck : List UInt8 → Prop
  | [] => True
  | first :: rest => (sequence first rest).2 = false

/-- The valid part of the data, and the rest at which the scan stops. -/
theorem utf8Error_split (data : List UInt8) :
    ∃ text tail, data = bytes text ++ tail ∧ Stuck tail ∧
      (∀ more, fromUtf8Lossy (data ++ more) = text ++ fromUtf8Lossy (tail ++ more)) ∧
      ∀ rounds offset, data.length ≤ rounds →
        utf8ErrorFrom rounds offset data = ⟨offset + (bytes text).length, errorLen tail⟩ := by
  induction long : data.length using Nat.strongRecOn generalizing data with
  | ind length ih =>
    cases data with
    | nil =>
      refine ⟨"", [], rfl, trivial, by simp, ?_⟩
      intro rounds offset _
      cases rounds <;> rfl
    | cons first rest =>
      rw [List.length_cons] at long
      match found : sequence first rest with
      | (n, false) =>
        refine ⟨"", first :: rest, rfl, congrArg Prod.snd found, by simp, ?_⟩
        intro rounds offset enough
        obtain ⟨rounds, rfl⟩ : ∃ n, rounds = n + 1 := ⟨rounds - 1, by omega⟩
        rw [utf8ErrorFrom, found]
        rfl
      | (n, true) =>
        obtain ⟨positive, inside, front, read⟩ := sequence_whole found
        have shorter : ((first :: rest).drop n).length < length := by
          rw [List.length_drop, List.length_cons]
          omega
        obtain ⟨text, tail, split, stuck, lossy, stops⟩ := ih _ shorter _ rfl
        have whole : first :: rest = bytes (front ++ text) ++ tail := by
          rw [bytes_append, List.append_assoc, ← split, ← read, List.take_append_drop]
        refine ⟨front ++ text, tail, whole, stuck, ?_, ?_⟩
        · intro more
          rw [fromUtf8Lossy_whole found read, lossy, String.append_assoc]
        · intro rounds offset enough
          obtain ⟨rounds, rfl⟩ : ∃ n, rounds = n + 1 := ⟨rounds - 1, by omega⟩
          have width : n = (bytes front).length := by
            rw [← read, List.length_take, List.length_cons]
            omega
          rw [utf8ErrorFrom, found]
          simp only
          rw [stops rounds _ (by omega), bytes_append, List.length_append, ← width, Nat.add_assoc]

/-- A text begins with a whole sequence. -/
theorem eq_nil_of_stuck {data : List UInt8} (text : IsText data) (stuck : Stuck data) :
    data = [] := by
  obtain ⟨text, rfl⟩ := text
  have same : String.ofList text.toList = text := String.ofList_toList
  rw [← same, bytes_ofList] at stuck ⊢
  generalize text.toList = chars at stuck
  cases chars with
  | nil => rfl
  | cons c chars =>
    rw [List.flatMap_cons] at stuck
    obtain ⟨first, tail, encoded, whole⟩ :=
      sequence_char c (chars.flatMap String.utf8EncodeChar)
    rw [encoded, List.cons_append] at stuck
    have broken : (sequence first (tail ++ chars.flatMap String.utf8EncodeChar)).2 = false := stuck
    rw [whole] at broken
    cases broken

/-- The two outcomes of `str::from_utf8`, for the lossy decoder and whatever follows. -/
theorem strFromUtf8_split (data : List UInt8) :
    ∃ text tail, data = bytes text ++ tail ∧ Stuck tail ∧
      (∀ more, fromUtf8Lossy (data ++ more) = text ++ fromUtf8Lossy (tail ++ more)) ∧
      strFromUtf8 data =
        if tail = [] then .ok text else .error ⟨(bytes text).length, errorLen tail⟩ := by
  obtain ⟨text, tail, split, stuck, lossy, stops⟩ := utf8Error_split data
  refine ⟨text, tail, split, stuck, lossy, ?_⟩
  unfold strFromUtf8
  by_cases whole : tail = []
  · have read : fromUtf8 data = some text := by
      rw [split, whole, List.append_nil, fromUtf8_bytes]
    rw [if_pos whole, read]
  · have unread : fromUtf8 data = none := by
      cases found : fromUtf8 data with
      | none => rfl
      | some other =>
        have joined : IsText (bytes text ++ tail) := ⟨other, split ▸ fromUtf8_eq_some.mp found⟩
        exact absurd (eq_nil_of_stuck (IsText.rest ⟨text, rfl⟩ joined) stuck) whole
    have stop := stops data.length 0 (Nat.le_refl _)
    rw [if_neg whole, unread, stop, Nat.zero_add]

/-- The lossy decoder reads a text as it is. -/
theorem fromUtf8Lossy_bytes (text : String) : fromUtf8Lossy (bytes text) = text := by
  obtain ⟨read, tail, split, stuck, lossy, -⟩ := strFromUtf8_split (bytes text)
  have rest : tail = [] := eq_nil_of_stuck
    (IsText.rest ⟨read, rfl⟩ ⟨text, split.symm⟩) stuck
  rw [rest, List.append_nil] at split
  have decoded := lossy []
  simp only [rest, List.append_nil, fromUtf8Lossy_nil, String.append_empty] at decoded
  rw [decoded]
  exact (bytes_injective split).symm

end Utf8

end Loomterm
