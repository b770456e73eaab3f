import Loomterm.Misc.Render

/-!
# Reading base64

The strict decoder of the standard alphabet: padding is required, and the bits that it leaves over
are zero.
-/

namespace Loomterm

namespace Base64

/-- The six bits of a character. -/
def value (c : Char) : Option Nat :=
  if 65 ≤ c.toNat ∧ c.toNat ≤ 90 then some (c.toNat - 65)
  else if 97 ≤ c.toNat ∧ c.toNat ≤ 122 then some (c.toNat - 71)
  else if 48 ≤ c.toNat ∧ c.toNat ≤ 57 then some (c.toNat + 4)
  else if c = '+' then some 62
  else if c = '/' then some 63
  else none

def decodeChars : List Char → Option (List UInt8)
  | [] => some []
  | [a, b, '=', '='] => do
      let x ← value a
      let y ← value b
      if y % 16 = 0 then some [.ofNat (x * 4 + y / 16)] else none
  | [a, b, c, '='] => do
      let x ← value a
      let y ← value b
      let z ← value c
      if z % 4 = 0 then some [.ofNat (x * 4 + y / 16), .ofNat (y % 16 * 16 + z / 4)] else none
  | a :: b :: c :: d :: rest => do
      let x ← value a
      let y ← value b
      let z ← value c
      let w ← value d
      let others ← decodeChars rest
      some (.ofNat (x * 4 + y / 16) :: .ofNat (y % 16 * 16 + z / 4) ::
        .ofNat (z % 4 * 64 + w) :: others)
  | _ => none

def decode (text : String) : Option (List UInt8) := decodeChars text.toList

/-! ## Digits -/

theorem value_digit {bits : Nat} (small : bits < 64) : value (digit bits) = some bits := by
  have alphabet : ∀ bits < 64, value (digit bits) = some bits := by decide
  exact alphabet bits small

/-! ## Groups -/

theorem ofNat_of_eq (byte : UInt8) {n : Nat} (same : n = byte.toNat) : UInt8.ofNat n = byte := by
  rw [same, UInt8.ofNat_toNat]

section

variable {a b c d : Char} {x y z w : Nat}

theorem decodeChars_one (first : value a = some x) (second : value b = some y)
    (spare : y % 16 = 0) : decodeChars [a, b, '=', '='] = some [.ofNat (x * 4 + y / 16)] := by
  rw [decodeChars, first, second]
  exact if_pos spare

theorem decodeChars_two (first : value a = some x) (second : value b = some y)
    (third : value c = some z) (spare : z % 4 = 0) :
    decodeChars [a, b, c, '='] =
      some [.ofNat (x * 4 + y / 16), .ofNat (y % 16 * 16 + z / 4)] := by
  have digit : c ≠ '=' := by
    rintro rfl
    cases third
  rw [decodeChars, first, second, third]
  · exact if_pos spare
  · exact fun pad => digit pad

theorem decodeChars_three {rest : List Char} {others : List UInt8} (first : value a = some x)
    (second : value b = some y) (third : value c = some z) (fourth : value d = some w)
    (read : decodeChars rest = some others) :
    decodeChars (a :: b :: c :: d :: rest) =
      some (.ofNat (x * 4 + y / 16) :: .ofNat (y % 16 * 16 + z / 4) ::
        .ofNat (z % 4 * 64 + w) :: others) := by
  have digit : d ≠ '=' := by
    rintro rfl
    cases fourth
  rw [decodeChars, first, second, third, fourth, read]
  · rfl
  · exact fun _ pad _ => digit pad
  · exact fun pad _ => digit pad

end

theorem decodeChars_encodeChars (data : List UInt8) :
    decodeChars (encodeChars data) = some data := by
  induction data using encodeChars.induct with
  | case1 => rfl
  | case2 a =>
    have bound := a.toNat_lt
    rw [encodeChars, decodeChars_one (value_digit (by omega)) (value_digit (by omega)) (by omega)]
    rw [ofNat_of_eq a (by omega)]
  | case3 a b =>
    have first := a.toNat_lt
    have second := b.toNat_lt
    rw [encodeChars, decodeChars_two (value_digit (by omega)) (value_digit (by omega))
      (value_digit (by omega)) (by omega)]
    rw [ofNat_of_eq a (by omega), ofNat_of_eq b (by omega)]
  | case4 a b c rest ih =>
    have first := a.toNat_lt
    have second := b.toNat_lt
    have third := c.toNat_lt
    rw [encodeChars, decodeChars_three (value_digit (by omega)) (value_digit (by omega))
      (value_digit (by omega)) (value_digit (by omega)) ih]
    rw [ofNat_of_eq a (by omega), ofNat_of_eq b (by omega),
      ofNat_of_eq c (by omega)]

theorem decode_encode (data : List UInt8) : decode (encode data) = some data := by
  rw [decode, encode, String.toList_ofList, decodeChars_encodeChars]

end Base64

end Loomterm
