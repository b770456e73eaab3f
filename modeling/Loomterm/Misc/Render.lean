import Loomterm.Misc.Json

/-!
# The text of a JSON value

The compact text that `serde_json` writes for a value, base64, and how many bytes they take.
What a float looks like is left open.
-/

namespace Loomterm

/-! ## Base64 -/

namespace Base64

/-- The character of six bits in the standard alphabet. -/
def digit (bits : Nat) : Char :=
  if bits < 26 then .ofNat (65 + bits)
  else if bits < 52 then .ofNat (71 + bits)
  else if bits < 62 then .ofNat (bits - 4)
  else if bits = 62 then '+'
  else '/'

/-- Groups of three bytes become four characters; the last one is padded. -/
def encodeChars : List UInt8 → List Char
  | [] => []
  | [a] => [digit (a.toNat / 4), digit (a.toNat % 4 * 16), '=', '=']
  | [a, b] =>
      [digit (a.toNat / 4), digit (a.toNat % 4 * 16 + b.toNat / 16), digit (b.toNat % 16 * 4), '=']
  | a :: b :: c :: rest =>
      digit (a.toNat / 4) :: digit (a.toNat % 4 * 16 + b.toNat / 16) ::
        digit (b.toNat % 16 * 4 + c.toNat / 64) :: digit (c.toNat % 64) :: encodeChars rest

def encode (data : List UInt8) : String := .ofList (encodeChars data)

/-- The number of characters for so many bytes. -/
def size (bytes : Nat) : Nat := (bytes + 2) / 3 * 4

end Base64

/-! ## Texts and values -/

namespace Json

/-- A character inside a text. -/
def escape (c : Char) : String :=
  match c.toNat with
  | 8 => "\\b"
  | 9 => "\\t"
  | 10 => "\\n"
  | 12 => "\\f"
  | 13 => "\\r"
  | 34 => "\\\""
  | 92 => "\\\\"
  | code =>
      if code < 32 then
        "\\u00" ++ .singleton (Nat.digitChar (code / 16)) ++ .singleton (Nat.digitChar (code % 16))
      else .singleton c

def escapeAll (chars : List Char) : String := .join (chars.map escape)

def quoted (text : String) : String := "\"" ++ escapeAll text.toList ++ "\""

section

variable (float : UInt64 → String)

mutual

/-- `serde_json::to_vec` as a text. -/
def render : Json → String
  | .null => "null"
  | .bool true => "true"
  | .bool false => "false"
  | .number value => toString value
  | .float bits => float bits
  | .string text => quoted text
  | .array values => "[" ++ ",".intercalate (renderValues values) ++ "]"
  | .object fields => r"{" ++ ",".intercalate (renderFields fields) ++ r"}"

def renderValues : List Json → List String
  | [] => []
  | value :: rest => render value :: renderValues rest

def renderFields : List (String × Json) → List String
  | [] => []
  | (key, value) :: rest => (quoted key ++ ":" ++ render value) :: renderFields rest

end

end

end Json

/-! ## Sizes -/

theorem utf8ByteSize_join (texts : List String) :
    (String.join texts).utf8ByteSize = (texts.map String.utf8ByteSize).sum := by
  induction texts with
  | nil => rfl
  | cons text rest ih => rw [String.join_cons, String.utf8ByteSize_append, ih]; rfl

/-- Between the texts of a list there is one comma each. -/
theorem utf8ByteSize_intercalate (texts : List String) (nonempty : texts ≠ []) :
    (",".intercalate texts).utf8ByteSize + 1 =
      (texts.map fun text => text.utf8ByteSize + 1).sum := by
  induction texts with
  | nil => cases nonempty rfl
  | cons text rest ih =>
    by_cases last : rest = []
    · simp [last]
    · have more := ih last
      rw [String.intercalate_cons_of_ne_nil last, String.utf8ByteSize_append,
        String.utf8ByteSize_append, List.map_cons, List.sum_cons, ← more]
      have comma : ",".utf8ByteSize = 1 := rfl
      omega

namespace Json

/-- The bytes of a character inside a text. -/
def charSize (c : Char) : Nat :=
  if c.toNat ∈ [8, 9, 10, 12, 13, 34, 92] then 2
  else if c.toNat < 32 then 6
  else c.utf8Size

/-- The bytes of a text, with its quotes. -/
def textSize (text : String) : Nat := (text.toList.map charSize).sum + 2

def numberSize (value : Int) : Nat := (toString value).utf8ByteSize

def naturalSize (value : Nat) : Nat := numberSize value

def boolSize (value : Bool) : Nat := if value then 4 else 5

/-- The bytes of an option that is always written. -/
def optionSize {α : Type} (size : α → Nat) : Option α → Nat
  | none => 4
  | some value => size value

/-- The bytes of a list, given those of its values. -/
def listSize : List Nat → Nat
  | [] => 2
  | sizes => 1 + (sizes.map (· + 1)).sum

theorem listSize_of_ne_nil {sizes : List Nat} (nonempty : sizes ≠ []) :
    listSize sizes = 1 + (sizes.map (· + 1)).sum := by
  cases sizes with
  | nil => cases nonempty rfl
  | cons => rfl

/-- The bytes of a field with the comma or the brace behind it, given those of its value. -/
def fieldSize (key : String) (size : Nat) : Nat := textSize key + size + 2

theorem utf8ByteSize_escape (c : Char) : (escape c).utf8ByteSize = charSize c := by
  have digits : ∀ n < 32, (Nat.digitChar (n / 16)).utf8Size = 1 ∧
      (Nat.digitChar (n % 16)).utf8Size = 1 := by decide
  have front : "\\u00".utf8ByteSize = 4 := rfl
  unfold escape charSize
  split
  case h_8 =>
    have plain : c.toNat ∉ [8, 9, 10, 12, 13, 34, 92] := by simp_all
    rw [if_neg plain]
    split
    · rename_i small
      rw [String.utf8ByteSize_append, String.utf8ByteSize_append, String.utf8ByteSize_singleton,
        String.utf8ByteSize_singleton, (digits _ small).1, (digits _ small).2, front]
    · exact String.utf8ByteSize_singleton
  all_goals
    rename_i code
    rw [if_pos (by simp [code])]
    rfl

theorem utf8ByteSize_quoted (text : String) : (quoted text).utf8ByteSize = textSize text := by
  have mark : "\"".utf8ByteSize = 1 := rfl
  have chars : (text.toList.map escape).map String.utf8ByteSize = text.toList.map charSize := by
    rw [List.map_map]
    exact List.map_congr_left fun c _ => utf8ByteSize_escape c
  unfold quoted escapeAll textSize
  rw [String.utf8ByteSize_append, String.utf8ByteSize_append, utf8ByteSize_join, chars, mark]
  omega

section

variable (float : UInt64 → String)

/-- The bytes of the text of a value. -/
def size (value : Json) : Nat := (render float value).utf8ByteSize

@[simp] theorem size_null : size float .null = 4 := rfl

@[simp] theorem size_bool (value : Bool) : size float (.bool value) = boolSize value := by
  cases value <;> rfl

@[simp] theorem size_number (value : Int) : size float (.number value) = numberSize value := by
  rw [size, render, numberSize]

@[simp] theorem size_natural (value : Nat) : size float (natural value) = naturalSize value :=
  size_number float value

@[simp] theorem size_string (text : String) : size float (.string text) = textSize text := by
  rw [size, render, utf8ByteSize_quoted]

theorem renderValues_eq (values : List Json) :
    renderValues float values = values.map (render float) := by
  induction values with
  | nil => rfl
  | cons value rest ih => rw [renderValues, ih, List.map_cons]

theorem renderFields_eq (fields : List (String × Json)) :
    renderFields float fields =
      fields.map fun field => quoted field.1 ++ ":" ++ render float field.2 := by
  induction fields with
  | nil => rfl
  | cons field rest ih => rw [renderFields, ih, List.map_cons]

@[simp] theorem size_array (values : List Json) :
    size float (.array values) = listSize (values.map (size float)) := by
  have opened : "[".utf8ByteSize = 1 := rfl
  have closed : "]".utf8ByteSize = 1 := rfl
  rw [size, render, String.utf8ByteSize_append, String.utf8ByteSize_append, renderValues_eq,
    opened, closed]
  cases values with
  | nil => rfl
  | cons value rest =>
    have inner := utf8ByteSize_intercalate ((value :: rest).map (render float)) (by simp)
    rw [List.map_map] at inner
    rw [listSize_of_ne_nil (by simp), List.map_map]
    have same : ((fun text : String => text.utf8ByteSize + 1) ∘ render float) =
        (fun bytes => bytes + 1) ∘ size float := rfl
    rw [same] at inner
    omega

/-- The bytes of the fields of an object, and of all that is around them. -/
def fieldsSize (fields : List (String × Json)) : Nat :=
  (fields.map fun field => fieldSize field.1 (size float field.2)).sum

theorem size_ofOption {α : Type} {encode : α → Json} {bytes : α → Nat}
    (same : ∀ a, size float (encode a) = bytes a) (value : Option α) :
    size float (ofOption encode value) = optionSize bytes value := by
  cases value with
  | none => rfl
  | some a => exact same a

theorem size_array_map {α : Type} {encode : α → Json} {bytes : α → Nat}
    (same : ∀ a, size float (encode a) = bytes a) (values : List α) :
    size float (.array (values.map encode)) = listSize (values.map bytes) := by
  rw [size_array, List.map_map]
  exact congrArg listSize (List.map_congr_left fun a _ => same a)

@[simp] theorem size_strings (values : List String) :
    size float (strings values) = listSize (values.map textSize) := by
  exact size_array_map float (size_string float) values

/-- An object is one brace, and its fields. -/
theorem size_object {fields : List (String × Json)} (nonempty : fields ≠ []) :
    size float (.object fields) = 1 + fieldsSize float fields := by
  have opened : r"{".utf8ByteSize = 1 := rfl
  have closed : r"}".utf8ByteSize = 1 := rfl
  have colon : ":".utf8ByteSize = 1 := rfl
  have inner := utf8ByteSize_intercalate (renderFields float fields)
    (by rw [renderFields_eq]; simpa using nonempty)
  rw [size, render, String.utf8ByteSize_append, String.utf8ByteSize_append, opened, closed]
  rw [renderFields_eq, List.map_map] at inner
  have same : ((fun text : String => text.utf8ByteSize + 1) ∘
        fun field : String × Json => quoted field.1 ++ ":" ++ render float field.2) =
      fun field => fieldSize field.1 (size float field.2) := by
    funext field
    simp only [Function.comp, String.utf8ByteSize_append, utf8ByteSize_quoted, colon, fieldSize,
      size]
    omega
  rw [same, ← renderFields_eq] at inner
  unfold fieldsSize
  omega

/-- The keys of an object may be weighed apart from its values. -/
theorem fieldsSize_eq (fields : List (String × Json)) :
    fieldsSize float fields =
      ((fields.map Prod.fst).map (fieldSize · 0)).sum +
        ((fields.map Prod.snd).map (size float)).sum := by
  induction fields with
  | nil => rfl
  | cons field rest ih =>
    simp only [fieldsSize, fieldSize, List.map_cons, List.sum_cons] at ih ⊢
    omega

theorem fieldsSize_keyed {fields : List (String × Json)} (keys : List String) (bytes : Nat)
    (named : fields.map Prod.fst = keys) (weighed : (keys.map (fieldSize · 0)).sum = bytes) :
    fieldsSize float fields = bytes + ((fields.map Prod.snd).map (size float)).sum := by
  rw [fieldsSize_eq, named, weighed]

theorem fieldsSize_append (left right : List (String × Json)) :
    fieldsSize float (left ++ right) = fieldsSize float left + fieldsSize float right := by
  unfold fieldsSize
  rw [List.map_append, List.sum_append]

@[simp] theorem fieldsSize_optionField {α : Type} (key : String) (encode : α → Json)
    (value : Option α) :
    fieldsSize float (optionField key encode value) =
      value.elim 0 fun a => fieldSize key (size float (encode a)) := by
  cases value <;> rfl

end

end Json

namespace Base64

theorem charSize_digit (bits : Nat) : Json.charSize (digit bits) = 1 := by
  have alphabet : ∀ bits < 63, Json.charSize (digit bits) = 1 := by decide
  by_cases small : bits < 63
  · exact alphabet bits small
  · have last : digit bits = '/' := by
      unfold digit
      rw [if_neg (by omega), if_neg (by omega), if_neg (by omega), if_neg (by omega)]
    rw [last]
    rfl

/-- Base64 needs no escapes. -/
theorem textSize_encode (data : List UInt8) :
    Json.textSize (encode data) = size data.length + 2 := by
  have padding : Json.charSize '=' = 1 := rfl
  unfold Json.textSize encode size
  rw [String.toList_ofList, Nat.add_right_cancel_iff]
  induction data using encodeChars.induct with
  | case1 => rfl
  | case2 a => simp [encodeChars, charSize_digit, padding]
  | case3 a b => simp [encodeChars, charSize_digit, padding]
  | case4 a b c rest ih =>
    simp only [encodeChars, List.map_cons, List.sum_cons, charSize_digit, ih, List.length_cons]
    omega

end Base64

end Loomterm
