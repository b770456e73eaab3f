import Loomterm.Misc.Json

/-!
# Editing JSON objects

Equality of values, reading and replacing the entries of an object, and what becomes of a value
whose floats are rounded.
-/

namespace Loomterm

namespace Json

/-! ## Equality -/

mutual

def beq : Json → Json → Bool
  | .null, .null => true
  | .bool left, .bool right => left == right
  | .number left, .number right => left == right
  | .float left, .float right => left == right
  | .string left, .string right => left == right
  | .array left, .array right => beqValues left right
  | .object left, .object right => beqFields left right
  | _, _ => false

def beqValues : List Json → List Json → Bool
  | [], [] => true
  | left :: lefts, right :: rights => beq left right && beqValues lefts rights
  | _, _ => false

def beqFields : List (String × Json) → List (String × Json) → Bool
  | [], [] => true
  | (key, left) :: lefts, (name, right) :: rights =>
      key == name && beq left right && beqFields lefts rights
  | _, _ => false

end

mutual

theorem beq_iff : ∀ left right : Json, beq left right = true ↔ left = right
  | .null, right => by cases right <;> simp [beq]
  | .bool _, right => by cases right <;> simp [beq]
  | .number _, right => by cases right <;> simp [beq]
  | .float _, right => by cases right <;> simp [beq]
  | .string _, right => by cases right <;> simp [beq]
  | .array left, right => by cases right <;> simp [beq, beqValues_iff left]
  | .object left, right => by cases right <;> simp [beq, beqFields_iff left]

theorem beqValues_iff : ∀ left right : List Json, beqValues left right = true ↔ left = right
  | [], right => by cases right <;> simp [beqValues]
  | value :: rest, right => by
      cases right <;> simp [beqValues, beq_iff value, beqValues_iff rest]

theorem beqFields_iff :
    ∀ left right : List (String × Json), beqFields left right = true ↔ left = right
  | [], right => by cases right <;> simp [beqFields]
  | (key, value) :: rest, [] => by simp [beqFields]
  | (key, value) :: rest, (name, other) :: others => by
      simp [beqFields, beq_iff value, beqFields_iff rest]

end

instance : DecidableEq Json := fun left right => decidable_of_iff _ (beq_iff left right)

/-! ## Entries -/

/-- `Value::get` for a key. -/
def get (key : String) (value : Json) : Option Json := value.asObject.bind (field key)

/-- Makes `value` the entry of the key; a new one stands before the keys behind it. -/
def putField (key : String) (value : Json) : List (String × Json) → List (String × Json)
  | [] => [(key, value)]
  | (name, old) :: rest =>
      if name = key then (key, value) :: rest
      else if key < name then (key, value) :: (name, old) :: rest
      else (name, old) :: putField key value rest

@[simp] theorem field_putField_self (key : String) (value : Json) (fields : List (String × Json)) :
    field key (putField key value fields) = some value := by
  induction fields with
  | nil => simp [putField, field]
  | cons entry rest ih =>
    obtain ⟨name, old⟩ := entry
    unfold putField
    split_ifs with same before
    · simp [field]
    · simp [field]
    · simpa [field, same] using ih

theorem field_putField_other {key other : String} (different : other ≠ key) (value : Json)
    (fields : List (String × Json)) :
    field other (putField key value fields) = field other fields := by
  induction fields with
  | nil => simp [putField, field, different.symm]
  | cons entry rest ih =>
    obtain ⟨name, old⟩ := entry
    unfold putField
    split_ifs with same before
    · subst same
      simp [field, different.symm]
    · simp [field, different.symm]
    · simp [field, ih]

/-- `Value::get_mut` for a key, and the entry replaced. -/
def put (key : String) (document value : Json) : Json :=
  match document with
  | .object fields => .object (putField key value fields)
  | other => other

theorem get_put_other {key other : String} (different : other ≠ key) (document value : Json) :
    (document.put key value).get other = document.get other := by
  cases document with
  | object fields => exact field_putField_other different value fields
  | _ => rfl

theorem get_put_self {key : String} {document old : Json} (found : document.get key = some old)
    (value : Json) : (document.put key value).get key = some value := by
  cases document with
  | object fields => exact field_putField_self key value fields
  | _ => cases found

/-! ## Rounding -/

mutual

/-- The floats of a value replaced. -/
def mapFloats (f : UInt64 → UInt64) : Json → Json
  | .float bits => .float (f bits)
  | .array values => .array (mapFloatsValues f values)
  | .object fields => .object (mapFloatsFields f fields)
  | other => other

def mapFloatsValues (f : UInt64 → UInt64) : List Json → List Json
  | [] => []
  | value :: rest => mapFloats f value :: mapFloatsValues f rest

def mapFloatsFields (f : UInt64 → UInt64) : List (String × Json) → List (String × Json)
  | [] => []
  | (key, value) :: rest => (key, mapFloats f value) :: mapFloatsFields f rest

end

section

variable (f : UInt64 → UInt64)

theorem mapFloatsValues_eq (values : List Json) :
    mapFloatsValues f values = values.map (mapFloats f) := by
  induction values with
  | nil => rfl
  | cons value rest ih => exact congrArg (mapFloats f value :: ·) ih

@[simp] theorem mapFloats_string (text : String) :
    mapFloats f (.string text) = .string text := rfl

@[simp] theorem mapFloats_number (value : Int) :
    mapFloats f (.number value) = .number value := rfl

@[simp] theorem mapFloats_array (values : List Json) :
    mapFloats f (.array values) = .array (values.map (mapFloats f)) :=
  congrArg Json.array (mapFloatsValues_eq f values)

@[simp] theorem mapFloats_object (fields : List (String × Json)) :
    mapFloats f (.object fields) = .object (mapFloatsFields f fields) := rfl

theorem mapFloats_eq_string {value : Json} {text : String} :
    mapFloats f value = .string text ↔ value = .string text := by
  cases value with
  | float _ => exact ⟨fun same => Json.noConfusion same, fun same => Json.noConfusion same⟩
  | array _ => simp
  | object _ => simp
  | _ => exact Iff.rfl

/-- Rounding makes no texts, and leaves those that are there. -/
theorem strings_infix_mapFloats (texts : List String) (values : List Json) :
    texts.map Json.string <:+: values.map (mapFloats f) ↔ texts.map Json.string <:+: values := by
  have kept : ∀ others : List Json, others.map (mapFloats f) = texts.map Json.string ↔
      others = texts.map Json.string := by
    induction texts with
    | nil => simp
    | cons text rest ih =>
      intro others
      cases others with
      | nil => simp
      | cons value others =>
        rw [List.map_cons, List.map_cons, List.cons.injEq, List.cons.injEq, mapFloats_eq_string, ih]
  constructor
  · rintro ⟨before, after, split⟩
    obtain ⟨front, back, rfl, left, -⟩ := List.map_eq_append_iff.mp split.symm
    obtain ⟨outer, inner, rfl, -, same⟩ := List.map_eq_append_iff.mp left
    exact ⟨outer, back, by rw [(kept inner).mp same]⟩
  · rintro ⟨before, after, rfl⟩
    refine ⟨before.map (mapFloats f), after.map (mapFloats f), ?_⟩
    rw [List.map_append, List.map_append, (kept _).mpr rfl]

theorem asStr_mapFloats (value : Json) : (mapFloats f value).asStr = value.asStr := by
  cases value with
  | _ => rfl

theorem asArray_mapFloats (value : Json) :
    (mapFloats f value).asArray = value.asArray.map (List.map (mapFloats f)) := by
  cases value with
  | array values => rw [mapFloats_array]; rfl
  | float _ => rw [mapFloats]; rfl
  | object fields => rw [mapFloats_object]; rfl
  | _ => rw [mapFloats] <;> simp [asArray]

theorem field_mapFloatsFields (key : String) (fields : List (String × Json)) :
    field key (mapFloatsFields f fields) = (field key fields).map (mapFloats f) := by
  induction fields with
  | nil => rfl
  | cons entry rest ih =>
    obtain ⟨name, value⟩ := entry
    by_cases found : name = key
    · simp [mapFloatsFields, field, found]
    · simpa [mapFloatsFields, field, found] using ih

theorem get_mapFloats (key : String) (value : Json) :
    (mapFloats f value).get key = (value.get key).map (mapFloats f) := by
  cases value with
  | object fields => rw [mapFloats_object]; exact field_mapFloatsFields f key fields
  | float _ => rw [mapFloats]; rfl
  | array _ => rw [mapFloats_array]; rfl
  | _ => rw [mapFloats] <;> simp [get, asObject]

end

end Json

end Loomterm
